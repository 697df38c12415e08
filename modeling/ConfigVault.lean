import ConfigVault.Assembly
import ConfigVault.Backend.Basic
import ConfigVault.Backend.ConfigMap
import ConfigVault.Backend.Memory
import ConfigVault.Backend.Outage
import ConfigVault.Backoff
import ConfigVault.Calendar.Date
import ConfigVault.Calendar.Moment
import ConfigVault.Commit
import ConfigVault.Data.Defect
import ConfigVault.Data.Json
import ConfigVault.Data.Loader
import ConfigVault.Data.Spelling
import ConfigVault.Data.Value
import ConfigVault.Decimal.Binary
import ConfigVault.Decimal.Reading
import ConfigVault.Decimal.Shortest
import ConfigVault.Decimal.Whole
import ConfigVault.Endpoint
import ConfigVault.Failure
import ConfigVault.Group
import ConfigVault.Incident
import ConfigVault.Instance.Address.Client
import ConfigVault.Instance.Address.Host
import ConfigVault.Instance.Address.Label
import ConfigVault.Instance.Address.Letter
import ConfigVault.Instance.Address.Number
import ConfigVault.Instance.Address.Percent
import ConfigVault.Instance.Address.Punycode
import ConfigVault.Instance.Address.Url
import ConfigVault.Instance.Host.Checksum.Basic
import ConfigVault.Instance.Host.Checksum.Digest
import ConfigVault.Instance.Host.Condition
import ConfigVault.Instance.Host.Disk
import ConfigVault.Instance.Host.Edit.Script
import ConfigVault.Instance.Host.Edit.Stream
import ConfigVault.Instance.Host.Glob
import ConfigVault.Instance.Host.Machine
import ConfigVault.Instance.Host.Number
import ConfigVault.Instance.Host.Pattern.Basic
import ConfigVault.Instance.Host.Pattern.Letter
import ConfigVault.Instance.Host.Pattern.Reading
import ConfigVault.Instance.Host.Print.Escape
import ConfigVault.Instance.Host.Print.Layout
import ConfigVault.Instance.Host.Print.Template
import ConfigVault.Instance.Host.Program
import ConfigVault.Instance.Host.Raw
import ConfigVault.Instance.Host.Record.Command
import ConfigVault.Instance.Host.Record.Reading
import ConfigVault.Instance.Host.Record.Run
import ConfigVault.Instance.Host.Record.State
import ConfigVault.Instance.Host.Record.Syntax
import ConfigVault.Instance.Host.Record.Table
import ConfigVault.Instance.Host.Record.Token
import ConfigVault.Instance.Host.Record.Value
import ConfigVault.Instance.Host.Shell.Arithmetic
import ConfigVault.Instance.Host.Shell.Builtin
import ConfigVault.Instance.Host.Shell.Expansion
import ConfigVault.Instance.Host.Shell.Run
import ConfigVault.Instance.Host.Shell.Script
import ConfigVault.Instance.Host.Shell.State
import ConfigVault.Instance.Host.Shell.Syntax
import ConfigVault.Instance.Host.Shell.Words
import ConfigVault.Instance.Host.System
import ConfigVault.Instance.Host.Utility.Basic
import ConfigVault.Instance.Host.Utility.Columns
import ConfigVault.Instance.Host.Utility.Difference
import ConfigVault.Instance.Host.Utility.Digests
import ConfigVault.Instance.Host.Utility.Dump
import ConfigVault.Instance.Host.Utility.Facts
import ConfigVault.Instance.Host.Utility.Files
import ConfigVault.Instance.Host.Utility.Finding
import ConfigVault.Instance.Host.Utility.Lines
import ConfigVault.Instance.Host.Utility.Order
import ConfigVault.Instance.Host.Utility.Pieces
import ConfigVault.Instance.Host.Utility.Search
import ConfigVault.Instance.Host.Utility.Starting
import ConfigVault.Instance.Host.Utility.Words
import ConfigVault.Instance.Host.World
import ConfigVault.Instance.Settings.AccessFile
import ConfigVault.Instance.Settings.Environment
import ConfigVault.Instance.Settings.Library
import ConfigVault.Instance.Settings.Merge
import ConfigVault.Instance.Settings.Reader
import ConfigVault.Instance.Settings.WorkingFolder
import ConfigVault.Instance.Yaml.Cursor
import ConfigVault.Instance.Yaml.Document
import ConfigVault.Instance.Yaml.Graph
import ConfigVault.Instance.Yaml.Property
import ConfigVault.Instance.Yaml.Scalar
import ConfigVault.Instance.Yaml.ScalarTag
import ConfigVault.Instance.Yaml.ScalarValue
import ConfigVault.Instance.Yaml.Token
import ConfigVault.Instance.Yaml.TokenStream
import ConfigVault.KeyMap
import ConfigVault.Name
import ConfigVault.Proofs.Action
import ConfigVault.Proofs.Backend.Agreement
import ConfigVault.Proofs.Backend.Confirmed
import ConfigVault.Proofs.Backend.Honest
import ConfigVault.Proofs.Backend.Journal
import ConfigVault.Proofs.Backend.Lag
import ConfigVault.Proofs.Backend.Lossy
import ConfigVault.Proofs.Backend.Polling
import ConfigVault.Proofs.Backend.Prompt
import ConfigVault.Proofs.Backend.Tolerance
import ConfigVault.Proofs.Backend.Watched
import ConfigVault.Proofs.Backend.WriteLog
import ConfigVault.Proofs.Calendar.Order
import ConfigVault.Proofs.Calendar.Shift
import ConfigVault.Proofs.Data.Entries
import ConfigVault.Proofs.KeyMap
import ConfigVault.Proofs.Name.Grammar
import ConfigVault.Proofs.Retry.Cap
import ConfigVault.Proofs.Retry.Endpoint
import ConfigVault.Proofs.Retry.Growth
import ConfigVault.Proofs.Retry.Policy
import ConfigVault.Proofs.Retry.Waits
import ConfigVault.Proofs.Settings.Library
import ConfigVault.Proofs.Settings.Merging
import ConfigVault.Proofs.Settings.Priority
import ConfigVault.Proofs.Settings.Reading
import ConfigVault.Proofs.Store.Answers
import ConfigVault.Proofs.Store.Archive
import ConfigVault.Proofs.Store.DeleteCourse
import ConfigVault.Proofs.Store.DeleteOrder
import ConfigVault.Proofs.Store.Deleted
import ConfigVault.Proofs.Store.Footprint
import ConfigVault.Proofs.Store.Immediate
import ConfigVault.Proofs.Store.Interchange
import ConfigVault.Proofs.Store.Lag
import ConfigVault.Proofs.Store.Ledger
import ConfigVault.Proofs.Store.Operation
import ConfigVault.Proofs.Store.PreviousKept
import ConfigVault.Proofs.Store.Provenance
import ConfigVault.Proofs.Store.PutCourse
import ConfigVault.Proofs.Store.PutOrder
import ConfigVault.Proofs.Store.PutStage
import ConfigVault.Proofs.Store.ReadPaths
import ConfigVault.Proofs.Store.Recorded
import ConfigVault.Proofs.Store.Refinement
import ConfigVault.Proofs.Store.Relation
import ConfigVault.Proofs.Store.Separation
import ConfigVault.Proofs.Store.Start
import ConfigVault.Proofs.Store.Trimming
import ConfigVault.Proofs.Store.VersionsKept
import ConfigVault.Proofs.Store.WrittenKeys
import ConfigVault.Proofs.Validation.Attendance
import ConfigVault.Proofs.Validation.Contract
import ConfigVault.Proofs.Validation.Demand
import ConfigVault.Proofs.Validation.Diagnostics
import ConfigVault.Proofs.Validation.Flattening
import ConfigVault.Proofs.Validation.Sections
import ConfigVault.Proofs.Validation.SharedChecks
import ConfigVault.Proofs.Validation.TreeRuns
import ConfigVault.Proofs.Vault.Health
import ConfigVault.Proofs.Vault.Isolation
import ConfigVault.Proofs.Version.Chronology
import ConfigVault.Proofs.Version.Codec
import ConfigVault.Proofs.Version.Eviction
import ConfigVault.Proofs.Version.Grammar
import ConfigVault.Proofs.Version.Key
import ConfigVault.Proofs.Version.Order
import ConfigVault.Proofs.Version.Rule
import ConfigVault.Proofs.Version.Span
import ConfigVault.Proofs.Version.Stability
import ConfigVault.Proofs.Version.Timestamp
import ConfigVault.Retry
import ConfigVault.Settings.Configuration
import ConfigVault.Settings.Issue
import ConfigVault.Settings.Library
import ConfigVault.Settings.Section
import ConfigVault.Store
import ConfigVault.Text.Base64
import ConfigVault.Text.Case
import ConfigVault.Text.Composition
import ConfigVault.Text.Digit
import ConfigVault.Text.Printable
import ConfigVault.Text.Quoted
import ConfigVault.Text.Table
import ConfigVault.Text.Utf8
import ConfigVault.Time
import ConfigVault.Validation.Chain
import ConfigVault.Validation.Checker
import ConfigVault.Validation.Rejection
import ConfigVault.Validation.Scripted
import ConfigVault.Validation.Structure
import ConfigVault.Validation.Surroundings
import ConfigVault.Validation.Tool
import ConfigVault.Vault
import ConfigVault.Version.Key
import ConfigVault.Version.Retention
import ConfigVault.Version.Timestamp
