import ConfigVault.Data.Loader
import ConfigVault.Settings.Section

/-!
# Configuration

All settings of a vault.  They come from a file or from the caller, from the environment, and from
the values of what is left out, in this order of priority.
-/

namespace ConfigVault

/-- Where a vault runs. -/
inductive Stage where
  | dev
  | staging
  | prod
  deriving DecidableEq, Repr

def Stage.label : Stage → String
  | dev => "dev"
  | staging => "staging"
  | prod => "prod"

/-- The backends that settings can ask for. -/
inductive BackendKind where
  | memory
  | configmap
  deriving DecidableEq, Repr

def BackendKind.label : BackendKind → String
  | memory => "memory"
  | configmap => "configmap"

/-- All settings of a vault. -/
structure Configuration where
  stage : Stage
  logLevel : String
  backend : BackendKind
  retention : Retention
  confirmation : Confirmation Float
  tools : ToolSettings
  cluster : ClusterSettings
  groups : List Group

/-- The sentence about a source that cannot be used.  Issues and incidents have sentences of their
own, and an escape has none. -/
def ConfigurationFailure.message? : ConfigurationFailure → Option String
  | unreadable message => some message
  | noFile path => some ("Configuration file not found: " ++ path)
  | _ => none

namespace Configuration

/-- The names of the sections with the names of their fields; the groups have none to be matched. -/
def sections : List (String × List String) :=
  [("retention", ["max_backup_files", "max_backup_hours"]),
    ("confirmation", ["poll_interval_seconds", "timeout_seconds"]),
    ("validators", ["promtool_path", "amtool_path", "timeout_seconds"]),
    ("kubernetes", ["namespace", "kubeconfig", "in_cluster"]),
    ("groups", [])]

/-- The names of the fields that are texts. -/
def plainFields : List String := ["environment", "log_level", "backend"]

def fieldNames : List String := plainFields ++ sections.map Prod.fst

def ofFields (types : FieldTypes) (fields : Fields) : Checked Configuration :=
  (fun stage logLevel backend retention confirmation tools cluster groups () =>
      ⟨stage, logLevel, backend, retention, confirmation, tools, cluster, groups⟩)
    <$> readField fields "environment" (some Stage.dev)
      (types.literal ([.dev, .staging, .prod].map fun s => (s.label, s)))
    <*> readField fields "log_level" (some "INFO") types.text
    <*> readField fields "backend" (some BackendKind.memory)
      (types.enumeration ([.memory, .configmap].map fun b => (b.label, b)))
    <*> readField fields "retention" (some Retention.standard)
      (types.record "RetentionConfig" (readRetention types))
    <*> readField fields "confirmation" (some Confirmation.standard)
      (types.record "ConfirmationConfig" (readConfirmation types))
    <*> readField fields "validators" (some ToolSettings.standard)
      (types.record "ValidatorConfig" (readTools types))
    <*> readField fields "kubernetes" (some ClusterSettings.standard)
      (types.record "KubernetesConfig" (readCluster types))
    <*> readField fields "groups" (some Group.standard)
      (types.list (types.record "ArtifactGroup" (readGroup types)))
    <*> types.checkKnown fieldNames fields

/-- The configuration of given arguments, all of whose names have to be texts. -/
def ofArguments (lib : SettingsLibrary) (given : Fields) (vars : Variables) :
    Except ConfigurationFailure Configuration := do
  if given.any fun e => e.1.text?.isNone then throw (.escaped .mismatch)
  let layers ← lib.sources given vars
  match ofFields lib.types (layers.foldr lib.merge []) with
  | .valid c => return c
  | .invalid issues => throw (.invalid issues)

/-- The group of a name; the first one of that name. -/
def group (c : Configuration) (name : String) : Except Incident Group :=
  match c.groups.find? (·.name = name) with
  | some g => .ok g
  | none =>
    .error (.configuration ("Unknown artifact group: " ++ name) "UNKNOWN_GROUP"
      [("group", .text name), ("known", .list (c.groups.map fun g => .text g.name))])

/-! ## Files -/

/-- What stands at a path. -/
inductive PathEntry where
  | file (content : String)
  | folder
  /-- A file that is no text. -/
  | binary
  | tooLong
  deriving DecidableEq, Repr

/-- The file that is looked for when no path is given. -/
def standardFile : String := "confkeeper.yaml"

/-- The text of a file with every line break as a line feed. -/
def unifyBreaks : List Char → List Char
  | '\r' :: '\n' :: rest => '\n' :: unifyBreaks rest
  | '\r' :: rest => '\n' :: unifyBreaks rest
  | c :: rest => c :: unifyBreaks rest
  | [] => []

/-- The fields that a file gives; a document that is no mapping gives none. -/
def fileFields (loader : Loader) (path content : String) : Except ConfigurationFailure Fields :=
  match loader (String.ofList (unifyBreaks content.toList)) with
  | .ok (.map fields) => .ok fields
  | .ok _ => .ok []
  | .error (.escaped e) => .error (.escaped e)
  | .error (.malformed message) =>
    .error (.incident (.configuration ("Invalid YAML in configuration file: " ++ path)
      "CONFIG_PARSE_ERROR" [("path", .text path), ("error", .text message)]))

def entryFields (loader : Loader) (path : String) :
    PathEntry → Except ConfigurationFailure Fields
  | .folder => .error (.escaped .isFolder)
  | .binary => .error (.escaped .notText)
  | .tooLong => .error (.escaped .badPath)
  | .file content => fileFields loader path content

/-- The fields of the file at a path, or of the usual file; where the usual file is not there, none
are given. -/
def givenFields (loader : Loader) (at? : String → Option PathEntry) :
    Option String → Except ConfigurationFailure Fields
  | some path =>
    match at? path with
    | none => .error (.noFile path)
    | some entry => entryFields loader path entry
  | none =>
    match at? standardFile with
    | none => .ok []
    | some entry => entryFields loader standardFile entry

/-- Loads the configuration from the file at a path, or from the usual file if it is there, and from
the environment. -/
def load (loader : Loader) (lib : SettingsLibrary) (at? : String → Option PathEntry)
    (path : Option String) (vars : Variables) : Except ConfigurationFailure Configuration := do
  ofArguments lib (← givenFields loader at? path) vars

end Configuration

end ConfigVault
