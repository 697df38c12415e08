import ConfigVault.Data.Defect
import ConfigVault.Data.Spelling

/-!
# Incidents

What the library tells a caller when an operation does not succeed for a reason of its own: the kind
of trouble, a sentence, a code for programs and named details.  The kinds form a small hierarchy with
the backend kinds as one branch.  Each kind adds details of its own to those it is given.
-/

namespace ConfigVault

/-- The kinds of trouble. -/
inductive IncidentKind where
  | general
  | configuration
  | validation
  | name
  | timestamp
  | retry
  | backend
  | backendRead
  | backendWrite
  | confirmation
  deriving DecidableEq, Repr

namespace IncidentKind

/-- The word by which callers know a kind. -/
def label : IncidentKind → String
  | general => "ConfKeeperError"
  | configuration => "ConfigurationError"
  | validation => "ValidationError"
  | name => "InvalidNameError"
  | timestamp => "InvalidTimestampError"
  | retry => "RetryTimeoutError"
  | backend => "BackendError"
  | backendRead => "BackendReadError"
  | backendWrite => "BackendWriteError"
  | confirmation => "ConfirmationTimeoutError"

def code : IncidentKind → String
  | general => "UNKNOWN_ERROR"
  | configuration => "CONFIG_ERROR"
  | validation => "VALIDATION_FAILED"
  | name => "INVALID_NAME"
  | timestamp => "INVALID_TIMESTAMP"
  | retry => "RETRY_TIMEOUT"
  | backend => "BACKEND_ERROR"
  | backendRead => "BACKEND_READ_FAILED"
  | backendWrite => "BACKEND_WRITE_FAILED"
  | confirmation => "CONFIRMATION_TIMEOUT"

def isBackend : IncidentKind → Bool
  | backend => true
  | backendRead => true
  | backendWrite => true
  | confirmation => true
  | _ => false

/-- The details that a kind adds, in the order in which it adds them, with the value of a detail
that may be left out. -/
def ownDetails : IncidentKind → List (String × Option Value)
  | general => []
  | configuration => []
  | validation => [("diagnostics", some (.text ""))]
  | name => [("name", none)]
  | timestamp => [("timestamp", none)]
  | retry => [("attempts", none)]
  | backend => [("collection_id", none)]
  | backendRead => [("collection_id", none)]
  | backendWrite => [("collection_id", none)]
  | confirmation => [("elapsed_seconds", none), ("collection_id", none)]

def all : List IncidentKind :=
  [general, configuration, validation, name, timestamp, retry, backend, backendRead, backendWrite,
    confirmation]

def ofLabel? (word : String) : Option IncidentKind :=
  all.find? fun kind => kind.label == word

end IncidentKind

/-- Named details, in the order in which they were added. -/
abbrev Details := List (String × Value)

/-- The report of an operation that did not succeed. -/
structure Incident where
  kind : IncidentKind
  message : String
  code : String
  details : Details

namespace Incident

/-- The incident of a kind with its own details added to the given ones. -/
def make (kind : IncidentKind) (message : String) (code : String) (own : Details)
    (details : Details) : Incident where
  kind := kind
  message := message
  code := code
  details := own.foldl (fun acc d => setDetail d.1 d.2 acc) details

def configuration (message code : String) (details : Details) : Incident :=
  make .configuration message code [] details

end Incident

/-- A report whose parts are whatever a program gives for them. -/
structure Report where
  kind : IncidentKind
  message : Value
  code : Value
  details : Value

namespace Report

/-- Adds the details of a kind to given ones.  They can be added to a mapping only, and where nothing
is given they are a mapping of their own. -/
def addDetails? (own : Details) (given : Value) : Option Value :=
  if !given.truthy then some (.record (own.foldl (fun acc d => setDetail d.1 d.2 acc) []))
  else if own.isEmpty then some given
  else
    given.entries?.map fun entries =>
      .map (own.foldl (fun acc d => Value.setEntry (.text d.1) d.2 acc) entries)

/-- Builds a report from named arguments: the message, a code and details if they are not to be the
usual ones, and the details that the kind adds.  There is no report when an argument is missing or
unknown, or when the details can take no others. -/
def ofArguments? (kind : IncidentKind) (arguments : Details) : Option Report := do
  let argument? (name : String) : Option Value := (arguments.find? (·.1 == name)).map Prod.snd
  let known := ["message", "error_code", "details"] ++ kind.ownDetails.map Prod.fst
  guard (arguments.all fun a => known.contains a.1)
  let message ← argument? "message"
  let code := (argument? "error_code").getD (.text kind.code)
  let own ← kind.ownDetails.mapM fun d => ((argument? d.1).or d.2).map (d.1, ·)
  let details ← addDetails? own ((argument? "details").getD .null)
  some ⟨kind, message, code, details⟩

def record (r : Report) : Value :=
  .record [("error_type", .text r.kind.label), ("message", r.message), ("error_code", r.code),
    ("details", r.details)]

/-- The report on one line for diagnosis. -/
def spelled (r : Report) : String :=
  r.kind.label ++ "(message=" ++ r.message.spelled .diagnostic ++ ", error_code=" ++
    r.code.spelled .diagnostic ++ ", details=" ++ r.details.spelled .diagnostic ++ ")"

def sentence (r : Report) : String := r.message.sentence

end Report

def Incident.report (i : Incident) : Report :=
  ⟨i.kind, .text i.message, .text i.code, .record i.details⟩

/-- Trouble that is no incident of the library: it comes from a computation or from a document
reader and passes through unchanged. -/
inductive Escape where
  /-- A date, a span of time or a number beyond its range. -/
  | overflow
  /-- A value of the wrong sort for the operation. -/
  | mismatch
  /-- A value of the right sort that the operation cannot take. -/
  | badValue
  /-- A word that is not in a table. -/
  | missingKey
  | missingPart
  /-- A position outside a text. -/
  | badPosition
  | noFile (path : String)
  /-- A folder where a file is expected. -/
  | isFolder
  /-- Something that is no folder on the way to a file. -/
  | notFolder
  | notText
  /-- A text with characters that an encoding does not have. -/
  | notEncodable
  /-- A text that encodes no bytes. -/
  | badEncoding
  /-- A path that cannot be followed because it is too long or leads in a circle. -/
  | badPath
  /-- A document that breaks the rules of its format. -/
  | document (defect : Defect)
  /-- There is no account to ask for a token. -/
  | noAccount
  /-- A value that is nested too deeply or refers to itself. -/
  | endless
  deriving DecidableEq, Repr

/-- The sentence about an escape that has one. -/
def Escape.message? : Escape → Option String
  | noFile path => some ("[Errno 2] No such file or directory: " ++ Text.quoted path)
  | _ => none

/-- Why something cannot be put in order: for a reason of the library, or for another one. -/
inductive Obstacle where
  | incident (incident : Incident)
  | escaped (escape : Escape)

end ConfigVault
