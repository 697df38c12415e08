import ConfigVault.Name
import ConfigVault.Time
import ConfigVault.Validation.Rejection

/-!
# Failures

Every way in which an operation of the vault can fail, as a cause.  The incident that callers see is
computed from the cause, so the wording of messages has one place.
-/

namespace ConfigVault

open Version

/-- Trouble at the other end of a backend. -/
inductive Trouble where
  /-- The connection was lost. -/
  | disconnected (message : String)
  /-- The store behind the backend failed. -/
  | failed (message : String)
  /-- The server of an interface answered with an error status. -/
  | refused (status : Int) (reason : String)
  deriving DecidableEq, Repr

namespace Trouble

/-- The word for the sort of trouble. -/
def label : Trouble → String
  | disconnected _ => "ConnectionError"
  | failed _ => "RuntimeError"
  | refused _ _ => "ApiException"

/-- The sentence about the trouble. -/
def message : Trouble → String
  | disconnected message => message
  | failed message => message
  | refused status reason => "(" ++ toString status ++ ")\nReason: " ++ reason ++ "\n"

end Trouble

/-- How a call of a backend fails: with an incident of the library, which goes to the caller as it
is, or with trouble of another sort. -/
inductive Fault where
  | incident (incident : Incident)
  | trouble (trouble : Trouble)

/-- Why an operation failed, on a scale of time. -/
inductive Failure (τ : Type) where
  | name (name : String) (refusal : NameRefusal)
  | timestamp (text : String) (defect : TimestampDefect)
  /-- The content did not pass its check. -/
  | rejected (rejection : Rejection)
  | read (collection : String) (trouble : Trouble)
  | write (collection : String) (trouble : Trouble)
  /-- A write was accepted but not seen in time. -/
  | unconfirmed (collection : String) (timeout elapsed : τ)
  | reported (incident : Incident)
  /-- Trouble of a computation, which is no incident. -/
  | escaped (escape : Escape)

namespace NameRefusal

def incident (name : String) (r : NameRefusal) : Incident :=
  .make .name r.message IncidentKind.name.code [("name", .text name)]
    (r.group?.toList.map fun group => ("group", .text group))

end NameRefusal

def Version.TimestampDefect.incident (text : String) (d : TimestampDefect) : Incident :=
  .make .timestamp (d.message text) IncidentKind.timestamp.code [("timestamp", .text text)] []

namespace Failure

variable {τ : Type}

def ofRead (collection : String) : Fault → Failure τ
  | .incident i => .reported i
  | .trouble t => .read collection t

def ofWrite (collection : String) : Fault → Failure τ
  | .incident i => .reported i
  | .trouble t => .write collection t

def ofCheck : CheckFailure → Failure τ
  | .rejected r => .rejected r
  | .escaped e => .escaped e

def isBackend : Failure τ → Bool
  | read _ _ => true
  | write _ _ => true
  | unconfirmed _ _ _ => true
  | reported i => i.kind.isBackend
  | _ => false

/-- The incident that a failure is to its caller, with spans of time as the given values; an escape
is none. -/
def incident? [TimeScale τ] (value : τ → Value) : Failure τ → Option Incident
  | name artifact refusal => some (refusal.incident artifact)
  | timestamp text defect => some (defect.incident text)
  | rejected rejection => some rejection.incident
  | read collection trouble =>
    some (.make .backendRead ("Unable to read " ++ collection ++ ": " ++ trouble.message)
      IncidentKind.backendRead.code [("collection_id", .text collection)] [])
  | write collection trouble =>
    some (.make .backendWrite ("Unable to update " ++ collection ++ ": " ++ trouble.message)
      IncidentKind.backendWrite.code [("collection_id", .text collection)] [])
  | unconfirmed collection timeout elapsed =>
    some (.make .confirmation
      ("verification of the updated configuration timed out after " ++
        TimeScale.spell timeout ++ "s")
      IncidentKind.confirmation.code
      [("elapsed_seconds", value elapsed), ("collection_id", .text collection)] [])
  | reported i => some i
  | escaped _ => none

/-- The sentence about a failure, where there is one. -/
def message? [TimeScale τ] (f : Failure τ) : Option String :=
  (f.incident? fun _ => .null).map Incident.message

end Failure

end ConfigVault
