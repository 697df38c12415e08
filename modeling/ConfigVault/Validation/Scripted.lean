import ConfigVault.Text.Quoted
import ConfigVault.Validation.Rejection

/-!
# Scripted checks

A check whose verdicts are given beforehand, for trying out what is built on checks.  Verdicts in its
queue come first; without one it refuses contents that hold a marker and accepts all others.  It
remembers the contents that it saw.
-/

namespace ConfigVault

/-- A check with given verdicts. -/
structure ScriptedCheck where
  /-- Contents that hold this text are refused; an empty one marks nothing. -/
  marker : Option String
  /-- What is said of accepted contents. -/
  diagnostics : String
  /-- Verdicts to come: acceptance, or a rejection with diagnostics. -/
  verdicts : List (Option String)
  /-- The contents seen, the latest first. -/
  seen : List String
  deriving DecidableEq, Repr

namespace ScriptedCheck

/-- What a scripted check says of accepted contents unless told otherwise. -/
def success : String := "SUCCESS"

/-- A text holds another one. -/
def holds (part : List Char) : List Char → Bool
  | [] => part.isEmpty
  | c :: rest => part.isPrefixOf (c :: rest) || holds part rest

/-- The verdict on a content without a verdict in the queue. -/
def byMarker (check : ScriptedCheck) (content : String) : Except CheckFailure String :=
  match check.marker with
  | none => .ok check.diagnostics
  | some marker =>
    if !marker.isEmpty && holds marker.toList content.toList then
      .error (.rejected (.scripted ("content contains " ++ Text.quoted marker)))
    else .ok check.diagnostics

def run (check : ScriptedCheck) (content : String) :
    Except CheckFailure String × ScriptedCheck :=
  let check := { check with seen := content :: check.seen }
  match check.verdicts with
  | [] => (check.byMarker content, check)
  | verdict :: verdicts =>
    let check := { check with verdicts }
    match verdict with
    | none => (.ok check.diagnostics, check)
    | some diagnostics => (.error (.rejected (.scripted diagnostics)), check)

end ScriptedCheck

end ConfigVault
