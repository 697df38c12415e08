import ConfigVault.Store
import Mathlib.Tactic

/-!
# Operations of a store

The calls that a store answers, as data, and runs of them: one after the other, or each
after a pause in which only time passes.
-/

namespace ConfigVault

open Calendar Version

variable {σ ν τ : Type}

/-- The calls of a store. -/
inductive Operation where
  | put (name content : String) (clock : Moment)
  | delete (name : String)
  | getCurrent (name : String)
  | listNames
  | listVersions (name : String)
  | listHistory (name : String)
  | getVersion (name timestamp : String)

namespace Operation

def name? : Operation → Option String
  | put name _ _ => some name
  | delete name => some name
  | getCurrent name => some name
  | listNames => none
  | listVersions name => some name
  | listHistory name => some name
  | getVersion name _ => some name

/-- The reading of the clock that a call may take. -/
def clock? : Operation → Option Moment
  | put _ _ clock => some clock
  | _ => none

def isRead : Operation → Bool
  | put _ _ _ | delete _ => false
  | _ => true

end Operation

/-- What a call that succeeds gives back. -/
inductive Reply where
  | put (outcome : PutOutcome)
  | deleted (outcome : DeleteOutcome)
  | value (value : Option String)
  | texts (texts : List String)
  | versions (versions : List ArchivedVersion)
  deriving DecidableEq

def World.later [Add τ] (pause : τ) (w : World σ ν τ) : World σ ν τ :=
  { w with now := w.now + pause }

namespace Store

variable [TimeScale τ] (store : Store σ ν τ)

def perform : Operation → Action σ ν τ Reply
  | .put name content clock => Reply.put <$> store.put name content clock
  | .delete name => Reply.deleted <$> store.delete name
  | .getCurrent name => Reply.value <$> store.getCurrent name
  | .listNames => Reply.texts <$> store.listNames
  | .listVersions name => Reply.texts <$> store.listVersions name
  | .listHistory name => Reply.versions <$> store.listHistory name
  | .getVersion name timestamp => Reply.value <$> store.getVersion name timestamp

def performAll : List Operation → World σ ν τ →
    List (Except (Failure τ) Reply) × World σ ν τ
  | [], w => ([], w)
  | op :: ops, w =>
    let (answer, w) := (store.perform op).run w
    let (answers, w) := performAll ops w
    (answer :: answers, w)

/-- Calls of the store, each after a pause, whether they fail or not. -/
def performPaced : List (τ × Operation) → World σ ν τ →
    List (Except (Failure τ) Reply) × World σ ν τ
  | [], w => ([], w)
  | (pause, op) :: calls, w =>
    let (answer, w) := (store.perform op).run (w.later pause)
    let (answers, w) := performPaced calls w
    (answer :: answers, w)

end Store

end ConfigVault
