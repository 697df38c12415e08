import ConfigVault.Backoff
import ConfigVault.Incident

/-!
# Retrying

A condition is tried until it holds, with the waits of a schedule between the tries.  An attempt that
fails with an error does not end the tries; when the schedule is used up, the last error is what is
reported, or that the condition never held.
-/

namespace ConfigVault

/-- What an attempt comes to. -/
inductive Attempt (ε : Type) where
  | done
  | notYet
  | failed (error : ε)
  deriving DecidableEq, Repr

/-- What an attempt comes to whose condition gives back a value or fails.  Every value that counts as
true ends the tries. -/
def Attempt.ofOutcome {ε : Type} : Except ε Value → Attempt ε
  | .ok value => if value.truthy then .done else .notYet
  | .error error => .failed error

/-- Why the tries gave up. -/
inductive RetryFailure (ε : Type) where
  /-- The error of the last attempt that failed with one. -/
  | lastError (error : ε)
  /-- The condition did not hold in any attempt. -/
  | notMet (attempts : Nat)
  deriving DecidableEq, Repr

def notMetIncident (attempts : Nat) : Incident :=
  .make .retry ("Condition not met after " ++ toString attempts ++ " attempts")
    IncidentKind.retry.code [("attempts", .int attempts)] []

/-- A step of a run of tries. -/
inductive RetryStep (τ : Type) where
  | tried
  | slept (wait : τ)
  deriving DecidableEq, Repr

namespace RetryStep

variable {τ : Type}

def isAttempt : RetryStep τ → Bool
  | tried => true
  | slept _ => false

def wait? : RetryStep τ → Option τ
  | tried => none
  | slept wait => some wait

end RetryStep

/-- A run of tries: how it ended, and its attempts and waits in their order. -/
structure RetryRun (ε τ : Type) where
  outcome : Except (RetryFailure ε) Unit
  steps : List (RetryStep τ)

namespace RetryRun

variable {ε τ : Type} (run : RetryRun ε τ)

def attempts : Nat := run.steps.countP RetryStep.isAttempt

def sleeps : List τ := run.steps.filterMap RetryStep.wait?

end RetryRun

/-- The failure of tries without success. -/
def giveUp {ε : Type} (attempts : Nat) : Option ε → RetryFailure ε
  | some error => .lastError error
  | none => .notMet attempts

/-- A condition that acts on a state: it gives back a value or fails, and leaves another state. -/
abbrev Condition (σ ε : Type) := σ → Except ε Value × σ

/-- The condition whose outcomes are given beforehand; its state is the number of the attempt. -/
def Condition.ofSequence {ε : Type} (outcomes : Nat → Except ε Value) : Condition Nat ε :=
  fun k => (outcomes k, k + 1)

section

variable {σ ε τ : Type} [TimeScale τ] [Mul τ] (s : Backoff τ) (rolls : Nat → τ)
  (condition : Condition σ ε)

/-- Tries a condition from attempt `k` on, with at most `left` attempts after it. -/
def retryFrom : (left : Nat) → (k : Nat) → (base : τ) → (last : Option ε) → σ → RetryRun ε τ × σ
  | left, k, base, last, state =>
    let (outcome, state) := condition state
    match Attempt.ofOutcome outcome with
    | .done => (⟨.ok (), [.tried]⟩, state)
    | attempt =>
      let last :=
        match attempt with
        | .failed error => some error
        | _ => last
      match left with
      | 0 => (⟨.error (giveUp (k + 1) last), [.tried]⟩, state)
      | left + 1 =>
        let (run, state) := retryFrom left (k + 1) (s.grow base) last state
        ({ run with steps := .tried :: .slept (s.wait base (rolls k)) :: run.steps }, state)

/-- Tries a condition by a schedule. -/
def retry (start : σ) : RetryRun ε τ × σ :=
  retryFrom s rolls condition (s.steps - 1) 0 s.duration none start

end

end ConfigVault
