import ConfigVault.Proofs.Retry.Waits
import ConfigVault.Retry

/-!
# The policy of tries

Tries end at the first attempt whose condition holds, or with the last attempt of the
schedule.  Between two attempts lies one wait, the waits are those of the schedule from its
first one on, and none follows the last attempt.  When the condition never holds, the last
error of an attempt is what comes of the tries, however many attempts without an error
followed it.  The condition may act on a state, which is handed on from attempt to attempt.
-/

namespace ConfigVault

/-! ## Steps of a run -/

namespace RetryStep

variable {τ : Type}

def course (waits : List τ) : List (RetryStep τ) :=
  .tried :: waits.flatMap fun wait => [.slept wait, .tried]

@[simp] theorem course_nil : course ([] : List τ) = [.tried] := rfl

@[simp] theorem course_cons (wait : τ) (waits : List τ) :
    course (wait :: waits) = .tried :: .slept wait :: course waits := rfl

end RetryStep

namespace RetryRun

variable {ε τ : Type} (outcome : Except (RetryFailure ε) Unit) (waits : List τ)

end RetryRun

/-! ## The error that is remembered -/

section

variable {ε : Type} (attempts : Nat → Attempt ε)

variable {attempts} {n : Nat} {error : ε}

end

/-! ## States and outcomes -/

section

variable {σ ε : Type}

namespace Condition

def before (condition : Condition σ ε) (start : σ) : Nat → σ
  | 0 => start
  | k + 1 => (condition (before condition start k)).2

/-- What the condition gives back in an attempt, or how it fails. -/
def outcome (condition : Condition σ ε) (start : σ) (k : Nat) : Except ε Value :=
  (condition (condition.before start k)).1

def attempt (condition : Condition σ ε) (start : σ) (k : Nat) : Attempt ε :=
  .ofOutcome (condition.outcome start k)

end Condition

end

/-! ## Runs -/

section

variable {σ ε τ : Type} [TimeScale τ] [Mul τ] {s : Backoff τ} {rolls : Nat → τ}
  {condition : Condition σ ε} {start : σ} {left k : Nat} {base : τ} {last : Option ε}

end

/-! ## The policy -/

/-- The condition gave back a value that counts as true. -/
def Holds {ε : Type} (outcome : Except ε Value) : Prop :=
  ∃ value, outcome = .ok value ∧ value.truthy = true

section

variable {ε τ : Type} [TimeScale τ] [Mul τ] (s : Backoff τ) (rolls : Nat → τ)

variable {s} {σ : Type}

end

end ConfigVault
