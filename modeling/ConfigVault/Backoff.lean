import ConfigVault.Time

/-!
# Backoff

A schedule for attempts that may have to wait for another system: the waits grow by a factor up to an
optional cap, and each may be lengthened by a random part of itself.  What is added at random to one
wait has no part in the next one.
-/

namespace ConfigVault

/-- A schedule for a number of attempts. -/
structure Backoff (τ : Type) where
  duration : τ
  /-- The growth from one wait to the next. -/
  factor : τ
  /-- The greatest part of a wait that is added at random. -/
  jitter : τ
  /-- The number of attempts. -/
  steps : Nat
  /-- What no wait after the first grows beyond. -/
  cap : Option τ
  deriving DecidableEq

namespace Backoff

variable {τ : Type} [TimeScale τ] [Mul τ] (s : Backoff τ)

/-- A number between zero and a bound, for a roll between zero and one. -/
def uniform (bound roll : τ) : τ :=
  TimeScale.zero + (bound - TimeScale.zero) * roll

def wait (base roll : τ) : τ :=
  if TimeScale.zero < s.jitter then base + uniform (base * s.jitter) roll else base

def grow (base : τ) : τ :=
  let base := base * s.factor
  match s.cap with
  | none => base
  | some cap => if cap < base then cap else base

/-- The next `n` waits from a base on; `rolls` gives the roll of each wait by its number. -/
def waitsFrom (rolls : Nat → τ) : (n : Nat) → (k : Nat) → (base : τ) → List τ
  | 0, _, _ => []
  | n + 1, k, base => s.wait base (rolls k) :: waitsFrom rolls n (k + 1) (s.grow base)

def waits (rolls : Nat → τ) : List τ :=
  s.waitsFrom rolls (s.steps - 1) 0 s.duration

end Backoff

end ConfigVault
