import ConfigVault.Decimal.Shortest

/-!
# Scales of time

Waiting and lag are measured on the scale of a clock that only ever moves forward.  A running vault
measures in doubles; statements about exact time measure in rational numbers.  The rules are the same
on every scale.
-/

namespace ConfigVault

/-- A scale of time: spans that are added, taken apart and compared. -/
class TimeScale (τ : Type) extends Add τ, Sub τ, LT τ, LE τ where
  /-- The empty span. -/
  zero : τ
  decidableLT : DecidableLT τ
  decidableLE : DecidableLE τ
  /-- A number of equal steps that together lead beyond a span. -/
  stepsBeyond (step span : τ) : Nat
  /-- A span in seconds as messages spell it. -/
  spell : τ → String

instance TimeScale.instDecidableLT {τ : Type} [TimeScale τ] : DecidableLT τ := TimeScale.decidableLT

instance TimeScale.instDecidableLE {τ : Type} [TimeScale τ] : DecidableLE τ := TimeScale.decidableLE

/-- Time in doubles.  A sum is rounded, so a step may be shorter than it is said to be, but never by
as much as half; twice the quotient is therefore enough. -/
instance : TimeScale Float where
  zero := 0.0
  decidableLT := inferInstance
  decidableLE := inferInstance
  stepsBeyond step span := 2 * (span / step).toUInt64.toNat + 4
  spell := Decimal.text

instance : TimeScale Rat where
  zero := 0
  decidableLT := inferInstance
  decidableLE := inferInstance
  stepsBeyond step span := (span / step).floor.toNat + 1
  spell x := if x.den = 1 then toString x.num else toString x.num ++ "/" ++ toString x.den

end ConfigVault
