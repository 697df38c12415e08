/-!
# Binary numbers

The parts of a double and the number that they stand for: a whole significand times a power of two.
-/

namespace ConfigVault.Decimal

/-- A finite number taken apart as `significand * 2 ^ exponent`; `boundary` says that the next
smaller number is half as far away as the next greater one. -/
structure Binary where
  significand : Nat
  exponent : Int
  boundary : Bool
  deriving Repr, DecidableEq

namespace Binary

/-- The number as a quotient of whole numbers. -/
def quotient (b : Binary) : Nat × Nat :=
  if 0 ≤ b.exponent then (b.significand * Nat.pow 2 b.exponent.toNat, 1)
  else (b.significand, Nat.pow 2 (-b.exponent).toNat)

def whole? (b : Binary) : Option Nat :=
  let (num, den) := b.quotient
  if num % den = 0 then some (num / den) else none

end Binary

/-- The parts of a double: its sign, the field of its exponent and its fraction. -/
structure Parts where
  negative : Bool
  field : Nat
  fraction : Nat
  deriving Repr, DecidableEq

namespace Parts

def ofBits (bits : Nat) : Parts where
  negative := bits / Nat.pow 2 63 % 2 = 1
  field := bits / Nat.pow 2 52 % Nat.pow 2 11
  fraction := bits % Nat.pow 2 52

/-- The double is a number, and a finite one. -/
def isFinite (p : Parts) : Bool :=
  p.field != 2047

/-- The magnitude of a finite double. -/
def magnitude (p : Parts) : Binary :=
  if p.field = 0 then ⟨p.fraction, -1074, false⟩
  else ⟨p.fraction + Nat.pow 2 52, (p.field : Int) - 1075, p.fraction = 0 && p.field != 1⟩

end Parts

end ConfigVault.Decimal
