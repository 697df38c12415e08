import ConfigVault.Decimal.Reading
import ConfigVault.Text.Digit

/-!
# Reading whole numbers

Whole numbers in any base up to sixteen, with a sign, with blanks around them, with digits of any
script, and with the mark of the base in front.
-/

namespace ConfigVault.Decimal

/-- The greatest number of digits that are read in a base that is no power of two. -/
def maxDigits : Nat := 4300

/-- The value of a digit of a base: a decimal digit of any script or a letter of ASCII. -/
def digitIn? (base : Nat) (c : Char) : Option Nat :=
  ((Text.decimalDigit? c).or (Text.hexDigit? c)).filter (· < base)

/-- The letter that marks a base behind a zero. -/
def baseMark? (base : Nat) : Option Char :=
  if base = 2 then some 'b' else if base = 8 then some 'o' else if base = 16 then some 'x' else none

/-- The digits behind the mark of a base, if there is one. -/
def dropBaseMark (base : Nat) : List Char → List Char
  | '0' :: c :: rest => if some c.toLower = baseMark? base then rest else '0' :: c :: rest
  | cs => cs

/-- The number that a text stands for in a base. -/
def whole? (base : Nat) (cs : List Char) : Option Int :=
  let (negative, cs) := takeSign (Text.trim Text.isBlank cs)
  let cs := dropBaseMark base cs
  match takeDigits (digitIn? base) cs with
  | ([], _) => none
  | (_, _ :: _) => none
  | (digits, []) =>
    if base = 10 && maxDigits < digits.length then none
    else
      let n : Int := (digits.foldl (fun n d => n * base + d) 0 : Nat)
      some (if negative then -n else n)

end ConfigVault.Decimal
