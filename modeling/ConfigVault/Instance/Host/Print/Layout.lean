import ConfigVault.Decimal.Reading
import ConfigVault.Instance.Host.Raw

/-!
# Layouts of values

How numbers and texts are laid out in a field: its width, the side to which they are moved, the least
number of digits, and what stands in front.  Decimals are exact: the digits are those of the double
itself, rounded to the nearest with a half going to the even digit.
-/

namespace ConfigVault.Host

structure Layout where
  left : Bool
  /-- Stands in front of a number that is not negative. -/
  sign : Option Char
  zeros : Bool
  /-- The form with a mark of the base, or with a point throughout. -/
  marked : Bool
  width : Nat
  precision : Option Nat
  deriving Repr

namespace Layout

def plain : Layout := ⟨false, none, false, false, 0, none⟩

def pad (l : Layout) (text : Raw) : Raw :=
  let blanks := "".pushn ' ' (l.width - text.length)
  if l.left then text ++ blanks else blanks ++ text

def text (l : Layout) (text : Raw) : Raw :=
  l.pad (match l.precision with
    | some n => (text.take n).toString
    | none => text)

def number (l : Layout) (front digits : Raw) (mayFill : Bool) : Raw :=
  if l.zeros && !l.left && mayFill then
    front ++ "".pushn '0' (l.width - front.length - digits.length) ++ digits
  else l.pad (front ++ digits)

def signMark (l : Layout) (negative : Bool) : Raw :=
  if negative then "-" else (l.sign.map Char.toString).getD ""

/-- Digits, at least as many as the precision asks for; zero has none where it asks for none. -/
def digits (l : Layout) (base n : Nat) : Raw :=
  let least := l.precision.getD 1
  let ds := if n = 0 then [] else Nat.toDigits base n
  String.ofList (List.replicate (least - ds.length) '0' ++ ds)

/-- A whole number in base ten. -/
def int (l : Layout) (n : Int) : Raw :=
  l.number (l.signMark (n < 0)) (l.digits 10 n.natAbs) l.precision.isNone

def nat (l : Layout) (base : Nat) (capital : Bool) (n : Nat) : Raw :=
  let ds := l.digits base n
  let ds := if capital then String.ofList (ds.toList.map Char.toUpper) else ds
  let ds := if l.marked && base = 8 && ds.toList.head? ≠ some '0' then "0" ++ ds else ds
  let front := if l.marked && base = 16 && n ≠ 0 then (if capital then "0X" else "0x") else ""
  l.number front ds l.precision.isNone

/-! ## Decimals -/

/-- The quotient of two numbers, rounded to the nearest whole number; a half goes to the even one. -/
def nearest (num den : Nat) : Nat :=
  let q := num / den
  let r := num % den
  if 2 * r < den then q
  else if den < 2 * r then q + 1
  else q + q % 2

def withPoint (l : Layout) (n places : Nat) : Raw :=
  let ds := Nat.toDigits 10 n
  let ds := List.replicate (places + 1 - ds.length) '0' ++ ds
  let whole := String.ofList (ds.take (ds.length - places))
  if places = 0 then (if l.marked then whole ++ "." else whole)
  else whole ++ "." ++ String.ofList (ds.drop (ds.length - places))

/-- The digits of a quotient with some places behind the point. -/
def fixed (l : Layout) (num den places : Nat) : Raw :=
  l.withPoint (nearest (num * Nat.pow 10 places) den) places

/-- The greatest exponent of a power of ten that is no greater than a quotient: tried downwards
from the number of digits. -/
def exponentOf (num den : Nat) : Int :=
  if num = 0 then 0
  else if den ≤ num then ((Nat.toDigits 10 (num / den)).length : Int) - 1
  else
    let j := ((Nat.toDigits 10 (den / num)).length : Int)
    if den ≤ num * Nat.pow 10 (j - 1).toNat then -(j - 1) else -j

/-- The first digits of a quotient, one before the point, and the exponent behind them. -/
def significant (num den places : Nat) : Nat × Int :=
  let e := exponentOf num den
  let shift := (places : Int) - e
  let n :=
    if 0 ≤ shift then nearest (num * Nat.pow 10 shift.toNat) den
    else nearest num (den * Nat.pow 10 (-shift).toNat)
  if Nat.pow 10 (places + 1) ≤ n then (n / 10, e + 1) else (n, e)

def exponentText (e : Int) : Raw :=
  (if e < 0 then "-" else "+") ++ (⟨false, none, false, false, 0, some 2⟩ : Layout).digits 10 e.natAbs

def scientific (l : Layout) (num den places : Nat) : Raw :=
  let (n, e) := significant num den places
  l.withPoint n places ++ "e" ++ exponentText e

/-- The text without zeros at the end of the places behind its point. -/
def trimZeros (text : Raw) : Raw :=
  let cs := text.toList
  let front := cs.takeWhile (· ≠ 'e')
  let behind := cs.drop front.length
  if front.contains '.' then
    let front := (front.reverse.dropWhile (· = '0')).dropWhile (· = '.')
    String.ofList (front.reverse ++ behind)
  else text

/-- The shorter of the two forms, with so many digits in all. -/
def general (l : Layout) (num den count : Nat) : Raw :=
  let count := max count 1
  let (_, e) := significant num den (count - 1)
  let text :=
    if -4 ≤ e && e < count then l.fixed num den ((count : Int) - 1 - e).toNat
    else l.scientific num den (count - 1)
  if l.marked then text else trimZeros text

inductive DecimalForm where
  | fixed
  | scientific
  | general
  deriving DecidableEq, Repr

def float (l : Layout) (form : DecimalForm) (capital : Bool) (x : Float) : Raw :=
  let parts := Decimal.Parts.ofBits x.toBits.toNat
  let front := l.signMark parts.negative
  let raise (text : Raw) : Raw :=
    if capital then String.ofList (text.toList.map Char.toUpper) else text
  if parts.isFinite then
    let (num, den) := parts.magnitude.quotient
    let places := l.precision.getD 6
    let digits :=
      match form with
      | .fixed => l.fixed num den places
      | .scientific => l.scientific num den places
      | .general => l.general num den places
    l.number front (raise digits) true
  else if x.isNaN then l.number front (raise "nan") false
  else l.number front (raise "inf") false

end Layout

end ConfigVault.Host
