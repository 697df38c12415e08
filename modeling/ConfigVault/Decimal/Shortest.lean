import ConfigVault.Decimal.Binary

/-!
# Shortest decimals

The text of a binary floating-point number: the decimal with the fewest digits among those that
read back as the same number, and of those the nearest to it.  The search is exact.  A number
`m * 2 ^ q` is the nearest one for every real in an interval around it whose ends are half-way to its
neighbours (and belong to it when `m` is even); the first decimal grid with a point in that interval
gives the digits, and one of the two grid points next to the number is such a point if there is any.
-/

namespace ConfigVault.Decimal

/-- The digits of a decimal with the position of its point: `0.d₁d₂… * 10 ^ point`. -/
structure Digits where
  digits : List Char
  point : Int
  deriving Repr, DecidableEq

/-- The decimal digits of a number. -/
def natDigits (n : Nat) : List Char :=
  Nat.toDigits 10 n

/-- The number of decimal digits of a positive number. -/
def digitCount (n : Nat) : Nat :=
  (natDigits n).length

/-- The least `j` from `j₀` on, within `fuel` steps, with `den ≤ num * 10 ^ j`. -/
def leadingZeros (num den : Nat) : (fuel j : Nat) → Nat
  | 0, j => j
  | fuel + 1, j => if den ≤ num * Nat.pow 10 j then j else leadingZeros num den fuel (j + 1)

/-- The decimal exponent of the first digit of the positive quotient `num / den`. -/
def leadingExponent (num den : Nat) : Int :=
  if den ≤ num then (digitCount (num / den) : Int) - 1
  else -(leadingZeros num den 400 0 : Int)

/-- The grid points of a number: with `4 * m * 2 ^ (q - 2) = num / den` the number, `unit / den` a
quarter of the gap above it, looks at the multiples of `10 ^ k` next to it and gives the nearer of
those that lie in the interval of reals closest to the number. -/
def gridPoint? (b : Binary) (k : Int) : Option Nat :=
  let m := b.significand
  let e := b.exponent - 2
  let unit := if 0 ≤ e then Nat.pow 2 e.toNat else 1
  let den₀ := if 0 ≤ e then 1 else Nat.pow 2 (-e).toNat
  let scale := if 0 ≤ k then Nat.pow 10 k.toNat else 1
  let stretch := if 0 ≤ k then 1 else Nat.pow 10 (-k).toNat
  let num := 4 * m * unit * stretch
  let den := den₀ * scale
  let low := (4 * m - (if b.boundary then 1 else 2)) * unit * stretch
  let high := (4 * m + 2) * unit * stretch
  let inside (d : Nat) : Bool :=
    if m % 2 = 0 then low ≤ d * den && d * den ≤ high else low < d * den && d * den < high
  let below := num / den
  let above := below + 1
  match inside below, inside above with
  | true, true =>
    let down := num - below * den
    let up := above * den - num
    if down < up then some below
    else if up < down then some above
    else if below % 2 = 0 then some below else some above
  | true, false => some below
  | false, true => some above
  | false, false => none

/-- Tries grids of `n`, `n + 1`, … digits and gives the first point found with its grid. -/
def search (b : Binary) (lead : Int) : (fuel n : Nat) → Nat × Int
  | 0, _ => (b.significand, 0)
  | fuel + 1, n =>
    let k := lead - (n : Int) + 1
    match gridPoint? b k with
    | some d => (d, k)
    | none => search b lead fuel (n + 1)

/-- The fewest digits that read back as a positive number. -/
def shortest (b : Binary) : Digits :=
  let (num, den) := b.quotient
  let found := search b (leadingExponent num den) 17 1
  let digits := natDigits found.1
  let kept := (digits.reverse.dropWhile (· == '0')).reverse
  ⟨kept, (digits.length : Int) + found.2⟩

/-- How a decimal is laid out: positional between two powers of ten, with an exponent elsewhere. -/
structure Layout where
  /-- The smallest position of the point that is written out. -/
  pointFrom : Int
  /-- The greatest position of the point that is written out. -/
  pointTo : Int
  /-- The least number of digits of an exponent. -/
  exponentWidth : Nat
  /-- The texts of the numbers that have no digits. -/
  infinite : String
  undefined : String

/-- Numbers from `1e-4` up to below `1e16` are positional and keep a `.0`; others have an exponent
with a sign and at least two digits. -/
def Layout.plain : Layout := ⟨-3, 16, 2, "inf", "nan"⟩

/-- An exponent with its sign, padded with zeros. -/
def exponentText (layout : Layout) (e : Int) : List Char :=
  let digits := natDigits e.natAbs
  'e' :: (if e < 0 then '-' else '+') ::
    (List.replicate (layout.exponentWidth - digits.length) '0' ++ digits)

def Digits.render (layout : Layout) (d : Digits) : List Char :=
  if d.point < layout.pointFrom || layout.pointTo < d.point then
    let tail := d.digits.drop 1
    d.digits.take 1 ++ (if tail.isEmpty then [] else '.' :: tail) ++
      exponentText layout (d.point - 1)
  else if d.point ≤ 0 then
    '0' :: '.' :: (List.replicate (-d.point).toNat '0' ++ d.digits)
  else
    let n := d.point.toNat
    let whole := d.digits.take n
    let part := d.digits.drop n
    whole ++ List.replicate (n - whole.length) '0' ++
      '.' :: (if part.isEmpty then ['0'] else part)

def textOfParts (layout : Layout) (p : Parts) : String :=
  let sign := if p.negative then ['-'] else []
  let magnitude := p.magnitude
  if !p.isFinite then
    if p.fraction = 0 then String.ofList sign ++ layout.infinite else layout.undefined
  else if magnitude.significand = 0 then String.ofList (sign ++ ['0', '.', '0'])
  else String.ofList (sign ++ (shortest magnitude).render layout)

def text (x : Float) : String :=
  textOfParts .plain (.ofBits x.toBits.toNat)

end ConfigVault.Decimal
