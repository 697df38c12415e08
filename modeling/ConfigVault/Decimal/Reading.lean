import ConfigVault.Decimal.Binary

/-!
# Reading decimals

From the digits of a decimal to the nearest double, and the grammar of decimals that number readers
share: digits with an optional point and exponent, and the words for the infinite and the undefined.
-/

namespace ConfigVault.Decimal

/-- The nearest double to `significand * 10 ^ exponent`.  Magnitudes far outside the range of a
double are answered without the power of ten. -/
def toFloat (significand : Nat) (exponent : Int) : Float :=
  if significand = 0 then 0.0
  else
    let magnitude := (significand.log2 : Int) * 3 / 10 + exponent
    if 330 < magnitude then 1.0 / 0.0
    else if magnitude < -400 then 0.0
    else if 0 ≤ exponent then Float.ofScientific significand false exponent.toNat
    else Float.ofScientific significand true (-exponent).toNat

/-- The number that decimal digits stand for. -/
def digitsValue (digits : List Nat) : Nat :=
  digits.foldl (fun acc d => acc * 10 + d) 0

/-- The digits at the front of a text, and the text behind them. -/
def takeDigits (digit? : Char → Option Nat) : List Char → List Nat × List Char
  | [] => ([], [])
  | c :: rest =>
    match digit? c with
    | some d => let (ds, after) := takeDigits digit? rest; (d :: ds, after)
    | none => ([], c :: rest)

/-- A sign at the front of a text: whether it is a minus, and the text behind it. -/
def takeSign : List Char → Bool × List Char
  | '-' :: rest => (true, rest)
  | '+' :: rest => (false, rest)
  | rest => (false, rest)

def signed (negative : Bool) (x : Float) : Float :=
  if negative then -x else x

/-- An exponent that is the whole rest of a text; none is an exponent of zero. -/
def takeExponent? (digit? : Char → Option Nat) : List Char → Option Int
  | [] => some 0
  | c :: rest =>
    if c = 'e' || c = 'E' then
      let (negative, rest) := takeSign rest
      match takeDigits digit? rest with
      | ([], _) => none
      | (ds, []) => some (if negative then -(digitsValue ds : Int) else digitsValue ds)
      | (_, _ :: _) => none
    else none

/-- An unsigned decimal: digits, a point or both, at least one digit, then an exponent. -/
def unsigned? (digit? : Char → Option Nat) (cs : List Char) : Option Float :=
  let (whole, rest) := takeDigits digit? cs
  let (part, rest) : List Nat × List Char :=
    match rest with
    | '.' :: rest => takeDigits digit? rest
    | rest => ([], rest)
  if whole.isEmpty && part.isEmpty then none
  else
    (takeExponent? digit? rest).map fun e =>
      toFloat (digitsValue (whole ++ part)) (e - part.length)

/-- A number in the common notation, with a sign, or one of the words `inf`, `infinity` and `nan`
in any case. -/
def float? (digit? : Char → Option Nat) (cs : List Char) : Option Float :=
  let (negative, rest) := takeSign cs
  let word := String.ofList (rest.map Char.toLower)
  if word = "inf" || word = "infinity" then some (signed negative (1.0 / 0.0))
  else if word = "nan" then some (0.0 / 0.0)
  else (unsigned? digit? rest).map (signed negative)

def asciiDigit? (c : Char) : Option Nat :=
  if '0' ≤ c && c ≤ '9' then some (c.toNat - '0'.toNat) else none

/-- Two underscores stand side by side somewhere in a text. -/
def hasUnderscorePair : List Char → Bool
  | [] => false
  | c :: rest => (c = '_' && rest.head? = some '_') || hasUnderscorePair rest

/-- Takes the underscores out of a text that neither begins nor ends with one and has no two of them
side by side. -/
def dropUnderscores? (cs : List Char) : Option (List Char) :=
  if cs.head? = some '_' || cs.getLast? = some '_' || hasUnderscorePair cs then none
  else some (cs.filter (· ≠ '_'))

/-- The exact value of a double that is a whole number. -/
def toInt? (x : Float) : Option Int :=
  let p := Parts.ofBits x.toBits.toNat
  if p.isFinite then
    p.magnitude.whole?.map fun n => if p.negative then -(n : Int) else n
  else none

/-- The nearest double to a whole number, when it is not beyond the greatest one. -/
def ofInt? (i : Int) : Option Float :=
  let x := Float.ofScientific i.natAbs false 0
  if x.isInf then none else some (if i < 0 then -x else x)

end ConfigVault.Decimal
