import ConfigVault.Decimal.Reading
import ConfigVault.Instance.Host.Raw

/-!
# Numbers at the front of texts

Programs read numbers as far as they go: blanks and a sign in front, digits in a base that the first of
them tell, and what follows is left over.
-/

namespace ConfigVault.Host.Number

def isBlank (c : Char) : Bool := c = ' ' || (9 ≤ c.toNat && c.toNat ≤ 13)

/-- Two to the thirty-first: numbers of thirty-two bits with a sign are below it. -/
def half32 : Int := 2147483648

/-- Two to the sixty-third: numbers of sixty-four bits with a sign are below it. -/
def half64 : Int := 9223372036854775808

/-- Two to the sixty-fourth: numbers of sixty-four bits without a sign are below it. -/
def whole64 : Int := 18446744073709551616

/-- A number outside of sixty-four bits becomes the nearest one within. -/
def clamp (n : Int) : Int :=
  if n < -half64 then -half64 else if half64 ≤ n then half64 - 1 else n

def digit? (c : Char) : Option Nat :=
  if c.isDigit then some (c.toNat - 48)
  else if 'a' ≤ c && c ≤ 'z' then some (c.toNat - 97 + 10)
  else if 'A' ≤ c && c ≤ 'Z' then some (c.toNat - 65 + 10)
  else none

/-- The digits of a base at the front of a text: their number and the rest. -/
def takeDigits (base : Nat) (cs : List Char) : Nat × List Char :=
  let digits := cs.takeWhile fun c => (digit? c).any (· < base)
  (digits.foldl (fun n c => n * base + (digit? c).getD 0) 0, cs.drop digits.length)

/-- A number at the front of a text, in base ten, eight or sixteen by its first characters. -/
def takeNumber (cs : List Char) : Nat × List Char :=
  match cs with
  | '0' :: x :: c :: rest =>
    if (x = 'x' || x = 'X') && (digit? c).any (· < 16) then takeDigits 16 (c :: rest)
    else takeDigits 8 cs
  | '0' :: _ => takeDigits 8 cs
  | _ => takeDigits 10 cs

/-- A whole number at the front of a text, with blanks and a sign; none if there are no digits. -/
def takeInt? (take : List Char → Nat × List Char) (cs : List Char) : Option (Int × List Char) :=
  let (negative, digits) := Decimal.takeSign (cs.dropWhile isBlank)
  let (n, rest) := take digits
  if rest.length = digits.length then none
  else some (if negative then -(n : Int) else n, rest)

/-- An exponent at the front of a text, if digits follow its mark. -/
def takeExponent (cs : List Char) : Int × List Char :=
  match cs with
  | e :: rest =>
    if e = 'e' || e = 'E' then
      let (negative, digits) := Decimal.takeSign rest
      let (n, left) := takeDigits 10 digits
      if left.length = digits.length then (0, cs)
      else (if negative then -(n : Int) else n, left)
    else (0, cs)
  | [] => (0, cs)

def takeWord? (cs : List Char) : Option (Float × List Char) :=
  let small := cs.map Char.toLower
  if "infinity".toList.isPrefixOf small then some (1.0 / 0.0, cs.drop 8)
  else if "inf".toList.isPrefixOf small then some (1.0 / 0.0, cs.drop 3)
  else if "nan".toList.isPrefixOf small then some (0.0 / 0.0, cs.drop 3)
  else none

/-- An exponent of two at the front of a text, if digits follow its mark. -/
def takeBinaryExponent (cs : List Char) : Int × List Char :=
  match cs with
  | p :: rest =>
    if p = 'p' || p = 'P' then
      let (negative, digits) := Decimal.takeSign rest
      let (n, left) := takeDigits 10 digits
      if left.length = digits.length then (0, cs)
      else (if negative then -(n : Int) else n, left)
    else (0, cs)
  | [] => (0, cs)

/-- A number in base sixteen with its mark at the front of a text, with places behind a point and an
exponent of two. -/
def takeHexFloat? (cs : List Char) : Option (Float × List Char) :=
  match cs with
  | '0' :: x :: body =>
    if x = 'x' || x = 'X' then
      let (_, rest) := takeDigits 16 body
      let whole := body.take (body.length - rest.length)
      let (places, rest) : List Char × List Char :=
        match rest with
        | '.' :: behind =>
          let (_, left) := takeDigits 16 behind
          (behind.take (behind.length - left.length), left)
        | rest => ([], rest)
      if whole.isEmpty && places.isEmpty then none
      else
        let (e, rest) := takeBinaryExponent rest
        let n := (takeDigits 16 (whole ++ places)).1
        some ((Float.ofNat n).scaleB (e - 4 * (places.length : Int)), rest)
    else none
  | _ => none

/-- A decimal at the front of a text, with blanks and a sign; none if there is none. -/
def takeFloat? (cs : List Char) : Option (Float × List Char) :=
  let (negative, body) := Decimal.takeSign (cs.dropWhile isBlank)
  match (takeWord? body).or (takeHexFloat? body) with
  | some (x, rest) => some (Decimal.signed negative x, rest)
  | none =>
    let (whole, rest) := Decimal.takeDigits Decimal.asciiDigit? body
    let (part, rest) : List Nat × List Char :=
      match rest with
      | '.' :: behind =>
        let (part, left) := Decimal.takeDigits Decimal.asciiDigit? behind
        if whole.isEmpty && part.isEmpty then ([], rest) else (part, left)
      | rest => ([], rest)
    if whole.isEmpty && part.isEmpty then none
    else
      let (e, rest) := takeExponent rest
      let x := Decimal.toFloat (Decimal.digitsValue (whole ++ part)) (e - part.length)
      some (Decimal.signed negative x, rest)

end ConfigVault.Host.Number
