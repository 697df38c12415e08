import ConfigVault.Text.Utf8

/-!
# Base 64

Bytes written with sixty-four characters, six bits to a character, and read back leniently: a
character outside the alphabet is passed over, and reading ends at the padding that completes a
group.
-/

namespace ConfigVault.Text

/-- The character for six bits. -/
def base64Char (n : Nat) : Char :=
  if n < 26 then Char.ofNat (65 + n)
  else if n < 52 then Char.ofNat (97 + (n - 26))
  else if n < 62 then Char.ofNat (48 + (n - 52))
  else if n = 62 then '+'
  else '/'

/-- Three bytes to four characters; a last group of one or two bytes is filled with `=`. -/
def encodeBase64 : List UInt8 → List Char
  | [] => []
  | [a] =>
    let n := a.toNat * 16
    [base64Char (n / 64), base64Char (n % 64), '=', '=']
  | [a, b] =>
    let n := (a.toNat * 256 + b.toNat) * 4
    [base64Char (n / 4096), base64Char (n / 64 % 64), base64Char (n % 64), '=']
  | a :: b :: c :: rest =>
    let n := (a.toNat * 256 + b.toNat) * 256 + c.toNat
    base64Char (n / 262144) :: base64Char (n / 4096 % 64) :: base64Char (n / 64 % 64) ::
      base64Char (n % 64) :: encodeBase64 rest

/-- The six bits of a character of the alphabet. -/
def base64Value? (c : Char) : Option Nat :=
  if 'A' ≤ c && c ≤ 'Z' then some (c.toNat - 65)
  else if 'a' ≤ c && c ≤ 'z' then some (c.toNat - 97 + 26)
  else if '0' ≤ c && c ≤ '9' then some (c.toNat - 48 + 52)
  else if c = '+' then some 62
  else if c = '/' then some 63
  else none

/-- Reads the characters of a text: `held` characters of the present group have been read, `carry`
holds their bits that are not yet part of a byte, and `pads` counts the padding characters since the
last of them.  Padding ends the text where it completes a group; a text that ends within a group is
refused. -/
def decodeBase64From (held carry pads : Nat) : List Char → Option (List UInt8)
  | [] => if held = 0 then some [] else none
  | c :: rest =>
    if c = '=' then
      if 2 ≤ held && 4 ≤ held + (pads + 1) then some []
      else decodeBase64From held carry (pads + 1) rest
    else
      match base64Value? c with
      | none => decodeBase64From held carry pads rest
      | some v =>
        if held = 0 then decodeBase64From 1 v 0 rest
        else if held = 1 then
          (decodeBase64From 2 (v % 16) 0 rest).map (UInt8.ofNat (carry * 4 + v / 16) :: ·)
        else if held = 2 then
          (decodeBase64From 3 (v % 4) 0 rest).map (UInt8.ofNat (carry * 16 + v / 4) :: ·)
        else
          (decodeBase64From 0 0 0 rest).map (UInt8.ofNat (carry * 64 + v) :: ·)

/-- The bytes that a text in base 64 stands for. -/
def decodeBase64? (cs : List Char) : Option (List UInt8) :=
  decodeBase64From 0 0 0 cs

end ConfigVault.Text
