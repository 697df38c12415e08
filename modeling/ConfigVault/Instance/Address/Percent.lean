import ConfigVault.Text.Digit
import ConfigVault.Text.Quoted
import ConfigVault.Text.Utf8

/-!
# Escapes in addresses

Characters that have no place in a part of an address are written as the bytes of their UTF-8 form,
each as a percent sign and two hexadecimal digits.  What is written so already stays as it is.
-/

namespace ConfigVault.Address

open Text

def escape (c : Char) : List Char :=
  (utf8Bytes (String.singleton c)).flatMap fun b =>
    '%' :: (hexDigits 2 b.toNat).map Char.toUpper

/-- Writes the characters outside of a class as escapes. -/
def encode (safe : Char → Bool) : List Char → List Char
  | [] => []
  | '%' :: a :: b :: rest =>
    if (hexDigit? a).isSome && (hexDigit? b).isSome then '%' :: a :: b :: encode safe rest
    else (if safe '%' then ['%'] else escape '%') ++ encode safe (a :: b :: rest)
  | c :: rest => (if safe c then [c] else escape c) ++ encode safe rest

/-- Reads the escapes of a text, as bytes. -/
def decodedBytes : List Char → List UInt8
  | [] => []
  | '%' :: a :: b :: rest =>
    match hexDigit? a, hexDigit? b with
    | some m, some n => UInt8.ofNat (m * 16 + n) :: decodedBytes rest
    | _, _ => 37 :: decodedBytes (a :: b :: rest)
  | c :: rest => utf8Bytes (String.singleton c) ++ decodedBytes rest

/-- Reads the escapes of a text. -/
def decode (cs : List Char) : String :=
  String.ofList (decodeUtf8 (decodedBytes cs))

def printableBut (others : String) (c : Char) : Bool :=
  ' ' < c && c ≤ '~' && !others.toList.contains c

def isPathChar : Char → Bool := printableBut "\x22#<>?\x60\x7b\x7d"

def isQueryChar : Char → Bool := printableBut "\x22#<>"

def isFragmentChar : Char → Bool := printableBut "\x22<>\x60"

/-- The characters of the part for the user that need no escape. -/
def isUserChar : Char → Bool := printableBut "\x22#<>?\x60\x7b\x7d/;=@[\x5c]^|"

def isHostChar (c : Char) : Bool :=
  c.isAlphanum || "-._~!$&\x27()*+,;=\x22\x60\x7b\x7d%|\x5c".toList.contains c

end ConfigVault.Address
