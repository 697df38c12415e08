import ConfigVault.Text.Utf8

/-!
# Bytes as characters

Programs read and write bytes.  A string of bytes is kept as the text in which each byte is the
character of its number, so that what is written in ASCII is the same in both.
-/

namespace ConfigVault.Host

abbrev Raw := String

namespace Raw

def ofBytes (bytes : List UInt8) : Raw :=
  String.ofList (bytes.map fun b => Char.ofNat b.toNat)

def ofText (text : String) : Raw := ofBytes (Text.utf8Bytes text)

def toBytes (raw : Raw) : List UInt8 :=
  raw.toList.map fun c => UInt8.ofNat c.toNat

/-- The text that bytes stand for; bytes that stand for none show the replacement character. -/
def toText (raw : Raw) : String := String.ofList (Text.decodeUtf8 (toBytes raw))

/-- The number of a byte that is no part of a character, as a character of its own. -/
def strayBase : Nat := 0x10FF00

/-- The characters that bytes stand for; a byte that is no part of one stands for itself, at the end of
all characters. -/
def letters (raw : Raw) : List Char :=
  go (raw.length + 1) (toBytes raw)
where
  go : (fuel : Nat) → List UInt8 → List Char
    | 0, _ => []
    | _ + 1, [] => []
    | fuel + 1, b :: rest =>
      let width := if b < 0x80 then 1 else if b < 0xE0 then 2 else if b < 0xF0 then 3 else 4
      match Text.decodeUtf8? ((b :: rest).take width) with
      | some s => s.toList ++ go fuel ((b :: rest).drop width)
      | none => Char.ofNat (strayBase + b.toNat) :: go fuel rest

def isStray (c : Char) : Bool := strayBase ≤ c.toNat && c.toNat < strayBase + 256

def ofLetters (letters : List Char) : Raw :=
  String.ofList (letters.flatMap fun c =>
    if c.toNat < 0x80 then [c]
    else if isStray c then [Char.ofNat (c.toNat - strayBase)]
    else (Text.utf8Bytes c.toString).map fun b => Char.ofNat b.toNat)

/-- The pieces of a string between line feeds; one at its end begins no piece. -/
def lines (raw : Raw) : List Raw :=
  let cs := raw.toList
  if cs.isEmpty then []
  else
    let body := if cs.getLast? = some '\n' then cs.dropLast else cs
    (body.foldr (fun c acc =>
      if c = '\n' then [] :: acc
      else
        match acc with
        | line :: rest => (c :: line) :: rest
        | [] => [[c]]) [[]]).map String.ofList

def unlines (lines : List Raw) : Raw := String.join (lines.map (· ++ "\n"))

def splitAt (mark : Char) (raw : Raw) : List Raw :=
  (raw.toList.foldr (fun c acc =>
    if c = mark then [] :: acc
    else
      match acc with
      | piece :: rest => (c :: piece) :: rest
      | [] => [[c]]) [[]]).map String.ofList

/-- The number that digits of ASCII stand for; there has to be one. -/
def nat? (cs : List Char) : Option Nat :=
  if cs.isEmpty || !cs.all Char.isDigit then none
  else some (cs.foldl (fun n c => n * 10 + (c.toNat - 48)) 0)

/-- The whole number that a sign and digits stand for. -/
def int? : List Char → Option Int
  | '-' :: cs => (nat? cs).map fun n => -(n : Int)
  | '+' :: cs => (nat? cs).map Int.ofNat
  | cs => (nat? cs).map Int.ofNat

end Raw

end ConfigVault.Host
