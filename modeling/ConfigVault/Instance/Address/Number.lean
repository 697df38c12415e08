import ConfigVault.Decimal.Reading
import ConfigVault.Text.Digit

/-!
# Numbers for hosts

Hosts can be given by number: four bytes between dots, or eight groups of hexadecimal digits between
colons, of which one run of zeros can be left out.
-/

namespace ConfigVault.Address

open Text

/-- The parts of a text between the places of a character. -/
def splitAt (mark : Char) : List Char → List (List Char)
  | [] => [[]]
  | c :: rest =>
    if c = mark then [] :: splitAt mark rest
    else
      match splitAt mark rest with
      | part :: more => (c :: part) :: more
      | [] => [[c]]

/-- A byte in decimal digits, without zeros at its front. -/
def isByte (cs : List Char) : Bool :=
  !cs.isEmpty && cs.length ≤ 3 && cs.all Char.isDigit && (cs = ['0'] || cs.head? ≠ some '0') &&
    Decimal.digitsValue (cs.filterMap Decimal.asciiDigit?) ≤ 255

def isFourBytes (cs : List Char) : Bool :=
  let parts := splitAt '.' cs
  parts.length = 4 && parts.all isByte

/-- One step through a text in which four runs of digits have one character each between them; even
places are in front of a run, odd ones within it. -/
def runStep (places : List Nat) (c : Char) : List Nat :=
  (places.flatMap fun k =>
    if k % 2 = 0 then (if c.isDigit then [k + 1] else [])
    else (if c.isDigit then [k] else []) ++ (if k < 7 then [k + 1] else [])).eraseDups

/-- A text looks like four bytes: it is four runs of digits with any one character between them. -/
def looksLikeFourBytes (cs : List Char) : Bool :=
  (cs.foldl runStep [0]).contains 7

/-- A group of up to four hexadecimal digits. -/
def isGroup (cs : List Char) : Bool :=
  !cs.isEmpty && cs.length ≤ 4 && cs.all fun c => (hexDigit? c).isSome

/-- Groups between colons, with four bytes at the end as two groups. -/
def groups? (cs : List Char) : Option (List (List Char)) :=
  let parts := splitAt ':' cs
  let last := parts.getLastD []
  if parts.length < 3 then none
  else if last.contains '.' then
    if isFourBytes last then some (parts.dropLast ++ [['0'], ['0']]) else none
  else some parts

/-- The places of empty groups between the first and the last one. -/
def innerGaps (parts : List (List Char)) : List Nat :=
  (List.range parts.length).filter fun i =>
    0 < i && i + 1 < parts.length && parts[i]? = some []

/-- Eight groups, or fewer with a gap for those that are left out. -/
def areGroups (parts : List (List Char)) : Bool :=
  match innerGaps parts with
  | [] => parts.length = 8 && parts.all isGroup
  | [gap] =>
    let before := parts.take gap
    let behind := parts.drop (gap + 1)
    let before := if before = [[]] then [] else before
    let behind := if behind = [[]] then [] else behind
    parts.length ≤ 9 && before.length + behind.length < 8 && (before ++ behind).all isGroup
  | _ => false

/-- Eight groups between colons, with a name of a zone behind a percent sign if there is one. -/
def isEightGroups (cs : List Char) : Bool :=
  let (number, zone) := cs.span (· ≠ '%')
  (zone.isEmpty || (zone.length ≠ 1 && !(zone.drop 1).contains '%')) && !number.contains '/' &&
    ((groups? number).map areGroups).getD false

end ConfigVault.Address
