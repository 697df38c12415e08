import ConfigVault.Data.Value
import ConfigVault.Decimal.Shortest
import ConfigVault.Text.Quoted

/-!
# Spelled values

How values are spelled in diagnostic texts: texts between quotes, lists in brackets, mappings and
sets in braces, days and moments as the numbers that they are made of, and the words for null and the
truth values.
-/

namespace ConfigVault

open Text

/-- The words and brackets of the spelling. -/
structure Spelling where
  null : String
  yes : String
  no : String
  noElements : String

/-- The spelling that incidents use. -/
def Spelling.diagnostic : Spelling := ⟨"None", "True", "False", "set()"⟩

/-- A byte string: characters of ASCII as themselves, other bytes as escapes. -/
def spellBytes (data : List UInt8) : String :=
  let cs := data.map fun b => Char.ofNat b.toNat
  let quote := quoteFor cs
  let spell (c : Char) : List Char :=
    if c.toNat < 128 then quoteChar quote c else '\x5c' :: 'x' :: hexDigits 2 c.toNat
  String.ofList ('b' :: quote :: cs.flatMap spell ++ [quote])

/-- Numbers behind a name, as a thing made of them is spelled. -/
def spellCall (name : String) (parts : List String) : String :=
  name ++ "(" ++ String.intercalate ", " parts ++ ")"

/-- A span of microseconds: whole days, the seconds that are left over, and what is left of these. -/
def spellSpan (microseconds : Int) : String :=
  let seconds := Int.fdiv microseconds 1000000
  let numbers := [("days", Int.fdiv seconds 86400), ("seconds", Int.fmod seconds 86400),
    ("microseconds", Int.fmod microseconds 1000000)]
  let parts := (numbers.filter fun n => n.2 ≠ 0).map fun n => n.1 ++ "=" ++ toString n.2
  spellCall "datetime.timedelta" (if parts.isEmpty then ["0"] else parts)

open Calendar in
def dateNumbers (d : Date) : List Nat := [d.year, d.month, d.day]

open Calendar in
/-- The numbers of a time of day; seconds are left out when nothing is in them, and so are
microseconds. -/
def timeNumbers (t : TimeOfDay) : List Nat :=
  [t.hour, t.minute] ++
    (if t.microsecond ≠ 0 then [t.second, t.microsecond]
    else if t.second ≠ 0 then [t.second]
    else [])

open Calendar in
/-- A moment: its numbers, and how its clock runs. -/
def spellMoment (m : Moment) : String :=
  let zone : List String :=
    match m.offset with
    | none => []
    | some offset =>
      ["tzinfo=" ++ (if offset = 0 then "datetime.timezone.utc"
        else spellCall "datetime.timezone" [spellSpan offset])]
  spellCall "datetime.datetime"
    ((dateNumbers m.reading.date ++ timeNumbers m.reading.time).map toString ++ zone)

mutual

/-- A value as diagnostic texts spell it. -/
def Value.spelled (words : Spelling) : Value → String
  | .null => words.null
  | .bool b => if b then words.yes else words.no
  | .int i => toString i
  | .float x => Decimal.text x
  | .text s => quoted s
  | .bytes data => spellBytes data
  | .date d => spellCall "datetime.date" ((dateNumbers d).map toString)
  | .moment m => spellMoment m
  | .list items => "[" ++ String.intercalate ", " (spelledItems words items) ++ "]"
  | .set items =>
    if items.isEmpty then words.noElements
    else "\x7b" ++ String.intercalate ", " (spelledItems words items) ++ "\x7d"
  | .map entries => "\x7b" ++ String.intercalate ", " (spelledEntries words entries) ++ "\x7d"

def spelledItems (words : Spelling) : List Value → List String
  | [] => []
  | v :: rest => v.spelled words :: spelledItems words rest

/-- The entries of a mapping, each spelled as key, colon and value. -/
def spelledEntries (words : Spelling) : List (Value × Value) → List String
  | [] => []
  | (k, v) :: rest =>
    (k.spelled words ++ ": " ++ v.spelled words) :: spelledEntries words rest

end

/-- A value as it stands in a sentence: a text as it is, days and moments in the international form with
a space before the time, and anything else spelled. -/
def Value.sentence : Value → String
  | .text s => s
  | .date d => d.isoText
  | .moment m => m.textWith " "
  | v => v.spelled .diagnostic

end ConfigVault
