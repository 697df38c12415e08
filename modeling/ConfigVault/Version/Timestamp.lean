import ConfigVault.Calendar.Moment
import ConfigVault.Text.Quoted

/-!
# Version timestamps

The text by which a version is known: the UTC second in which it was made, as
`YYYY-MM-DDThh-mm-ss`.  Writing does not fill the year with zeros, so only years from 1000 on are read
back.  Reading goes through three gates, the characters, the layout and the calendar, and says at
which of them a text was refused.
-/

namespace ConfigVault.Version

open Calendar

/-- Why a text in the layout of a timestamp is no moment. -/
inductive DateDefect where
  /-- A month, day, hour or minute that no date has. -/
  | unmatched
  /-- Characters left over behind the second. -/
  | leftover (rest : String)
  | yearZero
  | noSuchDay
  | noSuchSecond
  deriving DecidableEq, Repr

/-- Why a text is no timestamp. -/
inductive TimestampDefect where
  | characters
  | layout
  | date (defect : DateDefect)
  deriving DecidableEq, Repr

/-- The sentence about a date defect of a text. -/
def DateDefect.message (text : String) : DateDefect → String
  | unmatched =>
    "time data " ++ Text.quoted text ++ " does not match format '%Y-%m-%dT%H-%M-%S'"
  | leftover rest => "unconverted data remains: " ++ rest
  | yearZero => "year 0 is out of range"
  | noSuchDay => "day is out of range for month"
  | noSuchSecond => "second must be in 0..59"

/-- The sentence about a defect of a text. -/
def TimestampDefect.message (text : String) : TimestampDefect → String
  | characters => "The version timestamp provided is not valid."
  | layout => "The version timestamp must use the layout YYYY-MM-DDThh-mm-ss."
  | date defect => "The version timestamp provided is not a valid date: " ++ defect.message text

def isDigit (c : Char) : Bool :=
  '0' ≤ c && c ≤ '9'

def isStampChar (c : Char) : Bool :=
  isDigit c || c = 'T' || c = '-'

/-- A text without the line break at its end, if it has one. -/
def dropFinalBreak (cs : List Char) : List Char :=
  if cs.getLast? = some '\n' then cs.dropLast else cs

/-- A number of exactly `width` digits at the front of a text. -/
def takeNumber? : (width : Nat) → (read : Nat) → List Char → Option (Nat × List Char)
  | 0, read, rest => some (read, rest)
  | _ + 1, _, [] => none
  | width + 1, read, c :: rest =>
    if isDigit c then takeNumber? width (read * 10 + (c.toNat - '0'.toNat)) rest else none

/-- A given character at the front of a text. -/
def takeMark? (mark : Char) : List Char → Option (List Char)
  | [] => none
  | c :: rest => if c = mark then some rest else none

/-- The six numbers of a timestamp. -/
structure Fields where
  year : Nat
  month : Nat
  day : Nat
  hour : Nat
  minute : Nat
  second : Nat
  deriving DecidableEq, Repr

/-- The numbers of a text in the layout. -/
def fields? (cs : List Char) : Option Fields := do
  let (year, cs) ← takeNumber? 4 0 cs
  let (month, cs) ← takeNumber? 2 0 (← takeMark? '-' cs)
  let (day, cs) ← takeNumber? 2 0 (← takeMark? '-' cs)
  let (hour, cs) ← takeNumber? 2 0 (← takeMark? 'T' cs)
  let (minute, cs) ← takeNumber? 2 0 (← takeMark? '-' cs)
  let (second, cs) ← takeNumber? 2 0 (← takeMark? '-' cs)
  if cs.isEmpty then some ⟨year, month, day, hour, minute, second⟩ else none

/-- What is left of a text behind its second: seconds up to 61 are taken whole, of others only the
first digit, and a final line break is never taken. -/
def leftover (f : Fields) (finalBreak : Bool) : List Char :=
  (if f.second ≤ 61 then [] else [Char.ofNat ('0'.toNat + f.second % 10)]) ++
    (if finalBreak then ['\n'] else [])

/-- The moment with the given numbers, or the first thing that is wrong with them. -/
def Fields.reading (f : Fields) (finalBreak : Bool) : Except DateDefect Reading :=
  if f.month < 1 || 12 < f.month || f.day < 1 || 31 < f.day || 23 < f.hour || 59 < f.minute then
    .error .unmatched
  else if leftover f finalBreak ≠ [] then
    .error (.leftover (String.ofList (leftover f finalBreak)))
  else if f.year = 0 then .error .yearZero
  else
    match Date.ofNumbers? f.year f.month f.day with
    | none => .error .noSuchDay
    | some date =>
      match TimeOfDay.ofNumbers? f.hour f.minute f.second 0 with
      | none => .error .noSuchSecond
      | some time => .ok ⟨date, time⟩

def parseTimestamp (text : String) : Except TimestampDefect Reading :=
  let cs := text.toList
  let body := dropFinalBreak cs
  if cs.isEmpty || !body.all isStampChar then .error .characters
  else
    match fields? body with
    | none => .error .layout
    | some f =>
      match f.reading (body.length ≠ cs.length) with
      | .error defect => .error (.date defect)
      | .ok r => .ok r

/-- Writes the second of a reading as a timestamp. -/
def formatTimestamp (r : Reading) : String :=
  String.ofList
    (Nat.toDigits 10 r.date.year ++ '-' :: padded 2 r.date.month ++ '-' :: padded 2 r.date.day ++
      'T' :: padded 2 r.time.hour ++ '-' :: padded 2 r.time.minute ++
      '-' :: padded 2 r.time.second)

end ConfigVault.Version
