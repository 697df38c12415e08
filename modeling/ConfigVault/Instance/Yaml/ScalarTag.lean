import ConfigVault.Text.Digit
import ConfigVault.Version.Timestamp

/-!
# Tags of scalars

The tags that the format defines, and the tag that a scalar without quotes has by the form of its
text.
-/

namespace ConfigVault.Yaml

def tagStart : String := "tag:yaml.org,2002:"

def standardTag (name : String) : String := tagStart ++ name

def isRun (first rest : Char → Bool) : List Char → Bool
  | [] => false
  | c :: cs => first c && cs.all rest

def dropSign : List Char → List Char
  | '+' :: cs => cs
  | '-' :: cs => cs
  | cs => cs

def isDigitOrLow (c : Char) : Bool := c.isDigit || c = '_'

def pieces (mark : Char) : List Char → List (List Char)
  | [] => [[]]
  | c :: cs =>
    if c = mark then [] :: pieces mark cs
    else
      match pieces mark cs with
      | piece :: more => (c :: piece) :: more
      | [] => [[c]]

/-- A digit below sixty, written with one digit or two. -/
def isSixtieth : List Char → Bool
  | [a] => a.isDigit
  | [a, b] => '0' ≤ a && a ≤ '5' && b.isDigit
  | _ => false

def isWholeForm (text : List Char) : Bool :=
  match dropSign text with
  | ['0'] => true
  | '0' :: 'b' :: cs => isRun (fun c => c = '0' || c = '1' || c = '_')
      (fun c => c = '0' || c = '1' || c = '_') cs
  | '0' :: 'x' :: cs => isRun (fun c => (Text.hexDigit? c).isSome || c = '_')
      (fun c => (Text.hexDigit? c).isSome || c = '_') cs
  | '0' :: cs => isRun (fun c => ('0' ≤ c && c ≤ '7') || c = '_')
      (fun c => ('0' ≤ c && c ≤ '7') || c = '_') cs
  | cs =>
    match pieces ':' cs with
    | first :: more =>
      isRun (fun c => '1' ≤ c && c ≤ '9') isDigitOrLow first && more.all isSixtieth
    | [] => false

def isExponentForm : List Char → Bool
  | [] => true
  | e :: sign :: cs =>
    (e = 'e' || e = 'E') && (sign = '+' || sign = '-') && isRun Char.isDigit Char.isDigit cs
  | _ => false

/-- The form of the digits behind a point, with an exponent. -/
def isFractionForm (cs : List Char) : Bool :=
  isExponentForm (cs.dropWhile isDigitOrLow)

def isSixtiethsForm (cs : List Char) : Bool :=
  match pieces ':' cs with
  | first :: next :: more =>
    let parts := next :: more
    let last := parts.getLastD []
    isRun Char.isDigit isDigitOrLow first && parts.dropLast.all isSixtieth &&
      isSixtieth (last.takeWhile (· ≠ '.')) && last.contains '.' &&
      ((last.dropWhile (· ≠ '.')).drop 1).all isDigitOrLow
  | _ => false

def isDecimalForm (text : List Char) : Bool :=
  let cs := dropSign text
  let whole := cs.takeWhile isDigitOrLow
  match cs.dropWhile isDigitOrLow with
  | '.' :: fraction =>
    if whole.isEmpty then
      ((["inf", "Inf", "INF"].map String.toList).contains fraction) ||
        (cs = text && (fraction.headD ' ').isDigit && isFractionForm fraction) ||
        (cs = text && (["nan", "NaN", "NAN"].map String.toList).contains fraction)
    else isRun Char.isDigit isDigitOrLow whole && isFractionForm fraction
  | _ => isSixtiethsForm cs

/-- The zone of a time: its sign and its hours and minutes, or UTC. -/
structure ZoneText where
  negative : Bool
  hours : Nat
  minutes : Nat

structure TimeText where
  hour : Nat
  minute : Nat
  second : Nat
  fraction : List Char
  zone : Option (Option ZoneText)

/-- The numbers of a date, and of a time of day if one follows. -/
structure StampText where
  year : Nat
  month : Nat
  day : Nat
  /-- The month and the day have two digits each. -/
  full : Bool
  time : Option TimeText

def takeShort? (cs : List Char) : Option (Nat × Bool × List Char) :=
  match Version.takeNumber? 2 0 cs with
  | some (n, rest) => some (n, true, rest)
  | none => (Version.takeNumber? 1 0 cs).map fun r => (r.1, false, r.2)

/-- Takes a zone: a letter for UTC, or a sign with hours and minutes; it is the rest of the text. -/
def takeZone? (cs : List Char) : Option (Option (Option ZoneText)) :=
  match cs.dropWhile fun c => c = ' ' || c = '\t' with
  | [] => if cs.isEmpty then some none else none
  | ['Z'] => some (some none)
  | sign :: rest =>
    if sign = '+' || sign = '-' then do
      let (hours, _, rest) ← takeShort? rest
      match rest with
      | [] => some (some (some ⟨sign = '-', hours, 0⟩))
      | ':' :: rest =>
        let (minutes, rest) ← Version.takeNumber? 2 0 rest
        if rest.isEmpty then some (some (some ⟨sign = '-', hours, minutes⟩)) else none
      | _ => none
    else none

/-- Takes a time of day with its zone; it is the rest of the text. -/
def takeTime? (cs : List Char) : Option TimeText := do
  let (hour, _, cs) ← takeShort? cs
  let (minute, cs) ← Version.takeNumber? 2 0 (← Version.takeMark? ':' cs)
  let (second, cs) ← Version.takeNumber? 2 0 (← Version.takeMark? ':' cs)
  let (fraction, cs) : List Char × List Char :=
    match cs with
    | '.' :: cs => (cs.takeWhile Char.isDigit, cs.dropWhile Char.isDigit)
    | cs => ([], cs)
  let zone ← takeZone? cs
  some ⟨hour, minute, second, fraction, zone⟩

/-- The numbers of a text in the form of a date or of a date and a time. -/
def stamp? (text : List Char) : Option StampText := do
  let (year, cs) ← Version.takeNumber? 4 0 text
  let (month, fullMonth, cs) ← takeShort? (← Version.takeMark? '-' cs)
  let (day, fullDay, cs) ← takeShort? (← Version.takeMark? '-' cs)
  let stamp (time : Option TimeText) : StampText := ⟨year, month, day, fullMonth && fullDay, time⟩
  match cs with
  | [] => some (stamp none)
  | c :: rest =>
    if c = 'T' || c = 't' then (takeTime? rest).map fun time => stamp (some time)
    else if c = ' ' || c = '\t' then
      (takeTime? (rest.dropWhile fun c => c = ' ' || c = '\t')).map fun time => stamp (some time)
    else none

/-- The form of a timestamp: a full date, or any date with a time. -/
def isStampForm (text : List Char) : Bool :=
  match stamp? text with
  | some stamp => stamp.full || stamp.time.isSome
  | none => false

def truthWords : List (String × Bool) :=
  [("yes", true), ("no", false), ("true", true), ("false", false), ("on", true), ("off", false)]

/-- The text is one of the words in small letters, with a capital, or in capitals. -/
def isWord (words : List String) (text : String) : Bool :=
  words.any fun w => text = w || text = w.capitalize || text = w.toUpper

/-- The tag that a scalar has by its text.  A line break at its end does not count. -/
def tagOfText (text : String) : String :=
  let cs := Version.dropFinalBreak text.toList
  let body := String.ofList cs
  if text.isEmpty then standardTag "null"
  else if isWord (truthWords.map Prod.fst) body then standardTag "bool"
  else if isDecimalForm cs then standardTag "float"
  else if isWholeForm cs then standardTag "int"
  else if body = "<<" then standardTag "merge"
  else if body = "~" || isWord ["null"] body then standardTag "null"
  else if isStampForm cs then standardTag "timestamp"
  else if body = "=" then standardTag "value"
  else if body = "!" || body = "&" || body = "*" then standardTag "yaml"
  else standardTag "str"

end ConfigVault.Yaml
