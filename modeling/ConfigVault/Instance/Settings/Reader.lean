import ConfigVault.Decimal.Whole
import ConfigVault.Settings.Library
import ConfigVault.Text.Digit
import ConfigVault.Text.Utf8

/-!
# Reading fields

Settings come from files, from programs and from the environment, where everything is a text.  Fields
are therefore read leniently: a text that spells a number is one, and so is a truth value or a double
without a fraction where a whole number is asked for.
-/

namespace ConfigVault

namespace FieldReader

open Text

def textOf? : Value → Option (Option String)
  | .text s => some (some s)
  | .bytes data => some (decodeUtf8? data)
  | _ => none

def text : FieldReader String := fun v =>
  match textOf? v with
  | some (some s) => .valid s
  | some none => .complain .notUnicode
  | none => .complain .notText

def filledText : FieldReader String := fun v =>
  (text v).andThen fun s => if s.isEmpty then .complain .tooShort else .valid s

/-- The digits of a text without a point and the zeros behind it; a point alone stays. -/
def dropZeroFraction (cs : List Char) : List Char :=
  let fraction := (cs.reverse.takeWhile (· = '0')).length
  match cs.reverse.drop fraction with
  | '.' :: whole => if fraction = 0 then cs else whole.reverse
  | _ => cs

/-- Passes over zeros and underscores up to a digit or a minus, or to the last of them in front of a
point or of the end of the text. -/
def skipZeros? (last : Char) : List Char → Option (List Char)
  | [] => some [last]
  | c :: rest =>
    if c = '0' || c = '_' then skipZeros? c rest
    else if c.isDigit || c = '-' then some (c :: rest)
    else if c = '.' then some (last :: c :: rest)
    else none

/-- A text without needless zeros at its front; it has to begin with a digit or a minus. -/
def dropLeadingZeros? : List Char → Option (List Char)
  | [] => none
  | c :: rest =>
    if c = '0' then skipZeros? c rest
    else if c.isDigit || c = '-' then some (c :: rest)
    else none

/-- The number of digits at the front of a text, with a minus before them counted in. -/
def signedLength (cs : List Char) : Nat :=
  if cs.head? = some '-' then 1 + ((cs.drop 1).takeWhile Char.isDigit).length
  else (cs.takeWhile Char.isDigit).length

/-- A whole number in digits of ASCII with an optional minus. -/
def plainWhole? (cs : List Char) : Option Int :=
  let negative : Bool := cs.head? = some '-'
  let digits := if negative then cs.drop 1 else cs
  match Decimal.takeDigits Decimal.asciiDigit? digits with
  | ([], _) => none
  | (_, _ :: _) => none
  | (digits, []) =>
    if Decimal.maxDigits < signedLength cs then none
    else
      let n : Int := Decimal.digitsValue digits
      some (if negative then -n else n)

/-- A text that begins with too many digits for a number; needless zeros do not count as digits. -/
def beginsTooLong (cs : List Char) : Bool :=
  let first := if cs.head? = some '-' then (cs.drop 1).head? else cs.head?
  first ≠ some '0' && Decimal.maxDigits < signedLength cs

/-- The whole number that a text spells: blanks around it, a plus in front of a digit, zeros at its
front, underscores between digits and a fraction of zeros do not matter. -/
def wholeOf? (cs : List Char) : Option Int := do
  let cs := trim isBlank cs
  let bare := if cs.head? = some '+' then cs.drop 1 else cs
  if cs.head? = some '+' && bare.head? = some '-' then none
  let digits ← dropLeadingZeros? bare
  let plain ← Decimal.dropUnderscores? (dropZeroFraction digits)
  plainWhole? plain

/-- The least power of two that a double has to stay below to be taken as a whole number. -/
def wholeBound : Float := 9223372036854775808.0

def whole : FieldReader Int := fun v =>
  match v with
  | .bool b => .valid (if b then 1 else 0)
  | .int i => .valid i
  | .float x =>
    if x.isNaN || x.isInf then .complain .notFinite
    else
      match Decimal.toInt? x with
      | none => .complain .fractional
      | some i =>
        if -wholeBound < x && x < wholeBound then .valid i else .complain .wholeTooLong
  | v =>
    match textOf? v with
    | none => .complain .notWhole
    | some none => .complain .wholeUnreadable
    | some (some s) =>
      if beginsTooLong s.toList then .complain .wholeTooLong
      else
        match wholeOf? s.toList with
        | some i => .valid i
        | none => .complain .wholeUnreadable

def wholeFrom (bound : Nat) : FieldReader Int := fun v =>
  (whole v).andThen fun i => if i < bound then .complain (.less bound) else .valid i

def numberOf? (cs : List Char) : Option Float :=
  (Decimal.float? Decimal.asciiDigit? (trim isBlank cs)).or
    ((Decimal.dropUnderscores? cs).bind (Decimal.float? Decimal.asciiDigit?))

def number : FieldReader Float := fun v =>
  match v with
  | .bool b => .valid (if b then 1.0 else 0.0)
  | .int i =>
    match Decimal.ofInt? i with
    | some x => .valid x
    | none => .complain .notNumber
  | .float x => .valid x
  | v =>
    match textOf? v with
    | none => .complain .notNumber
    | some none => .complain .numberUnreadable
    | some (some s) =>
      match numberOf? s.toList with
      | some x => .valid x
      | none => .complain .numberUnreadable

def numberAbove (bound : Nat) : FieldReader Float := fun v =>
  (number v).andThen fun x =>
    if Float.ofNat bound < x then .valid x else .complain (.notGreater bound)

def numberFrom (bound : Nat) : FieldReader Float := fun v =>
  (number v).andThen fun x =>
    if Float.ofNat bound ≤ x then .valid x else .complain (.less bound)

def truthWords : List (String × Bool) :=
  [("0", false), ("off", false), ("f", false), ("false", false), ("n", false), ("no", false),
    ("1", true), ("on", true), ("t", true), ("true", true), ("y", true), ("yes", true)]

def truthOfWhole (i : Int) : Checked Bool :=
  if i = 0 then .valid false
  else if i = 1 then .valid true
  else .complain .truthUnreadable

def truth : FieldReader Bool := fun v =>
  match v with
  | .bool b => .valid b
  | .int i =>
    if -(Nat.pow 2 63 : Int) ≤ i && i < (Nat.pow 2 63 : Int) then truthOfWhole i
    else .complain .notTruth
  | .float x =>
    match Decimal.toInt? x with
    | some i => if i.natAbs < Nat.pow 2 63 then truthOfWhole i else .complain .notTruth
    | none => .complain .notTruth
  | v =>
    match textOf? v with
    | none => .complain .notTruth
    | some none => .complain .truthUnreadable
    | some (some s) =>
      match truthWords.find? (·.1 = s.toLower) with
      | some word => .valid word.2
      | none => .complain .truthUnreadable

def chosen {α : Type} (label : String) (choices : List (String × α)) (word : Option String) :
    Checked α :=
  match word.bind fun s => choices.find? (·.1 = s) with
  | some c => .valid c.2
  | none => .complain (.notChoice label (choices.map Prod.fst))

def literal {α : Type} (choices : List (String × α)) : FieldReader α := fun v =>
  chosen "literal_error" choices v.text?

/-- One of a choice of words, given as a text or as bytes. -/
def enumeration {α : Type} (choices : List (String × α)) : FieldReader α := fun v =>
  chosen "enum" choices ((textOf? v).bind id)

def optional {α : Type} (read : FieldReader α) : FieldReader (Option α) := fun v =>
  match v with
  | .null => .valid none
  | v => (read v).map some

def record {α : Type} (name : String) (read : Fields → Checked α) :
    FieldReader α := fun v =>
  match v.entries? with
  | some entries => read entries
  | none => .complain (.notRecord name)

/-- The items of a list, or the elements of a set. -/
def list {α : Type} (read : FieldReader α) : FieldReader (List α) := fun v =>
  match v with
  | .list items => Checked.items read 0 items
  | .set items => Checked.items read 0 items
  | _ => .complain .notList

/-- Complains about fields that are not among the known ones. -/
def checkKnown (names : List String) (fields : Fields) : Checked Unit :=
  let issues := fields.filterMap fun e =>
    match e.1 with
    | .text name => if names.contains name then none else some ⟨[.field name], .unexpected⟩
    | _ => none
  if issues.isEmpty then .valid () else .invalid issues

def types : FieldTypes where
  text := text
  filledText := filledText
  wholeFrom := wholeFrom
  numberAbove := numberAbove
  numberFrom := numberFrom
  truth := truth
  literal := literal
  enumeration := enumeration
  optional := optional
  list := list
  record := record
  checkKnown := checkKnown

end FieldReader

end ConfigVault
