import ConfigVault.Decimal.Whole
import ConfigVault.Instance.Yaml.Property
import ConfigVault.Instance.Yaml.ScalarTag
import ConfigVault.Text.Base64
import ConfigVault.Text.Utf8

/-!
# Values of scalars

What the text of a scalar stands for under each of the tags that the format defines.  A text that
does not have the form of its tag is not always malformed: the reader of the value decides.
-/

namespace ConfigVault.Yaml

open Calendar

def dropLows (text : String) : List Char :=
  text.toList.filter (· ≠ '_')

/-- The sign in front of a number, and the text behind it; there has to be something. -/
def splitSign (cs : List Char) : Except ReadFailure (Bool × List Char) :=
  match cs with
  | [] => .error (.escaped .badPosition)
  | '-' :: rest => .ok (true, rest)
  | '+' :: rest => .ok (false, rest)
  | rest => .ok (false, rest)

def orBadValue {α : Type} (r : Option α) : Except ReadFailure α :=
  match r with
  | some a => .ok a
  | none => .error (.escaped .badValue)

/-- The number that sixtieths stand for, from the most significant one on. -/
def sixtieths (parts : List Int) : Int :=
  parts.foldl (fun n d => n * 60 + d) 0

/-- A whole number: in base two, sixteen or eight after its mark, in sixtieths, or in base ten. -/
def wholeValue (text : String) : Except ReadFailure Value := do
  let (negative, cs) ← splitSign (dropLows text)
  let n ←
    match cs with
    | [] => throw (.escaped .badPosition)
    | ['0'] => pure 0
    | '0' :: 'b' :: rest => orBadValue (Decimal.whole? 2 rest)
    | '0' :: 'x' :: rest => orBadValue (Decimal.whole? 16 rest)
    | '0' :: _ => orBadValue (Decimal.whole? 8 cs)
    | _ =>
      if cs.contains ':' then
        orBadValue (((pieces ':' cs).mapM (Decimal.whole? 10)).map sixtieths)
      else orBadValue (Decimal.whole? 10 cs)
  return .int (if negative then -n else n)

/-- The sum of sixtieths from the least significant one on; `power` is the weight of the next. -/
def sumSixtieths (total : Float) (power : Int) : List Float → Except ReadFailure Float
  | [] => .ok total
  | x :: rest =>
    match Decimal.ofInt? power with
    | some weight => sumSixtieths (total + x * weight) (power * 60) rest
    | none => .error (.escaped .overflow)

def isUndefinedWord (text : String) : Bool :=
  match splitSign ((dropLows text).map Char.toLower) with
  | .ok (_, cs) => cs = ".nan".toList
  | .error _ => false

/-- A decimal, the words for the infinite and the undefined, or sixtieths. -/
def decimalValue (text : String) : Except ReadFailure Value := do
  let (negative, cs) ← splitSign ((dropLows text).map Char.toLower)
  let float? (cs : List Char) : Option Float :=
    Decimal.float? Text.decimalDigit? (Text.trim Text.isBlank cs)
  let x ←
    if cs = ".inf".toList then pure (1.0 / 0.0)
    else if cs = ".nan".toList then return .float (0.0 / 0.0)
    else if cs.contains ':' then
      let parts ← orBadValue ((pieces ':' cs).mapM float?)
      sumSixtieths 0.0 1 parts.reverse
    else orBadValue (float? cs)
  return .float (Decimal.signed negative x)

def truthValue (text : String) : Except ReadFailure Value :=
  match truthWords.find? (·.1 = text.toLower) with
  | some word => .ok (.bool word.2)
  | none => .error (.escaped .missingKey)

def bytesValue (text : String) : Except ReadFailure Value :=
  if text.toList.all fun c => c.toNat < 128 then
    match Text.decodeBase64? text.toList with
    | some bytes => .ok (.bytes bytes)
    | none => .error (.malformed .value)
  else .error (.malformed .value)

def microseconds (fraction : List Char) : Nat :=
  let digits := fraction.take 6
  numberOf (digits ++ List.replicate (6 - digits.length) '0')

/-- The offset of a zone in microseconds, which is smaller than a day. -/
def ZoneText.offset? (z : ZoneText) : Option Int :=
  let minutes := z.hours * 60 + z.minutes
  if minutes < 1440 then some ((if z.negative then -(minutes : Int) else minutes) * 60000000)
  else none

def stampValue (text : String) : Except ReadFailure Value := do
  match stamp? (Version.dropFinalBreak text.toList) with
  | none => throw (.escaped .missingPart)
  | some stamp =>
    match stamp.time with
    | none =>
      let date ← orBadValue (Date.ofNumbers? stamp.year stamp.month stamp.day)
      return .date date
    | some time =>
      let offset ←
        match time.zone with
        | none => pure none
        | some none => pure (some 0)
        | some (some zone) => (orBadValue zone.offset?).map some
      let reading ← orBadValue
        (Reading.ofNumbers? stamp.year stamp.month stamp.day time.hour time.minute time.second
          (microseconds time.fraction))
      return .moment ⟨reading, offset⟩

def scalarValue? (tag : String) : Option (String → Except ReadFailure Value) :=
  if tag = standardTag "str" then some fun text => .ok (.text text)
  else if tag = standardTag "null" then some fun _ => .ok .null
  else if tag = standardTag "bool" then some truthValue
  else if tag = standardTag "int" then some wholeValue
  else if tag = standardTag "float" then some decimalValue
  else if tag = standardTag "binary" then some bytesValue
  else if tag = standardTag "timestamp" then some stampValue
  else none

end ConfigVault.Yaml
