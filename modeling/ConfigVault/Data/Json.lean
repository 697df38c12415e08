import ConfigVault.Data.Value
import ConfigVault.Decimal.Whole
import ConfigVault.Text.Digit
import ConfigVault.Text.Quoted

/-!
# JSON

Values as JSON texts.  The reader keeps what other readers throw away: a number with a point or an
exponent is a double and any other number is exact, and the entries of an object stay in their
order.  The writer puts the keys of an object in order and writes ASCII alone.
-/

namespace ConfigVault.Json

open Text

/-- The blanks between the tokens of a JSON text. -/
def isBlank (c : Char) : Bool :=
  c = ' ' || c = '\t' || c = '\n' || c = '\r'

/-- Passes over blanks. -/
def skip (cs : List Char) : List Char :=
  cs.dropWhile isBlank

/-- The code unit that four hexadecimal digits stand for. -/
def codeUnit? : List Char → Option (Nat × List Char)
  | a :: b :: c :: d :: rest => do
    let a ← hexDigit? a
    let b ← hexDigit? b
    let c ← hexDigit? c
    let d ← hexDigit? d
    some (((a * 16 + b) * 16 + c) * 16 + d, rest)
  | _ => none

/-- What stands for half a pair of code units without the other half: a code point that is no
character, so that texts with it are not taken for printable ones. -/
def lonelyHalf : Char := Char.ofNat 0xFFFF

/-- The character of a code unit, or of two of them where the first half of a pair is followed by
the second. -/
def joinUnits (unit : Nat) (rest : List Char) : Char × List Char :=
  if 0xD800 ≤ unit && unit < 0xDC00 then
    match rest with
    | '\x5c' :: 'u' :: after =>
      match codeUnit? after with
      | some (low, after) =>
        if 0xDC00 ≤ low && low < 0xE000 then
          (Char.ofNat (0x10000 + (unit - 0xD800) * 0x400 + (low - 0xDC00)), after)
        else (lonelyHalf, rest)
      | none => (lonelyHalf, rest)
    | _ => (lonelyHalf, rest)
  else if 0xDC00 ≤ unit && unit < 0xE000 then (lonelyHalf, rest)
  else (Char.ofNat unit, rest)

/-- The character that an escape of one letter stands for. -/
def escape? (c : Char) : Option Char :=
  if c = '\x22' || c = '\x5c' || c = '/' then some c
  else if c = 'b' then some '\x08'
  else if c = 'f' then some '\x0c'
  else if c = 'n' then some '\n'
  else if c = 'r' then some '\r'
  else if c = 't' then some '\t'
  else none

/-- Reads the characters of a string up to its closing quote, within `fuel` steps. -/
def readString? : (fuel : Nat) → (read : List Char) → List Char → Option (List Char × List Char)
  | 0, _, _ => none
  | _ + 1, _, [] => none
  | fuel + 1, read, c :: rest =>
    if c = '\x22' then some (read.reverse, rest)
    else if c = '\x5c' then
      match rest with
      | 'u' :: rest =>
        match codeUnit? rest with
        | some (unit, rest) =>
          let joined := joinUnits unit rest
          readString? fuel (joined.1 :: read) joined.2
        | none => none
      | e :: rest =>
        match escape? e with
        | some c => readString? fuel (c :: read) rest
        | none => none
      | [] => none
    else if c.toNat < 0x20 then none
    else readString? fuel (c :: read) rest

/-- Reads a number: an exact one when it has neither a point nor an exponent. -/
def readNumber? (cs : List Char) : Option (Value × List Char) :=
  let negative := cs.head? = some '-'
  let cs := if negative then cs.drop 1 else cs
  let (whole, rest) := Decimal.takeDigits Decimal.asciiDigit? cs
  match whole with
  | [] => none
  | first :: more =>
    if first = 0 && !more.isEmpty then some (.int 0, cs.drop 1)
    else
      let (part, rest) : List Nat × List Char :=
        match rest with
        | '.' :: after =>
          match Decimal.takeDigits Decimal.asciiDigit? after with
          | ([], _) => ([], rest)
          | (ds, after) => (ds, after)
        | _ => ([], rest)
      let exponent? : Option (Int × List Char) :=
        match rest with
        | e :: after =>
          if e = 'e' || e = 'E' then
            let (minus, after) := Decimal.takeSign after
            match Decimal.takeDigits Decimal.asciiDigit? after with
            | ([], _) => none
            | (ds, after) =>
              let n : Int := Decimal.digitsValue ds
              some (if minus then -n else n, after)
          else none
        | [] => none
      match part, exponent? with
      | [], none =>
        if Decimal.maxDigits < whole.length then none
        else
          let n : Int := Decimal.digitsValue whole
          some (.int (if negative then -n else n), rest)
      | _, _ =>
        let (e, rest) := exponent?.getD (0, rest)
        let x := Decimal.toFloat (Decimal.digitsValue (whole ++ part)) (e - part.length)
        some (.float (Decimal.signed negative x), rest)

def word? (word : String) (cs : List Char) : Option (List Char) :=
  let w := word.toList
  if w.isPrefixOf cs then some (cs.drop w.length) else none

/-- Why a text cannot be read. -/
inductive Fault where
  /-- The text is no JSON. -/
  | malformed
  /-- Arrays and objects are nested too deeply. -/
  | tooDeep
  deriving DecidableEq, Repr

def required {α : Type} : Option α → Except Fault α
  | some a => .ok a
  | none => .error .malformed

mutual

/-- Reads a value, within `fuel` steps, where arrays and objects may be nested `depth` times. -/
def readValue : (fuel depth : Nat) → List Char → Except Fault (Value × List Char)
  | 0, _, _ => .error .malformed
  | _ + 1, _, [] => .error .malformed
  | fuel + 1, depth, c :: rest =>
    if c = '\x22' then do
      let (s, rest) ← required (readString? (rest.length + 1) [] rest)
      return (.text (String.ofList s), rest)
    else if c = '[' || c = '\x7b' then
      match depth with
      | 0 => .error .tooDeep
      | depth + 1 =>
        if c = '[' then
          match skip rest with
          | ']' :: rest => .ok (.list [], rest)
          | rest => readItems fuel depth [] rest
        else
          match skip rest with
          | '\x7d' :: rest => .ok (.map [], rest)
          | rest => readEntries fuel depth [] rest
    else if let some rest := word? "null" (c :: rest) then .ok (.null, rest)
    else if let some rest := word? "true" (c :: rest) then .ok (.bool true, rest)
    else if let some rest := word? "false" (c :: rest) then .ok (.bool false, rest)
    else if let some rest := word? "NaN" (c :: rest) then .ok (.float (0.0 / 0.0), rest)
    else if let some rest := word? "Infinity" (c :: rest) then .ok (.float (1.0 / 0.0), rest)
    else if let some rest := word? "-Infinity" (c :: rest) then .ok (.float (-1.0 / 0.0), rest)
    else required (readNumber? (c :: rest))

/-- Reads the items of an array from the start of one of them. -/
def readItems : (fuel depth : Nat) → (read : List Value) → List Char →
    Except Fault (Value × List Char)
  | 0, _, _, _ => .error .malformed
  | fuel + 1, depth, read, cs => do
    let (v, rest) ← readValue fuel depth cs
    match skip rest with
    | ',' :: rest => readItems fuel depth (v :: read) (skip rest)
    | ']' :: rest => return (.list (v :: read).reverse, rest)
    | _ => throw .malformed

/-- Reads the entries of an object from the start of a key. -/
def readEntries : (fuel depth : Nat) → (read : List (Value × Value)) → List Char →
    Except Fault (Value × List Char)
  | 0, _, _, _ => .error .malformed
  | fuel + 1, depth, read, cs =>
    match cs with
    | '\x22' :: rest => do
      let (key, rest) ← required (readString? (rest.length + 1) [] rest)
      match skip rest with
      | ':' :: rest =>
        let (v, rest) ← readValue fuel depth (skip rest)
        let read := Value.setEntry (.text (String.ofList key)) v read
        match skip rest with
        | ',' :: rest => readEntries fuel depth read (skip rest)
        | '\x7d' :: rest => return (.map read, rest)
        | _ => throw .malformed
      | _ => throw .malformed
    | _ => .error .malformed

end

/-- The value of a JSON text in which arrays and objects may be nested `depth` times. -/
def read (depth : Nat) (s : String) : Except Fault Value := do
  let cs := s.toList
  let (v, rest) ← readValue (2 * cs.length + 2) depth (skip cs)
  if (skip rest).isEmpty then return v else throw .malformed

/-- One character of a string as JSON text. -/
def writeChar (c : Char) : List Char :=
  let n := c.toNat
  if c = '\x22' || c = '\x5c' then ['\x5c', c]
  else if c = '\n' then ['\x5c', 'n']
  else if c = '\r' then ['\x5c', 'r']
  else if c = '\t' then ['\x5c', 't']
  else if n = 8 then ['\x5c', 'b']
  else if n = 12 then ['\x5c', 'f']
  else if 0x20 ≤ n && n < 0x7F then [c]
  else if n < 0x10000 then '\x5c' :: 'u' :: hexDigits 4 n
  else
    let m := n - 0x10000
    '\x5c' :: 'u' :: hexDigits 4 (0xD800 + m / 0x400) ++
      '\x5c' :: 'u' :: hexDigits 4 (0xDC00 + m % 0x400)

def writeText (s : String) : String :=
  String.ofList ('\x22' :: s.toList.flatMap writeChar ++ ['\x22'])

mutual

/-- A value as JSON text.  The texts of what JSON has no form for are quoted. -/
def write : Value → String
  | .null => "null"
  | .bool b => if b then "true" else "false"
  | .int i => toString i
  | .float x => writeText (toString x)
  | .text s => writeText s
  | .bytes data => writeText (String.ofList (data.map fun b => Char.ofNat b.toNat))
  | .date d => writeText d.isoText
  | .moment m => writeText m.isoText
  | .list items => "[" ++ String.intercalate ", " (writeItems items) ++ "]"
  | .set items => "[" ++ String.intercalate ", " (writeItems items) ++ "]"
  | .map entries =>
    let fields := (writeEntries entries).mergeSort fun a b => decide (a.1 ≤ b.1)
    "\x7b" ++ String.intercalate ", " (fields.map fun f => writeText f.1 ++ ": " ++ f.2) ++ "\x7d"

/-- The JSON texts of items. -/
def writeItems : List Value → List String
  | [] => []
  | v :: rest => write v :: writeItems rest

/-- The keys of entries with the JSON texts of their values; keys that are no texts are left out. -/
def writeEntries : List (Value × Value) → List (String × String)
  | [] => []
  | (.text k, v) :: rest => (k, write v) :: writeEntries rest
  | _ :: rest => writeEntries rest

end

mutual

/-- The same value with the entries of every mapping in the order of their text keys. -/
def inKeyOrder : Value → Value
  | .list items => .list (itemsInKeyOrder items)
  | .map entries =>
    .map ((entriesInKeyOrder entries).mergeSort fun a b =>
      match a.1, b.1 with
      | .text k, .text l => decide (k ≤ l)
      | _, _ => true)
  | v => v

def itemsInKeyOrder : List Value → List Value
  | [] => []
  | v :: rest => inKeyOrder v :: itemsInKeyOrder rest

def entriesInKeyOrder : List (Value × Value) → List (Value × Value)
  | [] => []
  | (k, v) :: rest => (k, inKeyOrder v) :: entriesInKeyOrder rest

end

end ConfigVault.Json
