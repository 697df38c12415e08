import ConfigVault.Instance.Yaml.Scalar
import ConfigVault.Instance.Yaml.Token
import ConfigVault.Text.Utf8

/-!
# Directives, anchors and tags

The pieces that say something about a document or a node.
-/

namespace ConfigVault.Yaml

def maxNumberDigits : Nat := 4300

def numberOf (digits : List Char) : Nat :=
  digits.foldl (fun n d => n * 10 + (d.toNat - '0'.toNat)) 0

def scanVersionNumber (c : Cursor) : Scanned Nat :=
  let (digits, c) := c.takeWhile Char.isDigit
  if digits.isEmpty then .error (.malformed .piece)
  else if maxNumberDigits < digits.length then .error (.escaped .badValue)
  else .ok (numberOf digits, c)

/-- Scans the name of an anchor or alias behind its mark. -/
def scanName (c : Cursor) : Scanned String :=
  let (name, c) := c.takeWhile isNameChar
  let stops := isBlankOrEnd c.here || ['?', ':', ',', ']', '\x7d', '%', '@', '\x60'].contains c.here
  if name.isEmpty || !stops then .error (.malformed .piece) else .ok (String.ofList name, c)

/-- Scans a tag handle: a mark alone, or a name between two marks. -/
def scanHandle (c : Cursor) : Scanned String :=
  if c.here ≠ '!' then .error (.malformed .piece)
  else if c.peek 1 = ' ' then .ok ("!", c.next)
  else
    let (name, after) := c.next.takeWhile isNameChar
    if after.here = '!' then .ok (String.ofList ('!' :: name ++ ['!']), after.next)
    else .error (.malformed .piece)

/-- The bytes that escapes at the front of a text stand for, within `fuel` escapes. -/
def takeEscapes : (fuel : Nat) → Cursor → Scanned (List UInt8)
  | 0, c => .ok ([], c)
  | fuel + 1, c =>
    if c.here = '%' then
      match takeHex? 2 0 (c.rest.drop 1) with
      | some n => (takeEscapes fuel (c.skip 3)).map fun r => (UInt8.ofNat n :: r.1, r.2)
      | none => .error (.malformed .piece)
    else .ok ([], c)

/-- The characters of tags that are no letters, digits or escapes. -/
def tagMarks : List Char := "-;/?:@&=+$,_.!~*()[]".toList ++ ['\x27']

def takeTagText : (fuel : Nat) → Cursor → Scanned (List Char)
  | 0, c => .ok ([], c)
  | fuel + 1, c =>
    let ch := c.here
    if ch = '%' then
      match takeEscapes (c.rest.length + 1) c with
      | .error e => .error e
      | .ok (bytes, c) =>
        match Text.decodeUtf8? bytes with
        | some s => (takeTagText fuel c).map fun r => (s.toList ++ r.1, r.2)
        | none => .error (.malformed .piece)
    else if ch.isAlphanum || tagMarks.contains ch then
      (takeTagText fuel c.next).map fun r => (ch :: r.1, r.2)
    else .ok ([], c)

def scanTagText (c : Cursor) : Scanned String :=
  match takeTagText (c.rest.length + 1) c with
  | .error e => .error e
  | .ok (text, after) =>
    if after.index = c.index then .error (.malformed .piece) else .ok (String.ofList text, after)

/-- Scans a tag: whole between angle brackets, the mark alone, or a handle and a text. -/
def scanTag (c : Cursor) : Except ReadFailure (TagText × Cursor) := do
  let (tag, c) ←
    if c.peek 1 = '<' then
      let (text, c) ← scanTagText (c.skip 2)
      if c.here = '>' then pure (⟨none, text⟩, c.next) else throw (.malformed .piece)
    else if isBlankOrEnd (c.peek 1) then pure (⟨none, "!"⟩, c.next)
    else
      let word := c.next.rest.takeWhile fun ch => !isSpaceOrEnd ch
      let (handle, c) ← if word.contains '!' then scanHandle c else pure ("!", c.next)
      let (text, c) ← scanTagText c
      pure (⟨some handle, text⟩, c)
  if isSpaceOrEnd c.here then return (tag, c) else throw (.malformed .piece)

def scanDirectiveBody (name : String) (c : Cursor) :
    Except ReadFailure (Directive × Cursor) := do
  if name = "YAML" then
    let (major, c) ← scanVersionNumber c.skipSpaces
    if c.here ≠ '.' then throw (.malformed .piece)
    let (minor, c) ← scanVersionNumber c.next
    if !isSpaceOrEnd c.here then throw (.malformed .piece)
    return (.version major minor, c)
  else if name = "TAG" then
    let (handle, c) ← scanHandle c.skipSpaces
    if c.here ≠ ' ' then throw (.malformed .piece)
    let (start, c) ← scanTagText c.skipSpaces
    if !isSpaceOrEnd c.here then throw (.malformed .piece)
    return (.handle handle start, c)
  else return (.unknown, c.dropWhile fun ch => !isBreakOrEnd ch)

/-- Scans a directive behind its mark, with the end of its line. -/
def scanDirective (c : Cursor) : Except ReadFailure (Directive × Cursor) := do
  let (name, c) := c.takeWhile isNameChar
  if name.isEmpty || !isSpaceOrEnd c.here then throw (.malformed .piece)
  let (directive, c) ← scanDirectiveBody (String.ofList name) c
  let c := c.skipComment
  if isBreakOrEnd c.here then return (directive, c.takeBreak.2) else throw (.malformed .piece)

end ConfigVault.Yaml
