import ConfigVault.Instance.Yaml.Cursor
import ConfigVault.Text.Digit

/-!
# Scalars

Scalars are written plainly, between quotes, or as a block of lines.  Line breaks inside plain and
quoted scalars are folded: one break becomes a space, and further breaks stay.
-/

namespace ConfigVault.Yaml

/-- What a scanner of a piece gives: the piece and the place behind it. -/
abbrev Scanned (α : Type) := Except ReadFailure (α × Cursor)

def foldBreaks (first : List Char) (more : List Char) : List Char :=
  if first ≠ ['\n'] then first ++ more
  else if more.isEmpty then [' ']
  else more

/-! ## Plain scalars -/

/-- The characters at which a plain scalar may stop inside flow collections. -/
def isFlowMark (c : Char) : Bool :=
  c = ',' || c = '[' || c = ']' || c = '\x7b' || c = '\x7d'

/-- The run of a plain scalar up to a blank or a mark. -/
def plainRun (inFlow : Bool) : List Char → List Char
  | [] => []
  | c :: rest =>
    let after := rest.headD '\x00'
    if isBlankOrEnd c then []
    else if c = ':' && (isBlankOrEnd after || (inFlow && isFlowMark after)) then []
    else if inFlow && (isFlowMark c || c = '?') then []
    else c :: plainRun inFlow rest

/-- The breaks behind the first line break in a plain scalar, within `fuel` steps; none if a mark
between documents follows one of them. -/
def plainBreaks : (fuel : Nat) → Cursor → Option (List Char) × Cursor
  | 0, c => (some [], c)
  | fuel + 1, c =>
    let c := c.skipSpaces
    if isBreak c.here then
      let (b, c) := c.takeBreak
      if c.isDocumentMark then (none, c)
      else
        let (more, c) := plainBreaks fuel c
        (more.map (b ++ ·), c)
    else (some [], c)

/-- What the blanks behind a run of a plain scalar stand for if the scalar goes on, and whether there
was a line break; none where it cannot go on. -/
def plainSpaces (c : Cursor) : Option (List Char) × Bool × Cursor :=
  let (spaces, c) := c.takeWhile (· = ' ')
  if isBreak c.here then
    let (b, c) := c.takeBreak
    if c.isDocumentMark then (none, true, c)
    else
      match plainBreaks (c.rest.length + 1) c with
      | (some more, c) => (some (foldBreaks b more), true, c)
      | (none, c) => (none, true, c)
  else (if spaces.isEmpty then none else some spaces, false, c)

structure PlainScalar where
  text : List Char
  /-- A line break was passed at the end. -/
  atLineStart : Bool

/-- Scans a plain scalar in a block of an indentation, within `fuel` runs.  `held` are the blanks
since the last run. -/
def scanPlain (inFlow : Bool) (indent : Int) :
    (fuel : Nat) → (held : List Char) → (atLineStart : Bool) → Cursor → PlainScalar × Cursor
  | 0, _, atLineStart, c => (⟨[], atLineStart⟩, c)
  | fuel + 1, held, atLineStart, c =>
    if c.here = '#' then (⟨[], atLineStart⟩, c)
    else
      let run := plainRun inFlow c.rest
      if run.isEmpty then (⟨[], atLineStart⟩, c)
      else
        let (spaces, broken, after) := plainSpaces (c.skip run.length)
        match spaces with
        | none => (⟨held ++ run, broken⟩, after)
        | some spaces =>
          if after.here = '#' || (!inFlow && (after.column : Int) < indent) then
            (⟨held ++ run, broken⟩, after)
          else
            let (scalar, after) := scanPlain inFlow indent fuel spaces broken after
            (⟨held ++ run ++ scalar.text, scalar.atLineStart⟩, after)

/-! ## Quoted scalars -/

def escapedChar? (c : Char) : Option Char :=
  if c = '0' then some '\x00'
  else if c = 'a' then some '\x07'
  else if c = 'b' then some '\x08'
  else if c = 't' || c = '\t' then some '\t'
  else if c = 'n' then some '\n'
  else if c = 'v' then some '\x0b'
  else if c = 'f' then some '\x0c'
  else if c = 'r' then some '\r'
  else if c = 'e' then some '\x1b'
  else if c = ' ' || c = '\x22' || c = '\x5c' || c = '/' then some c
  else if c = 'N' then some '\x85'
  else if c = '_' then some '\xa0'
  else if c = 'L' then some '\u2028'
  else if c = 'P' then some '\u2029'
  else none

/-- The number of digits behind a letter that escapes a code point. -/
def codeWidth? (c : Char) : Option Nat :=
  if c = 'x' then some 2 else if c = 'u' then some 4 else if c = 'U' then some 8 else none

/-- The number that the next hexadecimal digits stand for. -/
def takeHex? : (width : Nat) → (read : Nat) → List Char → Option Nat
  | 0, read, _ => some read
  | _ + 1, _, [] => none
  | width + 1, read, c :: rest =>
    match Text.hexDigit? c with
    | some d => takeHex? width (read * 16 + d) rest
    | none => none

/-- The second half of a pair of code units, when it is written next. -/
def secondHalf? (c : Cursor) : Option Nat :=
  if c.here = '\x5c' && c.peek 1 = 'u' then
    match takeHex? 4 0 (c.rest.drop 2) with
    | some n => if 0xDC00 ≤ n && n < 0xE000 then some n else none
    | none => none
  else none

/-- The character of a code point; the halves of a pair of code units make one character. -/
def codePoint (n : Nat) (c : Cursor) : Scanned Char :=
  if 0xD800 ≤ n && n < 0xDC00 then
    match secondHalf? c with
    | some low => .ok (Char.ofNat (0x10000 + (n - 0xD800) * 0x400 + (low - 0xDC00)), c.skip 6)
    | none => .ok (Char.ofNat 0xFFFD, c)
  else if 0xD800 ≤ n && n < 0xE000 then .ok (Char.ofNat 0xFFFD, c)
  else if n < 0x110000 then .ok (Char.ofNat n, c)
  else if n < 0x80000000 then .error (.escaped .badValue)
  else .error (.escaped .overflow)

/-- The breaks behind a line break in a quoted scalar, within `fuel` steps. -/
def quotedBreaks : (fuel : Nat) → Cursor → Scanned (List Char)
  | 0, c => .ok ([], c)
  | fuel + 1, c =>
    if c.isDocumentMark then .error (.malformed .piece)
    else
      let c := c.dropWhile fun ch => ch = ' ' || ch = '\t'
      if isBreak c.here then
        let (b, c) := c.takeBreak
        (quotedBreaks fuel c).map fun r => (b ++ r.1, r.2)
      else .ok ([], c)

/-- What the blanks at a place in a quoted scalar stand for. -/
def quotedSpaces (c : Cursor) : Scanned (List Char) :=
  let (spaces, c) := c.takeWhile fun ch => ch = ' ' || ch = '\t'
  if c.here = '\x00' then .error (.malformed .piece)
  else if isBreak c.here then
    let (b, c) := c.takeBreak
    (quotedBreaks (c.rest.length + 1) c).map fun r => (foldBreaks b r.1, r.2)
  else .ok (spaces, c)

/-- The characters that a backslash between double quotes stands for; the place is behind it. -/
def quotedEscape (c : Cursor) : Scanned (List Char) :=
  match escapedChar? c.here with
  | some ch => .ok ([ch], c.next)
  | none =>
    match codeWidth? c.here with
    | some width =>
      match takeHex? width 0 (c.rest.drop 1) with
      | some n => (codePoint n (c.skip (width + 1))).map fun r => ([r.1], r.2)
      | none => .error (.malformed .piece)
    | none =>
      if isBreak c.here then
        let c := c.takeBreak.2
        quotedBreaks (c.rest.length + 1) c
      else .error (.malformed .piece)

/-- Scans a quoted scalar behind its first quote, within `fuel` pieces. -/
def scanQuoted (quote : Char) : (fuel : Nat) → Cursor → Scanned (List Char)
  | 0, _ => .error (.malformed .piece)
  | fuel + 1, c =>
    let ch := c.here
    let double : Bool := quote = '\x22'
    if ch = quote then
      if !double && c.peek 1 = quote then
        (scanQuoted quote fuel (c.skip 2)).map fun r => (quote :: r.1, r.2)
      else .ok ([], c.next)
    else if double && ch = '\x5c' then
      match quotedEscape c.next with
      | .error e => .error e
      | .ok (cs, c) => (scanQuoted quote fuel c).map fun r => (cs ++ r.1, r.2)
    else if isBlankOrEnd ch then
      match quotedSpaces c with
      | .error e => .error e
      | .ok (cs, c) => (scanQuoted quote fuel c).map fun r => (cs ++ r.1, r.2)
    else (scanQuoted quote fuel c.next).map fun r => (ch :: r.1, r.2)

/-! ## Block scalars -/

/-- What becomes of the line breaks at the end of a block scalar. -/
inductive Chomping where
  | strip
  | clip
  | keep
  deriving DecidableEq, Repr

/-- The sign for chomping, if one stands here. -/
def takeChomping (c : Cursor) : Option Chomping × Cursor :=
  if c.here = '+' then (some .keep, c.next)
  else if c.here = '-' then (some .strip, c.next)
  else (none, c)

/-- The digit for the indentation, if one stands here; zero is none. -/
def takeIncrement (c : Cursor) : Scanned (Option Nat) :=
  if '0' ≤ c.here && c.here ≤ '9' then
    if c.here = '0' then .error (.malformed .piece) else .ok (some (c.here.toNat - '0'.toNat), c.next)
  else .ok (none, c)

/-- The sign and the digit behind the mark of a block scalar, in either order. -/
def takeHeader (c : Cursor) : Except ReadFailure ((Chomping × Option Nat) × Cursor) := do
  let (first, c) := takeChomping c
  let (increment, c) ← takeIncrement c
  let (second, c) :=
    if first.isNone && increment.isSome then takeChomping c else (none, c)
  if isSpaceOrEnd c.here then
    let c := c.skipComment
    if isBreakOrEnd c.here then
      return (((first.or second).getD .clip, increment), c.takeBreak.2)
    else throw (.malformed .piece)
  else throw (.malformed .piece)

/-- Passes over spaces up to a column. -/
def skipIndent (indent : Nat) : (fuel : Nat) → Cursor → Cursor
  | 0, c => c
  | fuel + 1, c => if c.column < indent && c.here = ' ' then skipIndent indent fuel c.next else c

/-- The breaks of empty lines at the head of a block scalar, with the greatest indentation among
them and the first line with text, within `fuel` steps. -/
def headBreaks : (fuel : Nat) → (widest : Nat) → Cursor → List Char × Nat × Cursor
  | 0, widest, c => ([], widest, c)
  | fuel + 1, widest, c =>
    if c.here = ' ' then
      let c := c.next
      headBreaks fuel (max widest c.column) c
    else if isBreak c.here then
      let (b, c) := c.takeBreak
      let (more, widest, c) := headBreaks fuel widest c
      (b ++ more, widest, c)
    else ([], widest, c)

/-- The breaks of lines that are empty within an indentation, within `fuel` steps. -/
def blockBreaks (indent : Nat) : (fuel : Nat) → Cursor → List Char × Cursor
  | 0, c => ([], c)
  | fuel + 1, c =>
    let c := skipIndent indent (indent + 1) c
    if isBreak c.here then
      let (b, c) := c.takeBreak
      let (more, c) := blockBreaks indent fuel c
      (b ++ more, c)
    else ([], c)

/-- The lines of a block scalar from the start of one, within `fuel` lines: the text up to the last
line, the break that ends it and the breaks behind that. -/
def blockLines (folded : Bool) (indent : Nat) :
    (fuel : Nat) → Cursor → List Char × List Char × List Char × Cursor
  | 0, c => ([], [], [], c)
  | fuel + 1, c =>
    let startsDense : Bool := c.here ≠ ' ' && c.here ≠ '\t'
    let (line, c) := c.takeWhile fun ch => !isBreakOrEnd ch
    let (b, c) := c.takeBreak
    let (breaks, c) := blockBreaks indent (c.rest.length + 1) c
    if c.column = indent && c.here ≠ '\x00' then
      let fold : Bool := folded && b = ['\n'] && startsDense && c.here ≠ ' ' && c.here ≠ '\t'
      let joint := if fold then (if breaks.isEmpty then [' '] else []) else b
      let (more, last, trailing, c) := blockLines folded indent fuel c
      (line ++ joint ++ breaks ++ more, last, trailing, c)
    else (line, b, breaks, c)

/-- Scans a block scalar behind its mark, in a block of an indentation. -/
def scanBlock (folded : Bool) (outer : Int) (c : Cursor) :
    Except ReadFailure (List Char × Cursor) := do
  let ((chomping, increment), c) ← takeHeader c
  let least := max 1 (outer + 1).toNat
  let (breaks, indent, c) : List Char × Nat × Cursor :=
    match increment with
    | none =>
      let (breaks, widest, c) := headBreaks (c.rest.length + 1) 0 c
      (breaks, max least widest, c)
    | some n =>
      let indent := least + n - 1
      let (breaks, c) := blockBreaks indent (c.rest.length + 1) c
      (breaks, indent, c)
  let (text, last, trailing, c) : List Char × List Char × List Char × Cursor :=
    if c.column = indent && c.here ≠ '\x00' then
      let (text, last, trailing, c) := blockLines folded indent (c.rest.length + 1) c
      (breaks ++ text, last, trailing, c)
    else ([], [], breaks, c)
  match chomping with
  | .strip => return (text, c)
  | .clip => return (text ++ last, c)
  | .keep => return (text ++ last ++ trailing, c)

end ConfigVault.Yaml
