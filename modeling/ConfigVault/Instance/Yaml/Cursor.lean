import ConfigVault.Incident

/-!
# Cursors

A place in a text with what lies behind it.  Columns count characters from the last line break, and a
byte order mark takes up no column.  Beyond the end of a text stands the null character, which no
readable text holds.
-/

namespace ConfigVault.Yaml

/-- Why a text gives no value. -/
inductive ReadFailure where
  /-- The text breaks the rules of the format. -/
  | malformed (defect : Defect)
  /-- The text is in order, but a value in it cannot be built. -/
  | escaped (escape : Escape)
  deriving DecidableEq, Repr

def isBreak (c : Char) : Bool :=
  c = '\n' || c = '\r' || c = '\x85' || c = '\u2028' || c = '\u2029'

def isBreakOrEnd (c : Char) : Bool :=
  c = '\x00' || isBreak c

def isSpaceOrEnd (c : Char) : Bool :=
  c = ' ' || isBreakOrEnd c

/-- A space or tab, or the end of a line or of the text. -/
def isBlankOrEnd (c : Char) : Bool :=
  c = '\t' || isSpaceOrEnd c

/-- The characters of names of anchors, directives and tag handles. -/
def isNameChar (c : Char) : Bool :=
  c.isAlphanum || c = '-' || c = '_'

/-- The characters that texts may hold. -/
def isReadable (c : Char) : Bool :=
  let n := c.toNat
  n = 0x9 || n = 0xA || n = 0xD || (0x20 ≤ n && n ≤ 0x7E) || n = 0x85 ||
    (0xA0 ≤ n && n ≤ 0xD7FF) || (0xE000 ≤ n && n ≤ 0xFFFD) || 0x10000 ≤ n

structure Cursor where
  rest : List Char
  /-- The number of characters before the place. -/
  index : Nat
  line : Nat
  column : Nat

namespace Cursor

def start (text : List Char) : Cursor := ⟨text, 0, 0, 0⟩

def peek (c : Cursor) (n : Nat) : Char := c.rest.getD n '\x00'

def here (c : Cursor) : Char := c.peek 0

/-- The place behind the next character. -/
def next (c : Cursor) : Cursor :=
  match c.rest with
  | [] => c
  | ch :: rest =>
    if isBreak ch && !(ch = '\r' && rest.head? = some '\n') then ⟨rest, c.index + 1, c.line + 1, 0⟩
    else if ch = '\ufeff' then ⟨rest, c.index + 1, c.line, c.column⟩
    else ⟨rest, c.index + 1, c.line, c.column + 1⟩

/-- The place behind the next `n` characters. -/
def skip (c : Cursor) : (n : Nat) → Cursor
  | 0 => c
  | n + 1 => c.next.skip n

def takeWhile (c : Cursor) (p : Char → Bool) : List Char × Cursor :=
  let taken := c.rest.takeWhile p
  (taken, c.skip taken.length)

def dropWhile (c : Cursor) (p : Char → Bool) : Cursor :=
  (c.takeWhile p).2

def skipSpaces (c : Cursor) : Cursor := c.dropWhile (· = ' ')

/-- Passes over spaces and a comment behind them. -/
def skipComment (c : Cursor) : Cursor :=
  let c := c.skipSpaces
  if c.here = '#' then c.dropWhile fun ch => !isBreakOrEnd ch else c

/-- Passes over a line break, and gives what it is in a value: the breaks of ASCII and the next-line
character are one line feed, the separators are themselves.  Elsewhere it gives nothing. -/
def takeBreak (c : Cursor) : List Char × Cursor :=
  let ch := c.here
  if ch = '\r' && c.peek 1 = '\n' then (['\n'], c.skip 2)
  else if ch = '\n' || ch = '\r' || ch = '\x85' then (['\n'], c.next)
  else if ch = '\u2028' || ch = '\u2029' then ([ch], c.next)
  else ([], c)

/-- The mark of three characters stands here, with a blank or an end behind it. -/
def isMark (c : Cursor) (mark : Char) : Bool :=
  c.here = mark && c.peek 1 = mark && c.peek 2 = mark && isBlankOrEnd (c.peek 3)

def isDocumentMark (c : Cursor) : Bool :=
  c.isMark '-' || c.isMark '.'

end Cursor

end ConfigVault.Yaml
