import ConfigVault.Instance.Yaml.Property

/-!
# Token streams

The tokens of a text in their order, as far as it can be read.  Going through a text piece by piece
keeps the indentations of the open block collections, from which the tokens that open and close them
follow.  The key of a mapping need not be marked: what may turn out to be one is remembered, and when
its colon comes the tokens of a key are put in front of it.  A key of this kind lies on one line and
has at most 1024 characters.  Until it is settled whether something is a key, the tokens from there
on wait; when a piece cannot be read, those that wait are lost with it.
-/

namespace ConfigVault.Yaml

/-- The tokens of a text, up to its end or to the first piece that is none. -/
structure TokenStream where
  tokens : List Token
  failure : Option ReadFailure

/-- A place where a key without a mark may have started. -/
structure PossibleKey where
  depth : Nat
  position : Nat
  /-- It has to be a key, because it stands at the indentation of a block. -/
  required : Bool
  place : Cursor

structure ScanState where
  cursor : Cursor
  tokens : Array Token
  /-- The number of open flow collections. -/
  depth : Nat
  indent : Int
  /-- The indentations of the enclosing blocks. -/
  outer : List Int
  /-- A key without a mark may start here. -/
  keyAllowed : Bool
  keys : List PossibleKey

namespace ScanState

def start (text : List Char) : ScanState where
  cursor := Cursor.start text
  tokens := #[]
  depth := 0
  indent := -1
  outer := []
  keyAllowed := true
  keys := []

def push (s : ScanState) (t : Token) : ScanState := { s with tokens := s.tokens.push t }

def skip (s : ScanState) (n : Nat) : ScanState := { s with cursor := s.cursor.skip n }

/-- Says whether a key without a mark may start next. -/
def allowKey (s : ScanState) (allowed : Bool) : ScanState := { s with keyAllowed := allowed }

def maxKeyLength : Nat := 1024

/-- A possible key can no longer be one, since it is on another line or too long. -/
def isStale (c : Cursor) (k : PossibleKey) : Bool :=
  k.place.line ≠ c.line || maxKeyLength < c.index - k.place.index

/-- Forgets the possible keys that can no longer be keys; one that has to be a key is an error. -/
def dropStale (s : ScanState) : Except ReadFailure ScanState :=
  if s.keys.any fun k => isStale s.cursor k && k.required then .error (.malformed .piece)
  else .ok { s with keys := s.keys.filter fun k => !isStale s.cursor k }

/-- Forgets the possible key at the present depth; one that has to be a key is an error. -/
def dropKey (s : ScanState) : Except ReadFailure ScanState :=
  if s.keys.any fun k => k.depth = s.depth && k.required then .error (.malformed .piece)
  else .ok { s with keys := s.keys.filter fun k => k.depth ≠ s.depth }

/-- Remembers that a key may start here. -/
def saveKey (s : ScanState) : Except ReadFailure ScanState :=
  if s.keyAllowed then
    s.dropKey.map fun s =>
      { s with keys := ⟨s.depth, s.tokens.size, s.depth = 0 && s.indent = s.cursor.column,
          s.cursor⟩ :: s.keys }
  else .ok s

/-- Closes the blocks that are indented further than a column. -/
def unwind (s : ScanState) (column : Int) : ScanState :=
  if s.depth ≠ 0 then s
  else
    let closed := ((s.indent :: s.outer).takeWhile fun i => column < i).length
    let left := (s.indent :: s.outer).drop closed
    { s with
      tokens := s.tokens ++ Array.replicate closed .blockEnd
      indent := left.headD (-1)
      outer := left.drop 1 }

/-- Opens a block at a column if it is indented further than the present one; `opening` goes to a
position among the tokens. -/
def openBlock (s : ScanState) (column : Nat) (opening : Token) (position : Nat) : ScanState :=
  if s.depth = 0 && s.indent < column then
    { s with
      outer := s.indent :: s.outer
      indent := column
      tokens := s.tokens.insertIdxIfInBounds position opening }
  else s

/-- Passes over blanks, comments and line breaks, within `fuel` lines.  A line break outside of flow
collections allows a key. -/
def skipToPiece : (fuel : Nat) → ScanState → ScanState
  | 0, s => s
  | fuel + 1, s =>
    let c := s.cursor.skipComment
    if isBreak c.here then
      skipToPiece fuel { s with cursor := c.takeBreak.2, keyAllowed := s.depth = 0 || s.keyAllowed }
    else { s with cursor := c }

def startsPlain (s : ScanState) : Bool :=
  let ch := s.cursor.here
  let marks : List Char := ['-', '?', ':', ',', '[', ']', '\x7b', '\x7d', '#', '&', '*', '!', '|',
    '>', '\x27', '\x22', '%', '@', '\x60']
  (!isBlankOrEnd ch && !marks.contains ch) ||
    (!isBlankOrEnd (s.cursor.peek 1) && (ch = '-' || (s.depth = 0 && (ch = '?' || ch = ':'))))

/-- Adds a mark between documents or a directive: all blocks are closed. -/
def endBlocks (s : ScanState) : Except ReadFailure ScanState :=
  (s.unwind (-1)).dropKey.map fun s => { s with keyAllowed := false }

/-- The mark of an entry of a block sequence, or a mark that is refused later in a flow one. -/
def scanEntry (s : ScanState) : Except ReadFailure ScanState :=
  if s.depth = 0 && !s.keyAllowed then .error (.malformed .piece)
  else
    let s := s.openBlock s.cursor.column .blockSequenceStart s.tokens.size
    (s.allowKey true).dropKey.map fun s => (s.push .blockEntry).skip 1

def scanKey (s : ScanState) : Except ReadFailure ScanState :=
  if s.depth = 0 && !s.keyAllowed then .error (.malformed .piece)
  else
    let s := s.openBlock s.cursor.column .blockMappingStart s.tokens.size
    (s.allowKey (s.depth = 0)).dropKey.map fun s => (s.push .key).skip 1

/-- The mark of a value: behind a possible key it makes it one. -/
def scanValue (s : ScanState) : Except ReadFailure ScanState :=
  match s.keys.find? (·.depth = s.depth) with
  | some k =>
    let s := { s with
      keys := s.keys.filter fun k => k.depth ≠ s.depth
      tokens := s.tokens.insertIdxIfInBounds k.position .key
      keyAllowed := false }
    let s := s.openBlock k.place.column .blockMappingStart k.position
    .ok ((s.push .value).skip 1)
  | none =>
    if s.depth = 0 && !s.keyAllowed then .error (.malformed .piece)
    else
      let s := s.openBlock s.cursor.column .blockMappingStart s.tokens.size
      (s.allowKey (s.depth = 0)).dropKey.map fun s => (s.push .value).skip 1

def openFlow (s : ScanState) (t : Token) : Except ReadFailure ScanState :=
  s.saveKey.map fun s => ({ s with depth := s.depth + 1, keyAllowed := true }.push t).skip 1

/-- The closing of a flow collection.  That one is open is left to who puts the tokens together. -/
def closeFlow (s : ScanState) (t : Token) : Except ReadFailure ScanState :=
  s.dropKey.map fun s => ({ s with depth := s.depth - 1, keyAllowed := false }.push t).skip 1

/-- A piece at which a key may start and which is no mark. -/
def scanWith {α : Type} (s : ScanState) (scan : Cursor → Scanned α) (token : α → Token) :
    Except ReadFailure ScanState :=
  match s.saveKey with
  | .error e => .error e
  | .ok s =>
    (scan s.cursor).map fun r => { s with cursor := r.2, keyAllowed := false }.push (token r.1)

/-- A plain scalar; after one that ends with a line break a key is allowed. -/
def scanPlainPiece (s : ScanState) : Except ReadFailure ScanState :=
  s.saveKey.map fun s =>
    let (scalar, c) :=
      scanPlain (s.depth ≠ 0) (s.indent + 1) (s.cursor.rest.length + 1) [] false s.cursor
    { s with cursor := c, keyAllowed := scalar.atLineStart }.push
      (.scalar (String.ofList scalar.text) true)

/-- A block scalar; after one a key is allowed. -/
def scanBlockPiece (s : ScanState) (folded : Bool) : Except ReadFailure ScanState :=
  match (s.allowKey true).dropKey with
  | .error e => .error e
  | .ok s =>
    (scanBlock folded s.indent s.cursor.next).map fun r =>
      { s with cursor := r.2 }.push (.scalar (String.ofList r.1) false)

def scanPiece (s : ScanState) : Except ReadFailure ScanState :=
  let c := s.cursor
  let ch := c.here
  let after := c.peek 1
  let quoted (c : Cursor) : Scanned String :=
    (scanQuoted ch (c.rest.length + 1) c.next).map fun r => (String.ofList r.1, r.2)
  if ch = '%' && c.column = 0 then
    match s.endBlocks with
    | .error e => .error e
    | .ok s =>
      (scanDirective c.next).map fun r => { s with cursor := r.2 }.push (.directive r.1)
  else if c.column = 0 && c.isMark '-' then
    s.endBlocks.map fun s => (s.push .documentStart).skip 3
  else if c.column = 0 && c.isMark '.' then
    s.endBlocks.map fun s => (s.push .documentEnd).skip 3
  else if ch = '[' then s.openFlow .flowSequenceStart
  else if ch = '\x7b' then s.openFlow .flowMappingStart
  else if ch = ']' then s.closeFlow .flowSequenceEnd
  else if ch = '\x7d' then s.closeFlow .flowMappingEnd
  else if ch = ',' then
    (s.allowKey true).dropKey.map fun s => (s.push .flowEntry).skip 1
  else if ch = '-' && isBlankOrEnd after then s.scanEntry
  else if ch = '?' && (s.depth ≠ 0 || isBlankOrEnd after) then s.scanKey
  else if ch = ':' && (s.depth ≠ 0 || isBlankOrEnd after) then s.scanValue
  else if ch = '*' then s.scanWith (fun c => scanName c.next) .aliasOf
  else if ch = '&' then s.scanWith (fun c => scanName c.next) .anchor
  else if ch = '!' then s.scanWith (fun c => scanTag c) .tag
  else if ch = '|' && s.depth = 0 then s.scanBlockPiece false
  else if ch = '>' && s.depth = 0 then s.scanBlockPiece true
  else if ch = '\x27' || ch = '\x22' then s.scanWith quoted fun text => .scalar text false
  else if s.startsPlain then s.scanPlainPiece
  else .error (.malformed .piece)

/-- The number of tokens that no later piece can change. -/
def settled (s : ScanState) : Nat :=
  s.keys.foldl (fun n k => min n k.position) s.tokens.size

/-- Scans the next piece with what stands before it, or closes the blocks at the end of the text;
says whether the end was reached. -/
def scanNext (s : ScanState) : Except ReadFailure (ScanState × Bool) :=
  match (s.skipToPiece (s.cursor.rest.length + 1)).dropStale with
  | .error e => .error e
  | .ok s =>
    let s := s.unwind s.cursor.column
    if s.cursor.here = '\x00' then s.endBlocks.map fun s => (s, true)
    else (s.scanPiece.bind dropStale).map fun s => (s, false)

def scanAll : (fuel : Nat) → (known : Nat) → ScanState → TokenStream
  | 0, known, s => ⟨s.tokens.toList.take known, some (.malformed .piece)⟩
  | fuel + 1, known, s =>
    match s.scanNext with
    | .error e => ⟨s.tokens.toList.take known, some e⟩
    | .ok (s, true) => ⟨s.tokens.toList, none⟩
    | .ok (s, false) => scanAll fuel s.settled s

end ScanState

/-- The tokens of a text.  A byte order mark at its start is passed over. -/
def TokenStream.ofText (text : List Char) : TokenStream :=
  let body := if text.head? = some '\ufeff' then text.drop 1 else text
  (ScanState.start body).scanAll (body.length + 1) 0

end ConfigVault.Yaml
