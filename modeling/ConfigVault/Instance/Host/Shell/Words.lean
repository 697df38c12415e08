import ConfigVault.Instance.Host.Shell.Syntax

/-!
# Reading words

A word ends at a blank or at a character that stands for itself between words.  Within double quotes,
in documents and in expressions the values of parameters and the output of commands are put in, and
nothing else has a meaning.  To read the script of a command in a word takes the reader of whole
scripts, which is handed down as `script`.
-/

namespace ConfigVault.Host.Shell

namespace Reading

/-- Stops with a complaint about the script. -/
def fail {α : Type} (message : String) : Reading α := fun s =>
  .error ⟨s.line, "Syntax error: " ++ message⟩

def peek : Reading Char := do return (← get).rest.headD '\x00'

def atEnd : Reading Bool := do return (← get).rest.isEmpty

def skip : Reading Unit :=
  modify fun s =>
    { s with
      rest := s.rest.drop 1
      line := if s.rest.head? = some '\n' then s.line + 1 else s.line }

def take : Reading Char := do
  let c ← peek
  skip
  return c

def joinLines : (fuel : Nat) → Reading Unit
  | 0 => return ()
  | fuel + 1 => do
    match (← get).rest with
    | '\\' :: '\n' :: _ =>
      skip
      skip
      joinLines fuel
    | _ => return ()

def peekJoined : Reading Char := do
  joinLines (← get).rest.length
  peek

def takeWhile (p : Char → Bool) : (fuel : Nat) → Reading (List Char)
  | 0 => return []
  | fuel + 1 => do
    let c ← peekJoined
    if p c && !(← atEnd) then
      skip
      return c :: (← takeWhile p fuel)
    else return []

end Reading

def isNameStart (c : Char) : Bool := c.isAlpha || c = '_'

def isNameChar (c : Char) : Bool := c.isAlphanum || c = '_'

def isSpecial (c : Char) : Bool := ['*', '@', '#', '?', '-', '$', '!'].contains c

def endsWord (c : Char) : Bool :=
  ['\n', ' ', '\t', ';', '&', '|', '<', '>', '(', ')'].contains c

/-- Where pieces of a word stand. -/
inductive Setting where
  | bare
  | double
  | document
  | expression (depth : Nat)
  deriving DecidableEq, Repr

def Setting.isQuoted (s : Setting) : Bool := s ≠ .bare

/-- Reads the text of a script that stands in a word, with the bracket behind it if there is to be
one. -/
abbrev ScriptReader := (bracketed : Bool) → Source → Except SyntaxFault Source

open Reading

def backQuoted (inDouble : Bool) : (fuel : Nat) → Reading (List Char)
  | 0 => fail "EOF in backquote substitution"
  | fuel + 1 => do
    if ← atEnd then fail "EOF in backquote substitution"
    let c ← take
    if c = '\x60' then return []
    else if c = '\\' then
      let d ← peek
      if d = '\n' then
        skip
        backQuoted inDouble fuel
      else if d = '\x60' || d = '\\' || d = '$' || (inDouble && d = '\x22') then
        skip
        return d :: (← backQuoted inDouble fuel)
      else return c :: (← backQuoted inDouble fuel)
    else return c :: (← backQuoted inDouble fuel)

def singleQuoted : (fuel : Nat) → Reading (List Piece)
  | 0 => fail "Unterminated quoted string"
  | fuel + 1 => do
    if ← atEnd then fail "Unterminated quoted string"
    let c ← take
    if c = '\x27' then return [] else return .quoted c :: (← singleQuoted fuel)

def checkScript (script : ScriptReader) (text : List Char) : Reading Unit := do
  let s ← get
  match script false ⟨text, s.line, [], [], s.next⟩ with
  | .ok _ => return ()
  | .error fault => throw fault

/-- The use of a parameter behind its name in braces, whether an empty value counts as none, and
whether the brace has been closed. -/
def takeUse : Reading (ParameterUse × Bool × Bool) := do
  let c ← peekJoined
  if c = ':' then
    skip
    let d ← peekJoined
    skip
    match plainUse d with
    | some use => return (use, true, false)
    | none => return (.malformed, true, false)
  else if c = '%' || c = '#' then
    skip
    let longest := (← peekJoined) = c
    if longest then skip
    return (if c = '#' then .withoutFront longest else .withoutEnd longest, false, false)
  else
    skip
    if c = '}' then return (.value, false, true)
    match plainUse c with
    | some use => return (use, false, false)
    | none => return (.malformed, false, false)
where
  plainUse : Char → Option ParameterUse
    | '-' => some .orElse
    | '+' => some .ifPresent
    | '?' => some .orComplain
    | '=' => some .orAssign
    | _ => none

/-- The name of a parameter in braces; none if there is none.  A number sign in front asks for the
length. -/
def takeBracedName (fuel : Nat) : Reading (Option Raw × Bool) := do
  let c ← peekJoined
  if isNameStart c then return (some (String.ofList (← takeWhile isNameChar fuel)), false)
  else if c.isDigit then return (some (String.ofList (← takeWhile Char.isDigit fuel)), false)
  else if c = '#' then
    skip
    let d ← peekJoined
    if isNameStart d then return (some (String.ofList (← takeWhile isNameChar fuel)), true)
    else if d.isDigit then return (some (String.ofList (← takeWhile Char.isDigit fuel)), true)
    else if isSpecial d then
      let before ← get
      skip
      if (← peekJoined) = '}' then return (some d.toString, true)
      else
        set before
        return (some "#", false)
    else return (some "#", false)
  else if isSpecial c then
    skip
    return (some c.toString, false)
  else return (none, false)

/-- Quotes around pieces.  Where there is nothing in them but all arguments of the shell, they make no
word without arguments. -/
def quotesAround (inner : List Piece) : List Piece :=
  match inner with
  | [.parameter "@" _ _ _ _] => inner
  | _ => .quotes :: inner

mutual

/-- Takes the pieces of a word in a setting, and with them the brace or quote that closes them, within
`fuel` steps. -/
def takePieces (script : ScriptReader) : (fuel : Nat) → Setting → (inBrace : Bool) →
    Reading (List Piece)
  | 0, _, _ => fail "word too long"
  | fuel + 1, setting, inBrace => do
    let more (pieces : List Piece) : Reading (List Piece) := do
      return pieces ++ (← takePieces script fuel setting inBrace)
    let quoted := setting.isQuoted
    let plain (c : Char) : Piece := if quoted then .quoted c else .char c
    if ← atEnd then
      if inBrace then fail "Missing '\x7d'"
      match setting with
      | .double => fail "Unterminated quoted string"
      | .expression _ => fail "Missing '))'"
      | _ => return []
    let c ← peek
    if c = '}' && inBrace then
      skip
      return []
    match setting with
    | .bare =>
      if endsWord c && !inBrace then return []
      else if c = '\x27' then
        skip
        let inner ← singleQuoted ((← get).rest.length + 1)
        more (.quotes :: inner)
      else if c = '\x22' then
        skip
        let inner ← takePieces script fuel .double false
        more (quotesAround inner)
      else if c = '\\' then
        skip
        if ← atEnd then more [.quoted '\\']
        else
          let d ← take
          if d = '\n' then more [] else more [.quoted d]
      else if c = '$' || c = '\x60' then more (← takeValue script fuel setting)
      else
        skip
        more [.char c]
    | _ =>
      if c = '\x22' && setting = .double then
        if inBrace then
          skip
          let inner ← takePieces script fuel .double false
          more inner
        else
          skip
          return []
      else if c = '\\' then
        skip
        let d ← peek
        let isQuote := d = '\x22' && (setting = .double || (setting = .document && inBrace))
        if d = '\n' && !(← atEnd) then
          skip
          more []
        else if d = '\\' || d = '$' || d = '\x60' || isQuote || (d = '}' && inBrace) then
          skip
          more [.quoted d]
        else more [.quoted '\\']
      else if c = '$' || c = '\x60' then more (← takeValue script fuel setting)
      else
        match setting with
        | .expression depth =>
          skip
          if inBrace then more [plain c]
          else if c = '(' then
            return plain c :: (← takePieces script fuel (.expression (depth + 1)) false)
          else if c = ')' then
            match depth with
            | depth + 1 => return plain c :: (← takePieces script fuel (.expression depth) false)
            | 0 =>
              if (← peekJoined) = ')' then
                skip
                return []
              else if ← atEnd then fail "Missing '))'"
              else more [plain c]
          else more [plain c]
        | _ =>
          skip
          more [plain c]

/-- Takes what stands for a value: a parameter, the output of a script or an expression. -/
def takeValue (script : ScriptReader) : (fuel : Nat) → Setting → Reading (List Piece)
  | 0, _ => fail "word too long"
  | fuel + 1, setting => do
    let quoted := setting.isQuoted
    let mark ← take
    let line := (← get).line
    if mark = '\x60' then
      let text ← backQuoted (setting = .double) ((← get).rest.length + 1)
      checkScript script text
      return [.output (String.ofList text) line quoted]
    let c ← peekJoined
    let size := (← get).rest.length + 1
    if c = '(' then
      skip
      if (← peekJoined) = '(' then
        skip
        return [.sum (← takePieces script fuel (.expression 0) false) quoted]
      else
        let before ← get
        match script true { before with waiting := [] } with
        | .error fault => throw fault
        | .ok after =>
          let length := before.rest.length - after.rest.length
          set { after with
            waiting := before.waiting, documents := before.documents, next := after.next }
          return [.output (String.ofList (before.rest.take (length - 1))) line quoted]
    else if c = '{' then
      skip
      match ← takeBracedName size with
      | (none, _) =>
        let operand ← takePieces script fuel setting true
        return [.parameter "" .malformed false operand quoted]
      | (some name, true) =>
        if (← peekJoined) = '}' then
          skip
          return [.parameter name .length false [] quoted]
        else
          let operand ← takePieces script fuel setting true
          return [.parameter name .malformed false operand quoted]
      | (some name, false) =>
        let (use, filled, closed) ← takeUse
        if closed then return [.parameter name use filled [] quoted]
        let cuts :=
          match use with
          | .withoutFront _ => true
          | .withoutEnd _ => true
          | _ => false
        let inner : Setting :=
          if cuts then .bare
          else
            match setting with
            | .expression _ => .double
            | s => s
        return [.parameter name use filled (← takePieces script fuel inner true) quoted]
    else if isNameStart c then
      return [.parameter (String.ofList (← takeWhile isNameChar size)) .value false [] quoted]
    else if c.isDigit || isSpecial c then
      skip
      return [.parameter c.toString .value false [] quoted]
    else return [if quoted then .quoted '$' else .char '$']

end

def documentWord (script : ScriptReader) (text : List Char) (line : Nat) :
    Except SyntaxFault Word :=
  ((takePieces script (text.length + 1) .document false).run ⟨text, line, [], [], 0⟩).map Prod.fst

end ConfigVault.Host.Shell
