import ConfigVault.Instance.Host.Pattern.Reading

/-!
# The pieces of a program for records

A stroke begins a pattern where no value can have ended, and stands for a division elsewhere.
-/

namespace ConfigVault.Host.Record

inductive Token where
  | number (x : Float) (spelling : Raw)
  | text (text : Raw)
  | pattern (text : Raw)
  | name (name : Raw)
  | call (name : Raw)
  | standard (name : Raw)
  | keyword (name : Raw)
  | mark (text : Raw)
  | newline
  | fin
  deriving Repr

structure Piece where
  token : Token
  line : Nat

/-- Why a text is no program. -/
inductive Fault where
  | unexpected (line : Nat) (c : Char)
  | told (complaints : List (Nat × Raw))

/-- The words for a fault, with a title in front where a line is told of. -/
def Fault.messages (title : Raw) : Fault → List Raw
  | unexpected line c => [toString line ++ ": unexpected character '" ++ c.toString ++ "'"]
  | told complaints => complaints.map fun c => title ++ "line " ++ toString c.1 ++ ": " ++ c.2

namespace Token

def keywords : List Raw :=
  ["BEGIN", "END", "function", "if", "else", "while", "for", "do", "break", "continue", "next",
    "nextfile", "exit", "return", "delete", "in", "getline", "print", "printf"]

def standardNames : List Raw :=
  ["length", "index", "substr", "split", "sub", "gsub", "match", "sprintf", "sin", "cos", "atan2",
    "exp", "log", "sqrt", "int", "rand", "srand", "tolower", "toupper", "system", "close", "fflush",
    "strftime", "mktime", "systime"]

def marks : List Raw :=
  ["&&", "||", "++", "--", "+=", "-=", "*=", "/=", "%=", "^=", "==", "!=", "<=", ">=", "!~", ">>", "\x7b",
    "\x7d", "(", ")", "[", "]", ";", ",", "+", "-", "*", "/", "%", "^", "!", ">", "<", "|", "?", ":",
    "~", "$", "="]

def spelling : Token → Raw
  | number _ spelling => spelling
  | text t => t
  | pattern t => "/" ++ t ++ "/"
  | name n => n
  | call n => n
  | standard n => n
  | keyword n => n
  | mark t => t
  | newline => "end of line"
  | fin => "end of file"

def endsValue : Token → Bool
  | number _ _ => true
  | text _ => true
  | pattern _ => true
  | name _ => true
  | standard n => n = "length"
  | mark t => [")", "]", "++", "--"].contains t
  | _ => false

end Token

/-- Characters of texts that are written as a backslash and a letter or digits; other backslashes stay.
Takes the characters up to a quotation mark, within `fuel` of them. -/
def takeText : (fuel : Nat) → List Char → Option (List Char × List Char)
  | 0, _ => none
  | _ + 1, [] => none
  | _ + 1, '"' :: rest => some ([], rest)
  | _ + 1, '\n' :: _ => none
  | fuel + 1, '\\' :: c :: rest =>
    let go (front : List Char) (rest : List Char) : Option (List Char × List Char) :=
      (takeText fuel rest).map fun r => (front ++ r.1, r.2)
    match c with
    | '"' => go ['"'] rest
    | '\\' => go ['\\'] rest
    | 'n' => go ['\n'] rest
    | 't' => go ['\t'] rest
    | 'r' => go ['\r'] rest
    | 'a' => go ['\x07'] rest
    | 'b' => go ['\x08'] rest
    | 'f' => go ['\x0c'] rest
    | 'v' => go ['\x0b'] rest
    | '\n' => go [] rest
    | c =>
      let digits := ((c :: rest).take 3).takeWhile fun d => '0' ≤ d && d ≤ '7'
      let hex := (rest.take 2).takeWhile fun d => (Number.digit? d).any (· < 16)
      if c = 'x' && !hex.isEmpty then
        go [Char.ofNat ((Number.takeDigits 16 hex).1 % 256)] (rest.drop hex.length)
      else if digits.isEmpty then go ['\\', c] rest
      else go [Char.ofNat ((Number.takeDigits 8 digits).1 % 256)] ((c :: rest).drop digits.length)
  | fuel + 1, c :: rest => (takeText fuel rest).map fun r => (c :: r.1, r.2)

def unescape (text : Raw) : Raw :=
  let cs := text.toList.flatMap fun c => if c = '"' then ['\\', '"'] else [c]
  match takeText (cs.length + 2) (cs ++ ['"']) with
  | some (cs, _) => String.ofList cs
  | none => text

def takePattern : (fuel : Nat) → (inSet : Bool) → List Char → Option (List Char × List Char)
  | 0, _, _ => none
  | _ + 1, _, [] => none
  | _ + 1, _, '\n' :: _ => none
  | _ + 1, false, '/' :: rest => some ([], rest)
  | fuel + 1, inSet, '\\' :: '/' :: rest => (takePattern fuel inSet rest).map fun r => ('/' :: r.1, r.2)
  | fuel + 1, inSet, '\\' :: c :: rest =>
    (takePattern fuel inSet rest).map fun r => ('\\' :: c :: r.1, r.2)
  | fuel + 1, false, '[' :: '^' :: ']' :: rest =>
    (takePattern fuel true rest).map fun r => ('[' :: '^' :: ']' :: r.1, r.2)
  | fuel + 1, false, '[' :: ']' :: rest =>
    (takePattern fuel true rest).map fun r => ('[' :: ']' :: r.1, r.2)
  | fuel + 1, true, '[' :: ':' :: rest =>
    let name := rest.takeWhile Char.isAlpha
    match rest.drop name.length with
    | ':' :: ']' :: left =>
      (takePattern fuel true left).map fun r => ('[' :: ':' :: name ++ ':' :: ']' :: r.1, r.2)
    | _ => (takePattern fuel true (':' :: rest)).map fun r => ('[' :: r.1, r.2)
  | fuel + 1, inSet, c :: rest =>
    let inSet := if c = '[' then true else if c = ']' then false else inSet
    (takePattern fuel inSet rest).map fun r => (c :: r.1, r.2)

def isNameStart (c : Char) : Bool := c.isAlpha || c = '_'

def isNameChar (c : Char) : Bool := c.isAlphanum || c = '_'

/-- The start of something that has no end, as complaints tell it. -/
def runaway (kind : Raw) (mark : Raw) (cs : List Char) : Raw :=
  "runaway " ++ kind ++ " " ++ mark ++ String.ofList ((cs.takeWhile (· ≠ '\n')).take 10) ++ " ..."

def throwAt {α : Type} (line : Nat) (message : Raw) : Except Fault α := .error (.told [(line, message)])

def decimalSize (cs : List Char) : Nat :=
  let whole := (cs.takeWhile Char.isDigit).length
  let rest := cs.drop whole
  let places :=
    match rest with
    | '.' :: rest => 1 + (rest.takeWhile Char.isDigit).length
    | _ => 0
  let rest := rest.drop places
  let exponent :=
    match rest with
    | e :: rest =>
      if e = 'e' || e = 'E' then
        let sign := if rest.head? = some '-' || rest.head? = some '+' then 1 else 0
        let digits := ((rest.drop sign).takeWhile Char.isDigit).length
        if digits = 0 then 0 else 1 + sign + digits
      else 0
    | [] => 0
  whole + places + exponent

/-- The pieces of a program, within `fuel` characters; `free` says that a value can begin. -/
def pieces : (fuel : Nat) → (free : Bool) → (line : Nat) → List Char → Except Fault (List Piece)
  | 0, _, line, _ => .ok [⟨.fin, line⟩]
  | _ + 1, _, line, [] => .ok [⟨.newline, line⟩, ⟨.fin, line + 1⟩]
  | fuel + 1, free, line, c :: cs =>
    let go (token : Token) (rest : List Char) : Except Fault (List Piece) := do
      return ⟨token, line⟩ :: (← pieces fuel (!token.endsValue) line rest)
    if c = ' ' || c = '\t' || c = '\r' then pieces fuel free line cs
    else if c = '\n' then do return ⟨.newline, line⟩ :: (← pieces fuel true (line + 1) cs)
    else if c = '#' then pieces fuel free line (cs.dropWhile (· ≠ '\n'))
    else if c = '\\' && cs.head? = some '\n' then pieces fuel free (line + 1) (cs.drop 1)
    else if c = '\\' && cs.take 2 = ['\r', '\n'] then pieces fuel free (line + 1) (cs.drop 2)
    else if c = '"' then
      match takeText (cs.length + 1) cs with
      | some (text, rest) => go (.text (String.ofList text)) rest
      | none => throwAt line (runaway "string constant" "\x22" cs)
    else if c = '/' && free then
      match takePattern (cs.length + 1) false cs with
      | some (text, rest) => go (.pattern (String.ofList text)) rest
      | none => throwAt line (runaway "regular expression" "/" cs)
    else if c.isDigit || (c = '.' && cs.head?.any Char.isDigit) then
      let size := decimalSize (c :: cs)
      let digits := (c :: cs).take size
      match Number.takeFloat? digits with
      | some (x, _) => go (.number x (String.ofList digits)) ((c :: cs).drop size)
      | none => .error (.unexpected line c)
    else if isNameStart c then
      let word := String.ofList ((c :: cs).takeWhile isNameChar)
      let rest := (c :: cs).drop word.length
      if Token.keywords.contains word then go (.keyword word) rest
      else if Token.standardNames.contains word then go (.standard word) rest
      else if rest.head? = some '(' then go (.call word) rest
      else go (.name word) rest
    else
      match Token.marks.find? fun m => m.toList.isPrefixOf (c :: cs) with
      | some m => go (.mark m) ((c :: cs).drop m.length)
      | none => .error (.unexpected line c)

/-- Complaints about closing marks that nothing was opened for, with the marks that are open. -/
def extraMarks : List Piece → (braces brackets : Nat) → List (Nat × Raw)
  | [], _, _ => []
  | p :: rest, braces, brackets =>
    match p.token, rest with
    | .mark "\x7b", rest => extraMarks rest (braces + 1) brackets
    | .mark "(", rest => extraMarks rest braces (brackets + 1)
    | .mark "\x7d", rest =>
      if 0 < braces then extraMarks rest (braces - 1) brackets
      else
        (p.line, "extra '\x7d'") ::
          match rest with
          | ⟨.newline, line⟩ :: _ => [(line, "syntax error at or near end of line")]
          | rest => extraMarks rest 0 brackets
    | .mark ")", rest =>
      if 0 < brackets then extraMarks rest braces (brackets - 1)
      else (p.line, "extra ')'") :: extraMarks rest braces 0
    | _, rest => extraMarks rest braces brackets

def piecesOf (text : Raw) : Except Fault (List Piece) := do
  let found ← pieces (text.length + 1) true 1 text.toList
  match extraMarks found 0 0 with
  | [] => return found
  | complaints => throw (.told complaints)

end ConfigVault.Host.Record
