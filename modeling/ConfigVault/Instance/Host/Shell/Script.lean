import ConfigVault.Instance.Host.Shell.Words

/-!
# Reading scripts

A script is read command by command, each with the line feed behind it.  Words such as `if` have their
meaning only where a command can begin.  What is found where something else has to stand is told in the
complaint.
-/

namespace ConfigVault.Host.Shell

open Reading

inductive Token where
  | ending
  | newline
  | mark (text : String)
  | keyword (text : String)
  | word (word : Word)
  | redirection (stream : Nat) (mark : String)

def Token.describe : Token → String
  | ending => "end of file"
  | newline => "newline"
  | mark text => "\x22" ++ text ++ "\x22"
  | keyword text => "\x22" ++ text ++ "\x22"
  | word _ => "word"
  | redirection _ _ => "redirection"

def keywords : List String :=
  ["!", "case", "do", "done", "elif", "else", "esac", "fi", "for", "if", "in", "then", "until", "while",
    "\x7b", "\x7d"]

def endsList : Token → Bool
  | .ending => true
  | .mark text => text = ")" || text = ";;" || text = "\x60"
  | .keyword text => ["do", "done", "elif", "else", "esac", "fi", "then", "\x7d"].contains text
  | _ => false

def plainText? (word : Word) : Option Raw :=
  (word.mapM fun (p : Piece) =>
    match p with
    | .char c => some c
    | _ => none).map String.ofList

/-- The text of a word with its quotes taken away; values in it are left out. -/
def unquoted (word : Word) : Raw :=
  String.ofList (word.filterMap fun
    | .char c => some c
    | .quoted c => some c
    | _ => none)

def isName (text : Raw) : Bool :=
  match text.toList with
  | c :: cs => isNameStart c && cs.all isNameChar
  | [] => false

/-- A word that sets a variable: a name and an equals sign without quotes, and a value. -/
def setting? (word : Word) : Option (Raw × Word) :=
  let name := word.takeWhile fun
    | .char c => isNameChar c
    | _ => false
  match plainText? name, word.drop name.length with
  | some text, .char '=' :: value => if isName text then some (text, value) else none
  | _, _ => none

/-- The complaint about a piece; `expected` is what should have stood in its place. -/
def unexpected {α : Type} (t : Token) (expected : Option String) : Reading α :=
  fail (t.describe ++ " unexpected" ++
    match expected with
    | some text => " (expecting \x22" ++ text ++ "\x22)"
    | none => "")

/-! ## Documents -/

def takeLine : Reading (List Char) := do
  let line := (← get).rest.takeWhile (· ≠ '\n')
  let complete := line.length < (← get).rest.length
  modify fun s =>
    { s with
      rest := s.rest.drop (line.length + 1), line := if complete then s.line + 1 else s.line }
  return if complete then line ++ ['\n'] else line

def takeDocument (d : WaitingDocument) : (fuel : Nat) → Reading (List Char)
  | 0 => return []
  | fuel + 1 => do
    if ← atEnd then return []
    let line ← takeLine
    let line := if d.indented then line.dropWhile (· = '\t') else line
    if line = d.delimiter.toList ++ ['\n'] || line = d.delimiter.toList then return []
    return line ++ (← takeDocument d fuel)

def takeDocuments (script : ScriptReader) : Reading Unit := do
  let waiting := (← get).waiting
  modify fun s => { s with waiting := [] }
  for d in waiting do
    let line := (← get).line
    let text ← takeDocument d ((← get).rest.length + 1)
    let word : Word ←
      if d.literal then pure (text.map Piece.quoted)
      else
        match documentWord script text line with
        | .ok word => pure word
        | .error fault => throw fault
    modify fun s => { s with documents := (d.number, word) :: s.documents }

/-! ## Tokens -/

/-- Passes over blanks, joined lines and a comment, within `fuel` of them. -/
def skipBlanks : (fuel : Nat) → Reading Unit
  | 0 => return ()
  | fuel + 1 => do
    match (← get).rest with
    | ' ' :: _ => skip; skipBlanks fuel
    | '\t' :: _ => skip; skipBlanks fuel
    | '\\' :: '\n' :: _ => skip; skip; skipBlanks fuel
    | '#' :: cs => modify fun s => { s with rest := cs.dropWhile (· ≠ '\n') }
    | _ => return ()

def takeDirection (stream : Option Nat) : Reading Token := do
  let first ← take
  let second ← peekJoined
  if first = '<' then
    let stream := stream.getD 0
    if second = '<' then
      skip
      if (← peekJoined) = '-' then
        skip
        return .redirection stream "<<-"
      else return .redirection stream "<<"
    else if second = '&' || second = '>' then
      skip
      return .redirection stream (String.ofList ['<', second])
    else return .redirection stream "<"
  else
    let stream := stream.getD 1
    if second = '>' || second = '&' || second = '|' then
      skip
      return .redirection stream (String.ofList ['>', second])
    else return .redirection stream ">"

/-- Takes the next piece of a script; `known` are the words that have their meaning here. -/
def takeToken (script : ScriptReader) (known : List String) : Reading Token := do
  skipBlanks ((← get).rest.length + 1)
  if ← atEnd then return .ending
  let c ← peek
  if c = '\n' then
    skip
    takeDocuments script
    return .newline
  else if c = '&' || c = '|' || c = ';' then
    skip
    if (← peekJoined) = c then
      skip
      return .mark (String.ofList [c, c])
    else return .mark c.toString
  else if c = '(' || c = ')' then
    skip
    return .mark c.toString
  else if c = '<' || c = '>' then takeDirection none
  else
    let word ← takePieces script (2 * (← get).rest.length + 8) .bare false
    let next ← peek
    match word, next = '<' || next = '>' with
    | [.char d], true =>
      if d.isDigit then takeDirection (some (d.toNat - '0'.toNat)) else return .word word
    | _, _ =>
      match plainText? word with
      | some text => return if known.contains text then .keyword text else .word word
      | none => return .word word

def lookAhead (script : ScriptReader) (known : List String) : Reading Token := do
  let before ← get
  let t ← takeToken script known
  set before
  return t

def skipNewlines (script : ScriptReader) : (fuel : Nat) → Reading Unit
  | 0 => return ()
  | fuel + 1 => do
    let before ← get
    match ← takeToken script [] with
    | .newline => skipNewlines script fuel
    | _ => set before

/-- The next piece behind line feeds, where all words have their meaning. -/
def lookPast (script : ScriptReader) : Reading Token := do
  skipNewlines script ((← get).rest.length + 1)
  lookAhead script keywords

/-- Takes a certain word behind line feeds. -/
def expectWord (script : ScriptReader) (text : String) : Reading Unit := do
  skipNewlines script ((← get).rest.length + 1)
  let t ← takeToken script keywords
  match t with
  | .keyword found => if found ≠ text then unexpected t (some text)
  | t => unexpected t (some text)

def takeTarget (script : ScriptReader) (stream : Nat) (mark : String) : Reading Redirection := do
  let t ← takeToken script []
  match t with
  | .word word =>
    let direction : Direction ←
      if mark = "<" then pure (.input word)
      else if mark = ">" || mark = ">|" then pure (.output word)
      else if mark = ">>" then pure (.append word)
      else if mark = "<>" then pure (.both word)
      else if mark = "<&" || mark = ">&" then pure (.copy word)
      else
        let s ← get
        let literal := word.any fun
          | .quoted _ => true
          | .quotes => true
          | _ => false
        let d : WaitingDocument := ⟨s.next, unquoted word, mark = "<<-", literal⟩
        set { s with waiting := s.waiting ++ [d], next := s.next + 1 }
        pure (.document s.next)
    match direction with
    | .copy word =>
      match plainText? word with
      | some text =>
        if text ≠ "-" && !(text.length = 1 && text.toList.all Char.isDigit) then fail "Bad fd number"
      | none => pure ()
    | _ => pure ()
    return ⟨stream, direction⟩
  | t => unexpected t none

def takeDirections (script : ScriptReader) : (fuel : Nat) → Reading (List Redirection)
  | 0 => return []
  | fuel + 1 => do
    let before ← get
    match ← takeToken script keywords with
    | .redirection stream mark =>
      let r ← takeTarget script stream mark
      return r :: (← takeDirections script fuel)
    | _ =>
      set before
      return []

/-! ## Commands -/

def specialNames : List Raw :=
  [".", ":", "break", "continue", "eval", "exec", "exit", "export", "readonly", "return", "set", "shift",
    "times", "trap", "unset"]

structure Parts where
  settings : List (Raw × Word)
  words : List Word
  redirections : List Redirection

/-- Takes the words and directions of a simple command, within `fuel` of them; says whether what
follows makes it a function. -/
def takeParts (script : ScriptReader) : (fuel : Nat) → Parts → Reading (Parts × Bool)
  | 0, parts => return (parts, false)
  | fuel + 1, parts => do
    let before ← get
    match ← takeToken script [] with
    | .word word =>
      match parts.words.isEmpty, setting? word with
      | true, some setting =>
        takeParts script fuel { parts with settings := parts.settings ++ [setting] }
      | _, _ => takeParts script fuel { parts with words := parts.words ++ [word] }
    | .redirection stream mark =>
      let r ← takeTarget script stream mark
      takeParts script fuel { parts with redirections := parts.redirections ++ [r] }
    | .mark "(" =>
      if parts.words.length = 1 && parts.settings.isEmpty && parts.redirections.isEmpty then
        return (parts, true)
      else
        set before
        return (parts, false)
    | _ =>
      set before
      return (parts, false)

def takeWords (script : ScriptReader) : (fuel : Nat) → Reading (List Word × Token)
  | 0 => return ([], .ending)
  | fuel + 1 => do
    match ← takeToken script [] with
    | .word word =>
      let (words, t) ← takeWords script fuel
      return (word :: words, t)
    | t => return ([], t)

def takePatterns (script : ScriptReader) : (fuel : Nat) → Reading (List Word)
  | 0 => return []
  | fuel + 1 => do
    let first ← takeToken script []
    let word : Word :=
      match first with
      | .word word => word
      | _ => []
    let t ← takeToken script []
    match t with
    | .mark "|" => return word :: (← takePatterns script fuel)
    | .mark ")" => return [word]
    | t =>
      match first with
      | .ending => unexpected .ending (some ")")
      | _ => unexpected t (some ")")

inductive ListKind where
  | line
  | block
  | option
  deriving DecidableEq

def Command.andThen (first : Option Command) (second : Command) : Command :=
  match first with
  | none => second
  | some first => .sequence first second

mutual

def takeList : (fuel : Nat) → ListKind → (before : Option Command) → Reading (Option Command)
  | 0, _, before => return before
  | fuel + 1, kind, before => do
    let script : ScriptReader := fun bracketed s => (takeScript fuel bracketed s).map Prod.snd
    if kind ≠ .line then skipNewlines script ((← get).rest.length + 1)
    let start ← get
    let t ← takeToken script keywords
    match t with
    | .newline => return some (before.getD .empty)
    | .ending =>
      takeDocuments script
      return if kind = .line then before else some (before.getD .empty)
    | _ =>
      set start
      if kind = .option && endsList t then return some (before.getD .empty)
      let command ← takeAndOr fuel
      let behind ← get
      let separator ← takeToken script keywords
      let done : Option Command :=
        match separator with
        | .mark "&" => some (Command.andThen before (.background command))
        | _ => some (Command.andThen before command)
      let again : ListKind := if kind = .line then .line else .option
      match separator with
      | .mark "&" => takeList fuel again done
      | .mark ";" => takeList fuel again done
      | .newline =>
        set behind
        takeList fuel again done
      | .ending =>
        takeDocuments script
        return done
      | _ =>
        if kind = .line then unexpected separator none
        set behind
        return done

def takeScript : (fuel : Nat) → (bracketed : Bool) → Reading Unit
  | 0, _ => fail "script too deep"
  | fuel + 1, bracketed => do
    let script : ScriptReader := fun bracketed s => (takeScript fuel bracketed s).map Prod.snd
    let _ ← takeList fuel .option none
    if bracketed then
      let t ← takeToken script keywords
      match t with
      | .mark ")" => return ()
      | t => unexpected t (some ")")

def takeAndOr : (fuel : Nat) → Reading Command
  | 0 => fail "script too deep"
  | fuel + 1 => do
    let first ← takePipeline fuel
    takeJoined fuel first

def takeJoined : (fuel : Nat) → Command → Reading Command
  | 0, _ => fail "script too deep"
  | fuel + 1, first => do
    let script : ScriptReader := fun bracketed s => (takeScript fuel bracketed s).map Prod.snd
    let before ← get
    match ← takeToken script keywords with
    | .mark "&&" =>
      skipNewlines script ((← get).rest.length + 1)
      let second ← takePipeline fuel
      takeJoined fuel (.both first second)
    | .mark "||" =>
      skipNewlines script ((← get).rest.length + 1)
      let second ← takePipeline fuel
      takeJoined fuel (.either first second)
    | _ =>
      set before
      return first

def takePipeline : (fuel : Nat) → Reading Command
  | 0 => fail "script too deep"
  | fuel + 1 => do
    let script : ScriptReader := fun bracketed s => (takeScript fuel bracketed s).map Prod.snd
    let before ← get
    match ← takeToken script keywords with
    | .keyword "!" => return .negation (← takePiped fuel)
    | _ =>
      set before
      takePiped fuel

def takePiped : (fuel : Nat) → Reading Command
  | 0 => fail "script too deep"
  | fuel + 1 => do
    let script : ScriptReader := fun bracketed s => (takeScript fuel bracketed s).map Prod.snd
    let first ← takeCommand fuel
    let before ← get
    match ← takeToken script keywords with
    | .mark "|" =>
      skipNewlines script ((← get).rest.length + 1)
      return .pipe first (← takePiped fuel)
    | _ =>
      set before
      return first

def takeBlock : (fuel : Nat) → Reading Command
  | 0 => fail "script too deep"
  | fuel + 1 => do return (← takeList fuel .block none).getD .empty

def takeChoice : (fuel : Nat) → Reading Command
  | 0 => fail "script too deep"
  | fuel + 1 => do
    let script : ScriptReader := fun bracketed s => (takeScript fuel bracketed s).map Prod.snd
    let test ← takeBlock fuel
    expectWord script "then"
    let yes ← takeBlock fuel
    match ← lookPast script with
    | .keyword "elif" =>
      let _ ← takeToken script keywords
      return .choice test yes (← takeChoice fuel)
    | .keyword "else" =>
      let _ ← takeToken script keywords
      let no ← takeBlock fuel
      expectWord script "fi"
      return .choice test yes no
    | _ =>
      expectWord script "fi"
      return .choice test yes .empty

def takeArms : (fuel : Nat) → Reading Command
  | 0 => fail "script too deep"
  | fuel + 1 => do
    let script : ScriptReader := fun bracketed s => (takeScript fuel bracketed s).map Prod.snd
    let t ← lookPast script
    match t with
    | .keyword "esac" =>
      let _ ← takeToken script keywords
      return .empty
    | t =>
      match t with
      | .mark "(" => let _ ← takeToken script []
      | _ => pure ()
      let patterns ← takePatterns script ((← get).rest.length + 2)
      let body := (← takeList fuel .option none).getD .empty
      let t ← lookPast script
      match t with
      | .keyword "esac" =>
        let _ ← takeToken script keywords
        return .arm patterns body .empty
      | .mark ";;" =>
        let _ ← takeToken script keywords
        return .arm patterns body (← takeArms fuel)
      | t =>
        let _ ← takeToken script keywords
        unexpected t (some ";;")

def takeCommand : (fuel : Nat) → Reading Command
  | 0 => fail "script too deep"
  | fuel + 1 => do
    let script : ScriptReader := fun bracketed s => (takeScript fuel bracketed s).map Prod.snd
    let size := (← get).rest.length + 1
    let close (wrap : List Redirection → Command) : Reading Command := do
      return wrap (← takeDirections script size)
    let redirect (line : Nat) (command : Command) : List Redirection → Command := fun rs =>
      if rs.isEmpty then command else .redirected line command rs
    let before ← get
    let t ← takeToken script keywords
    let line := (← get).line
    match t with
    | .keyword "if" =>
      let command ← takeChoice fuel
      close (redirect line command)
    | .keyword "while" =>
      let test ← takeBlock fuel
      expectWord script "do"
      let body ← takeBlock fuel
      expectWord script "done"
      close (redirect line (.loop false test body))
    | .keyword "until" =>
      let test ← takeBlock fuel
      expectWord script "do"
      let body ← takeBlock fuel
      expectWord script "done"
      close (redirect line (.loop true test body))
    | .keyword "for" =>
      let name ←
        match ← takeToken script [] with
        | .word word =>
          match plainText? word with
          | some text => if isName text then pure text else fail "Bad for loop variable"
          | none => fail "Bad for loop variable"
        | _ => fail "Bad for loop variable"
      let words ←
        match ← lookPast script with
        | .keyword "in" =>
          let _ ← takeToken script keywords
          let (words, t) ← takeWords script size
          match t with
          | .newline => pure (some words)
          | .mark ";" => pure (some words)
          | t => unexpected t none
        | .mark ";" =>
          let _ ← takeToken script keywords
          pure none
        | _ => pure none
      expectWord script "do"
      let body ← takeBlock fuel
      expectWord script "done"
      close (redirect line (.each line name words body))
    | .keyword "case" =>
      let t ← takeToken script []
      match t with
      | .word word =>
        expectWord script "in"
        let arms ← takeArms fuel
        close (redirect line (.select line word arms))
      | t => unexpected t (some "word")
    | .mark "(" =>
      let command ← takeBlock fuel
      skipNewlines script ((← get).rest.length + 1)
      let t ← takeToken script keywords
      match t with
      | .mark ")" => close (.subshell line command)
      | t => unexpected t (some ")")
    | .keyword "\x7b" =>
      let command ← takeBlock fuel
      expectWord script "\x7d"
      close (redirect line command)
    | .word _ =>
      let line := (← get).line
      set before
      takeSimple line fuel
    | .redirection _ _ =>
      let line := (← get).line
      set before
      takeSimple line fuel
    | t => unexpected t none

def takeSimple (line : Nat) : (fuel : Nat) → Reading Command
  | 0 => fail "script too deep"
  | fuel + 1 => do
    let script : ScriptReader := fun bracketed s => (takeScript fuel bracketed s).map Prod.snd
    skipBlanks ((← get).rest.length + 1)
    let (parts, isFunction) ← takeParts script ((← get).rest.length + 1) ⟨[], [], []⟩
    if !isFunction then return .simple line parts.settings parts.words parts.redirections
    let t ← takeToken script keywords
    match t with
    | .mark ")" =>
      match plainText? (parts.words.headD []) with
      | some name =>
        if !isName name || specialNames.contains name then fail "Bad function name"
        skipNewlines script ((← get).rest.length + 1)
        return .define line name (← takeCommand fuel)
      | none => fail "Bad function name"
    | t => unexpected t (some ")")

end

/-- Takes the next command of a script with the line feed behind it; none at the end. -/
def takeNext : Reading (Option Command) := do
  takeList (8 * (← get).rest.length + 64) .line none

def Source.ofText (text : Raw) : Source := ⟨text.toList, 1, [], [], 0⟩

end ConfigVault.Host.Shell
