import ConfigVault.Instance.Host.Pattern.Reading
import ConfigVault.Instance.Host.Utility.Basic

/-!
# Scripts for editing streams

The commands of an editor of streams: what lines they are for, and what they do.  Commands stand in one
row; a group knows the place behind its end, and a jump the place of its label.
-/

namespace ConfigVault.Host.Edit

/-- A pattern of a script; an empty one is the last one that was used. -/
structure Finder where
  pattern : Option Pattern
  folds : Bool
  lines : Bool

inductive Address where
  | number (n : Nat)
  | last
  | finder (f : Finder)
  | stride (first step : Nat)

inductive RangeEnd where
  | address (a : Address)
  | more (count : Nat)
  | multiple (n : Nat)

def RangeEnd.isAddress : RangeEnd → Bool
  | .address _ => true
  | _ => false

inductive Lines where
  | all
  | one (a : Address)
  | range (first : Address) (finish : RangeEnd)

inductive CaseChange where
  | upper
  | lower
  | upperNext
  | lowerNext
  | none
  deriving DecidableEq

inductive Replacement where
  | char (c : Char)
  | group (n : Nat)
  | change (c : CaseChange)

/-- A command that replaces matches. -/
structure Substitution where
  finder : Finder
  replacement : List Replacement
  everywhere : Bool
  first : Nat
  prints : Bool
  file : Option Raw

inductive Action where
  | group (finish : Nat)
  | groupEnd
  | substitute (s : Substitution)
  | replaceChars (table : List (Char × Char))
  | append (text : Raw)
  | insert (text : Raw)
  | change (text : Raw)
  | delete
  | deleteFirst
  | print
  | printFirst
  | next
  | nextAppended
  | hold
  | holdAppended
  | get
  | getAppended
  | exchange
  | list (width : Option Nat)
  | number
  | name
  | empty
  | quit (status : Nat) (quietly : Bool)
  | jump (label : Raw)
  | jumpIf (done : Bool) (label : Raw)
  | label (name : Raw)
  | read (file : Raw)
  | readLine (file : Raw)
  | write (file : Raw)
  | writeFirst (file : Raw)

structure Command where
  lines : Lines
  negated : Bool
  action : Action

/-! ## Reading -/

/-- Why a text is no script: at which of its characters, and in which words. -/
structure Fault where
  place : Option Nat
  message : Raw

/-- What is known while a script is read. -/
structure Progress where
  rest : List Char
  place : Nat
  commands : Array Command
  groups : List Nat
  extended : Bool

abbrev Reading (α : Type) := StateT Progress (Except Fault) α

namespace Reading

def fail {α : Type} (message : Raw) : Reading α := fun p => .error ⟨some p.place, message⟩

def peek : Reading (Option Char) := do return (← get).rest.head?

def skip (count : Nat) : Reading Unit :=
  modify fun p => { p with rest := p.rest.drop count, place := p.place + min count p.rest.length }

def take : Reading (Option Char) := do
  let c ← peek
  modify fun p => { p with rest := p.rest.drop 1, place := p.place + 1 }
  return c

def takeWhile (p : Char → Bool) : Reading (List Char) := do
  let cs := (← get).rest.takeWhile p
  skip cs.length
  return cs

def skipBlanks : Reading Unit := do
  let _ ← takeWhile fun c => c = ' ' || c = '\t'

end Reading

open Reading

def letterEscape? (c : Char) : Option Char :=
  match c with
  | 'n' => some '\n'
  | 't' => some '\t'
  | 'f' => some '\x0c'
  | 'v' => some '\x0b'
  | 'a' => some '\x07'
  | 'r' => some '\r'
  | _ => none

/-- A character by its number in base sixteen, eight or ten behind a backslash. -/
def numberEscape? (cs : List Char) : Option (Char × List Char) :=
  let take (base count : Nat) (rest : List Char) : Option (Char × List Char) :=
    let digits := (rest.take count).takeWhile fun d => (Number.digit? d).any (· < base)
    if digits.isEmpty then none
    else some (Char.ofNat ((Number.takeDigits base digits).1 % 256), rest.drop digits.length)
  match cs with
  | 'x' :: rest => take 16 2 rest
  | 'o' :: rest => take 8 3 rest
  | 'd' :: rest => take 10 3 rest
  | _ => none

/-- The characters of a set in a pattern behind its opening bracket, up to the closing one, and what
follows, within `fuel` characters; nothing if it is not closed. -/
def takeSet : (fuel : Nat) → (first : Bool) → List Char → Option (List Char × List Char)
  | 0, _, _ => none
  | _ + 1, _, [] => none
  | _ + 1, false, ']' :: rest => some ([']'], rest)
  | fuel + 1, _, '[' :: c :: rest =>
    if c = ':' || c = '.' || c = '=' then
      let name := rest.takeWhile (· ≠ c)
      match rest.drop name.length with
      | _ :: ']' :: rest =>
        (takeSet fuel false rest).map fun r => ('[' :: c :: name ++ [c, ']'] ++ r.1, r.2)
      | _ => none
    else (takeSet fuel false (c :: rest)).map fun r => ('[' :: r.1, r.2)
  | fuel + 1, _, '\\' :: 'n' :: rest => (takeSet fuel false rest).map fun r => ('\n' :: r.1, r.2)
  | fuel + 1, true, '^' :: ']' :: rest =>
    (takeSet fuel false rest).map fun r => ('^' :: ']' :: r.1, r.2)
  | fuel + 1, _, c :: rest => (takeSet fuel false rest).map fun r => (c :: r.1, r.2)

/-- Takes the text up to a mark, within `fuel` characters; nothing if there is no mark.  The mark
itself is written with a backslash in front, or in a set of a pattern. -/
def takeUpTo (mark : Char) (inPattern : Bool) : (fuel : Nat) → Reading (Option (List Char))
  | 0 => return none
  | fuel + 1 => do
    match ← peek with
    | none => return none
    | some c =>
      skip 1
      if c = mark then return some []
      else if c = '\\' then
        match ← peek with
        | none => return none
        | some d =>
          skip 1
          let front : List Char :=
            if d = mark then (if d = '&' && !inPattern then ['\\', d] else [d])
            else if d = 'n' && inPattern then ['\n']
            else ['\\', d]
          return (← takeUpTo mark inPattern fuel).map (front ++ ·)
      else if c = '[' && inPattern then
        let rest := (← get).rest
        match takeSet (rest.length + 1) true rest with
        | none =>
          skip rest.length
          return none
        | some (set, left) =>
          skip (rest.length - left.length)
          return (← takeUpTo mark inPattern fuel).map ('[' :: set ++ ·)
      else if c = '\n' && inPattern then return none
      else return (← takeUpTo mark inPattern fuel).map (c :: ·)

/-- A text of a pattern with the characters put in that it names by letters and numbers. -/
def plainPattern : (fuel : Nat) → List Char → List Char
  | 0, cs => cs
  | _ + 1, [] => []
  | fuel + 1, '\\' :: c :: rest =>
    match letterEscape? c, numberEscape? (c :: rest) with
    | some d, _ => d :: plainPattern fuel rest
    | none, some (d, rest) =>
      if ['*', '.', '[', ']', '^', '$', '\\'].contains d then '\\' :: d :: plainPattern fuel rest
      else d :: plainPattern fuel rest
    | none, none => '\\' :: c :: plainPattern fuel rest
  | fuel + 1, c :: rest => c :: plainPattern fuel rest

def readFinder (text : List Char) (folds lines : Bool) : Reading Finder := do
  if text.isEmpty then
    if folds || lines then fail "cannot specify modifiers on empty regexp"
    else return ⟨none, false, false⟩
  else
    let letters := Raw.letters (String.ofList (plainPattern (text.length + 1) text))
    let extended := (← get).extended
    let repeats := extended && (letters.head?.any fun c => c = '*' || c = '+' || c = '?')
    if repeats then fail Pattern.Fault.nothingToRepeat.message
    match Pattern.ofLetters (if extended then .extended else .basic) letters with
    | .ok (pattern, _) => return ⟨some pattern, folds, lines⟩
    | .error fault => fail fault.message

def takeNumber : Reading Nat := do return (Raw.nat? (← takeWhile Char.isDigit)).getD 0

/-- Takes the letters behind the pattern of an address, within `fuel` of them. -/
def takeFinderFlags : (fuel : Nat) → (folds lines : Bool) → Reading (Bool × Bool)
  | 0, folds, lines => return (folds, lines)
  | fuel + 1, folds, lines => do
    match ← peek with
    | some 'I' => skip 1; takeFinderFlags fuel true lines
    | some 'M' => skip 1; takeFinderFlags fuel folds true
    | _ => return (folds, lines)

def takeAddress? : Reading (Option Address) := do
  match ← peek with
  | none => return none
  | some c =>
    if c.isDigit then
      let n ← takeNumber
      skipBlanks
      if (← peek) = some '~' then
        skip 1
        return some (.stride n (← takeNumber))
      else return some (.number n)
    else if c = '$' then
      skip 1
      return some .last
    else if c = '/' || c = '\\' then
      skip 1
      let mark ← if c = '\\' then do pure ((← take).getD '/') else pure '/'
      match ← takeUpTo mark true ((← get).rest.length + 1) with
      | none => fail "unterminated address regex"
      | some text =>
        let (folds, lines) ← takeFinderFlags 8 false false
        return some (.finder (← readFinder text folds lines))
    else return none

def takeLines : Reading Lines := do
  match ← takeAddress? with
  | none => return .all
  | some first =>
    skipBlanks
    if (← peek) = some ',' then
      skip 1
      skipBlanks
      match ← peek with
      | some '+' =>
        skip 1
        return .range first (.more (← takeNumber))
      | some '~' =>
        skip 1
        return .range first (.multiple (← takeNumber))
      | _ =>
        match ← takeAddress? with
        | some finish =>
          match first, finish with
          | .number 0, .finder _ => return .range first (.address finish)
          | .number 0, _ => skip 1; fail "invalid usage of line address 0"
          | _, _ => return .range first (.address finish)
        | none => skip 1; fail "unexpected \x60,'"
    else
      match first with
      | .number 0 => skip 1; fail "invalid usage of line address 0"
      | _ => return .one first

/-- Takes what follows a command: nothing but blanks up to its end. -/
def takeEnd : Reading Unit := do
  skipBlanks
  match ← peek with
  | none => return ()
  | some '\n' => skip 1
  | some ';' => skip 1
  | some '}' => return ()
  | some '#' => return ()
  | some _ =>
    skip 1
    fail "extra characters after command"

/-- Takes the text of a command that adds lines, within `fuel` characters: up to a line feed that has no
backslash in front. -/
def takeTextLines : (fuel : Nat) → Reading (List Char)
  | 0 => return []
  | fuel + 1 => do
    match ← peek with
    | none => return []
    | some '\n' => skip 1; return []
    | some '\\' =>
      skip 1
      match ← peek with
      | none => return []
      | some c =>
        skip 1
        return c :: (← takeTextLines fuel)
    | some c =>
      skip 1
      return c :: (← takeTextLines fuel)

def takeText : Reading Raw := do
  skipBlanks
  match ← peek with
  | none => fail "expected \x5c after \x60a', \x60c' or \x60i'"
  | some '\\' =>
    skip 1
    let rest := (← get).rest
    let blanks := rest.takeWhile fun c => c = ' ' || c = '\t'
    if rest[blanks.length]? = some '\n' then skip (blanks.length + 1)
    if (← peek).isNone then return ""
  | some _ => pure ()
  let cs ← takeTextLines ((← get).rest.length + 1)
  return String.ofList cs ++ "\n"

/-- Takes the name of a label: up to a blank or the end of the command. -/
def takeLabel : Reading Raw := do
  skipBlanks
  let cs ← takeWhile fun c => !(Number.isBlank c || c = ';' || c = '}')
  if (← peek) = some ';' then skip 1
  return String.ofList cs

def takeFile : Reading Raw := do
  skipBlanks
  let cs ← takeWhile (· ≠ '\n')
  if cs.isEmpty then fail "missing filename in r/R/w/W commands"
  skip 1
  return String.ofList cs

def replacementOf : (fuel : Nat) → List Char → List Replacement
  | 0, _ => []
  | _ + 1, [] => []
  | fuel + 1, '\\' :: c :: rest =>
    if c.isDigit then .group (c.toNat - 48) :: replacementOf fuel rest
    else
      match c with
      | 'U' => .change .upper :: replacementOf fuel rest
      | 'L' => .change .lower :: replacementOf fuel rest
      | 'u' => .change .upperNext :: replacementOf fuel rest
      | 'l' => .change .lowerNext :: replacementOf fuel rest
      | 'E' => .change .none :: replacementOf fuel rest
      | c =>
        match letterEscape? c, numberEscape? (c :: rest) with
        | some d, _ => .char d :: replacementOf fuel rest
        | none, some (d, rest) => .char d :: replacementOf fuel rest
        | none, none => .char c :: replacementOf fuel rest
  | fuel + 1, '&' :: rest => .group 0 :: replacementOf fuel rest
  | fuel + 1, c :: rest => .char c :: replacementOf fuel rest

/-- What is asked for behind a replacement. -/
structure SubstitutionFlags where
  everywhere : Bool
  prints : Bool
  folds : Bool
  lines : Bool
  count : Option Nat
  file : Option Raw

def takeSubstitutionFlags : (fuel : Nat) → SubstitutionFlags → Reading SubstitutionFlags
  | 0, f => return f
  | fuel + 1, f => do
    match ← peek with
    | some 'g' =>
      skip 1
      if f.everywhere then fail "multiple \x60g' options to \x60s' command"
      takeSubstitutionFlags fuel { f with everywhere := true }
    | some 'p' =>
      skip 1
      if f.prints then fail "multiple \x60p' options to \x60s' command"
      takeSubstitutionFlags fuel { f with prints := true }
    | some 'i' => skip 1; takeSubstitutionFlags fuel { f with folds := true }
    | some 'I' => skip 1; takeSubstitutionFlags fuel { f with folds := true }
    | some 'm' => skip 1; takeSubstitutionFlags fuel { f with lines := true }
    | some 'M' => skip 1; takeSubstitutionFlags fuel { f with lines := true }
    | some 'w' =>
      skip 1
      return { f with file := some (← takeFile) }
    | some '}' => return f
    | some '#' => return f
    | some ';' => skip 1; return f
    | some '\n' => skip 1; return f
    | none => return f
    | some c =>
      if c.isDigit then
        let n ← takeNumber
        if f.count.isSome then fail "multiple number options to \x60s' command"
        if n = 0 then fail "number option to \x60s' command may not be zero"
        takeSubstitutionFlags fuel { f with count := some n }
      else if c = ' ' || c = '\t' || c = '\r' then
        skip 1
        takeSubstitutionFlags fuel f
      else
        skip 1
        fail "unknown option to \x60s'"

def takeSubstitution : Reading Action := do
  let size := (← get).rest.length + 2
  let fault := "unterminated \x60s' command"
  match ← peek with
  | none => fail fault
  | some mark =>
    skip 1
    match ← takeUpTo mark true size with
    | none => fail fault
    | some text =>
      match ← takeUpTo mark false size with
      | none => fail fault
      | some replacement =>
        let flags ← takeSubstitutionFlags size ⟨false, false, false, false, none, none⟩
        let finder ← readFinder text flags.folds flags.lines
        let parts := replacementOf (replacement.length + 1) replacement
        let groups := (finder.pattern.map Pattern.groups).getD 9
        let wrong := parts.findSome? fun
          | .group n => if groups < n then some n else none
          | _ => none
        if let some n := wrong then
          fail ("invalid reference \x5c" ++ toString n ++ " on \x60s' command's RHS")
        return .substitute
          ⟨finder, parts, flags.everywhere, flags.count.getD 1, flags.prints, flags.file⟩

def listChars : List Char → List Char
  | '\\' :: 'n' :: rest => '\n' :: listChars rest
  | '\\' :: '\\' :: rest => '\\' :: listChars rest
  | '\\' :: 't' :: rest => '\t' :: listChars rest
  | c :: rest => c :: listChars rest
  | [] => []

def takeChars : Reading Action := do
  let size := (← get).rest.length + 2
  let fault := "unterminated \x60y' command"
  match ← peek with
  | none => fail fault
  | some mark =>
    skip 1
    match ← takeUpTo mark false size with
    | none => fail fault
    | some source =>
      match ← takeUpTo mark false size with
      | none => fail fault
      | some target =>
        let letters (cs : List Char) : List Char := Raw.letters (String.ofList (listChars cs))
        let source := letters source
        let target := letters target
        if source.length ≠ target.length then
          fail "strings for \x60y' command are different lengths"
        takeEnd
        return .replaceChars (source.zip target)

def simpleAction? (c : Char) : Option Action :=
  match c with
  | 'd' => some .delete
  | 'D' => some .deleteFirst
  | 'p' => some .print
  | 'P' => some .printFirst
  | 'n' => some .next
  | 'N' => some .nextAppended
  | 'h' => some .hold
  | 'H' => some .holdAppended
  | 'g' => some .get
  | 'G' => some .getAppended
  | 'x' => some .exchange
  | '=' => some .number
  | 'F' => some .name
  | 'z' => some .empty
  | _ => none

def takeStatus : Reading Nat := do
  skipBlanks
  let n ← takeNumber
  takeEnd
  return n

def takeAction (c : Char) (lines : Lines) : Reading Action := do
  let oneOnly : Reading Unit :=
    match lines with
    | .range _ _ => fail "command only uses one address"
    | _ => return ()
  match simpleAction? c with
  | some action =>
    takeEnd
    return action
  | none =>
    match c with
    | '{' =>
      let i := (← get).commands.size
      modify fun p => { p with groups := i :: p.groups }
      return .group 0
    | '}' =>
      match (← get).groups with
      | [] => fail "unexpected \x60\x7d'"
      | i :: rest =>
        match lines with
        | .all => pure ()
        | _ => fail "\x7d doesn't want any addresses"
        let finish := (← get).commands.size
        modify fun p =>
          { p with
            groups := rest
            commands := p.commands.modify i fun command => { command with action := .group finish } }
        takeEnd
        return .groupEnd
    | 's' => takeSubstitution
    | 'y' => takeChars
    | 'a' => return .append (← takeText)
    | 'i' => return .insert (← takeText)
    | 'c' => return .change (← takeText)
    | 'q' => oneOnly; return .quit (← takeStatus) false
    | 'Q' => oneOnly; return .quit (← takeStatus) true
    | 'l' =>
      skipBlanks
      let digits ← takeWhile Char.isDigit
      takeEnd
      return .list (Raw.nat? digits)
    | 'b' => return .jump (← takeLabel)
    | 't' => return .jumpIf true (← takeLabel)
    | 'T' => return .jumpIf false (← takeLabel)
    | ':' =>
      match lines with
      | .all => pure ()
      | _ => fail ": doesn't want any addresses"
      let name ← takeLabel
      if name.isEmpty then
        fail "\x22:\x22 lacks a label"
      return .label name
    | 'v' =>
      let _ ← takeLabel
      return .label ""
    | 'r' => return .read (← takeFile)
    | 'R' => return .readLine (← takeFile)
    | 'w' => return .write (← takeFile)
    | 'W' => return .writeFirst (← takeFile)
    | c => fail ("unknown command: \x60" ++ c.toString ++ "'")

def takeCommands : (fuel : Nat) → Reading Unit
  | 0 => return ()
  | fuel + 1 => do
    let _ ← takeWhile fun c => c = ' ' || c = '\t' || c = '\n' || c = ';'
    match ← peek with
    | none => return ()
    | some '#' =>
      let _ ← takeWhile (· ≠ '\n')
      takeCommands fuel
    | some _ =>
      let lines ← takeLines
      skipBlanks
      let marks ← takeWhile fun c => c = '!' || c = ' '
      if 1 < (marks.filter (· = '!')).length then fail "multiple \x60!'s"
      match ← peek with
      | none => fail "missing command"
      | some c =>
        skip 1
        if c = '#' then fail "comments don't accept any addresses"
        let place := (← get).commands.size
        if c = '{' then
          let command := ⟨lines, !marks.isEmpty, .groupEnd⟩
          modify fun p => { p with commands := p.commands.push command }
        let before := (← get).groups
        if c = '{' then
          modify fun p => { p with groups := place :: before }
        else
          let action ← takeAction c lines
          modify fun p => { p with commands := p.commands.push ⟨lines, marks.contains '!', action⟩ }
        takeCommands fuel

def Command.hasLabel (name : Raw) (c : Command) : Bool :=
  match c.action with
  | .label other => other = name
  | _ => false

def missingLabel? (commands : Array Command) : Option Raw :=
  commands.toList.findSome? fun c =>
    let check (name : Raw) : Option Raw :=
      if name.isEmpty || commands.any (Command.hasLabel name) then none else some name
    match c.action with
    | .jump name => check name
    | .jumpIf _ name => check name
    | _ => none

/-- A part of a script: a text that is given, or that of a file. -/
structure Part where
  file : Option Raw
  text : Raw

def isContinued (text : Raw) : Bool :=
  (text.toList.reverse.takeWhile (· = '\\')).length % 2 = 1

def joinParts : List Part → List Part
  | [] => []
  | p :: rest =>
    match joinParts rest with
    | q :: more =>
      if p.file.isNone && q.file.isNone && isContinued p.text then
        ⟨none, p.text ++ "\n" ++ q.text⟩ :: more
      else p :: q :: more
    | [] => [p]

/-- Where a fault is: the number of the text and the character in it, or the line of the file. -/
def Fault.title (f : Fault) (part : Part) (number : Nat) : Raw :=
  match part.file with
  | none =>
    "-e expression #" ++ toString number ++
      (match f.place with
      | some n => ", char " ++ toString n
      | none => "") ++ ": "
  | some name =>
    let front := (part.text.take (f.place.getD 0)).toString.toList
    "file " ++ name ++ " line " ++ toString ((front.dropLast.filter (· = '\n')).length + 1) ++ ": "

/-- Why parts are no script: the words for it, and the status with which that is told. -/
structure Refusal where
  message : Raw
  status : Nat

def readParts (extended : Bool) : List Part → (number : Nat) → Array Command → (groups : List Nat) →
    Except Refusal (Array Command)
  | [], _, commands, groups =>
    if !groups.isEmpty then .error ⟨"-e expression #1, char 0: unmatched \x60\x7b'", 1⟩
    else
      match missingLabel? commands with
      | some name => .error ⟨"can't find label for jump to \x60" ++ name ++ "'", 4⟩
      | none => .ok commands
  | part :: rest, number, commands, groups =>
    let cs := part.text.toList
    match (takeCommands (cs.length + 1)).run ⟨cs, 0, commands, groups, extended⟩ with
    | .ok (_, p) =>
      readParts extended rest (if part.file.isNone then number + 1 else number) p.commands p.groups
    | .error fault => .error ⟨fault.title part number ++ fault.message, 1⟩

def readScript (extended : Bool) (parts : List Part) : Except Refusal (Array Command) :=
  readParts extended (joinParts parts) 1 #[] []

end ConfigVault.Host.Edit
