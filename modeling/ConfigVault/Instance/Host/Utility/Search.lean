import ConfigVault.Instance.Host.Pattern.Reading
import ConfigVault.Instance.Host.Utility.Basic

/-!
# Searching lines

Lines in which one of some patterns is found, or those in which none is, with the lines around them,
their numbers, or only the parts that are found.
-/

namespace ConfigVault.Host.Utility

structure Search where
  pattern : Pattern
  folds : Bool
  inverted : Bool
  counts : Bool
  /-- Only the names of files in which something is found are told. -/
  names : Bool
  /-- Only the names of files in which nothing is found are told. -/
  otherNames : Bool
  quiet : Bool
  onlyParts : Bool
  numbered : Bool
  offsets : Bool
  titled : Bool
  asText : Bool
  textOnly : Bool
  lineEnd : Char
  /-- What stands behind the names of files that are told alone. -/
  nameEnd : Raw
  /-- What is told of a line begins at a tab stop. -/
  tabbed : Bool
  limit : Option Nat
  before : Nat
  behind : Nat
  around : Bool

def literalPattern (cs : List Char) : Pattern :=
  cs.foldr (fun c p => match p with
    | .nothing => Pattern.char c
    | p => .both (Pattern.char c) p) .nothing

def anyPattern : List Pattern → Pattern
  | [] => .nothing
  | [p] => p
  | p :: rest => .either p (anyPattern rest)

structure SearchLine where
  number : Nat
  offset : Nat
  text : Raw
  selected : Bool

namespace Search

def page (s : Search) (line : Raw) : Page := ⟨(Raw.letters line).toArray, s.folds, false, false⟩

def selects (s : Search) (line : Raw) : Bool := s.pattern.isIn (s.page line) != s.inverted

def parts (s : Search) (page : Page) (net : Net) : (fuel start : Nat) → List (Nat × Raw)
  | 0, _ => []
  | fuel + 1, start =>
    match s.pattern.findWith? page net start with
    | none => []
    | some found =>
      if found.finish = found.start then
        if page.letters.size ≤ found.start then [] else s.parts page net fuel (found.start + 1)
      else
        let text (i j : Nat) : Raw := Raw.ofLetters (page.letters.extract i j).toList
        ((text 0 found.start).length, text found.start found.finish) ::
          s.parts page net fuel found.finish

def split (s : Search) (content : Raw) : List Raw :=
  let texts := Raw.splitAt s.lineEnd content
  if texts.getLast? = some "" then texts.dropLast else texts

def lines (s : Search) (content : Raw) : List SearchLine :=
  ((s.split content).foldl (fun (acc : List SearchLine × Nat × Nat) line =>
    (⟨acc.2.1, acc.2.2, line, s.selects line⟩ :: acc.1, acc.2.1 + 1, acc.2.2 + line.length + 1))
    ([], 1, 0)).1.reverse

def limited (s : Search) (lines : List SearchLine) : List SearchLine :=
  match s.limit with
  | none => lines
  | some n =>
    let step (acc : List SearchLine × Nat) (l : SearchLine) : List SearchLine × Nat :=
      if l.selected && acc.2 = 0 then ({ l with selected := false } :: acc.1, 0)
      else (l :: acc.1, if l.selected then acc.2 - 1 else acc.2)
    (lines.foldl step ([], n)).1.reverse

def lineTitle (s : Search) (name : Raw) (l : SearchLine) (offset : Nat) (mark : Raw) : Raw :=
  (if s.titled then name ++ (if s.nameEnd = "\n" then mark else s.nameEnd) else "") ++
    (if s.numbered then toString l.number ++ mark else "") ++
    (if s.offsets then toString offset ++ mark else "") ++
    (if s.tabbed && (s.titled || s.numbered || s.offsets) then "\t" else "")

/-- A character that stands for no part of a text. -/
def isBroken (line : Raw) : Bool := (Raw.letters line).any Raw.isStray

def lineText (s : Search) (name : Raw) (l : SearchLine) (mark : Raw) : Raw × Bool :=
  let tells (text : Raw) : Bool := s.asText || !isBroken text
  if s.onlyParts then
    if s.inverted || mark = "-" then ("", false)
    else
      let page := s.page l.text
      let parts := s.parts page (s.pattern.netOver page) (page.letters.size + 1) 0
      let told := parts.filter fun p => tells p.2
      (String.join (told.map fun p =>
        s.lineTitle name l (l.offset + p.1) mark ++ p.2 ++ s.lineEnd.toString), told.length < parts.length)
  else if tells l.text then (s.lineTitle name l l.offset mark ++ l.text ++ s.lineEnd.toString, false)
  else ("", true)

def toldLines (s : Search) (lines : List SearchLine) : List SearchLine :=
  let marks := lines.map SearchLine.selected
  let spread (n : Nat) (marks : List Bool) : List Bool :=
    (marks.foldl (fun (acc : List Bool × Nat) m =>
      if m then (true :: acc.1, n) else ((0 < acc.2) :: acc.1, acc.2 - 1)) ([], 0)).1.reverse
  let behind := spread s.behind marks
  let before := (spread s.before marks.reverse).reverse
  ((lines.zip (behind.zip before)).filter fun p => p.2.1 || p.2.2).map Prod.fst

/-- Lines are told one by one with marks between those that are apart, and whether something is left
out.  The last number before is zero where nothing has been told yet. -/
def tellLines (s : Search) (name : Raw) : List SearchLine → (last : Nat) → List Raw × Bool
  | [], _ => ([], false)
  | l :: rest, last =>
    let gap := if s.around && last ≠ 0 && last + 1 < l.number then ["--\n"] else []
    let (text, broken) := s.lineText name l (if l.selected then ":" else "-")
    let (more, brokenBehind) := s.tellLines name rest (if text.isEmpty then last else l.number)
    (gap ++ text :: more, broken || brokenBehind)

structure Report where
  output : Raw
  found : Bool
  withheld : Bool

/-- What is told of a file; `apart` says that something has been told of another one.  In a file with a
character that no text has, the lines end there as well. -/
def tell (s : Search) (name content : Raw) (apart : Bool) : Report :=
  let isBinary := !s.asText && s.lineEnd = '\n' && content.toList.contains '\x00'
  let content := if isBinary then content.replace "\x00" "\n" else content
  let lines := if isBinary && s.textOnly then [] else s.limited (s.lines content)
  let count := (lines.filter SearchLine.selected).length
  let title := if s.titled then name ++ (if s.nameEnd = "\n" then ":" else s.nameEnd) else ""
  let found := 0 < count
  if s.quiet then ⟨"", found, false⟩
  else if s.otherNames then ⟨if found then "" else name ++ s.nameEnd, found, false⟩
  else if s.names then ⟨if found then name ++ s.nameEnd else "", found, false⟩
  else if s.counts then ⟨title ++ toString count ++ "\n", found, false⟩
  else if isBinary then ⟨"", found, found⟩
  else
    let told := s.toldLines lines
    let (texts, broken) := s.tellLines name told 0
    let gap := if s.around && apart && !texts.isEmpty then "--\n" else ""
    ⟨gap ++ String.join texts, found, broken && !s.textOnly⟩

end Search

def filesBelow (disk : Disk) : (fuel : Nat) → (path : Raw) → Place → List Raw
  | 0, _, _ => []
  | fuel + 1, path, place =>
    match disk.node? place with
    | some .folder =>
      (disk.names place).flatMap fun name =>
        filesBelow disk fuel (if path.isEmpty then name else path ++ "/" ++ name) (place ++ [name])
    | some (.file _ _) => [path]
    | _ => []

def contextOf (c : Choices) (letter : Char) : Except Raw (Option Nat) :=
  match c.value? letter with
  | none => .ok none
  | some word =>
    match Raw.nat? word.toList with
    | some n => .ok (some n)
    | none => .error (word ++ ": invalid context length argument")

def searchWords (c : Choices) : Task (Option (List Raw) × List Raw × Option Raw) := do
  if c.has 'e' || c.has 'f' then
    let mut words := (c.values 'e').flatMap (Raw.splitAt '\n')
    for name in c.values 'f' do
      match ← readOperand name with
      | .ok content => words := words ++ Raw.lines content
      | .error fault => return (none, [], some (shown name ++ ": " ++ fault.message))
    return (some words, c.arguments, none)
  else
    match c.arguments with
    | word :: files => return (some (Raw.splitAt '\n' word), files, none)
    | [] => return (none, [], none)

def searchFlags : List Flag :=
  [flag 'E' "extended-regexp", flag 'F' "fixed-strings", flag 'G' "basic-regexp", flag 'P' "perl-regexp",
    valued 'e' "regexp", valued 'f' "file", flag 'i' "ignore-case", flag 'y' "", flag 'v' "invert-match",
    flag 'w' "word-regexp", flag 'x' "line-regexp", flag 'c' "count", flag 'l' "files-with-matches",
    flag 'L' "files-without-match", flag 'q' "quiet", longFlag 'q' "silent", flag 's' "no-messages",
    flag 'n' "line-number", flag 'H' "with-filename", flag 'h' "no-filename", flag 'o' "only-matching",
    flag 'b' "byte-offset", valued 'm' "max-count", valued 'A' "after-context",
    valued 'B' "before-context", valued 'C' "context", flag 'r' "recursive",
    flag 'R' "dereference-recursive", flag 'a' "text", flag 'U' "binary", flag 'z' "null-data",
    longFlag '1' "line-buffered", longFlag '2' "color", longFlag '2' "colour", flag 'I' "",
    longValued '3' "include", longValued '4' "exclude", flag 'T' "initial-tab", flag 'Z' "null",
    longFlag '5' "no-ignore-case"]

def searchPattern (c : Choices) (dialect : Char) (word : Raw) :
    Except Pattern.Fault (Pattern × List Raw) := do
  let (pattern, idle) ←
    if dialect = 'F' then pure (literalPattern (Raw.letters word), [])
    else if dialect = 'P' then
      Pattern.ofLetters .extended (Raw.letters (word.replace "\x5cd" "[0-9]"))
    else Pattern.ofLetters (if dialect = 'E' then .extended else .basic) (Raw.letters word)
  let pattern :=
    if c.has 'x' then .both (.edge .lineStart) (.both pattern (.edge .lineEnd))
    else if c.has 'w' then .both (.edge .notBehindWord) (.both pattern (.edge .notBeforeWord))
    else pattern
  return (pattern, idle)

/-- A class of characters by its name with one pair of brackets only. -/
def isLoneClass (word : Raw) : Bool :=
  let cs := word.toList
  let inner := (cs.drop 2).dropLast.dropLast
  "[:".isPrefixOf word && cs.length = inner.length + 4 && cs.drop (cs.length - 2) = [':', ']'] &&
    inner.all Char.isAlpha

/-- A word of a dash and digits asks for as many lines around. -/
def expandContext (words : List Raw) : List Raw :=
  words.flatMap fun w =>
    match w.toList with
    | '-' :: c :: cs => if (c :: cs).all Char.isDigit then ["-C", String.ofList (c :: cs)] else [w]
    | _ => [w]

/-- Complains about the way it is used. -/
def misused (message : Option Raw) : Task Nat := do
  if let some message := message then Task.complain message
  Task.err "Usage: grep [OPTION]... PATTERNS [FILE]...\nTry 'grep --help' for more information.\n"
  return 2

def searchWith (standard : Char) (c : Choices) : Task Nat := do
  match ← searchWords c with
  | (none, _, some message) =>
    Task.complain message
    return 2
  | (none, _, none) => misused none
  | (some words, files, _) =>
    let dialect := (c.lastOf ['E', 'F', 'G', 'P']).getD standard
    let dialect := if dialect = 'G' then 'g' else dialect
    match contextOf c 'A', contextOf c 'B', contextOf c 'C',
        (c.value? 'm').map fun w => Raw.int? w.toList with
    | .error message, _, _, _ => Task.complain message; return 2
    | _, .error message, _, _ => Task.complain message; return 2
    | _, _, .error message, _ => Task.complain message; return 2
    | _, _, _, some none => Task.complain "invalid max count"; return 2
    | .ok behind, .ok before, .ok both, limit =>
      if dialect ≠ 'F' && words.any isLoneClass then
        Task.complain "character class syntax is [[:space:]], not [:space:]"
        return 2
      match words.mapM (searchPattern c dialect) with
      | .error fault =>
        Task.complain fault.message
        return 2
      | .ok patterns =>
        for sign in patterns.flatMap Prod.snd do
          Task.complain ("warning: " ++ sign ++ " at start of expression")
        let recursive := c.has 'r' || c.has 'R'
        let names := if files.isEmpty then [if recursive then "." else "-"] else files
        let job ← read
        let disk := (← get).disk
        let keeps (path : Raw) : Bool :=
          let name := (path.toList.reverse.takeWhile (· ≠ '/')).reverse
          (match c.values '3' with
          | [] => true
          | globs => globs.any fun g => (Glob.ofText g).isMatch name) &&
            !(c.values '4').any fun g => (Glob.ofText g).isMatch name
        let expand (name : Raw) : List Raw :=
          if !recursive then [name]
          else
            match disk.find job.folder name with
            | .ok (place, .folder) =>
              (filesBelow disk 64 (if files.isEmpty then "" else name) place).filter keeps
            | _ => [name]
        let anyFolder := recursive && names.any fun name =>
          (disk.find job.folder name).toOption.map Prod.snd = some .folder
        let names := names.flatMap expand
        let s : Search :=
          { pattern := anyPattern (patterns.map Prod.fst), folds := c.has 'i' || c.has 'y'
            inverted := c.has 'v', counts := c.has 'c', names := c.has 'l', otherNames := c.has 'L'
            quiet := c.has 'q', onlyParts := c.has 'o', numbered := c.has 'n', offsets := c.has 'b'
            titled := (c.has 'H' || 1 < names.length || anyFolder) && !c.has 'h'
            asText := c.has 'a', textOnly := c.has 'I', lineEnd := if c.has 'z' then '\x00' else '\n'
            nameEnd := if c.has 'Z' then "\x00" else "\n", tabbed := c.has 'T'
            limit := (limit.bind id).bind fun n => if n < 0 then none else some n.toNat
            before := (before.or both).getD 0, behind := (behind.or both).getD 0
            around := (behind.or (before.or both)).isSome }
        let mut found := false
        let mut failed := false
        let mut told := false
        for name in names do
          if !(s.quiet && found) then
            match ← readOperand name with
            | .error fault =>
              failed := true
              if !c.has 's' then
                Task.complain ((if name = "-" then "(standard input)" else name) ++ ": " ++ fault.message)
            | .ok content =>
              let title := if name = "-" then "(standard input)" else name
              let report := if words.isEmpty && !c.has 'v' then ⟨"", false, false⟩ else s.tell title content told
              Task.out report.output
              if report.withheld then Task.complain (title ++ ": binary file matches")
              told := told || !report.output.isEmpty
              found := found || report.found
        return if found && (s.quiet || !failed) then 0 else if failed then 2 else 1

/-- Searches lines, with patterns in a dialect where nothing else is said. -/
def grep (standard : Char) (words : List Raw) : Task Nat := do
  let words := expandContext (words.map fun w => if "--color=".isPrefixOf w then "--color" else w)
  match takeChoices searchFlags true (words.foldl (fun n w => n + w.length + 1) 1) words with
  | .ok c => searchWith standard c
  | .error message => misused (some message)

/-- Searches lines under the name of the general utility. -/
def grepAs (standard : Char) (words : List Raw) : Task Nat :=
  ReaderT.adapt (fun (job : Job) => { job with name := "grep" }) (grep standard words)

def searchUtilities : List (Raw × Program) :=
  [("grep", .plain (grep 'g')), ("egrep", .plain (grepAs 'E')), ("fgrep", .plain (grepAs 'F'))]

end ConfigVault.Host.Utility
