import ConfigVault.Instance.Host.Edit.Script
import ConfigVault.Text.Case

/-!
# Editing streams

Runs a script for each line of some files.  Two texts are at hand, the one that is edited and one that is
kept; the edited one is written when the script has been gone through.  A last line without a line feed
is written without one, unless more is written behind it.
-/

namespace ConfigVault.Host.Edit

structure Manner where
  quiet : Bool
  separate : Bool
  mark : Char
  /-- The number of columns of lines that show every character. -/
  width : Nat
  /-- Files are replaced by what comes of them, and kept under their names with an ending. -/
  inPlace : Option Raw

inductive RangeState where
  | idle
  /-- Within the range, which may end at a line of a known number. -/
  | active (finish : Option Nat)
  | closed
  deriving DecidableEq

/-- What is written at the end of a round. -/
inductive Appended where
  | text (text : Raw)
  | file (name : Raw)
  | line (text : Raw)

structure Sink where
  name : Raw
  pieces : List Raw
  unfinished : Bool

namespace Sink

/-- Writes; a line that lacks its end gets it first. -/
def put (s : Sink) (text : Raw) (mark : Char) : Sink :=
  { s with
    pieces := text :: (if s.unfinished then mark.toString :: s.pieces else s.pieces)
    unfinished := false }

def putLine (s : Sink) (line : Raw) (complete : Bool) (mark : Char) : Sink :=
  let s := s.put line mark
  if complete then { s with pieces := mark.toString :: s.pieces } else { s with unfinished := true }

def complete (s : Sink) (mark : Char) : Sink := if s.unfinished then s.put "" mark else s

/-- Writes a text that ends with a line feed, which the mark takes the place of. -/
def putText (s : Sink) (text : Raw) (mark : Char) : Sink :=
  if text.isEmpty then s.put text mark
  else s.putLine (String.ofList text.toList.dropLast) true mark

def text (s : Sink) : Raw := String.join s.pieces.reverse

end Sink

/-- What is known while streams are edited. -/
structure Flow where
  space : Raw
  complete : Bool
  kept : Raw
  keptComplete : Bool
  number : Nat
  appended : List Appended
  replaced : Bool
  lines : List Raw
  whole : Bool
  /-- The number of bytes of the file that have been read. -/
  passed : Nat
  files : List Raw
  name : Raw
  starts : Array RangeState
  ranges : Array RangeState
  last : Option Pattern
  output : Sink
  sinks : List Sink
  readers : List (Raw × List Raw)
  status : Nat
  /-- The number of letters that have been gone through since a line was read. -/
  work : Nat

/-- Why editing stops before its end. -/
inductive Halt where
  | quit (status : Nat)
  | failed (message : Raw) (status : Nat)
  | endless

abbrev Editing (α : Type) := ExceptT Halt (StateT Flow Task) α

namespace Editing

def act {α : Type} (task : Task α) : Editing α := ExceptT.lift (StateT.lift task)

def halt {α : Type} (h : Halt) : Editing α := throw h

/-- The number of letters after which a script for one line is taken to have no end. -/
def maxWork : Nat := 20000000

def spend (count : Nat) : Editing Unit := do
  let work := (← get).work + count
  modify fun f => { f with work }
  if maxWork < work then halt .endless

def putTo (file : Raw) (line : Raw) (complete : Bool) (mark : Char) : Editing Unit := do
  modify fun f =>
    { f with
      sinks := f.sinks.map fun s => if s.name = file then s.putLine line complete mark else s }

def flush : Editing Unit := do
  for s in (← get).sinks do
    if !s.pieces.isEmpty then
      if s.name = "/dev/stdout" then
        modify fun f => { f with output := { f.output with pieces := s.pieces ++ f.output.pieces } }
      else if s.name = "/dev/stderr" then act (Task.err s.text)
      else
        let _ ← act (Task.writePath s.name s.text .append)
  modify fun f => { f with sinks := f.sinks.map fun s => { s with pieces := [] } }

/-! ## Lines -/

def replaceFile (m : Manner) : Editing Unit := do
  let f ← get
  match m.inPlace with
  | some ending =>
    if f.name ≠ "-" then
      if !ending.isEmpty then
        match ← act (Task.readPath f.name) with
        | .ok content =>
          let backup :=
            if ending.toList.contains '*' then ending.replace "*" f.name else f.name ++ ending
          let _ ← act (Task.writePath backup content .overwrite)
        | .error _ => pure ()
      let _ ← act (Task.writePath f.name f.output.text .overwrite)
      set { f with output := ⟨"", [], false⟩, name := "-" }
  | none => pure ()

def openNext (m : Manner) : Editing Bool := do
  replaceFile m
  let f ← get
  match f.files with
  | [] => return false
  | name :: files =>
    set { f with files, lines := [], whole := true }
    match ← act (Utility.readOperand name) with
    | .error .isFolder =>
      if m.inPlace.isSome then
        act (Task.complain ("couldn't edit " ++ name ++ ": not a regular file"))
        modify fun f => { f with status := 4 }
        return true
      else halt (.failed ("read error on " ++ name ++ ": Is a directory") 4)
    | .error fault =>
      act (Task.complain ("can't read " ++ name ++ ": " ++ fault.message))
      modify fun f => { f with status := 2 }
      return true
    | .ok content =>
      let content :=
        if m.mark = '\n' then content
        else String.ofList (content.toList.map fun c =>
          if c = m.mark then '\n' else if c = '\n' then m.mark else c)
      let lines := Raw.lines content
      let lines :=
        if m.mark = '\n' then lines
        else lines.map fun l => String.ofList (l.toList.map fun c => if c = m.mark then '\n' else c)
      modify fun f =>
        { f with
          name, lines, passed := 0, whole := content.toList.getLast? = some '\n'
          number := if m.separate then 0 else f.number
          ranges := if m.separate then f.starts else f.ranges }
      return true

def findLines (m : Manner) : (fuel : Nat) → Editing Bool
  | 0 => return false
  | fuel + 1 => do
    if !(← get).lines.isEmpty then return true
    else if ← openNext m then findLines m fuel
    else return false

def isLast (m : Manner) : Editing Bool := do
  let f ← get
  if !f.lines.isEmpty then return false
  else if m.separate then return true
  else return !(← findLines m (f.files.length + 1))

def putAppended (m : Manner) : Editing Unit := do
  for a in (← get).appended.reverse do
    match a with
    | .text text => modify fun f => { f with output := f.output.put text m.mark }
    | .line text => modify fun f => { f with output := f.output.put (text ++ "\n") m.mark }
    | .file name =>
      match ← act (Utility.readOperand (if name = "/dev/stdin" then "-" else name)) with
      | .ok content => modify fun f => { f with output := f.output.put content m.mark }
      | .error _ => modify fun f => { f with output := f.output.complete m.mark }
  modify fun f => { f with appended := [] }

def readLine (m : Manner) (behind : Bool) : Editing Bool := do
  putAppended m
  modify fun f => { f with replaced := false }
  if ← findLines m ((← get).files.length + 1) then
    modify fun f =>
      match f.lines with
      | [] => f
      | line :: rest =>
        { f with
          space := if behind then f.space ++ m.mark.toString ++ line else line
          complete := !rest.isEmpty || f.whole
          lines := rest
          passed := f.passed + line.length + 1
          number := f.number + 1
          work := 0 }
    return true
  else return false

/-! ## Conditions -/

def page (f : Finder) (text : Raw) : Page := ⟨(Raw.letters text).toArray, f.folds, f.lines, false⟩

def patternOf (finder : Finder) : Editing Pattern := do
  match finder.pattern with
  | some pattern =>
    modify fun f => { f with last := some pattern }
    return pattern
  | none =>
    match (← get).last with
    | some pattern => return pattern
    | none => halt (.failed "-e expression #1, char 0: no previous regular expression" 1)

def isAt (m : Manner) : Address → Editing Bool
  | .number n => return (← get).number = n
  | .last => isLast m
  | .finder finder => do
    let pattern ← patternOf finder
    return pattern.isIn (page finder (← get).space)
  | .stride first step => do
    let n := (← get).number
    return if step = 0 then n = first else first ≤ n && (n - first) % step = 0

def inRange (m : Manner) (i : Nat) (first : Address) (finish : RangeEnd) : Editing Bool := do
  let change (s : RangeState) : Editing Unit :=
    modify fun f => { f with ranges := f.ranges.setIfInBounds i s }
  let n := (← get).number
  match (← get).ranges.getD i .idle with
  | .active (some last) =>
    if last ≤ n then change .closed
    return n ≤ last || !finish.isAddress
  | .active none =>
    match finish with
    | .address a =>
      if ← isAt m a then change .closed
    | _ => pure ()
    return true
  | state =>
    let found ←
      match first with
      | .number k => pure (k ≤ n && state ≠ .closed)
      | a => isAt m a
    if found then
      match finish, first with
      | .address (.number last), .number k =>
        change (if n < last then .active (some last) else .closed)
        return n ≤ last || n = k
      | .address (.number last), _ => if n < last then change (.active (some last))
      | .address _, _ => change (.active none)
      | .more count, _ => change (if 0 < count then .active (some (n + count)) else .closed)
      | .multiple step, _ =>
        change (if step ≠ 0 then .active (some (n + step - n % step)) else .closed)
    return found

def selects (m : Manner) (i : Nat) (c : Command) : Editing Bool := do
  let found ←
    match c.lines with
    | .all => pure true
    | .one a => isAt m a
    | .range first finish => inRange m i first finish
  return found != c.negated

/-! ## Commands -/

/-- What becomes of the case of letters: of all that follow, and of the next one. -/
structure CaseState where
  all : CaseChange
  next : CaseChange

def caseOf (change : CaseChange) (c : Char) : Char :=
  let only (cs : List Char) : Char :=
    match cs with
    | [d] => d
    | _ => c
  match change with
  | .upper => only (Text.upperChar c)
  | .upperNext => only (Text.upperChar c)
  | .lower => only (Text.lowerChar c)
  | .lowerNext => only (Text.lowerChar c)
  | .none => c

def inCase (state : CaseState) (letters : List Char) (front : List Char) : List Char × CaseState :=
  letters.foldl (fun (acc : List Char × CaseState) c =>
    let change := if acc.2.next = .none then acc.2.all else acc.2.next
    (caseOf change c :: acc.1, { acc.2 with next := .none })) (front, state)

def replacementText (parts : List Replacement) (page : Page) (found : Found) : List Char :=
  let step (acc : List Char × CaseState) (part : Replacement) : List Char × CaseState :=
    match part with
    | .char c => inCase acc.2 [c] acc.1
    | .group n =>
      match found.group? n with
      | some (i, j) => inCase acc.2 (page.letters.extract i j).toList acc.1
      | none => acc
    | .change .upper => (acc.1, { acc.2 with all := .upper })
    | .change .lower => (acc.1, { acc.2 with all := .lower })
    | .change .none => (acc.1, ⟨.none, .none⟩)
    | .change c => (acc.1, { acc.2 with next := c })
  (parts.foldl step ([], ⟨.none, .none⟩)).1.reverse

def takeApart (page : Page) (i : Nat) : Page :=
  match page.letters[i]? with
  | some c =>
    let bytes := (Raw.ofLetters [c]).toList
    if bytes.length = 1 then page
    else
      let strays := bytes.map fun b => Char.ofNat (Raw.strayBase + b.toNat)
      { page with
        letters :=
          page.letters.extract 0 i ++ strays.toArray ++ page.letters.extract (i + 1) page.letters.size }
  | none => page

/-- The letters with matches replaced, from a position on and within `fuel` matches; `count` matches have
been found, the last of which ended at `bound`.  Behind an empty match one byte is passed over. -/
def replaceFrom (s : Substitution) (pattern : Pattern) (page : Page) (net : Net) :
    (fuel count start : Nat) → (bound : Option Nat) → List Char × Bool
  | 0, _, start, _ => ((page.letters.extract start page.letters.size).toList, false)
  | fuel + 1, count, start, bound =>
    let size := page.letters.size
    let text (i j : Nat) : List Char := (page.letters.extract i j).toList
    match pattern.findWith? page net start with
    | none => (text start size, false)
    | some found =>
      let isEmpty := found.start = found.finish
      let apart := isEmpty && (page.letters[found.finish]?).any fun c => 128 ≤ c.toNat
      let page := if apart then takeApart page found.finish else page
      let net := if apart then pattern.netOver page else net
      let size := page.letters.size
      let text (i j : Nat) : List Char := (page.letters.extract i j).toList
      let next := if isEmpty then found.finish + 1 else found.finish
      let behind := if isEmpty then text found.finish (found.finish + 1) else []
      if isEmpty && bound = some found.start then
        let (rest, done) :=
          if size < next then ([], false) else replaceFrom s pattern page net fuel count next none
        (text start found.start ++ behind ++ rest, done)
      else
        let chosen := s.first ≤ count + 1
        let middle :=
          if chosen then replacementText s.replacement page found else text found.start found.finish
        if chosen && !s.everywhere then
          (text start found.start ++ middle ++ text found.finish size, true)
        else
          let (rest, done) :=
            if size < next then ([], false)
            else replaceFrom s pattern page net fuel (count + 1) next (some found.finish)
          (text start found.start ++ middle ++ behind ++ rest, done || chosen)

def substitute (m : Manner) (s : Substitution) : Editing Unit := do
  let pattern ← patternOf s.finder
  let f ← get
  let page := page s.finder f.space
  spend ((page.letters.size + 1) * (page.letters.size / 5000 + 1))
  if pattern.isIn page then
    let (letters, done) := replaceFrom s pattern page (pattern.netOver page) (f.space.length + 2) 0 0 none
    if done then
      let space := Raw.ofLetters letters
      set { f with space, replaced := true }
      if s.prints then modify fun f => { f with output := f.output.putLine space f.complete m.mark }
      if let some file := s.file then
        putTo file space f.complete m.mark
        flush

def shownByte (c : Char) : Raw :=
  match c with
  | '\\' => "\x5c\x5c"
  | '\x07' => "\x5ca"
  | '\x08' => "\x5cb"
  | '\x0c' => "\x5cf"
  | '\n' => "\x5cn"
  | '\r' => "\x5cr"
  | '\t' => "\x5ct"
  | '\x0b' => "\x5cv"
  | c =>
    if 32 ≤ c.toNat && c.toNat < 127 then c.toString
    else "\x5c" ++ ({ Layout.plain with precision := some 3 } : Layout).nat 8 false c.toNat

def shownText (width : Nat) (text : Raw) : Raw :=
  let step (acc : List Raw × Nat) (c : Char) : List Raw × Nat :=
    let piece := shownByte c
    if 1 < width && width - 1 < acc.2 + piece.length then (piece :: "\x5c\n" :: acc.1, piece.length)
    else (piece :: acc.1, acc.2 + piece.length)
  String.join (text.toList.foldl step ([], 0)).1.reverse ++ "$"

inductive Turn where
  | on
  | place (i : Nat)
  /-- With the next line; the text is written before that where nothing is said against it. -/
  | finish (writes : Bool)
  | again

def placeOf (commands : Array Command) (label : Raw) : Nat :=
  if label.isEmpty then commands.size
  else (commands.findIdx? (Command.hasLabel label)).getD commands.size

def cutLine (m : Manner) (text : Raw) : Raw × Option Raw :=
  let cs := text.toList
  let front := cs.takeWhile (· ≠ m.mark)
  (String.ofList front,
    if front.length < cs.length then some (String.ofList (cs.drop (front.length + 1))) else none)

def putSpace (m : Manner) : Editing Unit :=
  modify fun f => { f with output := f.output.putLine f.space f.complete m.mark }

def perform (m : Manner) (commands : Array Command) (i : Nat) : Action → Editing Turn
  | .group _ => return .on
  | .groupEnd => return .on
  | .label _ => return .on
  | .substitute s => do
    substitute m s
    return .on
  | .replaceChars table => do
    modify fun f =>
      { f with space := Raw.ofLetters ((Raw.letters f.space).map fun c => (table.lookup c).getD c) }
    return .on
  | .append text => do
    modify fun f => { f with appended := .text text :: f.appended }
    return .on
  | .insert text => do
    modify fun f => { f with output := f.output.putText text m.mark }
    return .on
  | .change text => do
    let f ← get
    let within :=
      match f.ranges.getD i .idle with
      | .active _ => true
      | _ => false
    if !within then set { f with output := f.output.putText text m.mark }
    return .finish false
  | .delete => return .finish false
  | .deleteFirst => do
    let f ← get
    match cutLine m f.space with
    | (_, some rest) =>
      set { f with space := rest }
      spend (rest.length + 100)
      return .again
    | (_, none) => return .finish false
  | .print => do
    putSpace m
    return .on
  | .printFirst => do
    modify fun f =>
      let (line, rest) := cutLine m f.space
      { f with output := f.output.putLine line (rest.isSome || f.complete) m.mark }
    return .on
  | .next => do
    if ← isLast m then return .finish true
    else
      if !m.quiet then putSpace m
      let _ ← readLine m false
      return .on
  | .nextAppended => do
    if ← isLast m then return .finish true
    else
      let _ ← readLine m true
      return .on
  | .hold => do
    modify fun f => { f with kept := f.space, keptComplete := f.complete }
    return .on
  | .holdAppended => do
    modify fun f =>
      { f with kept := f.kept ++ m.mark.toString ++ f.space, keptComplete := f.complete }
    return .on
  | .get => do
    modify fun f => { f with space := f.kept, complete := f.keptComplete }
    return .on
  | .getAppended => do
    modify fun f =>
      { f with space := f.space ++ m.mark.toString ++ f.kept, complete := f.keptComplete }
    return .on
  | .exchange => do
    modify fun f =>
      { f with
        space := f.kept, complete := f.keptComplete, kept := f.space, keptComplete := f.complete }
    return .on
  | .list width => do
    let f ← get
    set { f with output := f.output.putLine (shownText (width.getD m.width) f.space) true m.mark }
    return .on
  | .number => do
    let f ← get
    set { f with output := f.output.putLine (toString f.number) true m.mark }
    return .on
  | .name => do
    let f ← get
    set { f with output := f.output.putLine f.name true m.mark }
    return .on
  | .empty => do
    modify fun f => { f with space := "" }
    return .on
  | .quit status quietly => do
    if !quietly then
      if !m.quiet then putSpace m
      putAppended m
      modify fun f => { f with output := f.output.complete m.mark }
    halt (.quit status)
  | .jump label => return .place (placeOf commands label)
  | .jumpIf done label => do
    let f ← get
    if done then set { f with replaced := false }
    else if f.replaced then set { f with replaced := false }
    return if f.replaced = done then .place (placeOf commands label) else .on
  | .read file => do
    modify fun f => { f with appended := .file file :: f.appended }
    return .on
  | .readLine file => do
    let f ← get
    let lines ←
      match f.readers.lookup file with
      | some lines => pure lines
      | none =>
        match ← act (Utility.readOperand (if file = "/dev/stdin" then "-" else file)) with
        | .ok content => pure (Raw.lines content)
        | .error _ => pure []
    modify fun f =>
      { f with
        readers := (file, lines.drop 1) :: f.readers.filter (·.1 ≠ file)
        appended :=
          match lines with
          | line :: _ => .line line :: f.appended
          | [] => f.appended }
    return .on
  | .write file => do
    let f ← get
    putTo file f.space f.complete m.mark
    flush
    return .on
  | .writeFirst file => do
    let f ← get
    let (line, rest) := cutLine m f.space
    putTo file line (rest.isSome || f.complete) m.mark
    flush
    return .on

def goThrough (m : Manner) (commands : Array Command) : (fuel : Nat) → (i : Nat) → Editing Turn
  | 0, _ => halt .endless
  | fuel + 1, i => do
    match commands[i]? with
    | none => return .finish true
    | some c =>
      if ← selects m i c then
        match ← perform m commands i c.action with
        | .on => goThrough m commands fuel (i + 1)
        | .place j => goThrough m commands fuel j
        | turn => return turn
      else
        match c.action with
        | .group finish => goThrough m commands fuel (finish + 1)
        | _ => goThrough m commands fuel (i + 1)

/-- The number of commands after which a script for one line is taken to have no end. -/
def maxCommands : Nat := 1000000

def rounds (m : Manner) (commands : Array Command) : (fuel : Nat) → (fresh : Bool) → Editing Unit
  | 0, _ => halt .endless
  | fuel + 1, fresh => do
    if fresh then
      if !(← readLine m false) then return ()
    match ← goThrough m commands maxCommands 0 with
    | .again => rounds m commands fuel false
    | .finish writes =>
      if writes && !m.quiet then putSpace m
      rounds m commands fuel true
    | _ => rounds m commands fuel true

/-- The number of rounds after which the input is taken to have no end. -/
def maxRounds : Nat := 1000000

end Editing

/-! ## The program -/

def filesOf (commands : Array Command) : List Raw :=
  (commands.toList.filterMap fun c =>
    match c.action with
    | .write file => some file
    | .writeFirst file => some file
    | .substitute s => s.file
    | _ => none).eraseDups

def startState (c : Command) : RangeState :=
  match c.lines with
  | .range (.number 0) _ => .active none
  | _ => .idle

/-- Leaves the input behind the bytes that have been read, where it is a file. -/
def leaveInput (passed : Nat) : Task Unit := do
  if let some n ← Task.number? 0 then
    let w ← get
    match w.file? n with
    | some f =>
      match f.target with
      | .file _ =>
        set (w.seek n (f.offset - (w.content f).length + passed))
      | _ => pure ()
    | none => pure ()

def edit (m : Manner) (commands : Array Command) (files : List Raw) : Task Ending := do
  let sinks := filesOf commands
  for name in sinks do
    if name ≠ "/dev/stdout" && name ≠ "/dev/stderr" then
      if let .error fault ← Task.writePath name "" .overwrite then
        Task.complain ("couldn't open file " ++ name ++ ": " ++ fault.message)
        return .status 4
  let flow : Flow :=
    { space := "", complete := true, kept := "", keptComplete := true, number := 0, appended := []
      replaced := false, lines := [], whole := true, passed := 0, files, name := "-"
      starts := commands.map startState, ranges := commands.map startState, last := none
      output := ⟨"", [], false⟩
      sinks := sinks.map fun name => ⟨name, [], false⟩, readers := [], status := 0, work := 0 }
  let (result, f) ← (Editing.rounds m commands Editing.maxRounds true).run.run flow
  match result with
  | .error .endless => return .never
  | .error (.failed message status) =>
    Task.complain message
    Task.out f.output.text
    return .status status
  | .error (.quit status) =>
    let (_, f) ← (Editing.replaceFile m).run.run f
    if f.name = "-" then leaveInput f.passed
    Task.out f.output.text
    return .status status
  | .ok _ =>
    Task.out f.output.text
    return .status f.status

/-! ## The command -/

def editFlags : List Utility.Flag :=
  [Utility.flag 'n' "quiet", Utility.longFlag 'n' "silent", Utility.valued 'e' "expression",
    Utility.valued 'f' "file", Utility.flag 'E' "regexp-extended", Utility.flag 'r' "",
    Utility.flag 's' "separate", Utility.flag 'u' "unbuffered", Utility.flag 'z' "null-data",
    Utility.valued 'l' "line-length", Utility.longFlag '1' "posix", Utility.longFlag '2' "debug",
    Utility.longFlag '3' "follow-symlinks", Utility.longFlag '4' "sandbox", Utility.flag 'b' "binary",
    Utility.valued 'i' "in-place"]

/-- Words in which the option for files in place has its ending behind it, also where there is none. -/
def expandInPlace (words : List Raw) : List Raw :=
  words.flatMap fun w =>
    match w.toList with
    | '-' :: '-' :: _ => if w = "--in-place" then ["--in-place="] else [w]
    | '-' :: cs =>
      let front := cs.takeWhile fun c => ['n', 'E', 'r', 's', 'u', 'z', 'b'].contains c
      match cs.drop front.length with
      | 'i' :: ending =>
        (if front.isEmpty then [] else [String.ofList ('-' :: front)]) ++
          ["--in-place=" ++ String.ofList ending]
      | _ => [w]
    | _ => [w]

/-- The parts of a script: texts from words and files, in their order, or a complaint. -/
def scriptParts (c : Utility.Choices) : List (Char × Raw) → Task (Except Raw (List Part))
  | [] => return .ok []
  | (letter, value) :: rest => do
    let more (p : Part) : Task (Except Raw (List Part)) := do
      return (← scriptParts c rest).map (p :: ·)
    if letter = 'e' then more ⟨none, value⟩
    else if letter = 'f' then
      match ← Utility.readOperand value with
      | .ok content => more ⟨some value, content⟩
      | .error fault => return .error ("couldn't open file " ++ value ++ ": " ++ fault.message)
    else scriptParts c rest

/-- Complains about the way it is used. -/
def misused (message : Option Raw) (status : Nat) : Task Ending := do
  let name := (← read).name
  if let some message := message then Task.err (name ++ ": " ++ message ++ "\n")
  Task.err ("Usage: " ++ name ++ " [OPTION]... \x7bscript-only-if-no-other-script\x7d [input-file]...\n\n")
  return .status status

/-- Edits files with the script and in the manner that are chosen. -/
def editWith (c : Utility.Choices) : Task Ending := do
  let scripts := c.options.filter fun o => o.1 = 'e' || o.1 = 'f'
  match scripts, c.arguments with
  | [], [] => misused none 1
  | _, _ =>
    let (scripts, files) :=
      if scripts.isEmpty then ([('e', c.arguments.headD "")], c.arguments.drop 1)
      else (scripts, c.arguments)
    match ← scriptParts c scripts with
    | .error message =>
      Task.complain message
      return .status 4
    | .ok parts =>
      match readScript (c.has 'E' || c.has 'r') parts with
      | .error refusal =>
        Task.complain refusal.message
        return .status refusal.status
      | .ok commands =>
        let width := ((c.value? 'l').bind fun w => Raw.nat? w.toList).getD 70
        let silent := ((parts.head?.map Part.text).getD "").startsWith "#n\n"
        let m : Manner :=
          ⟨c.has 'n' || silent, c.has 's' || c.has 'i', if c.has 'z' then '\x00' else '\n', width,
            c.value? 'i'⟩
        if c.has 'i' && files.isEmpty then
          Task.complain "no input files"
          return .status 1
        else edit m commands (Utility.operands files)

def sed : Program := fun _ words => do
  let words := expandInPlace words
  match Utility.takeChoices editFlags true (words.foldl (fun n w => n + w.length + 1) 1) words with
  | .ok c => editWith c
  | .error message => misused (some message) 1

end ConfigVault.Host.Edit
