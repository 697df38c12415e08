import ConfigVault.Instance.Host.Utility.Starting

/-!
# Finding files

The files below a folder are visited, and a condition on each of them says what is done with it.
Conditions are written as words: tests and actions, joined by marks for "not", "and" and "or".
-/

namespace ConfigVault.Host.Utility

/-- How many of something there are to be: more than, fewer than, or just as many as a number. -/
structure HowMany where
  sign : Option Char
  number : Nat

def HowMany.holds (a : HowMany) (n : Nat) : Bool :=
  match a.sign with
  | some '+' => decide (a.number < n)
  | some _ => decide (n < a.number)
  | none => n = a.number

inductive FileTest where
  | always
  | never
  | name (glob : Glob) (folds : Bool)
  | path (glob : Glob) (folds : Bool)
  | kind (letters : List Char)
  | empty
  | size (units : HowMany) (unit : Nat)
  | mode (sign : Option Char) (rights : Nat)
  | runnable
  | print (ending : Raw)
  | template (text : Raw)
  | delete
  | prune
  | quit
  | run (command : List Raw)
  | gather (command : List Raw)
  | negated (c : FileTest)
  | both (a b : FileTest)
  | either (a b : FileTest)

def FileTest.acts : FileTest → Bool
  | print _ | template _ | delete | run _ | gather _ => true
  | negated c => c.acts
  | both a b | either a b => a.acts || b.acts
  | _ => false

/-! ## Reading conditions -/

/-- Takes the words of a command with the mark behind it; says whether it is run once for all files. -/
def takeCommand : (held : List Raw) → List Raw → Option (List Raw × Bool × List Raw)
  | held, ";" :: rest => if held.isEmpty then none else some (held.reverse, false, rest)
  | held, "\x7b\x7d" :: "+" :: rest => if held.isEmpty then none else some (held.reverse, true, rest)
  | held, w :: rest => takeCommand (w :: held) rest
  | _, [] => none

/-- A number with a sign in front of it, and what is left. -/
def takeHowMany? (word : Raw) : Option (HowMany × List Char) :=
  let (sign, cs) : Option Char × List Char :=
    match word.toList with
    | '+' :: cs => (some '+', cs)
    | '-' :: cs => (some '-', cs)
    | cs => (none, cs)
  let (n, rest) := Number.takeDigits 10 cs
  if rest.length = cs.length then none else some (⟨sign, n⟩, rest)

def sizeTest (word : Raw) : Except Raw FileTest :=
  match takeHowMany? word with
  | some (n, []) => .ok (.size n 512)
  | some (n, ['b']) => .ok (.size n 512)
  | some (n, ['c']) => .ok (.size n 1)
  | some (n, ['w']) => .ok (.size n 2)
  | some (n, ['k']) => .ok (.size n 1024)
  | some (n, ['M']) => .ok (.size n (1024 * 1024))
  | some (n, ['G']) => .ok (.size n (1024 * 1024 * 1024))
  | _ =>
    match word.toList.getLast? with
    | none => .error "invalid null argument to -size"
    | some c =>
      if c.isDigit || ['b', 'c', 'w', 'k', 'M', 'G'].contains c then
        .error ("Invalid argument \x60" ++ word ++ "' to -size")
      else .error ("invalid -size type \x60" ++ c.toString ++ "'")

def modeTest (word : Raw) : Except Raw FileTest :=
  let (sign, rest) : Option Char × List Char :=
    match word.toList with
    | '-' :: cs => (some '-', cs)
    | '/' :: cs => (some '/', cs)
    | cs => (none, cs)
  match applyMode (String.ofList rest) 0 with
  | some rights => .ok (.mode sign rights)
  | none => .error ("invalid mode " ++ cited word)

def joints : List Raw := ["-o", "-or", "-a", "-and"]

def kindTest (word : Raw) : Except Raw FileTest :=
  let letters := (Raw.splitAt ',' word).map String.toList
  match letters.find? fun l => !(l.length = 1 && ['b', 'c', 'd', 'p', 'f', 'l', 's'].contains (l.headD ' ')) with
  | none => .ok (.kind letters.flatten)
  | some ([]) => .error "Arguments to -type should contain at least one letter"
  | some l =>
    if 1 < l.length && ['b', 'c', 'd', 'p', 'f', 'l', 's'].contains (l.headD ' ') then
      .error "Must separate multiple arguments to -type using: ','"
    else .error ("Unknown argument to -type: " ++ (l.headD ' ').toString)

/-- Words that change how files are visited and hold of all of them: those without a value. -/
def bareSettings : List Raw :=
  ["-depth", "-d", "-xdev", "-mount", "-noleaf", "-daystart", "-follow", "-warn", "-nowarn",
    "-ignore_readdir_race", "-true"]

def takeSingle (word : Raw) (rest : List Raw) : Except Raw (FileTest × List Raw) :=
  let valued (f : Raw → Except Raw FileTest) : Except Raw (FileTest × List Raw) :=
    match rest with
    | [] => .error ("missing argument to \x60" ++ word ++ "'")
    | value :: rest => (f value).map fun c => (c, rest)
  let glob (make : Glob → Bool → FileTest) (folds : Bool) : Except Raw (FileTest × List Raw) :=
    valued fun value => .ok (make (.ofText (if folds then value.toLower else value)) folds)
  let ofCommand (found : Option (List Raw × Bool × List Raw)) : Except Raw (FileTest × List Raw) :=
    match found with
    | some (command, true, rest) => .ok (.gather command, rest)
    | some (command, false, rest) => .ok (.run command, rest)
    | none => .error ("missing argument to \x60" ++ word ++ "'")
  if bareSettings.contains word then .ok (.always, rest)
  else
    match word with
    | "-false" => .ok (.never, rest)
    | "-name" => glob .name false
    | "-iname" => glob .name true
    | "-path" => glob .path false
    | "-wholename" => glob .path false
    | "-ipath" => glob .path true
    | "-type" => valued kindTest
    | "-empty" => .ok (.empty, rest)
    | "-size" => valued sizeTest
    | "-perm" => valued modeTest
    | "-executable" => .ok (.runnable, rest)
    | "-readable" => .ok (.always, rest)
    | "-writable" => .ok (.always, rest)
    | "-print" => .ok (.print "\n", rest)
    | "-print0" => .ok (.print "\x00", rest)
    | "-printf" => valued fun value => .ok (.template value)
    | "-delete" => .ok (.delete, rest)
    | "-prune" => .ok (.prune, rest)
    | "-quit" => .ok (.quit, rest)
    | "-exec" => ofCommand (takeCommand [] rest)
    | "-maxdepth" => valued fun _ => .ok .always
    | "-mindepth" => valued fun _ => .ok .always
    | "-regextype" => valued fun _ => .ok .always
    | "-user" => valued fun value => .ok (if value = "root" || value = "0" then .always else .never)
    | "-group" => valued fun value => .ok (if value = "root" || value = "0" then .always else .never)
    | _ =>
      if word.toList.head? = some '-' then .error ("unknown predicate \x60" ++ word ++ "'")
      else .error ("paths must precede expression: \x60" ++ word ++ "'")

/-- How tightly the parts of a condition hold together. -/
inductive Binding where
  | either
  | both
  | single

def expected (behind : Raw) : Raw := "expected an expression after '" ++ behind ++ "'"

/-- Takes a condition that stands behind a word, within `fuel` steps. -/
def takeTest : (fuel : Nat) → Binding → (behind : Raw) → List Raw → Except Raw (FileTest × List Raw)
  | 0, _, _, words => .ok (.always, words)
  | fuel + 1, .either, behind, words => do
    let (a, rest) ← takeTest fuel .both behind words
    match rest with
    | word :: rest =>
      if word = "-o" || word = "-or" then
        let (b, rest) ← takeTest fuel .either word rest
        return (.either a b, rest)
      else return (a, word :: rest)
    | [] => return (a, [])
  | fuel + 1, .both, behind, words => do
    let (a, rest) ← takeTest fuel .single behind words
    match rest with
    | [] => return (a, [])
    | word :: left =>
      if word = "-o" || word = "-or" || word = ")" then return (a, rest)
      else
        let joined := word = "-a" || word = "-and"
        let (b, rest) ← takeTest fuel .both word (if joined then left else rest)
        return (.both a b, rest)
  | fuel + 1, .single, behind, words =>
    match words with
    | [] => .error (expected behind)
    | ")" :: _ => .error "you have too many ')'"
    | "(" :: [] =>
      .error ("invalid expression; expected to find a ')' but didn't see one. " ++
        "Perhaps you need an extra predicate after '('")
    | "(" :: ")" :: _ => .error "invalid expression; empty parentheses are not allowed."
    | "(" :: rest => do
      let (a, rest) ← takeTest fuel .either "(" rest
      match rest with
      | ")" :: rest => return (a, rest)
      | _ =>
        throw ("invalid expression; I was expecting to find a ')' somewhere but did not see one.")
    | word :: rest =>
      if word = "!" || word = "-not" then do
        let (a, rest) ← takeTest fuel .single word rest
        return (.negated a, rest)
      else if joints.contains word then
        .error ("invalid expression; you have used a binary operator '" ++ word ++
          "' with nothing before it.")
      else takeSingle word rest

def testOf (words : List Raw) : Except Raw FileTest := do
  if words.isEmpty then return .print "\n"
  else
    let (c, rest) ← takeTest (4 * words.length + 4) .either "" words
    match rest with
    | [] => return if c.acts then c else .both c (.print "\n")
    | _ => throw "you have too many ')'"

def depthSetting (word : Raw) (words : List Raw) : Except Raw (Option Nat) :=
  match words.dropWhile (· ≠ word) with
  | _ :: value :: _ =>
    match Raw.nat? value.toList with
    | some n => .ok (some n)
    | none =>
      .error ("Expected a positive decimal integer argument to " ++ word ++ ", but got " ++ cited value)
  | _ => .ok none

/-! ## Visiting files -/

structure Visit where
  path : Raw
  place : Place
  node : Node
  /-- The number of folders on the way from where the search starts. -/
  depth : Nat
  origin : Raw

structure Progress where
  /-- Nothing below the file that is visited is of interest. -/
  pruned : Bool
  quits : Bool
  /-- The commands that are run in the end, each with a file. -/
  gathered : List (List Raw × Raw)
  status : Nat

def kindLetter : Node → Char
  | .folder => 'd'
  | .link _ => 'l'
  | .device _ => 'c'
  | _ => 'f'

def folderText (path : Raw) : Raw :=
  let cs := path.toList.reverse.dropWhile (· ≠ '/')
  if cs.isEmpty then "." else String.ofList (cs.drop 1).reverse

/-- A template with facts about a file put in. -/
def visitText (v : Visit) : List Char → Raw
  | '%' :: c :: rest =>
    (match c with
    | 'p' => v.path
    | 'f' => finalName v.path
    | 'h' => folderText v.path
    | 'H' => v.origin
    | 'P' => String.ofList ((v.path.toList.drop v.origin.length).dropWhile (· = '/'))
    | 's' => toString (sizeOf v.node)
    | 'y' => (kindLetter v.node).toString
    | 'd' => toString v.depth
    | 'm' => String.ofList (Nat.toDigits 8 (modeOf v.node))
    | 'M' => rightsText v.node
    | 'u' => "root"
    | 'g' => "root"
    | 'U' => "0"
    | 'G' => "0"
    | 'l' => match v.node with
      | .link target => target
      | _ => ""
    | '%' => "%"
    | c => "%" ++ c.toString) ++ visitText v rest
  | '\\' :: c :: rest =>
    (match c with
    | 'n' => "\n"
    | 't' => "\t"
    | '0' => "\x00"
    | '\\' => "\x5c"
    | c => "\x5c" ++ c.toString) ++ visitText v rest
  | c :: rest => c.toString ++ visitText v rest
  | [] => ""

def runFound (start : Starter) (command : List Raw) : Task Bool := do
  match ← startOr start command fun name why => cited name ++ ": " ++ why with
  | .status 0 => return true
  | _ => return false

def FileTest.holds (start : Starter) (v : Visit) : FileTest → StateT Progress Task Bool
  | always => return true
  | never => return false
  | name glob folds =>
    let text := finalName v.path
    return glob.isMatch (if folds then text.toLower else text).toList
  | path glob folds => return glob.isMatch (if folds then v.path.toLower else v.path).toList
  | kind letters => return letters.contains (kindLetter v.node)
  | empty => do
    match v.node with
    | .folder => return ((← getThe World).disk.names v.place).isEmpty
    | .file content _ => return content.isEmpty
    | _ => return false
  | size amount unit => return amount.holds ((sizeOf v.node + unit - 1) / unit)
  | mode sign rights =>
    let own := modeOf v.node
    match sign with
    | none => return own = rights
    | some '-' => return own &&& rights = rights
    | some _ => return rights = 0 || own &&& rights ≠ 0
  | runnable => return Condition.isRunnable v.node
  | print ending => do
    liftM (Task.out (v.path ++ ending))
    return true
  | template text => do
    liftM (Task.out (visitText v text.toList))
    return true
  | delete => do
    if v.path = "." then return true
    else if v.node = .folder && !((← getThe World).disk.names v.place).isEmpty then
      liftM (Task.complain ("cannot delete " ++ cited v.path ++ ": Directory not empty"))
      modify fun s => { s with status := 1 }
      return false
    else
      liftM (removeNode v.place)
      return true
  | prune => do
    modify fun s => { s with pruned := true }
    return true
  | quit => do
    modify fun s => { s with quits := true }
    return true
  | run command =>
    liftM (runFound start (command.map fun w => w.replace "\x7b\x7d" v.path))
  | gather command => do
    modify fun s => { s with gathered := s.gathered ++ [(command, v.path)] }
    return true
  | negated c => do return !(← c.holds start v)
  | both a b => do
    if (← a.holds start v) && !(← get).quits then b.holds start v else return false
  | either a b => do
    if (← a.holds start v) || (← get).quits then return true else b.holds start v

structure Route where
  condition : FileTest
  least : Nat
  greatest : Nat
  contentsFirst : Bool

def Route.check (r : Route) (start : Starter) (v : Visit) : StateT Progress Task Unit := do
  if r.least ≤ v.depth && !(← get).quits then
    let _ ← r.condition.holds start v

def Route.visit (r : Route) (start : Starter) : (fuel : Nat) → Visit → StateT Progress Task Unit
  | 0, _ => return
  | fuel + 1, v => do
    let below : StateT Progress Task Unit := do
      if v.node = .folder && v.depth < r.greatest then
        for name in (← getThe World).disk.names v.place do
          let place := v.place ++ [name]
          let path := (if v.path.toList.getLast? = some '/' then v.path else v.path ++ "/") ++ name
          if let some node := (← getThe World).disk.node? place then
            if !(← get).quits then
              visit r start fuel { v with path, place, node, depth := v.depth + 1 }
    if r.contentsFirst then
      below
      r.check start v
    else
      modify fun s => { s with pruned := false }
      r.check start v
      if !(← get).pruned then below
      modify fun s => { s with pruned := false }

def beginsTest (word : Raw) : Bool :=
  (word.toList.head? = some '-' && word ≠ "-") || word = "(" || word = "!"

def find : Program := fun start words => do
  let words := words.dropWhile fun w => ["-H", "-L", "-P"].contains w
  let paths := words.takeWhile fun w => !beginsTest w
  let rest := words.drop paths.length
  let plan : Except Raw Route := do
    let condition ← testOf rest
    let least ← depthSetting "-mindepth" rest
    let greatest ← depthSetting "-maxdepth" rest
    return ⟨condition, least.getD 0, greatest.getD maxDepth,
      rest.contains "-depth" || rest.contains "-delete" || rest.contains "-d"⟩
  match plan with
  | .error message =>
    Task.complain message
    return .status 1
  | .ok route =>
    let all : StateT Progress Task Unit := do
      for path in if paths.isEmpty then ["."] else paths do
        match ← liftM (entryAt path) with
        | .error fault =>
          if !(← get).quits then
            liftM (Task.complain (cited path ++ ": " ++ pathFault fault))
            modify fun s => { s with status := 1 }
        | .ok (place, node) =>
          if !(← get).quits then route.visit start (maxDepth + 1) ⟨path, place, node, 0, path⟩
    let ((), search) ← all.run ⟨false, false, [], 0⟩
    let commands := (search.gathered.map Prod.fst).eraseDups
    let status ← each commands fun command => do
      let found := (search.gathered.filter (·.1 = command)).map Prod.snd
      return if ← runFound start (command ++ found) then 0 else 1
    return .status (max search.status status)

end ConfigVault.Host.Utility
