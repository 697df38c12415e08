import ConfigVault.Instance.Host.Condition
import ConfigVault.Instance.Host.Print.Template
import ConfigVault.Instance.Host.Shell.State

/-!
# Commands of the shell

The commands that the shell does itself and that run no other command.  A command gives its status;
where it cannot go on it complains in its own name.
-/

namespace ConfigVault.Host.Shell

open Run

abbrev Builtin := List Raw → Run Nat

/-- Writes the output of a command of the shell; it fails where there is nowhere to write to. -/
def say (output : Raw) : Run Nat := do
  if output.isEmpty then return 0
  match (← shell).table.find? (·.1 = 1) with
  | some entry =>
    changeWorld fun w => w.write entry.2 output
    return 0
  | none =>
    warn ((((← shell).speaker).getD "") ++ ": I/O error")
    return 1

def takeOptions (known valued : List Char) : (fuel : Nat) → List Raw →
    Run (List (Char × Raw) × List Raw)
  | 0, arguments => return ([], arguments)
  | fuel + 1, arguments =>
    match arguments with
    | [] => return ([], [])
    | word :: rest =>
      match word.toList with
      | ['-', '-'] => return ([], rest)
      | '-' :: c :: cs =>
        if valued.contains c then
          match cs, rest with
          | [], [] => fail ("No arg for -" ++ c.toString ++ " option")
          | [], value :: rest => do
            let (found, rest) ← takeOptions known valued fuel rest
            return ((c, value) :: found, rest)
          | cs, rest => do
            let (found, rest) ← takeOptions known valued fuel rest
            return ((c, String.ofList cs) :: found, rest)
        else if known.contains c then do
          let rest := if cs.isEmpty then rest else String.ofList ('-' :: cs) :: rest
          let (found, rest) ← takeOptions known valued fuel rest
          return ((c, "") :: found, rest)
        else fail ("Illegal option -" ++ c.toString)
      | _ => return ([], arguments)

def options (known : String) (arguments : List Raw) : Run (List Char × List Raw) := do
  let size := arguments.foldl (fun n a => n + a.length) 1
  let (found, rest) ← takeOptions known.toList [] size arguments
  return (found.map Prod.fst, rest)

def numberOf (word : Raw) : Run Nat := do
  match Raw.nat? word.toList with
  | some n => if n < Number.half32 then return n else fail ("Illegal number: " ++ word)
  | none => fail ("Illegal number: " ++ word)

def quotedText (text : Raw) : Raw :=
  "\x27" ++ "\x27\x22\x27\x22\x27".intercalate (Raw.splitAt '\x27' text) ++ "\x27"

/-! ## Output -/

def argumentEscapes : EscapeStyle := ⟨false, true, true⟩

def templateEscapes : EscapeStyle := ⟨false, false, false⟩

/-- Texts with backslashes taken out and blanks between them, up to a mark that ends the output. -/
def echoed : List Raw → Raw × Bool
  | [] => ("", false)
  | word :: rest =>
    let (text, ended) := argumentEscapes.text word
    if ended then (text, true)
    else
      match rest with
      | [] => (text, false)
      | _ =>
        let (more, ended) := echoed rest
        (text ++ " " ++ more, ended)

def echo : Builtin := fun arguments => do
  let bare := arguments.head? = some "-n"
  let (text, ended) := echoed (if bare then arguments.drop 1 else arguments)
  say (if bare || ended then text else text ++ "\n")

def faultText : Template.ArgumentFault → Raw
  | .noNumber => "expected numeric value"
  | .leftover => "not completely converted"
  | .outOfRange => "Numerical result out of range"

/-- Writes a template with its arguments put in. -/
def printf : Builtin := fun arguments => do
  let (_, arguments) ← options "" arguments
  match arguments with
  | [] => fail "usage: printf format [arg ...]"
  | template :: arguments =>
    let p := Template.print templateEscapes argumentEscapes template arguments
    for (argument, fault) in p.faults.reverse do
      warn (argument ++ ": " ++ faultText fault)
    match p.stop with
    | some (.unknown spelling) =>
      warn (spelling ++ ": invalid directive")
      let _ ← say p.output
      return 2
    | some (.unfinished _) =>
      warn "missing format character"
      let _ ← say p.output
      return 2
    | _ =>
      let status ← say p.output
      return if p.faults.isEmpty then status else 1

/-! ## Conditions -/

def ask : Builtin := fun arguments => do
  match ← Run.task "test" (Condition.answer arguments) with
  | .ok answer => return if answer then 0 else 1
  | .error message => fail message

def askInBrackets : Builtin := fun arguments => do
  if arguments.getLast? = some "]" then ask arguments.dropLast else fail "missing ]"

/-! ## Variables -/

/-- A name and a value on both sides of an equals sign. -/
def splitSetting (word : Raw) : Raw × Option Raw :=
  let cs := word.toList
  let name := cs.takeWhile (· ≠ '=')
  match cs.drop name.length with
  | _ :: value => (String.ofList name, some (String.ofList value))
  | [] => (String.ofList name, none)

def checkName (name : Raw) : Run Unit := do
  if !isName name then fail (name ++ ": bad variable name")

def settingText (command : Raw) (name : Raw) (value : Option Raw) : Raw :=
  command ++ (if command.isEmpty then "" else " ") ++ name ++
    (match value with
    | some value => "=" ++ quotedText value
    | none => "") ++ "\n"

def settingTexts (command : Raw) (p : Variable → Bool) : Run Raw := do
  let found := (← shell).environment.entries.filter fun e => p e.2
  return String.join (found.map fun e => settingText command e.1 e.2.value)

def mark (command : Raw) (p : Variable → Bool) (f : Variable → Variable) : Builtin :=
  fun arguments => do
    let (found, arguments) ← options "p" arguments
    if arguments.isEmpty || found.contains 'p' then say (← settingTexts command p)
    else
      for word in arguments do
        let (name, value) := splitSetting word
        checkName name
        match value with
        | some value => setVariable name value
        | none => pure ()
        change fun s =>
          let old := (s.environment.get? name).getD ⟨none, false, false⟩
          { s with environment := s.environment.insert name (f old) }
      return 0

def exportVariables : Builtin :=
  mark "export" Variable.exported fun v => { v with exported := true }

def fixVariables : Builtin := mark "readonly" Variable.fixed fun v => { v with fixed := true }

def makeLocal : Builtin := fun arguments => do
  if (← shell).locals.isEmpty then fail "not in a function"
  for word in arguments do
    let (name, value) := splitSetting word
    checkName name
    let old := (← shell).environment.get? name
    change fun s =>
      match s.locals with
      | frame :: rest =>
        if frame.any (·.1 = name) then s else { s with locals := ((name, old) :: frame) :: rest }
      | [] => s
    if let some value := value then setVariable name value
  return 0

/-- Takes variables or functions away. -/
def unsetNames : Builtin := fun arguments => do
  let (found, arguments) ← options "vf" arguments
  for name in arguments do
    if found.getLast? = some 'f' then
      change fun s => { s with functions := s.functions.erase name }
    else
      match (← shell).environment.get? name with
      | some v =>
        if v.fixed then fail (name ++ ": is read only")
        change fun s => { s with environment := s.environment.erase name }
      | none => checkName name
  return 0

def optionNames : List (Char × Raw) :=
  [('e', "errexit"), ('f', "noglob"), ('I', "ignoreeof"), ('i', "interactive"), ('m', "monitor"),
    ('n', "noexec"), ('s', "stdin"), ('x', "xtrace"), ('v', "verbose"), ('V', "vi"), ('E', "emacs"),
    ('C', "noclobber"), ('a', "allexport"), ('b', "notify"), ('u', "nounset"), ('p', "privileged"),
    ('l', "nolog"), ('d', "debug")]

def switchOption (option : Char) (on : Bool) : Run Unit := do
  change fun s =>
    let others := s.options.filter (· ≠ option)
    { s with options := if on then option :: others else others }

/-- Sets options by the letters in a word; a name may follow for one of them. -/
def switchOptions (on : Bool) : List Char → List Raw → Run (List Raw)
  | [], arguments => return arguments
  | 'o' :: cs, name :: rest => do
    match optionNames.find? (·.2 = name) with
    | some (option, _) => switchOption option on
    | none => fail ("Illegal option " ++ (if on then "-" else "+") ++ "o " ++ name)
    switchOptions on cs rest
  | 'o' :: cs, [] => do
    let set := (← shell).options
    let lines :=
      if on then
        "Current option settings\n" ++ String.join (optionNames.map fun o =>
          o.2 ++ "".pushn ' ' (16 - o.2.length) ++ (if set.contains o.1 then "on" else "off") ++ "\n")
      else
        String.join (optionNames.map fun o =>
          "set " ++ (if set.contains o.1 then "-o " else "+o ") ++ o.2 ++ "\n")
    let _ ← say lines
    switchOptions on cs []
  | c :: cs, rest => do
    if optionNames.any (·.1 = c) && c ≠ 'p' && c ≠ 'l' && c ≠ 'd' then switchOption c on
    else fail ("Illegal option " ++ (if on then "-" else "+") ++ c.toString)
    switchOptions on cs rest

/-- Sets options by the words in front of the arguments, within `fuel` words; none is left if the
arguments of the shell stay as they are. -/
def takeSwitches : (fuel : Nat) → List Raw → Run (Option (List Raw))
  | 0, _ => return none
  | _ + 1, [] => return none
  | fuel + 1, word :: rest => do
    match word.toList with
    | ['-'] =>
      switchOption 'x' false
      switchOption 'v' false
      return if rest.isEmpty then none else some rest
    | ['-', '-'] => return some rest
    | '-' :: cs => takeSwitches fuel (← switchOptions true cs rest)
    | '+' :: cs => takeSwitches fuel (← switchOptions false cs rest)
    | _ => return some (word :: rest)

def setOptions : Builtin := fun arguments => do
  if arguments.isEmpty then say (← settingTexts "" fun v => v.value.isSome)
  else
    match ← takeSwitches (arguments.length + 1) arguments with
    | some arguments => change fun s => { s with arguments, optionPlace := 0 }
    | none => pure ()
    return 0

/-- Takes away the first arguments of the shell. -/
def shift : Builtin := fun arguments => do
  let n ← match arguments with
    | [] => pure 1
    | word :: _ => numberOf word
  if (← shell).arguments.length < n then fail "can't shift that many"
  change fun s => { s with arguments := s.arguments.drop n, optionPlace := 0 }
  return 0

/-! ## Input -/

/-- A character of a line, and whether it was behind a backslash. -/
abbrev InputLetter := Char × Bool

/-- The characters of a line; backslashes quote what is behind them. -/
def inputLetters : List Char → List InputLetter
  | '\\' :: c :: rest => (c, true) :: inputLetters rest
  | '\\' :: [] => []
  | c :: rest => (c, false) :: inputLetters rest
  | [] => []

def endsOpen (line : Raw) : Bool :=
  (line.toList.reverse.takeWhile (· = '\\')).length % 2 = 1

/-- Reads a line with those that are joined to it, within `fuel` of them; says whether it is
complete. -/
def readJoined (file : Nat) (literal : Bool) : (fuel : Nat) → Run (List InputLetter × Bool)
  | 0 => return ([], false)
  | fuel + 1 => do
    let (line, complete, w) := (← get).world.readLine file
    changeWorld fun _ => w
    let line := String.ofList (line.toList.filter (· ≠ '\x00'))
    if literal then return (line.toList.map (·, false), complete)
    else if endsOpen line && complete then
      let (rest, complete) ← readJoined file literal fuel
      return (inputLetters line.toList ++ rest, complete)
    else return (inputLetters line.toList, complete)

structure FieldEnd where
  kept : List Char
  cut : List Char
  inside : Bool
  blank : Bool

/-- The last field: the rest of the line.  A single separator at its end is no part of it, nor are
blanks. -/
def lastField (separators : List Char) (letters : List InputLetter) : Raw :=
  let step (e : FieldEnd) (l : InputLetter) : FieldEnd :=
    let separates := !l.2 && separators.contains l.1
    let isWhite := separates && (l.1 = ' ' || l.1 = '\t' || l.1 = '\n')
    if e.inside then
      if separates then { e with cut := [l.1], inside := false, blank := isWhite }
      else { e with kept := l.1 :: e.kept }
    else if isWhite then
      { e with cut := l.1 :: e.cut }
    else if separates && e.blank then { e with cut := l.1 :: e.cut, blank := false }
    else { e with kept := l.1 :: (e.cut ++ e.kept), cut := [], blank := false }
  let e := letters.foldl step ⟨[], [], true, false⟩
  String.ofList e.kept.reverse

def inputFields (separators : List Char) : (count : Nat) → List InputLetter → List Raw
  | 0, _ => []
  | count + 1, letters =>
    let separates (l : InputLetter) : Bool := !l.2 && separators.contains l.1
    let isWhite (l : InputLetter) : Bool :=
      separates l && (l.1 = ' ' || l.1 = '\t' || l.1 = '\n')
    let letters := letters.dropWhile isWhite
    if count = 0 then [lastField separators letters]
    else
      let field := letters.takeWhile fun l => !separates l
      let behind := (letters.drop field.length).dropWhile isWhite
      let behind :=
        match behind with
        | l :: rest => if separates l then rest else behind
        | [] => []
      String.ofList (field.map Prod.fst) :: inputFields separators count behind

def readLine : Builtin := fun arguments => do
  let (found, names) ← takeOptions ['r'] ['p'] (arguments.length * 8 + 8) arguments
  if names.isEmpty then fail "arg count"
  for name in names do checkName name
  let separators := (← valueOf? "IFS").getD standardSeparators
  let (letters, complete) ←
    match (← shell).table.find? (·.1 = 0) with
    | some entry => readJoined entry.2 (found.any (·.1 = 'r')) 100000
    | none => pure ([], false)
  let fields := inputFields separators.toList names.length letters
  for (name, i) in names.zipIdx do
    setVariable name (fields.getD i "")
  return if complete then 0 else 1

/-! ## Folders -/

def resolved (path : Raw) : List String :=
  (pathNames path).foldl (fun acc name =>
    if name.isEmpty || name = "." then acc
    else if name = ".." then acc.dropLast
    else acc ++ [name]) []

def pathOf (names : List String) : Raw := "/" ++ String.intercalate "/" names

def changeFolder : Builtin := fun arguments => do
  let (found, arguments) ← options "LP" arguments
  let s ← shell
  let home ← valueOf? "HOME"
  let (goal, tell) ←
    match arguments.head? with
    | none =>
      match home with
      | some home => pure (home, false)
      | none => return 0
    | some "-" => pure ((← valueOf? "OLDPWD").getD s.path, true)
    | some path => pure (path, false)
  if goal.isEmpty then return 0
  let full := if isAbsolute goal then goal else s.path ++ "/" ++ goal
  let logical := pathOf (resolved full)
  let physical := found.getLast? = some 'P'
  match (← get).world.disk.find s.folder (if physical then goal else logical) with
  | .ok (place, .folder) =>
    let path := if physical then pathOf place else logical
    change fun s => { s with folder := place, path }
    setVariable "OLDPWD" s.path
    setVariable "PWD" path
    if tell then say (path ++ "\n") else return 0
  | _ => fail ("can't cd to " ++ goal)

def tellFolder : Builtin := fun arguments => do
  let (found, _) ← options "LP" arguments
  let s ← shell
  say ((if found.getLast? = some 'P' then pathOf s.folder else s.path) ++ "\n")

/-! ## Signals -/

def signals : List (Nat × String) :=
  [(0, "EXIT"), (1, "HUP"), (2, "INT"), (3, "QUIT"), (4, "ILL"), (5, "TRAP"), (6, "ABRT"), (7, "BUS"),
    (8, "FPE"), (9, "KILL"), (10, "USR1"), (11, "SEGV"), (12, "USR2"), (13, "PIPE"), (14, "ALRM"),
    (15, "TERM"), (16, "16"), (17, "CHLD"), (18, "CONT"), (19, "STOP"), (20, "TSTP"), (21, "TTIN"),
    (22, "TTOU"), (23, "URG"), (24, "XCPU"), (25, "XFSZ"), (26, "VTALRM"), (27, "PROF"), (28, "WINCH"),
    (29, "IO"), (30, "PWR"), (31, "SYS")]

def signalMessage (signal : Nat) : Raw :=
  (([(1, "Hangup"), (3, "Quit"), (4, "Illegal instruction"), (5, "Trace/breakpoint trap"),
      (6, "Aborted"), (7, "Bus error"), (8, "Floating point exception"), (9, "Killed"),
      (10, "User defined signal 1"), (11, "Segmentation fault"), (12, "User defined signal 2"),
      (14, "Alarm clock"), (15, "Terminated"), (24, "CPU time limit exceeded"),
      (25, "File size limit exceeded"), (26, "Virtual timer expired"),
      (27, "Profiling timer expired"), (29, "I/O possible"), (30, "Power failure"),
      (31, "Bad system call")] : List (Nat × Raw)).find? (·.1 = signal)).map Prod.snd |>.getD
    ("Signal " ++ toString signal)

def signalOf? (word : Raw) : Option Nat :=
  match Raw.nat? word.toList with
  | some n => if n < 65 then some n else none
  | none => (signals.find? (·.2 = String.ofList (word.toList.map Char.toUpper))).map Prod.fst

def isIdle (signal : Nat) : Bool := [0, 17, 18, 23, 28].contains signal

def trapKey (signal : Nat) : String := if signal < 10 then "0" ++ toString signal else toString signal

def setTraps : Builtin := fun arguments => do
  let (_, arguments) ← options "" arguments
  match arguments with
  | [] =>
    let lines := (← shell).traps.entries.map fun e =>
      let name := (signals.find? fun p => trapKey p.1 = e.1).map Prod.snd
      "trap -- " ++ quotedText e.2 ++ " " ++ name.getD e.1 ++ "\n"
    say (String.join lines)
  | first :: rest =>
    let (action, words) : Option Raw × List Raw :=
      if rest.isEmpty || (Raw.nat? first.toList).isSome then (none, arguments)
      else (some first, rest)
    for word in words do
      match signalOf? word with
      | some signal =>
        change fun s =>
          let others := s.traps.erase (trapKey signal)
          { s with
            traps := match action with
              | none => others
              | some "-" => others
              | some action => others.insert (trapKey signal) action }
      | none =>
        Run.write 2 ("trap: " ++ word ++ ": bad trap\n")
        return 1
    return 0

def receive (signal : Nat) : Run Unit := do
  let s ← shell
  match s.traps.get? (trapKey signal) with
  | some action =>
    if signal = 9 then throw (.killed signal)
    else if !action.isEmpty then change fun s => { s with pending := s.pending ++ [signal] }
  | none =>
    if isIdle signal then return ()
    else if [19, 20, 21, 22].contains signal then throw .endless
    else throw (.killed signal)

def killUsage : Raw :=
  "Usage: kill [-s sigspec | -signum | -sigspec] [pid | job]... or\nkill -l [exitstatus]"

def sendTo (signal : Nat) (word : Raw) : Run Bool := do
  let s ← shell
  match Raw.int? word.toList with
  | none => fail ("Illegal number: " ++ word)
  | some n =>
    if n = s.process || n = 0 then
      receive signal
      return true
    else
      match s.jobs.find? fun j => (j.process : Int) = n with
      | some job =>
        if (← get).world.now < job.finish then
          if !isIdle signal then
            changeWorld fun w => w.silence job.process
            change fun s =>
              { s with
                jobs := s.jobs.map fun j =>
                  if j.process = job.process then { j with finish := 0.0, status := 128 + signal }
                  else j }
          return true
        else return false
      | none => return false

def kill : Builtin := fun arguments => do
  let send (signal : Nat) (words : List Raw) : Run Nat := do
    if words.isEmpty then fail killUsage
    let mut status := 0
    for word in words do
      if !(← sendTo signal word) then
        warn "No such process\n"
        status := 1
    return status
  match arguments with
  | [] => fail killUsage
  | word :: rest =>
    match word.toList with
    | ['-', 'l'] =>
      match rest with
      | [] => say (String.join ((signals.map fun p => if p.1 = 0 then "0" else p.2).map (· ++ "\n")))
      | code :: _ =>
        let n ← numberOf code
        match signals.find? (·.1 = n % 128) with
        | some (_, name) => say (name ++ "\n")
        | none => fail ("invalid signal number or exit status: " ++ code)
    | ['-', 's'] =>
      match rest with
      | name :: words =>
        match signalOf? name with
        | some signal => send signal words
        | none => fail ("invalid signal number or name: " ++ name)
      | [] => fail "No arg for -s option"
    | ['-', '-'] => send 15 rest
    | '-' :: cs =>
      match signalOf? (String.ofList cs) with
      | some signal => send signal rest
      | none => fail ("Illegal option -" ++ (cs.headD '-').toString)
    | _ => send 15 arguments

/-! ## Others -/

def waitFor : Builtin := fun arguments => do
  let waitUntil (t : Float) : Run Unit :=
    changeWorld fun w => if w.now < t then { w with now := t } else w
  match arguments with
  | [] =>
    for job in (← shell).jobs do waitUntil job.finish
    change fun s => { s with jobs := [] }
    return 0
  | _ =>
    let mut status := 0
    for word in arguments do
      let n ← numberOf word
      match (← shell).jobs.find? (·.process = n) with
      | some job =>
        waitUntil job.finish
        status := job.status
      | none => status := 127
    return status

def nextOption : Builtin := fun arguments => do
  match arguments with
  | known :: name :: given =>
    let s ← shell
    let words := if given.isEmpty then s.arguments else given
    let quiet := known.toList.head? = some ':'
    let index := ((Raw.nat? ((← valueOf? "OPTIND").getD "1").toList).getD 1) - 1
    let place := if s.optionPlace = 0 then 1 else s.optionPlace
    let word := (words.getD index "").toList
    let finish (found : Raw) (index place : Nat) (status : Nat) : Run Nat := do
      checkName name
      setVariable "OPTIND" (toString (index + 1))
      change fun s => { s with optionPlace := place }
      setVariable name found
      return status
    if word.length < 2 || word.head? ≠ some '-' then finish "?" index 0 1
    else if word = ['-', '-'] then finish "?" (index + 1) 0 1
    else
      let c := word.getD place '-'
      let isLast := word.length ≤ place + 1
      let after (place' : Nat) : Nat × Nat := if isLast then (index + 1, 0) else (index, place')
      let behind := (known.toList.dropWhile (· ≠ c)).drop 1
      if c = ':' || !known.toList.contains c then
        if quiet then setVariable "OPTARG" c.toString
        else
          Run.write 2 ("Illegal option -" ++ c.toString ++ "\n")
          change fun s => { s with environment := s.environment.erase "OPTARG" }
        let (index, place) := after (place + 1)
        finish "?" index place 0
      else if behind.head? = some ':' then
        if !isLast then
          setVariable "OPTARG" (String.ofList (word.drop (place + 1)))
          finish c.toString (index + 1) 0 0
        else
          match words[index + 1]? with
          | some value =>
            setVariable "OPTARG" value
            finish c.toString (index + 2) 0 0
          | none =>
            if quiet then
              setVariable "OPTARG" c.toString
              finish ":" (index + 1) 0 0
            else
              Run.write 2 ("No arg for -" ++ c.toString ++ " option\n")
              change fun s => { s with environment := s.environment.erase "OPTARG" }
              finish "?" (index + 1) 0 0
      else
        setVariable "OPTARG" ""
        let (index, place) := after (place + 1)
        finish c.toString index place 0
  | _ => fail "Usage: getopts optstring var [arg...]"

/-- The digits of a number in base eight, four at least. -/
def maskText (mask : Nat) : Raw := (⟨false, none, false, false, 0, some 4⟩ : Layout).digits 8 mask

def maskLetters (mask : Nat) : Raw :=
  let part (n : Nat) : String :=
    (if n &&& 4 = 0 then "r" else "") ++ (if n &&& 2 = 0 then "w" else "") ++
      (if n &&& 1 = 0 then "x" else "")
  "u=" ++ part (mask / 64) ++ ",g=" ++ part (mask / 8 % 8) ++ ",o=" ++ part (mask % 8)

/-- Tells or sets the rights that new files are not given. -/
def setMask : Builtin := fun arguments => do
  let (found, arguments) ← options "S" arguments
  match arguments with
  | [] =>
    let mask := (← shell).mask
    say ((if found.contains 'S' then maskLetters mask else maskText mask) ++ "\n")
  | word :: _ =>
    if word.toList.head?.any Char.isDigit then
      let (n, rest) := Number.takeDigits 8 word.toList
      if !rest.isEmpty then fail ("Illegal number: " ++ word)
      change fun s => { s with mask := n % 512 }
    return 0

def setAliases : Builtin := fun arguments => do
  let line (name value : Raw) : Raw := name ++ "=" ++ quotedText value ++ "\n"
  if arguments.isEmpty then
    say (String.join ((← shell).aliases.entries.map fun e => line e.1 e.2))
  else
    let mut status := 0
    for word in arguments do
      match splitSetting word with
      | (name, some value) => change fun s => { s with aliases := s.aliases.insert name value }
      | (name, none) =>
        match (← shell).aliases.get? name with
        | some value => let _ ← say (line name value)
        | none =>
          Run.write 2 ("alias: " ++ name ++ " not found\n")
          status := 1
    return status

/-- Takes other names for commands away. -/
def dropAliases : Builtin := fun arguments => do
  let (found, arguments) ← options "a" arguments
  if !found.isEmpty then change fun s => { s with aliases := KeyMap.empty }
  let mut status := 0
  for name in arguments do
    if (← shell).aliases.contains name then
      change fun s => { s with aliases := s.aliases.erase name }
    else
      Run.write 2 ("unalias: " ++ name ++ " not found\n")
      status := 1
  return status

def tellLimits : Builtin := fun arguments => do
  let (_, rest) ← options "HSatfdscmlpnvwr" arguments
  if rest.isEmpty then say "unlimited\n" else return 0

def tellTimes : Builtin := fun _ => say "0m0.000000s 0m0.000000s\n0m0.000000s 0m0.000000s\n"

/-- Brings a command in the background forward; there is none. -/
def foreground : Builtin := fun arguments => do
  match arguments with
  | [] => fail "No current job"
  | word :: _ => fail ("No such job: " ++ word)

def idle (status : Nat) : Builtin := fun _ => return status

/-- The commands of the shell that run no other command, by their names. -/
def builtins : List (Raw × Builtin) :=
  [(":", idle 0), ("true", idle 0), ("false", idle 1), ("echo", echo), ("printf", printf),
    ("test", ask), ("[", askInBrackets), ("export", exportVariables), ("readonly", fixVariables),
    ("local", makeLocal), ("unset", unsetNames), ("set", setOptions), ("shift", shift),
    ("read", readLine), ("cd", changeFolder), ("chdir", changeFolder), ("pwd", tellFolder),
    ("trap", setTraps), ("kill", kill), ("wait", waitFor), ("getopts", nextOption), ("umask", setMask),
    ("alias", setAliases), ("unalias", dropAliases), ("ulimit", tellLimits), ("times", tellTimes),
    ("fg", foreground), ("bg", foreground), ("jobs", idle 0)]

/-- The commands of the shell that run other commands or end something. -/
def runningNames : List Raw :=
  [".", "eval", "exec", "exit", "return", "break", "continue", "command", "type", "hash"]

def isBuiltin (name : Raw) : Bool := builtins.any (·.1 = name) || runningNames.contains name

def settingCommands : List Raw := ["export", "readonly", "local", "alias"]

end ConfigVault.Host.Shell
