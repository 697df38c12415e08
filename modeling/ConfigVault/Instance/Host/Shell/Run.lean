import ConfigVault.Instance.Host.Program
import ConfigVault.Instance.Host.Shell.Builtin
import ConfigVault.Instance.Host.Shell.Expansion

/-!
# Running commands

A command is run by its structure.  What runs text or the bodies of functions, and what starts other
programs, is handed down as a `Core`; each level of it is built from the one below, so that scripts
within scripts come to an end.  Commands with a shell of their own leave the state of the shell as it
was; what they do to the disk, to open files and to time stays.
-/

namespace ConfigVault.Host.Shell

open Run

structure Manner where
  /-- Its status is looked at, and ends nothing. -/
  tested : Bool
  last : Bool

/-- The manner of a part of a command behind which others follow. -/
def Manner.inner (m : Manner) : Manner := { m with last := false }

def Manner.test : Manner := ⟨true, false⟩

/-- What running a command takes beside its structure. -/
structure Core where
  script : Manner → Raw → (line : Nat) → Run Nat
  command : Manner → Command → Run Nat
  start : Starter

def Core.bottom : Core :=
  ⟨fun _ _ _ => throw .endless, fun _ _ => throw .endless, fun _ _ => return .never⟩

def observe {α : Type} (r : Run α) : Run (Except Jump α) :=
  ExceptT.mk (r.run >>= fun e => pure (.ok e))

/-- Does something behind a step, also where it ends with a jump. -/
def guarded {α : Type} (r : Run α) (behind : Run Unit) : Run α := do
  let outcome ← observe r
  behind
  match outcome with
  | .ok a => return a
  | .error jump => throw jump

def speakAs {α : Type} (name : Raw) (r : Run α) : Run α := do
  let before := (← shell).speaker
  change fun s => { s with speaker := some name }
  guarded r (change fun s => { s with speaker := before })

/-! ## Traps and ends -/

def answerTrap (core : Core) (action : Raw) : Run Unit := do
  let before ← shell
  change fun s => { s with parting := some before.status }
  guarded (do let _ ← core.script ⟨false, false⟩ action 1)
    (change fun s => { s with parting := before.parting })
  finish before.status

def answerSignals (core : Core) : Run Unit := do
  for signal in (← shell).pending do
    change fun s => { s with pending := s.pending.drop 1 }
    if let some action := (← shell).traps.get? (trapKey signal) then answerTrap core action

def endWith (core : Core) (status : Nat) : Run Ending := do
  finish status
  match (← shell).traps.get? (trapKey 0) with
  | none => return .status (status % 256)
  | some action =>
    change fun s => { s with traps := s.traps.erase (trapKey 0) }
    match ← observe (answerTrap core action) with
    | .error (.exit status) => return .status (status % 256)
    | .error (.replaced ending) => return ending
    | .error .failed => return .status 2
    | .error (.killed signal) => throw (.killed signal)
    | .error .endless => throw .endless
    | _ => return .status (status % 256)

def complete (core : Core) (r : Run Nat) : Run Ending := do
  match ← observe r with
  | .ok status => endWith core status
  | .error (.exit status) => endWith core status
  | .error (.back status) => endWith core status
  | .error .failed => endWith core 2
  | .error (.leave _) => endWith core (← shell).status
  | .error (.again _) => endWith core (← shell).status
  | .error (.replaced ending) => return ending
  | .error (.killed signal) => throw (.killed signal)
  | .error .endless => throw .endless

def inSubshell (core : Core) (r : Run Nat) : Run Ending := do
  let before ← shell
  change fun s =>
    let ignored := KeyMap.ofList (s.traps.entries.filter fun e => e.2.isEmpty)
    { s with traps := ignored, pending := [], isFirst := false, parting := none }
  guarded (complete core r)
    (change fun s => { before with pending := before.pending ++ s.pending })

/-- The status of a program that has ended; it is told where a signal has ended it. -/
def statusOf (ending : Ending) : Run Nat := do
  match ending with
  | .status n => return n
  | .never => throw .endless
  | .signal n =>
    if n ≠ 2 && n ≠ 13 then Run.write 2 (signalMessage n ++ "\n")
    return 128 + n

/-! ## Words -/

def outputOf (core : Core) : ScriptRunner := fun script line => do
  let (source, sink, w) := (← get).world.openPipe
  changeWorld fun _ => w
  let ending ← inSubshell core do
    change fun s => { s with table := (1, sink) :: s.table.filter (·.1 ≠ 1), outputStatus := none }
    core.script ⟨false, true⟩ script line
  let status ← statusOf ending
  change fun s => { s with outputStatus := some status }
  return (← get).world.rest source

/-- The words of a command; settings behind commands that set variables are not split. -/
def expandCommand (script : ScriptRunner) : List Word → (before : List Raw) → Run (List Raw)
  | [], before => return before
  | word :: rest, before => do
    let isSetting := (before.find? (· ≠ "command")).any settingCommands.contains
    match isSetting, setting? word with
    | true, some (name, value) =>
      expandCommand script rest (before ++ [name ++ "=" ++ (← expandValue script value)])
    | _, _ => expandCommand script rest (before ++ (← expandWord script word))

/-! ## Streams -/

/-- Where a stream is led, with its words put in. -/
inductive Route where
  | file (path : Raw) (access : Access) (keeps : Bool)
  | copy (stream : Raw)
  | text (content : Raw)

def routeOf (script : ScriptRunner) (r : Redirection) : Run (Nat × Route) := do
  let path (word : Word) : Run Raw := expandText script word
  let keeps ← has 'C'
  let route ←
    match r.direction with
    | .input word => pure (Route.file (← path word) .read false)
    | .output word => pure (Route.file (← path word) .overwrite keeps)
    | .append word => pure (Route.file (← path word) .append false)
    | .both word => pure (Route.file (← path word) .both false)
    | .copy word => pure (Route.copy (← path word))
    | .document number =>
      let word := (((← shell).documents.find? (·.1 = number)).map Prod.snd).getD []
      pure (Route.text (Glyph.text (← expandPieces script word)))
  return (r.stream, route)

def setStream (stream : Nat) (file : Option Nat) : Run Unit :=
  change fun s =>
    let others := s.table.filter (·.1 ≠ stream)
    { s with
      table := match file with
        | some n => (stream, n) :: others
        | none => others }

/-- Why a file is not opened, as the shell says it. -/
def openText (fault : OpenFault) (reads : Bool) : Raw :=
  match fault with
  | .path .missing => if reads then "No such file" else "Directory nonexistent"
  | .path .notFolder => if reads then "No such file" else "Directory nonexistent"
  | fault => fault.message

def lead (stream : Nat) (route : Route) : Run Unit := do
  match route with
  | .file path access keeps =>
    let reads := access = .read
    if keeps then
      if let some (_, .file _ _) ← Run.task "" (Task.find? path) then
        fail ("cannot create " ++ path ++ ": File exists")
    match ← Run.task "" (Task.openPath path access) with
    | .ok n => setStream stream (some n)
    | .error fault =>
      fail ((if reads then "cannot open " else "cannot create ") ++ path ++ ": " ++
        openText fault reads)
  | .copy "-" => setStream stream none
  | .copy text =>
    match Raw.nat? text.toList with
    | none => fail ("Bad fd number: " ++ text)
    | some n =>
      match (← shell).table.find? (·.1 = n) with
      | some entry => setStream stream (some entry.2)
      | none => fail (text ++ ": Bad file descriptor")
  | .text content =>
    let (n, w) := (← get).world.openBytes content
    changeWorld fun _ => w
    setStream stream (some n)

/-- Leads streams one by one; says whether all could be led. -/
def leadAll (routes : List (Nat × Route)) : Run Bool := do
  match ← observe (routes.forM fun r => lead r.1 r.2) with
  | .ok _ => return true
  | .error .failed => return false
  | .error jump => throw jump

/-! ## Programs, functions and commands of the shell -/

def startText (fault : StartFault) : Raw × Nat :=
  match fault with
  | .path .missing => ("not found", 127)
  | .path .notFolder => ("not found", 127)
  | .path fault => ((OpenFault.path fault).message, 126)
  | .forbidden => ("Permission denied", 126)

def runProgram (core : Core) (name : Raw) (arguments : List Raw) (becomes : Bool) : Run Nat := do
  changeWorld fun w => { w with process := w.process + 1 }
  match ← Run.task name (Program.launch core.start name arguments) with
  | .ok ending => if becomes then throw (.replaced ending) else statusOf ending
  | .error fault =>
    let (message, status) := startText fault
    warn (name ++ ": " ++ message)
    return status

def maxCalls : Nat := 1000

def callFunction (core : Core) (m : Manner) (arguments : List Raw) (body : Command) : Run Nat := do
  let before ← shell
  if maxCalls ≤ before.calls then fail "Maximum function recursion depth (1000) reached"
  change fun s =>
    { s with arguments, loops := 0, calls := s.calls + 1, locals := [] :: s.locals, optionPlace := 0 }
  let restore : Run Unit := change fun s =>
    let environment := (s.locals.headD []).foldl (fun (vs : KeyMap Variable) entry =>
      match entry.2 with
      | some v => vs.insert entry.1 v
      | none => vs.erase entry.1) s.environment
    { s with
      arguments := before.arguments, loops := before.loops, calls := before.calls
      locals := s.locals.drop 1, optionPlace := before.optionPlace, environment }
  guarded (do
    match ← observe (core.command m.inner body) with
    | .ok status => return status
    | .error (.back status) => return status
    | .error jump => throw jump) restore

def askedStatus (arguments : List Raw) (present : Nat) : Run Nat := do
  match arguments with
  | [] => return present
  | word :: _ => numberOf word

/-- The number of loops that a word asks for. -/
def askedLevels (arguments : List Raw) : Run Nat := do
  match arguments with
  | [] => return 1
  | word :: _ =>
    let n ← numberOf word
    if n = 0 then fail ("Illegal number: " ++ word)
    return n

/-- What a name stands for, as the shell tells it: in words, or in the form of a command. -/
def describe (name : Raw) (inWords : Bool) : Run (Option Raw) := do
  let s ← shell
  let tell (words plain : Raw) : Run (Option Raw) :=
    return some (if inWords then name ++ " is " ++ words else plain)
  if keywords.contains name then tell "a shell keyword" name
  else if let some value := s.aliases.get? name then
    if inWords then return some (name ++ " is an alias for " ++ value)
    else return some ("alias " ++ name ++ "=" ++ quotedText value)
  else if (s.functions.get? name).isSome then tell "a shell function" name
  else if specialNames.contains name then tell "a special shell builtin" name
  else if isBuiltin name then tell "a shell builtin" name
  else
    match ← Run.task "" (Program.locate name) with
    | .ok (path, _, _) => tell path path
    | .error _ => return none

def describeAll (inWords : Bool) (names : List Raw) : Run Nat := do
  let mut status := 0
  for name in names do
    match ← describe name inWords with
    | some text => let _ ← say (text ++ "\n")
    | none =>
      if inWords then let _ ← say (name ++ ": not found\n")
      status := 127
  return status

/-- Reads the file of a script; one without a slash is looked for like a program. -/
def readScript (name : Raw) : Run Raw := do
  let paths ← if name.toList.contains '/' then pure [name] else Run.task "" (Program.pathsOf name)
  let files ← paths.filterMapM fun path => do
    match ← Run.task "" (Task.find? path) with
    | some (_, .folder) => return none
    | some _ => return some path
    | none => return none
  match files with
  | path :: _ =>
    match ← Run.task "" (Task.readPath path) with
    | .ok text => return text
    | .error fault => fail ("cannot open " ++ path ++ ": " ++ openText fault true)
  | [] =>
    if name.toList.contains '/' then fail ("cannot open " ++ name ++ ": No such file")
    else fail (name ++ ": not found")

def source (core : Core) (name : Raw) : Run Nat := do
  let text ← readScript name
  speakAs name do
    match ← observe (core.script ⟨false, false⟩ text 1) with
    | .ok status => return status
    | .error (.back status) => return status
    | .error jump => throw jump

/-- A command of the shell that runs other commands or ends something. -/
def runRunning (core : Core) (m : Manner) (name : Raw) (arguments : List Raw) : Run Nat := do
  let present := (← shell).parting.getD (← shell).status
  match name with
  | "eval" =>
    if arguments.isEmpty then return 0
    else core.script m (String.intercalate " " arguments) 1
  | "." =>
    match arguments with
    | [] => return 0
    | file :: _ => source core file
  | "exit" => throw (.exit (← askedStatus arguments present))
  | "return" => throw (.back (← askedStatus arguments (← shell).status))
  | "break" =>
    let n ← askedLevels arguments
    let loops := (← shell).loops
    finish 0
    if loops = 0 then return 0 else throw (.leave (min n loops))
  | "continue" =>
    let n ← askedLevels arguments
    let loops := (← shell).loops
    finish 0
    if loops = 0 then return 0 else throw (.again (min n loops))
  | "exec" =>
    match arguments with
    | [] => return 0
    | name :: rest => throw (.exit (← runProgram core name rest true))
  | "type" => describeAll true arguments
  | "hash" =>
    let (_, names) ← options "rv" arguments
    let mut status := 0
    for name in names do
      if (← describe name true).isNone then
        warn (name ++ ": not found")
        status := 1
    return status
  | "command" =>
    let (found, names) ← options "pvV" arguments
    match names with
    | [] => return 0
    | _ => describeAll (found.contains 'V') (names.take 1)
  | _ => return 0

inductive Worker where
  | nothing
  | function (body : Command)
  | builtin (name : Raw)
  | program

/-- Who does a command, and the words that are left of it; `command` in front shuts out functions. -/
def workerOf (s : State) : (fuel : Nat) → (plain : Bool) → List Raw → Worker × List Raw
  | 0, _, words => (.nothing, words)
  | _ + 1, _, [] => (.nothing, [])
  | fuel + 1, plain, name :: rest =>
    match plain, s.functions.get? name with
    | false, some body => (.function body, name :: rest)
    | _, _ =>
      if name = "command" then
        match rest with
        | [] => (.builtin "command", name :: rest)
        | "--" :: _ :: _ => workerOf s fuel true (rest.drop 1)
        | "-p" :: _ :: _ => workerOf s fuel true (rest.drop 1)
        | next :: _ =>
          if next.toList.head? = some '-' then (.builtin "command", name :: rest)
          else workerOf s fuel true rest
      else if isBuiltin name then (.builtin name, name :: rest)
      else (.program, name :: rest)

/-- Runs a command of the shell in its own name.  Where it cannot go on its status is two; what is
`special` then ends the shell. -/
def runBuiltin (core : Core) (m : Manner) (name : Raw) (arguments : List Raw) (special : Bool) :
    Run Nat := do
  let work : Run Nat :=
    match builtins.find? (·.1 = name) with
    | some (_, builtin) => builtin arguments
    | none => runRunning core m name arguments
  match ← observe (speakAs name work) with
  | .ok status => return status
  | .error .failed => if special then throw .failed else return 2
  | .error jump => throw jump

def trace (file : Option Nat) (settings : List (Raw × Raw)) (words : List Raw) : Run Unit := do
  if ← has 'x' then
    let parts := settings.map (fun s => s.1 ++ "=" ++ s.2) ++ words
    let mark := (← valueOf? "PS4").getD ""
    if let some n := file then
      changeWorld fun w => w.write n (mark ++ String.intercalate " " parts ++ "\n")

def setFor (settings : List (Raw × Raw)) (exported : Bool) : Run (List (Raw × Option Variable)) :=
  settings.mapM fun s => do
    let old := (← shell).environment.get? s.1
    setVariable s.1 s.2
    if exported then
      change fun t =>
        match t.environment.get? s.1 with
        | some v => { t with environment := t.environment.insert s.1 { v with exported := true } }
        | none => t
    return (s.1, old)

def giveBack (old : List (Raw × Option Variable)) : Run Unit :=
  change fun s =>
    let environment := old.foldr (fun entry (vs : KeyMap Variable) =>
      match entry.2 with
      | some v => vs.insert entry.1 v
      | none => vs.erase entry.1) s.environment
    { s with environment }

def runSimple (core : Core) (m : Manner) (settings : List (Raw × Word)) (words : List Word)
    (redirections : List Redirection) : Run Nat := do
  change fun s => { s with outputStatus := none }
  let script := outputOf core
  let given ← expandCommand script words []
  let (worker, left) := workerOf (← shell) (given.length + 1) false given
  let special := (given.head?).any specialNames.contains
  let table := (← shell).table
  let routes ← redirections.mapM (routeOf script)
  if !(← leadAll routes) then
    change fun s => { s with table }
    if special then throw .failed else return 2
  let keepsStreams := given = ["exec"]
  let restore : Run Unit := if keepsStreams then pure () else change fun s => { s with table }
  guarded (do
    let stays := special || given.isEmpty
    let mut values : List (Raw × Raw) := []
    let mut old : List (Raw × Option Variable) := []
    for (name, word) in settings do
      let value ← expandValue script word
      old := old ++ (← setFor [(name, value)] (!stays || (given.head? = some "exec" && 1 < given.length)))
      values := values ++ [(name, value)]
    trace ((table.find? (·.1 = 2)).map Prod.snd) values given
    let work : Run Nat :=
      match worker, left with
      | .function body, _ :: arguments => callFunction core m arguments body
      | .builtin name, _ :: arguments => runBuiltin core m name arguments special
      | .program, name :: arguments => do
        let becomes := m.last && (← shell).traps.entries.all fun e => e.2.isEmpty
        runProgram core name arguments becomes
      | _, _ => return ((← shell).outputStatus).getD 0
    if stays then work else guarded work (giveBack old)) restore

/-! ## Structure -/

/-- The greatest number of times that a loop is run. -/
def maxRounds : Nat := 200000

/-- Repeats a step that hands on a status as long as it asks for it. -/
def iterate (step : Nat → Run (Nat × Bool)) : (fuel : Nat) → Nat → Run Nat
  | 0, _ => throw .endless
  | fuel + 1, status => do
    let (status, more) ← step status
    if more then iterate step fuel status else return status

/-- More has been written to a pipe than anything reads. -/
def floods : Run Bool := do
  let w := (← get).world
  return match ((← shell).table.find? (·.1 = 1)).bind fun e => w.file? e.2 with
    | some ⟨.buffer n, _, _, _, _⟩ => endlessSize < (w.buffers.getD n "").utf8ByteSize
    | _ => false

/-- One round of a loop: a jump out of it or back to its start ends here. -/
def oneRound (r : Run (Nat × Bool)) : Run (Nat × Bool) := do
  if ← floods then throw (.exit 141)
  match ← observe r with
  | .ok outcome => return outcome
  | .error (.leave n) => if n ≤ 1 then return (0, false) else throw (.leave (n - 1))
  | .error (.again n) => if n ≤ 1 then return (0, true) else throw (.again (n - 1))
  | .error jump => throw jump

def inLoop (r : Run Nat) : Run Nat := do
  let loops := (← shell).loops
  change fun s => { s with loops := loops + 1 }
  guarded r (change fun s => { s with loops })

def forEach (step : Raw → Run Nat) : List Raw → Nat → Run Nat
  | [], status => return status
  | word :: rest, _ => do
    let (status, more) ← oneRound do return (← step word, true)
    if more then forEach step rest status else return status

/-- Ends a command with its status: signals are answered, and a failure ends the shell where the
option asks for it. -/
def settle (core : Core) (m : Manner) (checks : Bool) (status : Nat) : Run Nat := do
  finish status
  answerSignals core
  if checks && status ≠ 0 && !m.tested && (← has 'e') then throw (.exit status)
  return status

/-- The command holds the output of the shell while it runs in the background. -/
def holdsOutput (command : Command) (s : State) (w : World) : Bool :=
  let own : List Nat :=
    match command with
    | .simple _ _ _ rs => rs.map Redirection.stream
    | _ => []
  [1, 2].any fun n =>
    !own.contains n &&
      match (s.table.find? (·.1 = n)).bind fun e => w.file? e.2 with
      | some f => f.target = .result
      | none => false

/-- The seconds after which a command in the background begins. -/
def startDelay : Float := 0.0005

/-- Runs a command with a shell of its own beside those that follow. -/
def inBackground (core : Core) (command : Command) (r : Run Nat) : Run Nat := do
  let before ← get
  let process := before.world.process + 1
  let (n, w) := before.world.add ⟨.device .null, true, false, false, 0⟩
  changeWorld fun _ => { w with process, behind := some process, now := w.now + startDelay }
  let ending ← inSubshell core do
    setStream 0 (some n)
    r
  let finish := (← get).world.now
  let holds := holdsOutput command before.shell before.world
  changeWorld fun w =>
    { w with
      now := before.world.now
      behind := before.world.behind
      held := if holds then (process, finish) :: w.held else w.held }
  change fun s =>
    { s with lastJob := some process, jobs := ⟨process, ending.code, finish⟩ :: s.jobs }
  return 0

/-- Runs two commands side by side, the output of one being the input of the other. -/
def piped (core : Core) (first rest : Run Nat) : Run Nat := do
  let start := (← get).world.now
  let (source, sink, w) := (← get).world.openPipe
  changeWorld fun _ => w
  let _ ← inSubshell core do
    setStream 1 (some sink)
    first
  let finish := (← get).world.now
  changeWorld fun w => { w with now := start }
  let ending ← inSubshell core do
    setStream 0 (some source)
    rest
  changeWorld fun w => if w.now < finish then { w with now := finish } else w
  statusOf ending

mutual

def Command.run (core : Core) (m : Manner) : Command → Run Nat
  | .empty => do return (← shell).status
  | .simple line settings words redirections => do
    change fun s => { s with line }
    let status ← runSimple core m settings words redirections
    settle core m true status
  | .pipe first rest => do
    let status ← piped core (first.run core { m with last := true })
      (rest.run core { m with last := true })
    settle core m true status
  | .negation command => do
    let status ← command.run core .test
    settle core m false (if status = 0 then 1 else 0)
  | .both first second => do
    let status ← first.run core .test
    if status = 0 then second.run core m else return status
  | .either first second => do
    let status ← first.run core .test
    if status = 0 then return status else second.run core m
  | .sequence first second => do
    let _ ← first.run core m.inner
    second.run core m
  | .background command => do
    let status ← inBackground core command (command.run core ⟨false, true⟩)
    settle core m false status
  | .subshell line command redirections => do
    change fun s => { s with line }
    let routes ← redirections.mapM (routeOf (outputOf core))
    let ending ← inSubshell core do
      if ← leadAll routes then command.run core { m with last := true } else throw .failed
    let status ← statusOf ending
    settle core m true status
  | .redirected line command redirections => do
    change fun s => { s with line }
    let table := (← shell).table
    let routes ← redirections.mapM (routeOf (outputOf core))
    if ← leadAll routes then
      let status ← guarded (command.run core m.inner) (change fun s => { s with table })
      settle core m false status
    else
      change fun s => { s with table }
      settle core m false 2
  | .choice test yes no => do
    let status ← test.run core .test
    if status = 0 then yes.run core m
    else
      match no with
      | .empty => settle core m false 0
      | no => no.run core m
  | .loop untilDone test body => do
    let status ← inLoop (iterate (fun status => oneRound do
      let tested ← test.run core .test
      if (tested = 0) = untilDone then return (status, false)
      else return (← body.run core m.inner, true)) maxRounds 0)
    settle core m false status
  | .each line name words body => do
    change fun s => { s with line }
    let items ←
      match words with
      | some words => expandWords (outputOf core) words
      | none => pure (← shell).arguments
    let status ← inLoop (forEach (fun item => do
      setVariable name item
      body.run core m.inner) items 0)
    settle core m false status
  | .select line word arms => do
    change fun s => { s with line }
    let text ← expandText (outputOf core) word
    let status ← arms.runArm core m text
    settle core m false status
  | .arm _ _ _ => return 0
  | .define _ name body => do
    change fun s => { s with functions := s.functions.insert name body }
    settle core m false 0

def Command.runArm (core : Core) (m : Manner) (text : Raw) : Command → Run Nat
  | .arm patterns body next => do
    let fits ← patterns.anyM fun pattern => do
      return Glob.isMatch (← expandPattern (outputOf core) pattern) text.toList
    if fits then
      match body with
      | .empty => return 0
      | body => body.run core m
    else next.runArm core m text
  | _ => return 0

end

/-! ## Scripts -/

def runSource (core : Core) (m : Manner) : (fuel : Nat) → Source → (status : Nat) → Run Nat
  | 0, _, status => return status
  | fuel + 1, source, status => do
    let source := { source with next := (← shell).nextDocument }
    match takeNext.run source with
    | .error fault =>
      change fun s => { s with line := fault.line }
      fail fault.message
    | .ok (none, _) => return status
    | .ok (some command, after) =>
      change fun s =>
        { s with documents := after.documents ++ s.documents, nextDocument := after.next }
      let last := m.last && after.rest.isEmpty && source.rest.getLast? ≠ some '\n'
      let status ←
        match command with
        | .empty => pure status
        | command => if ← has 'n' then pure status else command.run core { m with last }
      runSource core m fuel { after with documents := [] } status

def runScript (core : Core) (m : Manner) (text : Raw) (line : Nat) : Run Nat :=
  runSource core m (text.length + 2) ⟨text.toList, line, [], [], 0⟩ 0

/-! ## The program -/

def State.initial (job : Job) (w : World) : State :=
  let given (name : Raw) : Option Raw := (job.environment.find? (·.1 = name)).map Prod.snd
  let path :=
    match given "PWD" with
    | some path =>
      if isAbsolute path && (w.disk.place [] path).toOption = some job.folder then path
      else pathOf job.folder
    | none => pathOf job.folder
  let own : List (Raw × Variable) :=
    [("IFS", standardSeparators), ("OPTIND", "1"), ("PS1", "# "), ("PS2", "> "), ("PS4", "+ ")].map
      fun p => (p.1, ⟨some p.2, false, false⟩)
  let handed : List (Raw × Variable) :=
    (job.environment.filter fun v => isName v.1).map fun v => (v.1, ⟨some v.2, true, false⟩)
  { name := job.name, arguments := [],
    environment := KeyMap.ofList (own ++ handed ++ [("PWD", ⟨some path, true, false⟩)])
    functions := KeyMap.empty, documents := [], nextDocument := 0, status := 0,
    outputStatus := none, options := [], folder := job.folder, path, table := job.table,
    traps := KeyMap.empty, pending := [], line := 0, loops := 0, calls := 0, reads := 0,
    process := w.process + 1, isFirst := true, lastJob := none, jobs := [], locals := [],
    optionPlace := 0, aliases := KeyMap.empty, mask := 0o022, speaker := none, parting := none }

/-- Takes the options that the shell is started with, within `fuel` words: whether a script is an
argument, and the other arguments. -/
def takeInvocation : (fuel : Nat) → (isScript : Bool) → List Raw → Run (Bool × List Raw)
  | 0, isScript, words => return (isScript, words)
  | _ + 1, isScript, [] => return (isScript, [])
  | fuel + 1, isScript, word :: rest => do
    match word.toList with
    | ['-'] => return (isScript, rest)
    | ['-', '-'] => return (isScript, rest)
    | '-' :: cs =>
      takeInvocation fuel (isScript || cs.contains 'c')
        (← switchOptions true (cs.filter fun c => c ≠ 'c' && c ≠ 'l') rest)
    | '+' :: cs => takeInvocation fuel isScript (← switchOptions false cs rest)
    | _ => return (isScript, word :: rest)

def invoke (core : Core) (arguments : List Raw) : Run Nat := do
  match ← takeInvocation (arguments.length + 1) false arguments with
  | (true, []) => fail "-c requires an argument"
  | (true, script :: rest) =>
    change fun s => { s with name := rest.headD s.name, arguments := rest.drop 1 }
    runScript core ⟨false, true⟩ script 1
  | (false, rest) =>
    match rest, ← has 's' with
    | file :: arguments, false =>
      match ← Run.task "" (Task.readPath file) with
      | .ok text =>
        change fun s => { s with name := file, arguments }
        runScript core ⟨false, false⟩ text 1
      | .error .isFolder => return 0
      | .error fault => fail ("cannot open " ++ file ++ ": " ++ openText fault true)
    | arguments, _ =>
      change fun s => { s with arguments }
      let text ← Run.task "" Task.input
      runScript core ⟨false, false⟩ text 1

def program (core : Core) (arguments : List Raw) : Task Ending := do
  let job ← read
  let w ← get
  let start : Session := ⟨State.initial job w, { w with process := w.process + 1 }⟩
  let (outcome, s) := (complete core (invoke core arguments)).run.run start
  set s.world
  match outcome with
  | .ok ending => return ending
  | .error (.killed signal) => return .signal signal
  | .error .endless => return .never
  | .error _ => return .status 2

def programNames : List Raw := ["sh", "dash", "bash"]

def Core.next (programs : Raw → Option Program) (core : Core) : Core where
  script := runScript core
  command m c := c.run core m
  start name arguments :=
    if programNames.contains name then program core arguments
    else
      match programs name with
      | some p => p core.start arguments
      | none => return .status 127

def Core.ofDepth (programs : Raw → Option Program) : Nat → Core
  | 0 => .bottom
  | n + 1 => (Core.ofDepth programs n).next programs

end ConfigVault.Host.Shell
