import ConfigVault.Instance.Host.Record.Run

/-!
# The command for records

Reads a program from its arguments or from files, sets the names that are asked for, and runs the program for
the records of the files.
-/

namespace ConfigVault.Host.Record

def usageLines : List Raw :=
  ["Usage: mawk [Options] [Program] [file ...]",
    "",
    "Program:",
    "    The -f option value is the name of a file containing program text.",
    "    If no -f option is given, a \x22--\x22 ends option processing; the following",
    "    parameters are the program text.",
    "",
    "Options:",
    "    -f program-file  Program  text is read from file instead of from the",
    "                     command-line.  Multiple -f options are accepted.",
    "    -F value         sets the field separator, FS, to value.",
    "    -v var=value     assigns value to program variable var.",
    "    --               unambiguous end of options.",
    "",
    "    Implementation-specific options are prefixed with \x22-W\x22.  They can be",
    "    abbreviated:",
    "",
    "    -W version       show version information and exit.",
    "    -W compat        pre-POSIX 2001.",
    "    -W dump          show assembler-like listing of program and exit.",
    "    -W help          show this message and exit.",
    "    -W interactive   set unbuffered output, line-buffered input.",
    "    -W exec file     use file as program as well as last option.",
    "    -W posix         stricter POSIX checking.",
    "    -W random=number set initial random seed.",
    "    -W sprintf=number adjust size of sprintf buffer.",
    "    -W usage         show this message and exit."]

/-- What is asked for in the place of running a program. -/
inductive Notice where
  | usage
  | version
  deriving DecidableEq, Repr

structure Request where
  separator : Option Raw
  settings : List (Raw × Raw)
  files : List Raw
  arguments : List Raw
  notice : Option Notice
  vacuous : List Raw

def noticeOf? (word : Raw) : Option Notice :=
  let begins (name : Raw) : Bool := !word.isEmpty && word.toLower.toList.isPrefixOf name.toList
  if begins "version" then some .version
  else if begins "help" || begins "usage" then some .usage
  else none

def idleWords : List Raw := ["compat", "dump", "interactive", "posix", "random=", "sprintf="]

def takeRequest : (fuel : Nat) → List Raw → Request → Except Raw Request
  | 0, words, r => .ok { r with arguments := words }
  | _ + 1, [], r => .ok r
  | fuel + 1, word :: rest, r =>
    match word.toList with
    | ['-', '-'] => .ok { r with arguments := rest }
    | '-' :: '-' :: name =>
      match noticeOf? (String.ofList name) with
      | some notice => .ok { r with notice := some notice }
      | none => .error ("not an option: " ++ word)
    | ['-'] => .ok { r with arguments := word :: rest }
    | '-' :: letter :: value =>
      let withValue (f : Raw → List Raw → Except Raw Request) : Except Raw Request :=
        match value, rest with
        | [], v :: rest => f v rest
        | [], [] => .error ("option -" ++ letter.toString ++ " lacks argument")
        | v, rest => f (String.ofList v) rest
      match letter with
      | 'F' => withValue fun v rest => takeRequest fuel rest { r with separator := some (unescape v) }
      | 'v' =>
        withValue fun v rest =>
          match Run.setting? v with
          | some setting => takeRequest fuel rest { r with settings := r.settings ++ [setting] }
          | none => .error ("improper assignment: -v " ++ v)
      | 'f' => withValue fun v rest => takeRequest fuel rest { r with files := r.files ++ [v] }
      | 'W' =>
        withValue fun v rest =>
          match noticeOf? v with
          | some notice => .ok { r with notice := some notice }
          | none =>
            let isIdle := idleWords.any fun w => v.toList.isPrefixOf w.toList || w.toList.isPrefixOf v.toList
            takeRequest fuel rest (if isIdle then r else { r with vacuous := r.vacuous ++ [v] })
      | _ => .error ("not an option: " ++ word)
    | _ => .ok { r with arguments := word :: rest }

def State.initial : State :=
  { cells := #[], globals := ∅, locals := [], tables := #[], record := .none, fields := #[]
    isSplit := true, isJoined := true, output := [], sinks := [], sources := [], input := none
    argument := 1, opened := false, ranges := [], seed := 0.5, origin := 0.0, status := 0, steps := 0 }

/-- Sets the names that every program has, and those that are asked for. -/
def prepare (r : Request) (name : Raw) (files : List Raw) (environment : List (Raw × Raw)) : Run Unit := do
  let texts : List (Raw × Raw) :=
    [("FS", r.separator.getD " "), ("OFS", " "), ("ORS", "\n"), ("RS", "\n"), ("SUBSEP", "\x1c"),
      ("CONVFMT", "%.6g"), ("OFMT", "%.6g")]
  for (key, value) in texts do
    Run.setGlobal key (.text value)
  let numbers : List (Raw × Float) :=
    [("NR", 0.0), ("FNR", 0.0), ("RSTART", 0.0), ("RLENGTH", -1.0),
      ("ARGC", Float.ofNat (files.length + 1))]
  for (key, value) in numbers do
    Run.setGlobal key (.number value)
  let words := (name :: files).zip (List.range (files.length + 1))
  let argumentTable := words.foldl (fun (t : Table) p => t.set (.number p.2) (.input p.1)) Table.empty
  Run.setTable (← Run.tableOf "ARGV") argumentTable
  let variableTable := environment.foldl (fun (t : Table) p => t.set (.text p.1) (.input p.2)) Table.empty
  Run.setTable (← Run.tableOf "ENVIRON") variableTable
  for (key, value) in r.settings do
    Run.setGlobal key (.input value)

def depth : Nat := 100000

def runRules (c : Setting) (rules : List Rule) (chosen : Trigger → Bool) : Run Unit := do
  for rule in rules do
    if chosen rule.trigger then exec c depth rule.body

def selects (c : Setting) (number : Nat) (trigger : Trigger) : Run Bool := do
  match trigger with
  | .always => return true
  | .when test => return (← eval c depth test).isTrue
  | .range first last =>
    let within := (← get).ranges.contains number
    if within || (← eval c depth first).isTrue then
      let ends := (← eval c depth last).isTrue
      modify fun s =>
        { s with
          ranges :=
            let others := s.ranges.filter (· ≠ number)
            if ends then others else number :: others }
      return true
    else return false
  | _ => return false

def runRecord (c : Setting) : (number : Nat) → List Rule → Run Unit
  | _, [] => return ()
  | number, rule :: rest => do
    if ← selects c number rule.trigger then exec c depth rule.body
    runRecord c (number + 1) rest

def oneRecord (c : Setting) (rules : List Rule) : Run Bool := do
  Run.spend 1
  match ← Run.nextRecord c.start Run.maxFiles with
  | none => return false
  | some record =>
    Run.setRecord (.input record)
    match ← observe (runRecord c 0 rules) with
    | .ok _ => return true
    | .error .next => return true
    | .error .nextFile =>
      modify fun s => { s with input := none }
      return true
    | .error h => throw h

def Trigger.isStart : Trigger → Bool
  | .start => true
  | _ => false

def Trigger.isFinish : Trigger → Bool
  | .finish => true
  | _ => false

def runScript (c : Setting) (script : Script) : Run Unit := do
  let records : Run Unit := do
    runRules c script.rules Trigger.isStart
    if script.rules.any fun r => !r.trigger.isStart then
      repeated (oneRecord c script.rules) Run.maxSteps
  match ← observe records with
  | .ok _ => pure ()
  | .error .exit => pure ()
  | .error h => throw h
  runRules c script.rules Trigger.isFinish

def complain (name message : Raw) : Run Unit := do
  let place ←
    if "run time error".isPrefixOf message then do
      pure ("\tFILENAME=\x22" ++ (← Run.globalText "FILENAME") ++ "\x22 FNR=" ++
        (← Run.globalText "FNR") ++ " NR=" ++ (← Run.globalText "NR") ++ "\n")
    else pure ""
  Run.act (Task.err (name ++ ": " ++ message ++ "\n" ++ place))

def complete (c : Setting) (r : Request) (name : Raw) (script : Script) (files : List Raw)
    (environment : List (Raw × Raw)) : Run Ending := do
  prepare r name files environment
  match ← observe (runScript c script) with
  | .error (.failed message) =>
    complain name message
    Run.closeAll c.start
    return .status 2
  | .error .endless => return .never
  | _ =>
    Run.closeAll c.start
    return .status (← get).status

def programText (files : List Raw) : Task (Except Raw Raw) := do
  let mut text : Raw := ""
  for name in files do
    match ← Utility.readOperand name with
    | .ok content => text := text ++ content ++ "\n"
    | .error fault => return .error ("cannot open \x22" ++ name ++ "\x22 (" ++ fault.message ++ ")")
  return .ok text

def lastName (path : Raw) : Raw := (Raw.splitAt '/' path).getLast?.getD path

def awk : Program := fun start words => do
  let job ← read
  let name := lastName job.name
  let refuse (message : Raw) : Task Ending := do
    Task.err (name ++ ": " ++ message ++ "\n")
    return .status 2
  match takeRequest (words.length + 1) words ⟨none, [], [], [], none, []⟩ with
  | .error message => refuse message
  | .ok r =>
    for word in r.vacuous do Task.err (name ++ ": vacuous option: -W \x22" ++ word ++ "\x22\n")
    let run (text : Raw) (title : Raw) (files : List Raw) : Task Ending := do
      match Script.ofText text with
      | .error fault =>
        for message in fault.messages title do
          Task.err (name ++ ": " ++ message ++ "\n")
        return .status 2
      | .ok script =>
        let (result, _) ← (complete ⟨start, script.functions⟩ r name script files job.environment).run.run
          State.initial
        match result with
        | .ok ending => return ending
        | .error _ => return .never
    if r.notice = some .version then
      Task.out "mawk 1.3.4 20240123\n"
      return .status 0
    else if r.notice = some .usage then
      Task.out (Raw.unlines usageLines)
      return .status 0
    else if r.files.isEmpty then
      match r.arguments with
      | [] =>
        Task.err (Raw.unlines usageLines)
        return .status 0
      | text :: files => run text "" files
    else
      match ← programText r.files with
      | .error message => refuse message
      | .ok text =>
        run text ((r.files.head?.map (· ++ ": ")).getD "") r.arguments

end ConfigVault.Host.Record
