import ConfigVault.Instance.Host.Utility.Files
import ConfigVault.Instance.Host.Utility.Words

/-!
# Utilities that start programs

Utilities that start a program with other variables, with arguments that they read, or for some time
only.
-/

namespace ConfigVault.Host.Utility

/-- The words and the status for a program that cannot be started. -/
def startRefusal (fault : StartFault) : Raw × Nat :=
  match fault with
  | .path .missing => ("No such file or directory", 127)
  | .path fault => (pathFault fault, 126)
  | .forbidden => ("Permission denied", 126)

/-- The program with options in front of a command: those behind the first argument are not its own. -/
def withCommand (flags : List Flag) (status : Nat) (f : Choices → Task Ending) (words : List Raw) :
    Task Ending :=
  match takeChoices flags false (words.foldl (fun n w => n + w.length + 1) 1) words with
  | .ok c => f c
  | .error message => return .status (← refuse message status)

def startOr (start : Starter) (command : List Raw) (complaint : (name : Raw) → (why : Raw) → Raw) :
    Task Ending := do
  match command with
  | [] => return .status 0
  | name :: arguments =>
    match ← Program.launch start name arguments with
    | .ok ending => return ending
    | .error fault =>
      let (why, status) := startRefusal fault
      Task.complain (complaint name why)
      return .status status

/-! ## Variables -/

/-- The variables with others in the place of those of the same names. -/
def withSettings (environment settings : List (Raw × Raw)) : List (Raw × Raw) :=
  settings.foldl (fun vs s =>
    if vs.any (·.1 = s.1) then vs.map fun v => if v.1 = s.1 then s else v else vs ++ [s]) environment

def settingOf? (word : Raw) : Option (Raw × Raw) :=
  let cs := word.toList
  let name := cs.takeWhile (· ≠ '=')
  if name.length < cs.length && !name.isEmpty then
    some (String.ofList name, String.ofList (cs.drop (name.length + 1)))
  else none

def env : Program := fun start =>
  withCommand [flag 'i' "ignore-environment", valued 'u' "unset", flag '0' "null", valued 'C' "chdir",
    flag 'v' "debug"] 125 fun c => do
    let job ← read
    let (bare, words) :=
      match c.arguments with
      | "-" :: rest => (true, rest)
      | words => (c.has 'i', words)
    let settings := (words.takeWhile fun w => (settingOf? w).isSome).filterMap settingOf?
    let command := words.drop settings.length
    let kept := if bare then [] else job.environment.filter fun v => !(c.values 'u').contains v.1
    let environment := withSettings kept settings
    if command.isEmpty then
      let ending := if c.has '0' then "\x00" else "\n"
      Task.out (String.join (environment.map fun v => v.1 ++ "=" ++ v.2 ++ ending))
      return .status 0
    else
      ReaderT.adapt (fun (job : Job) => { job with environment })
        (startOr start command fun name why => cited name ++ ": " ++ why)

/-! ## Time and order -/

def timeout : Program := fun start =>
  withCommand [valued 's' "signal", valued 'k' "kill-after", longFlag 'p' "preserve-status",
    longFlag 'f' "foreground", flag 'v' "verbose"] 125 fun c => do
    let help : Task Ending := do
      Task.err ("Try '" ++ (← read).name ++ " --help' for more information.\n")
      return .status 125
    match c.arguments with
    | [] => help
    | [_] => help
    | word :: command =>
      match seconds? word with
      | none =>
        Task.complain ("invalid time interval " ++ cited word)
        help
      | some limit =>
        let before := (← get).now
        let ending ← startOr start command fun name why => "failed to run command " ++ cited name ++ ": " ++ why
        let now := (← get).now
        let late := limit != 0.0 && (ending = .never || before + limit < now)
        if late then
          modify fun w => { w with now := before + limit }
          let signal := (c.value? 's').getD "TERM"
          if signal = "KILL" || signal = "9" || signal = "SIGKILL" then return .signal 9
          else if c.has 'p' then return .status 143
          else return .status 124
        else return ending

def nice : Program := fun start =>
  withCommand [valued 'n' "adjustment"] 125 fun c => do
    if c.arguments.isEmpty then
      Task.out "0\n"
      return .status 0
    else startOr start c.arguments fun name why => cited name ++ ": " ++ why

def nohup : Program := fun start arguments => do
  if arguments.isEmpty then return .status (← refuse "missing operand" 125)
  else startOr start arguments fun name why => "failed to run command " ++ quoted name ++ ": " ++ why

def which (arguments : List Raw) : Task Nat := do
  let names := arguments.filter (· ≠ "-a")
  if names.isEmpty then return 1
  else
    each names fun name => do
      match ← Program.locate name with
      | .ok (path, _) =>
        Task.out (path ++ "\n")
        return 0
      | .error _ => return 1

/-! ## Arguments that are read -/

abbrev ReadWord := Raw × Bool

/-- Why words cannot be read: a quotation is not closed. -/
inductive WordFault where
  | single
  | double

def takeWords : (fuel : Nat) → (word : Option (List Char)) → List Char → Except WordFault (List ReadWord)
  | 0, _, _ => .ok []
  | _ + 1, word, [] => .ok (word.toList.map fun w => (String.ofList w.reverse, true))
  | fuel + 1, word, c :: rest =>
    let close (ends : Bool) : List ReadWord := word.toList.map fun w => (String.ofList w.reverse, ends)
    let quotation (mark : Char) (fault : WordFault) : Except WordFault (List ReadWord) :=
      let inner := rest.takeWhile fun d => d ≠ mark && d ≠ '\n'
      match rest.drop inner.length with
      | d :: left =>
        if d = mark then takeWords fuel (some (inner.reverse ++ word.getD [])) left else .error fault
      | [] => .error fault
    if c = ' ' || c = '\t' then do return close false ++ (← takeWords fuel none rest)
    else if c = '\n' then do return close true ++ (← takeWords fuel none rest)
    else if c = '\x27' then quotation c .single
    else if c = '"' then quotation c .double
    else if c = '\\' then
      match rest with
      | d :: rest => takeWords fuel (some (d :: word.getD [])) rest
      | [] => takeWords fuel word []
    else takeWords fuel (some (c :: word.getD [])) rest

def inLines (size : Nat) (words : List ReadWord) : List (List Raw) :=
  let step (acc : List (List Raw) × List Raw × Nat) (w : ReadWord) : List (List Raw) × List Raw × Nat :=
    let group := acc.2.1 ++ [w.1]
    let count := if w.2 then acc.2.2 + 1 else acc.2.2
    if count = size then (acc.1 ++ [group], [], 0) else (acc.1, group, count)
  let (groups, last, _) := words.foldl step ([], [], 0)
  if last.isEmpty then groups else groups ++ [last]

def trimmedLines (content : Raw) : List Raw :=
  (Raw.lines content).filterMap fun l =>
    let cs := l.toList.dropWhile fun c => c = ' ' || c = '\t'
    if cs.isEmpty then none else some (String.ofList cs)

def runEach (start : Starter) : List (List Raw) → (status : Nat) → Task Nat
  | [], status => return status
  | command :: rest, status => do
    let name := command.headD ""
    let ending ← startOr start command fun name why => name ++ ": " ++ why
    match ending with
    | .status 0 => runEach start rest status
    | .status 255 =>
      Task.complain (name ++ ": exited with status 255; aborting")
      return 124
    | .status n => if n = 126 || n = 127 then return n else runEach start rest 123
    | .signal n =>
      Task.complain (name ++ ": terminated by signal " ++ toString n)
      return 125
    | .never => return 124

def markOf (word : Raw) : Char :=
  match word.toList with
  | '\\' :: 'n' :: _ => '\n'
  | '\\' :: 't' :: _ => '\t'
  | '\\' :: '0' :: _ => '\x00'
  | c :: _ => c
  | [] => '\n'

/-- Why a value of an option that asks for a number of things is refused. -/
def countFault? (c : Choices) (letter : Char) : Option Raw :=
  (c.value? letter).bind fun word =>
    match Raw.nat? word.toList with
    | none => some ("invalid number \x22" ++ word ++ "\x22 for -" ++ letter.toString ++ " option")
    | some 0 => some ("value 0 for -" ++ letter.toString ++ " option should be >= 1")
    | some _ => none

/-- The program that starts another one with arguments that are read. -/
def xargs : Program := fun start =>
  withCommand [flag '0' "null", valued 'd' "delimiter", valued 'n' "max-args", valued 'I' "",
    valued 'L' "max-lines", flag 'r' "no-run-if-empty", flag 't' "verbose", valued 'P' "max-procs", valued 'a' "arg-file",
    valued 's' "max-chars", flag 'x' "exit", valued 'E' "", flag 'p' "interactive"] 1 fun c => do
    if let some message := countFault? c 'n' <|> countFault? c 'L' then
      return .status (← refuse message 1)
    let content ←
      match c.value? 'a' with
      | none => do pure (Except.ok (← Task.input))
      | some name => readOperand name
    match content with
    | .error fault =>
      Task.complain ("Cannot open input file " ++ cited ((c.value? 'a').getD "") ++ ": " ++ fault.message)
      return .status 1
    | .ok content =>
      let given := if c.arguments.isEmpty then ["echo"] else c.arguments
      let mark := if c.has '0' then some '\x00' else (c.value? 'd').map markOf
      let words : Except WordFault (List ReadWord) :=
        match mark with
        | some mark =>
          let parts := Raw.splitAt mark content
          let parts := if parts.getLast? = some "" then parts.dropLast else parts
          .ok (parts.map fun p => (p, true))
        | none =>
          if c.has 'I' then .ok ((trimmedLines content).map fun l => (l, true))
          else takeWords (content.length + 1) none content.toList
      match words with
      | .error fault =>
        let kind := match fault with
          | .single => "single"
          | .double => "double"
        Task.complain ("unmatched " ++ kind ++
          " quote; by default quotes are special to xargs unless you use the -0 option")
        return .status 1
      | .ok words =>
        let number (letter : Char) : Option Nat := (c.value? letter).bind fun w => Raw.nat? w.toList
        let commands : List (List Raw) :=
          match c.value? 'I', number 'L', number 'n' with
          | some mark, _, _ => words.map fun w => given.map fun g => g.replace mark w.1
          | none, some size, _ => (inLines (max size 1) words).map (given ++ ·)
          | none, none, some size =>
            (inGroups (max size 1) (words.length + 1) (words.map Prod.fst)).map (given ++ ·)
          | none, none, none => if words.isEmpty then [] else [given ++ words.map Prod.fst]
        let commands := if commands.isEmpty && !c.has 'r' && !c.has 'I' then [given] else commands
        let (nothing, w) := (← get).openBytes ""
        set w
        let change (job : Job) : Job :=
          { job with table := (0, nothing) :: job.table.filter (·.1 ≠ 0) }
        let run : Task Nat := do
          if c.has 't' then
            let rec go : List (List Raw) → Task Nat
              | [] => return 0
              | command :: rest => do
                Task.err (String.intercalate " " command ++ "\n")
                let status ← runEach start [command] 0
                if status = 0 || status = 123 then return max status (← go rest) else return status
            go commands
          else runEach start commands 0
        return .status (← ReaderT.adapt change run)

def startingUtilities : List (Raw × Program) :=
  [("env", env), ("timeout", timeout), ("nice", nice), ("nohup", nohup), ("which", .plain which),
    ("xargs", xargs)]

end ConfigVault.Host.Utility
