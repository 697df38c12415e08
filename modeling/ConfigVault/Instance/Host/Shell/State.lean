import ConfigVault.Instance.Host.Shell.Arithmetic
import ConfigVault.Instance.Host.Shell.Script
import ConfigVault.Instance.Host.World

/-!
# The state of a shell

What a shell knows between commands, how a command can end it, and how it complains.  A shell of its
own, as commands in brackets have one, starts with what the other one knows and leaves it as it was.
-/

namespace ConfigVault.Host.Shell

def optionOrder : List Char := ['u', 'b', 'a', 'C', 'E', 'V', 'v', 'x', 's', 'n', 'm', 'i', 'I', 'f', 'e']

/-- The characters at which values are split where nothing else is said. -/
def standardSeparators : Raw := " \t\n"

structure Variable where
  value : Option Raw
  exported : Bool
  fixed : Bool

structure BackgroundJob where
  process : Nat
  status : Nat
  finish : Float

structure State where
  name : Raw
  arguments : List Raw
  environment : KeyMap Variable
  functions : KeyMap Command
  documents : List (Nat × Word)
  nextDocument : Nat
  status : Nat
  /-- The status of the last script whose output was put into a word of the command. -/
  outputStatus : Option Nat
  options : List Char
  folder : Place
  /-- The folder as it was asked for, links on the way included. -/
  path : Raw
  /-- The open files by the numbers by which commands know them. -/
  table : List (Nat × Nat)
  /-- What to do at the end or at signals; nothing is done for an empty text. -/
  traps : KeyMap Raw
  pending : List Nat
  line : Nat
  loops : Nat
  /-- The number of functions around the command, and of scripts that are read. -/
  calls : Nat
  reads : Nat
  process : Nat
  isFirst : Bool
  lastJob : Option Nat
  jobs : List BackgroundJob
  locals : List (List (Raw × Option Variable))
  optionPlace : Nat
  aliases : KeyMap Raw
  mask : Nat
  /-- The command in whose name the shell complains. -/
  speaker : Option Raw
  /-- The status before the script of a trap, while it runs. -/
  parting : Option Nat

inductive Jump where
  | exit (status : Nat)
  | replaced (ending : Ending)
  | killed (signal : Nat)
  | failed
  | leave (levels : Nat)
  | again (levels : Nat)
  /-- A function or a script that is read ends with a status. -/
  | back (status : Nat)
  | endless

structure Session where
  shell : State
  world : World

abbrev Run (α : Type) := ExceptT Jump (StateM Session) α

namespace Run

def shell : Run State := do return (← get).shell

def change (f : State → State) : Run Unit := modify fun s => { s with shell := f s.shell }

def changeWorld (f : World → World) : Run Unit := modify fun s => { s with world := f s.world }

def finish (status : Nat) : Run Unit := change fun s => { s with status }

def write (descriptor : Nat) (bytes : Raw) : Run Unit := do
  match (← shell).table.find? (·.1 = descriptor) with
  | some entry => changeWorld fun w => w.write entry.2 bytes
  | none => return ()

/-- Complains, in the name of the command that speaks. -/
def warn (message : Raw) : Run Unit := do
  let s ← shell
  write 2 (s.name ++ ": " ++ toString s.line ++ ": " ++
    (s.speaker.map (· ++ ": ")).getD "" ++ message ++ "\n")

def fail {α : Type} (message : Raw) : Run α := do
  warn message
  finish 2
  throw .failed

def has (option : Char) : Run Bool := do return (← shell).options.contains option

def job (name : Raw) : Run Job := do
  let s ← shell
  let environment := s.environment.entries.filterMap fun e =>
    if e.2.exported then e.2.value.map (e.1, ·) else none
  return ⟨name, s.table, s.folder, environment⟩

def task {α : Type} (name : Raw) (t : Task α) : Run α := do
  let j ← job name
  let s ← get
  let (a, world) := (t.run j).run s.world
  set { s with world }
  return a

/-! ## Variables -/

def valueOf? (name : Raw) : Run (Option Raw) := do
  return ((← shell).environment.get? name).bind Variable.value

def setVariable (name value : Raw) : Run Unit := do
  let s ← shell
  let old := (s.environment.get? name).getD ⟨none, false, false⟩
  if old.fixed then fail (name ++ ": is read only")
  let exported := old.exported || s.options.contains 'a'
  change fun s =>
    { s with environment := s.environment.insert name { old with value := some value, exported } }
  if name = "OPTIND" then change fun s => { s with optionPlace := 0 }

def parameter? (name : Raw) : Run (Option Raw) := do
  let s ← shell
  match name.toList with
  | ['?'] => return some (toString s.status)
  | ['#'] => return some (toString s.arguments.length)
  | ['$'] => return some (toString s.process)
  | ['!'] => return s.lastJob.map toString
  | ['-'] => return some (String.ofList (optionOrder.filter s.options.contains))
  | cs =>
    match Raw.nat? cs with
    | some 0 => return some s.name
    | some n => return s.arguments[n - 1]?
    | none => valueOf? name

def sums (text : Raw) : Arithmetic.Variables Run where
  get name := do return (← valueOf? name).getD ""
  set := setVariable
  fail := fun
    | .expected what =>
      fail ("arithmetic expression: " ++ what ++ ": \x22" ++ text ++ "\x22")
    | .zeroDivisor =>
      fail ("arithmetic expression: division by zero: \x22" ++ text ++ "\x22")
    | .badNumber value => fail ("Illegal number: " ++ value)

end Run

end ConfigVault.Host.Shell
