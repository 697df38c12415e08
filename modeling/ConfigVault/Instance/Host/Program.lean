import ConfigVault.Instance.Host.Condition

/-!
# Starting programs by their names

A name with a slash is a path; others are looked for in the folders of a variable.  A file that can be
run but is no program is a script: its first line tells which program runs it, or the shell does.
-/

namespace ConfigVault.Host

/-- Runs a program of the system by its name. -/
abbrev Starter := (program : Raw) → List Raw → Task Ending

abbrev Program := Starter → List Raw → Task Ending

/-- Why a program cannot be started. -/
inductive StartFault where
  | path (fault : PathFault)
  | forbidden
  deriving DecidableEq, Repr

namespace Program

def plain (f : List Raw → Task Nat) : Program := fun _ arguments => return .status (← f arguments)

/-- The folders in which programs are looked for where nothing else is said. -/
def standardFolders : Raw := "/usr/local/sbin:/usr/local/bin:/usr/sbin:/usr/bin:/sbin:/bin"

def pathsOf (name : Raw) : Task (List Raw) := do
  if name.toList.contains '/' then return [name]
  else
    let folders := (((← read).environment.find? (·.1 = "PATH")).map Prod.snd).getD standardFolders
    return (Raw.splitAt ':' folders).map fun folder =>
      if folder.isEmpty then name else folder ++ "/" ++ name

def runnableAt (path : Raw) : Task (Except StartFault (Place × Node)) := do
  match (← get).disk.find (← read).folder path with
  | .error fault => return .error (.path fault)
  | .ok (place, node) =>
    if node ≠ .folder && Condition.isRunnable node then return .ok (place, node)
    else return .error .forbidden

def graver (a b : StartFault) : StartFault :=
  if b = .path .missing || b = .path .notFolder then a else b

def firstRunnable : List Raw → StartFault → Task (Except StartFault (Raw × Place × Node))
  | [], fault => return .error fault
  | path :: rest, fault => do
    match ← runnableAt path with
    | .ok (place, node) => return .ok (path, place, node)
    | .error f => firstRunnable rest (graver fault f)

def locate (name : Raw) : Task (Except StartFault (Raw × Place × Node)) := do
  match ← pathsOf name with
  | [path] =>
    match ← runnableAt path with
    | .ok (place, node) => return .ok (path, place, node)
    | .error fault => return .error fault
  | paths => firstRunnable paths (.path .missing)

/-- The program in the first line of a script, and its argument. -/
def interpreter? (content : Raw) : Option (Raw × List Raw) :=
  match content.toList with
  | '#' :: '!' :: rest =>
    let line := (rest.takeWhile (· ≠ '\n')).dropWhile (· = ' ')
    let name := line.takeWhile fun c => c ≠ ' ' && c ≠ '\t'
    let argument := ((line.drop name.length).dropWhile (· = ' ')).reverse.dropWhile (· = ' ')
    if name.isEmpty then none
    else
      some (String.ofList name,
        if argument.isEmpty then [] else [String.ofList argument.reverse])
  | _ => none

def launch (start : Starter) (name : Raw) (arguments : List Raw) :
    Task (Except StartFault Ending) := do
  let runAs (name : Raw) (place : Place) (arguments : List Raw) : Task Ending :=
    ReaderT.adapt (fun (job : Job) => { job with name })
      (start (place.getLast?.getD "") arguments)
  match ← locate name with
  | .error fault => return .error fault
  | .ok (path, place, node) =>
    match node with
    | .file content _ =>
      match interpreter? content with
      | some (interpreter, given) =>
        match ← runnableAt interpreter with
        | .ok (place, .program) => return .ok (← runAs interpreter place (given ++ path :: arguments))
        | .ok _ => return .error .forbidden
        | .error fault => return .error fault
      | none => return .ok (← runAs path ["sh"] (path :: arguments))
    | _ => return .ok (← runAs name place arguments)

end Program

end ConfigVault.Host
