import ConfigVault.Text.Utf8
import ConfigVault.Validation.Rejection
import ConfigVault.Validation.Surroundings

/-!
# Checks by external tools

A tool gets the content in a temporary file.  Where the arguments leave a place for the path of the
file it goes there, otherwise to the end.  The content is accepted if the tool ends with status zero
in time, and what the tool wrote are the diagnostics.
-/

namespace ConfigVault

/-- A limit on the time of a tool, in seconds; whole numbers are spelled as such. -/
inductive TimeLimit where
  | whole (seconds : Int)
  | real (seconds : Float)

namespace TimeLimit

def value : TimeLimit → Value
  | whole n => .int n
  | real x => .float x

def spelled : TimeLimit → String
  | whole n => toString n
  | real x => Decimal.text x

def seconds : TimeLimit → Float
  | whole n => (Decimal.ofInt? n).getD (if n < 0 then -1.0 else 1.0 / 0.0)
  | real x => x

/-- A run ends before the limit.  Runs that do not sleep take no time to speak of. -/
def allows (limit : TimeLimit) (run : ProgramRun) : Bool :=
  0.0 < limit.seconds && run.seconds < limit.seconds

end TimeLimit

/-- An external tool. -/
structure Tool where
  executable : String
  arguments : List String
  /-- The name by which messages call the tool. -/
  name : String
  limit : Option TimeLimit
  /-- The ending of the name of the temporary file. -/
  suffix : String

namespace Tool

/-- The argument that stands for the path of the file. -/
def placeholder : String := "\x7bpath\x7d"

def baseName (path : String) : String :=
  String.ofList (path.toList.reverse.takeWhile (· ≠ '/')).reverse

/-- The ending of files for tools that are given no other. -/
def standardSuffix : String := ".yml"

def make (executable : String) (arguments : List String) (name : Option String)
    (limit : Option TimeLimit) (suffix : String) : Tool where
  executable := executable
  arguments := arguments
  name :=
    match name with
    | some name => if name.isEmpty then baseName executable else name
    | none => baseName executable
  limit := limit
  suffix := suffix

/-- The command that checks the file at a path. -/
def command (tool : Tool) (path : String) : List String :=
  tool.executable ::
    if tool.arguments.contains placeholder then
      tool.arguments.map fun argument => if argument = placeholder then path else argument
    else tool.arguments ++ [path]

def run (s : Surroundings) (tool : Tool) (content : String) : Except CheckFailure String :=
  match s.freshPath tool.suffix with
  | .error escape => .error (.escaped escape)
  | .ok path =>
    let command := tool.command path
    let reject (defect : ToolDefect) : Except CheckFailure String :=
      .error (.rejected (.tool tool.name defect))
    match s.launch command ⟨path, Text.utf8Bytes content⟩ with
    | .refused reason => reject (.unavailable command reason)
    | .unfit => .error (.escaped .badValue)
    | .ran run =>
      match tool.limit.filter fun limit => !limit.allows run with
      | some limit => reject (.outOfTime command limit.spelled)
      | none =>
        let output := String.ofList (Text.decodeUtf8 run.output)
        if run.status = 0 then .ok output else reject (.refused run.status output)

end Tool

end ConfigVault
