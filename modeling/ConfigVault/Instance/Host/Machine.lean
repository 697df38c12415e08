import ConfigVault.Instance.Host.Edit.Stream
import ConfigVault.Instance.Host.Record.Command
import ConfigVault.Instance.Host.Shell.Run
import ConfigVault.Instance.Host.Utility.Columns
import ConfigVault.Instance.Host.Utility.Difference
import ConfigVault.Instance.Host.Utility.Digests
import ConfigVault.Instance.Host.Utility.Dump
import ConfigVault.Instance.Host.Utility.Facts
import ConfigVault.Instance.Host.Utility.Finding
import ConfigVault.Instance.Host.Utility.Order
import ConfigVault.Instance.Host.Utility.Pieces
import ConfigVault.Instance.Host.Utility.Search
import ConfigVault.Instance.Host.Utility.Words
import ConfigVault.Text.Quoted
import ConfigVault.Validation.Surroundings

/-!
# A machine

A plain system with a shell and the common utilities, on which programs are started with nothing to
read and with their output and complaints in one place.  It is one of the launchers that checks by tools
can be run with.
-/

namespace ConfigVault.Host

def utilities : List (Raw × Program) :=
  Utility.wordUtilities ++ Utility.lineUtilities ++ Utility.columnUtilities ++ Utility.orderUtilities ++
    Utility.searchUtilities ++ Utility.fileUtilities ++ Utility.startingUtilities ++
    Utility.digestUtilities ++ Utility.factUtilities ++ Utility.pieceUtilities ++
    [("diff", .plain Utility.diff), ("find", Utility.find), ("od", .plain Utility.od),
      ("sed", Edit.sed), ("awk", Record.awk), ("mawk", Record.awk)]

def utility? (name : Raw) : Option Program := (utilities.find? (·.1 = name)).map Prod.snd

/-- The number of scripts and functions that can be started within each other. -/
def maxNesting : Nat := 1200

def machineCore : Shell.Core := Shell.Core.ofDepth utility? maxNesting

def startFolder : Place := ["root"]

def startVariables : List (Raw × Raw) :=
  [("PATH", "/usr/local/sbin:/usr/local/bin:/usr/sbin:/usr/bin:/sbin:/bin"), ("HOME", "/root"),
    ("LANG", "C.UTF-8"), ("PWD", "/root")]

/-- The rights to a file that is there for a program alone. -/
def privateMode : Nat := 0o600

def diskWith (file : InputFile) : Disk :=
  let names := (pathNames (Raw.ofText file.path)).filter fun name => !name.isEmpty
  systemDisk.put names (.file (Raw.ofBytes file.bytes) privateMode)

/-- What programs act on at the start: an input with nothing in it, and the output. -/
def startWorld (file : InputFile) : World where
  disk := diskWith file
  opened := #[⟨.device .null, true, false, false, 0⟩, ⟨.result, false, true, true, 0⟩]
  buffers := #[]
  output := []
  now := 0.0
  held := []
  process := 1000
  behind := none

/-- The reason why nothing starts at a path, with its number. -/
def refusal (path : String) (fault : StartFault) : String :=
  (match fault with
  | .path .missing => "[Errno 2] No such file or directory"
  | .path .notFolder => "[Errno 20] Not a directory"
  | .path .tooLong => "[Errno 36] File name too long"
  | .path .circle => "[Errno 40] Too many levels of symbolic links"
  | .forbidden => "[Errno 13] Permission denied") ++ ": " ++ Text.quoted path

/-- The path of a temporary file whose name begins in a given way, or why there can be none. -/
def temporaryPath (stem suffix : String) : Except Escape String :=
  let name := ((pathNames stem).getLastD "") ++ suffix
  if suffix.toList.contains '\x00' then .error .badValue
  else if suffix.toList.contains '/' then .error (.noFile (stem ++ suffix))
  else if maxNameLength < name.utf8ByteSize then .error .badPath
  else .ok (stem ++ suffix)

def machine : Launcher := fun command file =>
  match command with
  | [] => .unfit
  | path :: arguments =>
    if command.any fun word => word.toList.contains '\x00' then .unfit
    else
      let job : Job := ⟨Raw.ofText path, [(0, 0), (1, 1), (2, 1)], startFolder, startVariables⟩
      let start :=
        Program.launch machineCore.start (Raw.ofText path) (arguments.map Raw.ofText)
      match (start.run job).run (startWorld file) with
      | (.error fault, _) => .refused (refusal path fault)
      | (.ok ending, w) =>
        let output := Raw.toBytes w.result
        match ending with
        | .status n => .ran ⟨output, n, w.finish⟩
        | .signal n => .ran ⟨output, -(n : Int), w.finish⟩
        | .never => .ran ⟨output, 0, 1.0 / 0.0⟩

end ConfigVault.Host
