import ConfigVault.Data.Loader

/-!
# What checks rely on

Checks read documents with a loader and start external tools, which are given the content in a file
that is there for them alone.
-/

namespace ConfigVault

/-- The run of a program: what it wrote, the status with which it ended and the seconds until its output
was complete.  A program that was ended by a signal has the negative number of the signal as its
status. -/
structure ProgramRun where
  output : List UInt8
  status : Int
  seconds : Float

/-- What comes of starting a program. -/
inductive Launch where
  /-- The host refuses, for a reason. -/
  | refused (reason : String)
  /-- The arguments cannot be handed over. -/
  | unfit
  | ran (run : ProgramRun)

/-- A file that is there for a program. -/
structure InputFile where
  path : String
  bytes : List UInt8

/-- Starts programs: a command is the path of the program and its arguments. -/
abbrev Launcher := (command : List String) → InputFile → Launch

/-- What checks rely on. -/
structure Surroundings where
  load : Loader
  launch : Launcher
  /-- Finds a path for a file with the given ending. -/
  freshPath : (suffix : String) → Except Escape String

end ConfigVault
