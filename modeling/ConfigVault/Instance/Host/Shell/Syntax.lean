import ConfigVault.Instance.Host.Raw

/-!
# Commands

The commands of a shell as they are written.  A word is kept as the pieces that it is put together
from when the command is run; the script of a command whose output stands in a word is kept as text.
-/

namespace ConfigVault.Host.Shell

inductive ParameterUse where
  | value
  | length
  | orElse
  | orAssign
  | orComplain
  | ifPresent
  /-- The value without the part at its front that a pattern matches. -/
  | withoutFront (longest : Bool)
  /-- The value without the part at its end that a pattern matches. -/
  | withoutEnd (longest : Bool)
  | malformed
  deriving DecidableEq, Repr

/-- A piece of a word.  Pieces in quotes are not split or matched against names of files. -/
inductive Piece where
  | char (c : Char)
  | quoted (c : Char)
  | quotes
  /-- The value of a parameter; where `filled` is set, an empty value counts as none. -/
  | parameter (name : Raw) (use : ParameterUse) (filled : Bool) (operand : List Piece)
      (inQuotes : Bool)
  | output (script : Raw) (line : Nat) (inQuotes : Bool)
  | sum (expression : List Piece) (inQuotes : Bool)

abbrev Word := List Piece

/-- Where a stream of a command leads. -/
inductive Direction where
  | input (file : Word)
  | output (file : Word)
  | append (file : Word)
  | both (file : Word)
  /-- To where another stream leads; the word is its number, or a dash for nowhere. -/
  | copy (stream : Word)
  | document (number : Nat)

/-- A stream of a command by its number, and where it leads. -/
structure Redirection where
  stream : Nat
  direction : Direction

/-- A command.  Lines are those in which commands begin. -/
inductive Command where
  | empty
  | simple (line : Nat) (settings : List (Raw × Word)) (words : List Word)
      (redirections : List Redirection)
  | pipe (first rest : Command)
  | negation (command : Command)
  | both (first second : Command)
  | either (first second : Command)
  | sequence (first second : Command)
  | background (command : Command)
  | subshell (line : Nat) (command : Command) (redirections : List Redirection)
  | redirected (line : Nat) (command : Command) (redirections : List Redirection)
  | choice (test yes no : Command)
  | loop (untilDone : Bool) (test body : Command)
  | each (line : Nat) (name : Raw) (words : Option (List Word)) (body : Command)
  | select (line : Nat) (word : Word) (arms : Command)
  | arm (patterns : List Word) (body next : Command)
  | define (line : Nat) (name : Raw) (body : Command)

/-- Why a script cannot be read, and in which line. -/
structure SyntaxFault where
  line : Nat
  message : String

/-- A document in a script whose text has not been read yet. -/
structure WaitingDocument where
  number : Nat
  delimiter : Raw
  /-- Tabs at the front of lines are no part of it. -/
  indented : Bool
  literal : Bool

structure Source where
  rest : List Char
  line : Nat
  waiting : List WaitingDocument
  documents : List (Nat × Word)
  next : Nat

abbrev Reading (α : Type) := StateT Source (Except SyntaxFault) α

end ConfigVault.Host.Shell
