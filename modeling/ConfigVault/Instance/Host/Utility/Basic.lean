import ConfigVault.Instance.Host.Print.Layout
import ConfigVault.Instance.Host.Program

/-!
# What utilities have in common

Options in front of and between the arguments, complaints about them, the way in which names are shown
in complaints, and reading the files that are named.
-/

namespace ConfigVault.Host.Utility

/-- An option: the letter by which it is known, its long name, and whether it takes a value. -/
structure Flag where
  letter : Char
  long : String
  takes : Bool
  short : Bool

def flag (letter : Char) (long : String) : Flag := ⟨letter, long, false, true⟩

def valued (letter : Char) (long : String) : Flag := ⟨letter, long, true, true⟩

/-- An option without a value that has only a long name; the letter stands for it. -/
def longFlag (letter : Char) (long : String) : Flag := ⟨letter, long, false, false⟩

def longValued (letter : Char) (long : String) : Flag := ⟨letter, long, true, false⟩

/-- The options that are found, with their values, and the arguments. -/
structure Choices where
  options : List (Char × Raw)
  arguments : List Raw

namespace Choices

def has (c : Choices) (letter : Char) : Bool := c.options.any (·.1 = letter)

def value? (c : Choices) (letter : Char) : Option Raw :=
  (c.options.reverse.find? (·.1 = letter)).map Prod.snd

def values (c : Choices) (letter : Char) : List Raw :=
  (c.options.filter (·.1 = letter)).map Prod.snd

def lastOf (c : Choices) (letters : List Char) : Option Char :=
  (c.options.reverse.find? fun o => letters.contains o.1).map Prod.fst

def push (c : Choices) (letter : Char) (value : Raw) : Choices :=
  { c with options := (letter, value) :: c.options }

end Choices

def longMatches (flags : List Flag) (name : String) : List Flag :=
  match flags.filter fun f => !f.long.isEmpty && f.long = name with
  | [] => flags.filter fun f => !f.long.isEmpty && name.toList.isPrefixOf f.long.toList
  | found => found

/-- Takes the options out of arguments, within `fuel` words and letters; behind the first argument there
are none unless they are `mixed`. -/
def takeChoices (flags : List Flag) (mixed : Bool) : (fuel : Nat) → List Raw → Except Raw Choices
  | 0, words => .ok ⟨[], words⟩
  | _ + 1, [] => .ok ⟨[], []⟩
  | fuel + 1, word :: rest =>
    match word.toList with
    | ['-', '-'] => .ok ⟨[], rest⟩
    | '-' :: '-' :: cs =>
      let name := String.ofList (cs.takeWhile (· ≠ '='))
      let value? := (cs.dropWhile (· ≠ '=')).head?.map fun _ =>
        String.ofList ((cs.dropWhile (· ≠ '=')).drop 1)
      match longMatches flags name with
      | [f] =>
        match f.takes, value?, rest with
        | false, none, _ => do return (← takeChoices flags mixed fuel rest).push f.letter ""
        | false, some _, _ => .error ("option '--" ++ f.long ++ "' doesn't allow an argument")
        | true, some value, _ => do return (← takeChoices flags mixed fuel rest).push f.letter value
        | true, none, value :: rest => do
          return (← takeChoices flags mixed fuel rest).push f.letter value
        | true, none, [] => .error ("option '--" ++ f.long ++ "' requires an argument")
      | [] => .error ("unrecognized option '--" ++ name ++ "'")
      | found =>
        .error ("option '--" ++ name ++ "' is ambiguous; possibilities:" ++
          String.join (found.map fun f => " '--" ++ f.long ++ "'"))
    | '-' :: c :: cs =>
      match flags.find? fun f => f.letter = c && f.short with
      | none => .error ("invalid option -- '" ++ c.toString ++ "'")
      | some f =>
        if f.takes then
          match cs, rest with
          | [], [] => .error ("option requires an argument -- '" ++ c.toString ++ "'")
          | [], value :: rest => do
            return (← takeChoices flags mixed fuel rest).push c value
          | cs, rest => do
            return (← takeChoices flags mixed fuel rest).push c (String.ofList cs)
        else do
          let rest := if cs.isEmpty then rest else String.ofList ('-' :: cs) :: rest
          return (← takeChoices flags mixed fuel rest).push c ""
    | _ =>
      if mixed then do
        let c ← takeChoices flags mixed fuel rest
        return { c with arguments := word :: c.arguments }
      else .ok ⟨[], word :: rest⟩

/-- Complains and tells where to find help. -/
def refuse (message : Raw) (status : Nat) : Task Nat := do
  let name := (← read).name
  Task.err (name ++ ": " ++ message ++ "\nTry '" ++ name ++ " --help' for more information.\n")
  return status

/-- A complaint with the name of the program in front of all lines. -/
def refuseByName (message : Raw) (status : Nat) : Task Nat := do
  let name := (← read).name
  Task.err (name ++ ": " ++ message ++ "\n" ++ name ++ ": Try '" ++ name ++
    " --help' for more information.\n")
  return status

def withChoices (flags : List Flag) (status : Nat) (f : Choices → Task Nat) (words : List Raw) :
    Task Nat :=
  match takeChoices flags true (words.foldl (fun n w => n + w.length + 1) 1) words with
  | .ok c => f c
  | .error message => refuse message status

/-! ## Names in complaints -/

def isPlain (c : Char) : Bool :=
  c.isAlphanum || 128 ≤ c.toNat || ['/', '.', '_', '-', '+', ',', ':', '@', '%', '^', ']'].contains c

def quoted (name : Raw) : Raw :=
  if name.toList.contains '\x27' then
    if name.toList.any fun c => ['"', '$', '\x60', '\\', '!'].contains c then
      "'" ++ String.intercalate "'\x5c''" (Raw.splitAt '\x27' name) ++ "'"
    else "\x22" ++ name ++ "\x22"
  else "'" ++ name ++ "'"

def shown (name : Raw) : Raw :=
  if name.isEmpty || !name.toList.all isPlain then quoted name else name

/-- A text between the marks that open and close quotations. -/
def cited (text : Raw) : Raw := Raw.ofText "‘" ++ text ++ Raw.ofText "’"

/-! ## Files -/

/-- The bytes of a file; a dash stands for the input. -/
def readOperand (name : Raw) : Task (Except OpenFault Raw) := do
  if name = "-" then
    match ← Task.number? 0 with
    | none => return .error .badDescriptor
    | some n =>
      let w ← get
      match (w.file? n).map OpenFile.target with
      | some (.file place) =>
        if w.disk.node? place = some .folder then return .error .isFolder
      | _ => pure ()
      return .ok (← Task.input)
  else Task.readPath name

def operands (names : List Raw) : List Raw := if names.isEmpty then ["-"] else names

def each {α : Type} (items : List α) (f : α → Task Nat) : Task Nat :=
  items.foldlM (fun status a => do return max status (← f a)) 0

/-- Does something with each of the files that are named, and complains of those that cannot be
read. -/
def eachFile (names : List Raw) (f : Raw → Raw → Task Unit) : Task Nat :=
  each (operands names) fun name => do
    match ← readOperand name with
    | .ok content =>
      f name content
      return 0
    | .error fault =>
      Task.complain (shown name ++ ": " ++ fault.message)
      return 1

def readFiles (names : List Raw) : Task (List (Raw × Raw) × Nat) := do
  let mut found := []
  let mut status := 0
  for name in operands names do
    match ← readOperand name with
    | .ok content => found := (name, content) :: found
    | .error fault =>
      Task.complain (shown name ++ ": " ++ fault.message)
      status := 1
  return (found.reverse, status)

def linesOf (content : Raw) : List Raw × Bool :=
  (Raw.lines content, content.isEmpty || content.toList.getLast? = some '\n')

def joinLines (lines : List Raw) (complete : Bool) : Raw :=
  if complete then Raw.unlines lines else String.intercalate "\n" lines

def inGroups {α : Type} (size : Nat) : (fuel : Nat) → List α → List (List α)
  | 0, _ => []
  | _ + 1, [] => []
  | fuel + 1, items => items.take size :: inGroups size fuel (items.drop size)

def rightAligned (width n : Nat) : Raw := ({ Layout.plain with width } : Layout).int n

end ConfigVault.Host.Utility
