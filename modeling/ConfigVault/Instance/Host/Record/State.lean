import ConfigVault.Instance.Host.Record.Reading
import ConfigVault.Instance.Host.Record.Table
import ConfigVault.Instance.Host.Utility.Facts

/-!
# The state of a program for records

Names lead to cells, and a cell holds a value or leads to a table; a cell that is not used yet may become
either, and where it was handed to a function it becomes the one of the caller as well.  The record and
its fields are made from each other when they are asked for.
-/

namespace ConfigVault.Host.Record

inductive Cell where
  /-- Not used yet; another cell shares the table that it may become. -/
  | unused (origin : Option Nat)
  | value (v : Value)
  | table (number : Nat)

/-- What has been printed to a file or a command and is still to be handed on. -/
structure Sink where
  name : Raw
  isCommand : Bool
  pieces : List Raw

/-- A file or a command from which lines are read. -/
structure Source where
  name : Raw
  isCommand : Bool
  rest : List Char
  status : Nat

/-- What is known while a program runs. -/
structure State where
  cells : Array Cell
  globals : Std.HashMap Raw Nat
  locals : List (Raw × Nat)
  tables : Array Table
  record : Value
  fields : Array Value
  isSplit : Bool
  isJoined : Bool
  output : List Raw
  sinks : List Sink
  sources : List Source
  /-- The bytes of the file of records that are left. -/
  input : Option (List Char)
  argument : Nat
  opened : Bool
  /-- The ranges of records that have begun, by the numbers of their rules. -/
  ranges : List Nat
  seed : Float
  /-- The number from which the row of random numbers was begun. -/
  origin : Float
  status : Nat
  steps : Nat

inductive Halt where
  | next
  | nextFile
  | exit
  | back (value : Value)
  | leave
  | again
  | failed (message : Raw)
  | endless

abbrev Run (α : Type) := ExceptT Halt (StateT State Task) α

namespace Run

def act {α : Type} (task : Task α) : Run α := ExceptT.lift (StateT.lift task)

def fail {α : Type} (message : Raw) : Run α := throw (.failed message)

/-- The number of steps after which a program is taken to have no end. -/
def maxSteps : Nat := 4000000

def spend (count : Nat) : Run Unit := do
  let steps := (← get).steps + count
  modify fun s => { s with steps }
  if maxSteps < steps then throw .endless

/-! ## Names -/

def cellOf (name : Raw) : Run Nat := do
  let s ← get
  match s.locals.lookup name with
  | some i => return i
  | none =>
    match s.globals[name]? with
    | some i => return i
    | none =>
      let i := s.cells.size
      set { s with cells := s.cells.push (.unused none), globals := s.globals.insert name i }
      return i

def cell (i : Nat) : Run Cell := do return (← get).cells.getD i (.unused none)

def setCell (i : Nat) (c : Cell) : Run Unit :=
  modify fun s => { s with cells := s.cells.setIfInBounds i c }

def tableOfCell : (fuel : Nat) → Nat → Run (Option Nat)
  | 0, _ => return none
  | fuel + 1, i => do
    match ← cell i with
    | .table t => return some t
    | .value _ => return none
    | .unused (some origin) =>
      match ← tableOfCell fuel origin with
      | some t =>
        setCell i (.table t)
        return some t
      | none => return none
    | .unused none =>
      let t := (← get).tables.size
      modify fun s => { s with tables := s.tables.push Table.empty }
      setCell i (.table t)
      return some t

def tableOf (name : Raw) : Run Nat := do
  let i ← cellOf name
  match ← tableOfCell ((← get).cells.size + 1) i with
  | some t => return t
  | none => fail ("can't use scalar " ++ name ++ " as array")

def table (t : Nat) : Run Table := do return (← get).tables.getD t Table.empty

def setTable (t : Nat) (table : Table) : Run Unit :=
  modify fun s => { s with tables := s.tables.setIfInBounds t table }

def global (name : Raw) : Run Value := do
  let s ← get
  match s.globals[name]? with
  | some i =>
    match s.cells.getD i (.unused none) with
    | .value v => return v
    | _ => return .none
  | none => return .none

def setGlobal (name : Raw) (v : Value) : Run Unit := do
  let s ← get
  match s.globals[name]? with
  | some i => setCell i (.value v)
  | none =>
    set { s with cells := s.cells.push (.value v), globals := s.globals.insert name s.cells.size }

def globalText (name : Raw) : Run Raw := do
  let template : Raw :=
    match ← global "CONVFMT" with
    | .text t => t
    | .input t => t
    | _ => "%.6g"
  return (← global name).toText template

def text (v : Value) : Run Raw := do
  match v with
  | .none => return ""
  | .text t => return t
  | .input t => return t
  | .number x => return numberText (← globalText "CONVFMT") x

def printed (v : Value) : Run Raw := do
  match v with
  | .number x => return numberText (← globalText "OFMT") x
  | v => text v

/-! ## Patterns -/

def dynamic (t : Raw) : Run Pattern := do
  match patternOf t with
  | .ok p => return p
  | .error message => fail ("run time error: " ++ message)

def page (t : Raw) : Page := ⟨(bytesOf t).toArray, false, false, true⟩

def part (p : Page) (i j : Nat) : Raw := Raw.ofLetters (p.letters.extract i j).toList

/-! ## Records and fields -/

/-- The pieces of a text between the matches of a pattern, within `fuel` matches; an empty match divides
nothing. -/
def piecesBetween (pattern : Pattern) (p : Page) (net : Net) : (fuel : Nat) → (start search : Nat) →
    List Raw
  | 0, start, _ => [part p start p.letters.size]
  | fuel + 1, start, search =>
    match pattern.findWith? p net search with
    | none => [part p start p.letters.size]
    | some found =>
      if found.start = found.finish then
        if p.letters.size ≤ found.finish then [part p start p.letters.size]
        else piecesBetween pattern p net fuel start (found.finish + 1)
      else
        part p start found.start ::
          piecesBetween pattern p net fuel found.finish found.finish

def words (t : Raw) : List Raw :=
  let isBlank (c : Char) : Bool := c = ' ' || c = '\t' || c = '\n'
  let step (c : Char) (acc : List (List Char) × Bool) : List (List Char) × Bool :=
    if isBlank c then (acc.1, false)
    else
      match acc with
      | (word :: rest, true) => ((c :: word) :: rest, true)
      | (rest, _) => ([c] :: rest, true)
  (t.toList.foldr step ([], false)).1.map String.ofList

def divide (separator : Raw) (t : Raw) : Run (List Raw) := do
  if t.isEmpty then return []
  else if separator = " " then return words t
  else
    match separator.toList with
    | [] => return t.toList.map Char.toString
    | [c] => return Raw.splitAt c t
    | _ =>
      let pattern ← dynamic separator
      let p := page t
      return piecesBetween pattern p (pattern.netOver p) (t.length + 1) 0 0

/-- Divides the record into its fields, if that is still to be done. -/
def splitRecord : Run Unit := do
  let s ← get
  if !s.isSplit then
    let t ← text s.record
    let separator ← globalText "FS"
    let parts ←
      if (← globalText "RS").isEmpty && separator ≠ " " then
        match separator.toList with
        | [c] =>
          let lines := if c = '\n' then t else t.replace "\n" c.toString
          divide separator lines
        | _ => divide ("(" ++ separator ++ ")|\n") t
      else divide separator t
    modify fun s => { s with fields := (parts.map Value.input).toArray, isSplit := true }

def joinRecord : Run Unit := do
  let s ← get
  if !s.isJoined then
    let parts ← s.fields.toList.mapM text
    let t := String.intercalate (← globalText "OFS") parts
    modify fun s => { s with record := .text t, isJoined := true }

def field (i : Nat) : Run Value := do
  if i = 0 then
    joinRecord
    return (← get).record
  else
    splitRecord
    return (← get).fields.getD (i - 1) .none

def setRecord (v : Value) : Run Unit :=
  modify fun s => { s with record := v, isSplit := false, isJoined := true }

def setFieldCount (n : Nat) : Run Unit := do
  splitRecord
  modify fun s =>
    let fields := s.fields.extract 0 n ++ Array.replicate (n - s.fields.size) (Value.text "")
    { s with fields, isJoined := false }

def setField (i : Nat) (v : Value) : Run Unit := do
  if i = 0 then
    match v with
    | .text t => setRecord (.input t)
    | .number _ => setRecord (.input (← text v))
    | v => setRecord v
  else
    splitRecord
    if (← get).fields.size < i then setFieldCount i
    modify fun s => { s with fields := s.fields.setIfInBounds (i - 1) v, isJoined := false }

/-! ## Files and commands -/

def flush : Run Unit := do
  let s ← get
  if !s.output.isEmpty then
    act (Task.out (String.join s.output.reverse))
    modify fun s => { s with output := [] }

def statusOf : Ending → Run Nat
  | .status n => return n
  | .signal n => return 256 + n
  | .never => throw .endless

def runCommand (start : Starter) (command : Raw) (streams : List (Nat × Nat)) : Run Nat := do
  let change (job : Job) : Job :=
    { job with
      name := "sh"
      table := streams ++ job.table.filter fun e => !(streams.any (·.1 = e.1)) }
  statusOf (← act (ReaderT.adapt change (start "sh" ["-c", command])))

/-- Hands a command what has been printed to it; gives its status. -/
def closeSink (start : Starter) (sink : Sink) : Run Nat := do
  modify fun s =>
    { s with sinks := s.sinks.filter fun o => !(o.name = sink.name && o.isCommand = sink.isCommand) }
  if sink.isCommand then
    let (n, w) := (← act get).openBytes (String.join sink.pieces.reverse)
    act (set w)
    runCommand start sink.name [(0, n)]
  else return 0

def closeAll (start : Starter) : Run Unit := do
  for sink in (← get).sinks do
    let _ ← closeSink start sink
  flush

def printTo (name : Raw) (isCommand appends : Bool) (t : Raw) : Run Unit := do
  if !isCommand && (name = "/dev/stdout" || name = "-") then
    modify fun s => { s with output := t :: s.output }
  else if !isCommand && name = "/dev/stderr" then act (Task.err t)
  else
    let s ← get
    let sink ←
      match s.sinks.find? fun o => o.name = name && o.isCommand = isCommand with
      | some sink => pure sink
      | none =>
        if isCommand then flush
        else
          match ← act (Task.writePath name "" (if appends then .append else .overwrite)) with
          | .ok _ => pure ()
          | .error fault => fail ("cannot open \x22" ++ name ++ "\x22 for output (" ++ fault.message ++ ")")
        pure ⟨name, isCommand, []⟩
    let rest := (← get).sinks.filter fun o => !(o.name = name && o.isCommand = isCommand)
    if isCommand then modify fun s => { s with sinks := { sink with pieces := t :: sink.pieces } :: rest }
    else
      modify fun s => { s with sinks := sink :: rest }
      let _ ← act (Task.writePath name t .append)

def sourceOf (start : Starter) (name : Raw) (isCommand : Bool) : Run (Option Source) := do
  match (← get).sources.find? fun o => o.name = name && o.isCommand = isCommand with
  | some source => return some source
  | none =>
    if isCommand then
      flush
      let (source, sink, w) := (← act get).openPipe
      act (set w)
      let status ← runCommand start name [(1, sink)]
      let (bytes, w) := (← act get).readAll source
      act (set w)
      return some ⟨name, true, bytes.toList, status⟩
    else
      match ← act (Utility.readOperand (if name = "/dev/stdin" then "-" else name)) with
      | .ok content => return some ⟨name, false, content.toList, 0⟩
      | .error .isFolder =>
        closeAll start
        fail "read error (Is a directory)"
      | .error _ => return none

def keepSource (source : Source) : Run Unit :=
  modify fun s =>
    { s with
      sources := source ::
        s.sources.filter fun o => !(o.name = source.name && o.isCommand = source.isCommand) }

/-- The bytes up to the first empty lines, and what follows them, within `fuel` bytes. -/
def takeParagraph : (fuel : Nat) → List Char → List Char × List Char
  | 0, cs => (cs, [])
  | _ + 1, [] => ([], [])
  | _ + 1, '\n' :: '\n' :: rest => ([], rest.dropWhile (· = '\n'))
  | _ + 1, ['\n'] => ([], [])
  | fuel + 1, c :: rest =>
    let (front, left) := takeParagraph fuel rest
    (c :: front, left)

def takeRecord (cs : List Char) : Run (Option (Raw × List Char)) := do
  let mark ← globalText "RS"
  match mark.toList with
  | [] =>
    let cs := cs.dropWhile (· = '\n')
    if cs.isEmpty then return none
    else
      let (record, rest) := takeParagraph (cs.length + 1) cs
      return some (String.ofList record, rest)
  | [c] =>
    if cs.isEmpty then return none
    else
      let record := cs.takeWhile (· ≠ c)
      return some (String.ofList record, cs.drop (record.length + 1))
  | _ =>
    if cs.isEmpty then return none
    else
      let pattern ← dynamic mark
      let p := page (String.ofList cs)
      match pattern.find? p 0 with
      | some found =>
        if found.start = found.finish then return some (String.ofList cs, [])
        else return some (part p 0 found.start, cs.drop found.finish)
      | none => return some (String.ofList cs, [])

def countUp (name : Raw) : Run Unit := do
  setGlobal name (.number ((← global name).toNumber + 1.0))

def setting? (argument : Raw) : Option (Raw × Raw) :=
  let cs := argument.toList
  let name := cs.takeWhile isNameChar
  match name, cs.drop name.length with
  | c :: _, '=' :: value =>
    if isNameStart c then some (String.ofList name, unescape (String.ofList value)) else none
  | _, _ => none

def maxFiles : Nat := 100000

/-- Opens the next file of records, within `fuel` arguments; says whether there is one. -/
def openNext (start : Starter) : (fuel : Nat) → Run Bool
  | 0 => return false
  | fuel + 1 => do
    let s ← get
    let count := (wholePart (← global "ARGC").toNumber).toNat
    let openFile (name : Raw) : Run Bool := do
      setGlobal "FILENAME" (.text name)
      setGlobal "FNR" (.number 0.0)
      match ← act (Utility.readOperand (if name = "/dev/stdin" then "-" else name)) with
      | .ok content =>
        modify fun s => { s with input := some content.toList, opened := true }
        return true
      | .error .isFolder =>
        closeAll start
        fail "read error (Is a directory)"
      | .error fault => fail ("cannot open \x22" ++ name ++ "\x22 (" ++ fault.message ++ ")")
    if count ≤ s.argument then
      if s.opened then return false else openFile "-"
    else
      set { s with argument := s.argument + 1 }
      let t ← tableOf "ARGV"
      let given := (← table t).values[toString s.argument]?
      match given with
      | none => openNext start fuel
      | some v =>
        let argument ← text v
        if argument.isEmpty then openNext start fuel
        else
          match setting? argument with
          | some (name, value) =>
            setGlobal name (.input value)
            openNext start fuel
          | none => openFile argument

def nextRecord (start : Starter) : (fuel : Nat) → Run (Option Raw)
  | 0 => return none
  | fuel + 1 => do
    match (← get).input with
    | none =>
      if ← openNext start maxFiles then nextRecord start fuel else return none
    | some cs =>
      match ← takeRecord cs with
      | some (record, rest) =>
        modify fun s => { s with input := some rest }
        countUp "NR"
        countUp "FNR"
        return some record
      | none =>
        modify fun s => { s with input := none }
        nextRecord start fuel

end Run

end ConfigVault.Host.Record
