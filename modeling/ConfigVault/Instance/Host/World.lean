import ConfigVault.Instance.Host.System

/-!
# What programs act on

The disk, the files that are open, the pipes between programs, and time.  Open files are numbered;
programs that run together may share one, and with it the position in it.  What the programs write to
their result is kept with the time at which they write it.
-/

namespace ConfigVault.Host

/-- What an open file leads to. -/
inductive Target where
  | result
  | device (device : Device)
  | file (place : Place)
  /-- Bytes that only running programs see: a pipe, or the text of a script. -/
  | buffer (number : Nat)
  deriving DecidableEq, Repr

structure OpenFile where
  target : Target
  reads : Bool
  writes : Bool
  append : Bool
  offset : Nat

/-- Bytes that are written to the result. -/
structure Piece where
  time : Float
  writer : Option Nat
  bytes : Raw

structure World where
  disk : Disk
  opened : Array OpenFile
  buffers : Array Raw
  output : List Piece
  now : Float
  /-- Programs in the background that hold the output, and the second until which they do. -/
  held : List (Nat × Float)
  process : Nat
  /-- The number of the program in the background that runs now. -/
  behind : Option Nat

/-- The number of bytes after which something that has no end is cut. -/
def endlessSize : Nat := 1048576

namespace World

def content (w : World) (f : OpenFile) : Raw :=
  match f.target with
  | .file place =>
    match w.disk.node? place with
    | some (.file content _) => content
    | _ => ""
  | .buffer n => w.buffers.getD n ""
  | _ => ""

def file? (w : World) (n : Nat) : Option OpenFile := w.opened[n]?

/-- Moves the position in an open file. -/
def seek (w : World) (n : Nat) (offset : Nat) : World :=
  match w.file? n with
  | some f => { w with opened := w.opened.setIfInBounds n { f with offset } }
  | none => w

/-- The bytes behind the position in an open file; the position stays. -/
def rest (w : World) (n : Nat) : Raw :=
  match w.file? n with
  | some f =>
    match f.target with
    | .device .zero => "".pushn '\x00' endlessSize
    | _ => String.ofList ((w.content f).toList.drop f.offset)
  | none => ""

/-- Reads all bytes behind the position in an open file. -/
def readAll (w : World) (n : Nat) : Raw × World :=
  let bytes := w.rest n
  match w.file? n with
  | some f => (bytes, w.seek n (f.offset + bytes.length))
  | none => (bytes, w)

def overwrite (content : Raw) (offset : Nat) (bytes : Raw) : Raw :=
  if offset = content.length then content ++ bytes
  else
    let cs := content.toList
    String.ofList (cs.take offset ++ List.replicate (offset - cs.length) '\x00' ++ bytes.toList ++
      cs.drop (offset + bytes.length))

def writeResult (w : World) (bytes : Raw) : World :=
  let time :=
    match w.output.find? (·.writer = w.behind) with
    | some piece => if w.now < piece.time then piece.time else w.now
    | none => w.now
  { w with output := ⟨time, w.behind, bytes⟩ :: w.output }

def write (w : World) (n : Nat) (bytes : Raw) : World :=
  match w.file? n with
  | none => w
  | some f =>
    match f.target with
    | .result => w.writeResult bytes
    | .buffer b => { w with buffers := w.buffers.modify b (· ++ bytes) }
    | .device _ => w
    | .file place =>
      match w.disk.node? place with
      | some (.file content mode) =>
        let offset := if f.append then content.length else f.offset
        let w := { w with disk := w.disk.put place (.file (overwrite content offset bytes) mode) }
        w.seek n (offset + bytes.length)
      | _ => w

def add (w : World) (f : OpenFile) : Nat × World :=
  (w.opened.size, { w with opened := w.opened.push f })

def openBytes (w : World) (bytes : Raw) : Nat × World :=
  let w' := { w with buffers := w.buffers.push bytes }
  w'.add ⟨.buffer w.buffers.size, true, false, false, 0⟩

def openPipe (w : World) : Nat × Nat × World :=
  let b := w.buffers.size
  let (source, w') := { w with buffers := w.buffers.push "" }.add ⟨.buffer b, true, false, false, 0⟩
  let (sink, w') := w'.add ⟨.buffer b, false, true, true, 0⟩
  (source, sink, w')

/-- Reads a line; says whether it ends with a line feed, which is no part of it. -/
def readLine (w : World) (n : Nat) : Raw × Bool × World :=
  match w.file? n with
  | some f =>
    let rest := (w.content f).toList.drop f.offset
    let line := rest.takeWhile (· ≠ '\n')
    let complete := (rest.drop line.length).head? = some '\n'
    (String.ofList line, complete, w.seek n (f.offset + line.length + (if complete then 1 else 0)))
  | none => ("", false, w)

def wait (w : World) (seconds : Float) : World := { w with now := w.now + seconds }

def result (w : World) : Raw :=
  String.join ((w.output.reverse.mergeSort fun a b => decide (a.time ≤ b.time)).map Piece.bytes)

/-- A program in the background is no more: it writes nothing from now on. -/
def silence (w : World) (process : Nat) : World :=
  { w with
    held := w.held.filter (·.1 ≠ process)
    output := w.output.filter fun p => !(p.writer = some process && decide (w.now < p.time)) }

/-- The second at which the last program lets go of the output. -/
def finish (w : World) : Float :=
  w.held.foldl (fun t h => if t < h.2 then h.2 else t) w.now

end World

/-- The ways in which a file is opened. -/
inductive Access where
  | read
  | overwrite
  | append
  | both
  deriving DecidableEq, Repr

/-- Why a file cannot be opened. -/
inductive OpenFault where
  | path (fault : PathFault)
  | isFolder
  | badDescriptor
  deriving DecidableEq, Repr

def OpenFault.message : OpenFault → String
  | path .missing => "No such file or directory"
  | path .notFolder => "Not a directory"
  | path .tooLong => "File name too long"
  | path .circle => "Too many levels of symbolic links"
  | isFolder => "Is a directory"
  | badDescriptor => "Bad file descriptor"

structure Job where
  name : Raw
  /-- The open files by the numbers by which the program knows them. -/
  table : List (Nat × Nat)
  folder : Place
  environment : List (Raw × Raw)

inductive Ending where
  | status (n : Nat)
  | signal (n : Nat)
  | never
  deriving DecidableEq, Repr

def Ending.code : Ending → Nat
  | status n => n
  | signal n => 128 + n
  | never => 128

abbrev Task (α : Type) := ReaderT Job (StateM World) α

namespace Task

def number? (descriptor : Nat) : Task (Option Nat) := do
  return ((← read).table.find? (·.1 = descriptor)).map Prod.snd

def openPath (path : Raw) (access : Access) : Task (Except OpenFault Nat) := do
  let job ← read
  let w ← get
  let give (target : Target) (offset : Nat) : Task (Except OpenFault Nat) := do
    let (n, w) := (← get).add
      ⟨target, access = .read || access = .both, access ≠ .read, access = .append, offset⟩
    set w
    return .ok n
  match w.disk.place job.folder path with
  | .error fault => return .error (.path fault)
  | .ok place =>
    match w.disk.node? place with
    | some (.file _ mode) =>
      if access = .overwrite then
        set { w with disk := w.disk.put place (.file "" mode) }
      give (.file place) 0
    | some .program => give (.file place) 0
    | some (.device (.stream n)) =>
      match ← number? n with
      | some n => return .ok n
      | none => return .error (.path .missing)
    | some (.device d) => give (.device d) 0
    | some .folder =>
      if access = .read then give (.file place) 0 else return .error .isFolder
    | some (.link _) => return .error (.path .circle)
    | none =>
      if access = .read || (path.toList.getLast? = some '/') then return .error (.path .missing)
      else
        set { w with disk := w.disk.put place (.file "" standardMode) }
        give (.file place) 0

def readPath (path : Raw) : Task (Except OpenFault Raw) := do
  match ← openPath path .read with
  | .error fault => return .error fault
  | .ok n =>
    let w ← get
    match (w.file? n).map OpenFile.target with
    | some (.file place) =>
      if w.disk.node? place = some .folder then return .error .isFolder
    | _ => pure ()
    let (bytes, w) := w.readAll n
    set w
    return .ok bytes

def writePath (path bytes : Raw) (access : Access) : Task (Except OpenFault Unit) := do
  match ← openPath path access with
  | .error fault => return .error fault
  | .ok n =>
    modify fun w => w.write n bytes
    return .ok ()

def write (descriptor : Nat) (bytes : Raw) : Task Unit := do
  if let some n ← number? descriptor then modify fun w => w.write n bytes

def out (bytes : Raw) : Task Unit := write 1 bytes

def err (bytes : Raw) : Task Unit := write 2 bytes

def complain (message : Raw) : Task Unit := do
  err ((← read).name ++ ": " ++ message ++ "\n")

def input : Task Raw := do
  match ← number? 0 with
  | none => return ""
  | some n =>
    let (bytes, w) := (← get).readAll n
    set w
    return bytes

def find? (path : Raw) : Task (Option (Place × Node)) := do
  return ((← get).disk.find (← read).folder path).toOption

end Task

end ConfigVault.Host
