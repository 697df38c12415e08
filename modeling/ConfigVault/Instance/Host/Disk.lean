import ConfigVault.Instance.Host.Raw
import ConfigVault.KeyMap

/-!
# Disks

Files and folders under one root.  What stands on a disk is kept by its place, the names of the
folders on the way to it; a path is followed name by name from the folder in which one works, and links
lead elsewhere on the way.  Names are strings of bytes.
-/

namespace ConfigVault.Host

inductive Device where
  /-- Takes everything and holds nothing. -/
  | null
  | zero
  | stream (number : Nat)
  deriving DecidableEq, Repr

inductive Node where
  | file (content : Raw) (mode : Nat)
  | program
  | folder
  | device (device : Device)
  | link (target : String)
  deriving DecidableEq, Repr

/-- Why a path leads nowhere. -/
inductive PathFault where
  | missing
  | notFolder
  | tooLong
  | circle
  deriving DecidableEq, Repr

abbrev Place := List String

abbrev Disk := KeyMap Node

def Place.key (place : Place) : String := String.intercalate "/" place

def pathNames (path : String) : List String :=
  let parts := path.toList.foldr
    (fun c acc => if c = '/' then [] :: acc
      else match acc with
        | part :: rest => (c :: part) :: rest
        | [] => [[c]]) [[]]
  parts.map String.ofList

def isAbsolute (path : String) : Bool := path.toList.head? = some '/'

def maxNameLength : Nat := 255

def maxPathLength : Nat := 4095

namespace Disk

def node? (d : Disk) (place : Place) : Option Node :=
  if place.isEmpty then some .folder else d.get? place.key

/-- Follows names from a place, within `fuel` steps.  A last name may be missing. -/
def follow (d : Disk) : (fuel : Nat) → Place → List String → Except PathFault Place
  | 0, _, _ => .error .circle
  | _ + 1, place, [] => .ok place
  | fuel + 1, place, name :: rest =>
    match d.node? place with
    | none => .error .missing
    | some .folder =>
      if name.isEmpty || name = "." then follow d fuel place rest
      else if name = ".." then follow d fuel place.dropLast rest
      else if maxNameLength < name.length then .error .tooLong
      else
        match d.node? (place ++ [name]) with
        | some (.link target) =>
          follow d fuel (if isAbsolute target then [] else place) (pathNames target ++ rest)
        | _ => follow d fuel (place ++ [name]) rest
    | some _ => .error .notFolder

/-- The greatest number of steps that links add to a path. -/
def maxDetour : Nat := 200

def place (d : Disk) (folder : Place) (path : String) : Except PathFault Place :=
  if path.isEmpty then .error .missing
  else if maxPathLength < path.length then .error .tooLong
  else
    let names := pathNames path
    d.follow (names.length + maxDetour) (if isAbsolute path then [] else folder) names

def find (d : Disk) (folder : Place) (path : String) : Except PathFault (Place × Node) := do
  let place ← d.place folder path
  match d.node? place with
  | some node => return (place, node)
  | none => throw .missing

/-- The place of a path and what stands there; a link at the end is not followed. -/
def entry (d : Disk) (folder : Place) (path : String) : Except PathFault (Place × Node) := do
  let names := pathNames path
  let bare := (names.reverse.dropWhile String.isEmpty).reverse
  match bare.getLast?, decide (bare.length = names.length) with
  | some name, true =>
    if name = "." || name = ".." then d.find folder path
    else
      let parent ←
        d.follow (names.length + maxDetour) (if isAbsolute path then [] else folder) names.dropLast
      match d.node? parent with
      | some .folder =>
        match d.node? (parent ++ [name]) with
        | some node => return (parent ++ [name], node)
        | none => throw (if maxNameLength < name.length then .tooLong else .missing)
      | some _ => throw .notFolder
      | none => throw .missing
  | _, _ => d.find folder path

def put (d : Disk) (place : Place) (node : Node) : Disk := d.insert place.key node

/-- Takes away what stands at a place and everything below it. -/
def remove (d : Disk) (place : Place) : Disk :=
  d.filter fun key => key ≠ place.key && !(place.key ++ "/").toList.isPrefixOf key.toList

def names (d : Disk) (place : Place) : List String :=
  let lead := if place.isEmpty then [] else (place.key ++ "/").toList
  d.keys.filterMap fun key =>
    let cs := key.toList
    if lead.isPrefixOf cs then
      let name := cs.drop lead.length
      if name.isEmpty || name.contains '/' then none else some (String.ofList name)
    else none

def makeFolders (d : Disk) (place : Place) : Disk :=
  (List.range place.length).foldl (fun d n =>
    let folder := place.take n
    if n = 0 || (d.node? folder).isSome then d else d.put folder .folder) d

end Disk

end ConfigVault.Host
