import ConfigVault.Instance.Host.System
import ConfigVault.Settings.Configuration

/-!
# Working folders

The files that a program finds by relative paths, and what stands around them.  The working folder
lies among the temporary files under a name that nobody knows.
-/

namespace ConfigVault

open Host

structure WorkingFolder where
  files : List (String × String)

namespace WorkingFolder

/-- The place of the working folder.  No path has an empty name in it, so none leads here by name. -/
def place : Place := ["tmp", ""]

def stepNames (path : String) : List String :=
  (pathNames path).filter fun name => !name.isEmpty && name ≠ "."

def disk (w : WorkingFolder) : Disk :=
  w.files.foldl (fun d f =>
    let path := place ++ (stepNames f.1).map Raw.ofText
    (d.makeFolders path).put path (.file (Raw.ofText f.2) standardMode)) (systemDisk.put place .folder)

/-- A path without empty names and names for the present folder; such names at its end do not ask for
a folder. -/
def plainPath (path : String) : String :=
  let names := stepNames path
  (if isAbsolute path then "/" else "") ++ (if names.isEmpty then "." else Place.key names)

/-- What a path shows of something on the disk. -/
def entry : Node → Configuration.PathEntry
  | .file content _ =>
    match Text.decodeUtf8? (Raw.toBytes content) with
    | some content => .file content
    | none => .binary
  | .program => .binary
  | .folder => .folder
  | .device _ => .file ""
  | .link _ => .folder

/-- Follows names on paper: a name for the folder above takes the last name away. -/
def lead (start : Place) (names : List String) : Place :=
  names.foldl (fun place name => if name = ".." then place.dropLast else place ++ [name]) start

/-- The place of a path that is read from the folder of a file of which a path is given. -/
def placeBeside (beside path : String) : Place :=
  let start := if isAbsolute beside then [] else place
  lead (if isAbsolute path then [] else lead start (stepNames beside).dropLast) (stepNames path)

/-- A path in full, read from the folder of a file of which a path is given.  Two slashes at its front
stay as they are. -/
def fullPath (beside path : String) : String :=
  let doubled := "//".isPrefixOf path && !"///".isPrefixOf path
  (if doubled then "//" else "/") ++ Place.key (placeBeside beside path)

/-- What stands at a path that is read from the folder of a file of which a path is given. -/
def findBeside (w : WorkingFolder) (beside path : String) : Except PathFault (Place × Node) :=
  let full := placeBeside beside path
  if place.isPrefixOf full then w.disk.find place (Raw.ofText (Place.key ("." :: full.drop place.length)))
  else w.disk.find [] (Raw.ofText (Place.key ("." :: full)))

def find? (w : WorkingFolder) (path : String) : Option Configuration.PathEntry :=
  match w.disk.find place (Raw.ofText (plainPath path)) with
  | .ok (_, node) => some (entry node)
  | .error .tooLong => some .tooLong
  | .error _ => none

end WorkingFolder

end ConfigVault
