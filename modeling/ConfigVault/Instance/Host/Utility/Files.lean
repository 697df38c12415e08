import ConfigVault.Instance.Host.Utility.Basic

/-!
# Utilities for files

Utilities that make files and folders, move them, take them away, and tell what there is.
-/

namespace ConfigVault.Host.Utility

def pathText (place : Place) : Raw := "/" ++ String.intercalate "/" place

def finalName (path : Raw) : Raw :=
  let names := (pathNames path).filter fun name => !name.isEmpty
  names.getLast?.getD "/"

/-- The place of a path and what stands there, if anything; a link at the end is not followed. -/
def entryAt (path : Raw) : Task (Except PathFault (Place × Node)) := do
  return (← get).disk.entry (← read).folder path

/-- The place of a path and what stands there, if anything; links are followed. -/
def nodeAt (path : Raw) : Task (Except PathFault (Place × Node)) := do
  return (← get).disk.find (← read).folder path

def pathFault (fault : PathFault) : Raw := (OpenFault.path fault).message

def putNode (place : Place) (node : Node) : Task Unit :=
  modify fun w => { w with disk := w.disk.put place node }

/-- Takes away what stands at a place and everything below it. -/
def removeNode (place : Place) : Task Unit :=
  modify fun w => { w with disk := w.disk.remove place }

def blame (what : Raw) (name : Raw) (why : Raw) : Task Nat := do
  Task.complain (what ++ " " ++ quoted name ++ ": " ++ why)
  return 1

def missing (what : Raw) : Task Nat := refuse ("missing " ++ what) 1

/-! ## Making and taking away -/

def makeFolder (parents : Bool) (path : Raw) : Task Nat := do
  let what := "cannot create directory " ++ cited path
  match (← get).disk.place (← read).folder path with
  | .error .missing =>
    if parents then
      let names := pathNames path
      let folder ← read
      let start : Place := if isAbsolute path then [] else folder.folder
      let place := start ++ names.filter fun name => !name.isEmpty && name ≠ "."
      modify fun w => { w with disk := (w.disk.makeFolders place).put place .folder }
      return 0
    else
      Task.complain (what ++ ": No such file or directory")
      return 1
  | .error fault =>
    Task.complain (what ++ ": " ++ pathFault fault)
    return 1
  | .ok place =>
    match (← get).disk.node? place with
    | none =>
      putNode place .folder
      return 0
    | some .folder =>
      if parents then return 0
      else
        Task.complain (what ++ ": File exists")
        return 1
    | some _ =>
      Task.complain (what ++ ": File exists")
      return 1

def mkdir : List Raw → Task Nat :=
  withChoices [flag 'p' "parents", valued 'm' "mode", flag 'v' "verbose"] 1 fun c => do
    if c.arguments.isEmpty then missing "operand"
    else each c.arguments (makeFolder (c.has 'p'))

/-- Takes folders away that have nothing in them. -/
def rmdir : List Raw → Task Nat :=
  withChoices [flag 'p' "parents", longFlag '1' "ignore-fail-on-non-empty"] 1 fun c => do
    if c.arguments.isEmpty then missing "operand"
    else
      each c.arguments fun path => do
        match ← entryAt path with
        | .error fault => blame "failed to remove" path (pathFault fault)
        | .ok (place, .folder) =>
          if ((← get).disk.names place).isEmpty then
            removeNode place
            return 0
          else if c.has '1' then return 0
          else blame "failed to remove" path "Directory not empty"
        | .ok _ => blame "failed to remove" path "Not a directory"

def rm : List Raw → Task Nat :=
  withChoices [flag 'f' "force", flag 'r' "recursive", flag 'R' "", flag 'd' "dir", flag 'v' "verbose",
    flag 'i' ""] 1 fun c => do
    let deep := c.has 'r' || c.has 'R'
    if c.arguments.isEmpty then
      if c.has 'f' then return 0 else missing "operand"
    else
      each c.arguments fun path => do
        match ← entryAt path with
        | .error fault =>
          if c.has 'f' && (fault = .missing || fault = .notFolder) then return 0
          else blame "cannot remove" path (pathFault fault)
        | .ok (place, .folder) =>
          let last := finalName path
          if !deep && !c.has 'd' then blame "cannot remove" path "Is a directory"
          else if last = "." || last = ".." then
            Task.complain ("refusing to remove '.' or '..' directory: skipping " ++ quoted path)
            return 1
          else if !deep && !((← get).disk.names place).isEmpty then
            blame "cannot remove" path "Directory not empty"
          else
            if c.has 'v' then Task.out ("removed directory " ++ quoted path ++ "\n")
            removeNode place
            return 0
        | .ok (place, _) =>
          if c.has 'v' then Task.out ("removed " ++ quoted path ++ "\n")
          removeNode place
          return 0

def unlink (words : List Raw) : Task Nat := do
  match words with
  | [] => missing "operand"
  | [path] =>
    match ← entryAt path with
    | .error fault => blame "cannot unlink" path (pathFault fault)
    | .ok (_, .folder) => blame "cannot unlink" path "Is a directory"
    | .ok (place, _) =>
      removeNode place
      return 0
  | _ :: extra :: _ => refuse ("extra operand " ++ cited extra) 1

def touch : List Raw → Task Nat :=
  withChoices [flag 'a' "", flag 'm' "", flag 'c' "no-create", valued 'd' "date", valued 't' "",
    valued 'r' "reference", flag 'h' "no-dereference"] 1 fun c => do
    if c.arguments.isEmpty then missing "file operand"
    else
      each c.arguments fun path => do
        match (← get).disk.place (← read).folder path with
        | .error fault =>
          if c.has 'c' && fault = .missing then return 0
          else blame "cannot touch" path (pathFault fault)
        | .ok place =>
          if ((← get).disk.node? place).isNone && !c.has 'c' then
            putNode place (.file "" standardMode)
          return 0

/-- Cuts files or fills them up to a size. -/
def truncate : List Raw → Task Nat :=
  withChoices [valued 's' "size", flag 'c' "no-create"] 1 fun c => do
    match c.value? 's', c.arguments with
    | none, _ => refuse ("you must specify either " ++ cited "--size" ++ " or " ++ cited "--reference") 1
    | some _, [] => missing "file operand"
    | some size, paths =>
      match Raw.nat? size.toList with
      | none =>
        Task.complain ("Invalid number: " ++ cited size)
        return 1
      | some n =>
        each paths fun path => do
          match (← get).disk.place (← read).folder path with
          | .error fault =>
            Task.complain ("cannot open " ++ quoted path ++ " for writing: " ++ pathFault fault)
            return 1
          | .ok place =>
            match (← get).disk.node? place with
            | some (.file content mode) =>
              let content := (content.take n).toString
              putNode place (.file (content.pushn '\x00' (n - content.length)) mode)
              return 0
            | some _ => return 0
            | none =>
              if !c.has 'c' then putNode place (.file ("".pushn '\x00' n) standardMode)
              return 0

/-! ## Copying and moving -/

/-- Copies what stands at a place, with everything below it, within `fuel` levels. -/
def copyTree (disk : Disk) : (fuel : Nat) → (source target : Place) → Disk
  | 0, _, _ => disk
  | fuel + 1, source, target =>
    match disk.node? source with
    | some .folder =>
      (disk.names source).foldl
        (fun d name =>
          let copied := copyTree disk fuel (source ++ [name]) (target ++ [name])
          copied.entries.foldl (fun (d : Disk) e =>
            if (target.key ++ "/").toList.isPrefixOf e.1.toList then d.insert e.1 e.2 else d) d)
        (if (disk.node? target).isSome then disk else disk.put target .folder)
    | some (.file content mode) =>
      disk.put target (.file content (match disk.node? target with
        | some (.file _ old) => old
        | _ => mode))
    | some (.device _) => disk.put target (.file "" standardMode)
    | some node => disk.put target node
    | none => disk

def maxDepth : Nat := 64

def targetOf (path target : Raw) : Task (Except Raw Place) := do
  let refused (why : Raw) : Except Raw Place :=
    .error ("cannot create regular file " ++ quoted target ++ ": " ++ why)
  let disk := (← get).disk
  let folder := (← read).folder
  match disk.place folder target with
  | .error fault =>
    let bare := String.ofList (target.toList.reverse.dropWhile (· = '/')).reverse
    if fault = .missing && (disk.place folder bare).toOption.isSome then
      return refused "Not a directory"
    else return refused (pathFault fault)
  | .ok place =>
    match disk.node? place with
    | some .folder => return .ok (place ++ [finalName path])
    | _ => return .ok place

/-- Why many files cannot go to a path. -/
def crowdFault? (target : Raw) : Task (Option Raw) := do
  match ← nodeAt target with
  | .ok (_, .folder) => return none
  | .ok _ => return some (pathFault .notFolder)
  | .error fault => return some (pathFault fault)

def toTarget (paths : List Raw) (f : (path target : Raw) → Place → Task Nat) : Task Nat := do
  match paths.reverse with
  | [] => missing "file operand"
  | [path] => refuse ("missing destination file operand after " ++ quoted path) 1
  | target :: sources =>
    match ← if 1 < sources.length then crowdFault? target else pure none with
    | some why =>
      Task.complain ("target " ++ quoted target ++ ": " ++ why)
      return 1
    | none =>
      each sources.reverse fun path => do
        match ← entryAt path with
        | .error fault => blame "cannot stat" path (pathFault fault)
        | .ok _ =>
          match ← targetOf path target with
          | .error message =>
            Task.complain message
            return 1
          | .ok place => f path target place

def cp : List Raw → Task Nat :=
  withChoices [flag 'r' "recursive", flag 'R' "", flag 'a' "archive", flag 'f' "force", flag 'p' "",
    flag 'n' "no-clobber", flag 'v' "verbose", flag 'L' "dereference", flag 'P' "no-dereference",
    flag 'd' "", flag 'i' "interactive", flag 'u' "update", valued 't' "target-directory"] 1 fun c => do
    let deep := c.has 'r' || c.has 'R' || c.has 'a'
    let paths := c.arguments ++ (c.value? 't').toList
    toTarget paths fun path target place => do
      match ← nodeAt path with
      | .error fault => blame "cannot stat" path (pathFault fault)
      | .ok (source, node) =>
        if node = .folder && !deep then
          Task.complain ("-r not specified; omitting directory " ++ quoted path)
          return 1
        else if source = place then
          Task.complain (quoted path ++ " and " ++ quoted target ++ " are the same file")
          return 1
        else
          modify fun w => { w with disk := copyTree w.disk maxDepth source place }
          if c.has 'v' then Task.out (quoted path ++ " -> " ++ quoted target ++ "\n")
          return 0

def mv : List Raw → Task Nat :=
  withChoices [flag 'f' "force", flag 'n' "no-clobber", flag 'v' "verbose", flag 'i' "interactive",
    flag 'u' "update", valued 't' "target-directory"] 1 fun c => do
    let paths := c.arguments ++ (c.value? 't').toList
    toTarget paths fun path target place => do
      match ← entryAt path with
      | .error fault => blame "cannot stat" path (pathFault fault)
      | .ok (source, _) =>
        if source = place then
          Task.complain (quoted path ++ " and " ++ quoted target ++ " are the same file")
          return 1
        else
          modify fun w =>
            let disk := w.disk.remove place
            { w with disk := (copyTree disk maxDepth source place).remove source }
          if c.has 'v' then Task.out ("renamed " ++ quoted path ++ " -> " ++ quoted target ++ "\n")
          return 0

def ln : List Raw → Task Nat :=
  withChoices [flag 's' "symbolic", flag 'f' "force", flag 'n' "no-dereference", flag 'v' "verbose",
    flag 'r' "relative", flag 'T' "no-target-directory"] 1 fun c => do
    match c.arguments with
    | [] => missing "file operand"
    | source :: rest =>
      let target := rest.headD (finalName source)
      let what := if c.has 's' then "failed to create symbolic link" else "failed to create hard link"
      let known :=
        match ← entryAt target with
        | .ok (place, .link _) => some place
        | _ => none
      let inFolder := !c.has 'n' && !c.has 'T' &&
        (← nodeAt target).toOption.any fun found => found.2 = .folder
      let place ← if known.isSome && !inFolder then pure (Except.ok (known.getD []))
        else targetOf source target
      match place with
      | .error _ => blame what target (pathFault .missing)
      | .ok place =>
        if ((← get).disk.node? place).isSome && !c.has 'f' then blame what target "File exists"
        else if c.has 's' then
          putNode place (.link source)
          return 0
        else
          match ← nodeAt source with
          | .error fault => blame "failed to access" source (pathFault fault)
          | .ok (_, node) =>
            putNode place node
            return 0

/-! ## Rights -/

def rightsOf (letters : List Char) (isFolder : Bool) (old : Nat) : Nat :=
  letters.foldl (fun n c =>
    n ||| (match c with
    | 'r' => 4
    | 'w' => 2
    | 'x' => 1
    | 'X' => if isFolder || old &&& 0o111 ≠ 0 then 1 else 0
    | _ => 0)) 0

def applyClause (old : Nat) (clause : List Char) : Option Nat :=
  let who := clause.takeWhile fun c => ['u', 'g', 'o', 'a'].contains c
  match clause.drop who.length with
  | sign :: letters =>
    if !letters.all fun c => ['r', 'w', 'x', 'X', 's', 't'].contains c then none
    else
      let places : Nat :=
        (if who.isEmpty || who.contains 'a' || who.contains 'u' then 0o100 else 0) +
          (if who.isEmpty || who.contains 'a' || who.contains 'g' then 0o010 else 0) +
          (if who.isEmpty || who.contains 'a' || who.contains 'o' then 1 else 0)
      let rights := rightsOf letters false old * places
      let rights := if who.isEmpty then rights &&& 0o755 ||| (rights &&& 0o111) else rights
      match sign with
      | '+' => some (old ||| rights)
      | '-' => some (old &&& (0o7777 ^^^ rights))
      | '=' => some ((old &&& (0o7777 ^^^ (7 * places))) ||| rights)
      | _ => none
  | [] => none

def applyMode (word : Raw) (old : Nat) : Option Nat :=
  let cs := word.toList
  if !cs.isEmpty && cs.all fun c => '0' ≤ c && c ≤ '7' then
    let n := (Number.takeDigits 8 cs).1
    if n ≤ 0o7777 then some n else none
  else (Raw.splitAt ',' word).foldlM (fun mode clause => applyClause mode clause.toList) old

def chmod (words : List Raw) : Task Nat := do
  let isOption (w : Raw) : Bool := ["-R", "-v", "-c", "-f", "--recursive"].contains w
  let (options, rest) := (words.filter isOption, words.filter fun w => !isOption w)
  match rest with
  | [] => missing "operand"
  | mode :: paths =>
    if (applyMode mode 0).isNone then refuse ("invalid mode: " ++ cited mode) 1
    else if paths.isEmpty then refuse ("missing operand after " ++ cited mode) 1
    else
      each paths fun path => do
        match ← nodeAt path with
        | .error fault =>
          if options.contains "-f" then return 1 else blame "cannot access" path (pathFault fault)
        | .ok (place, .file content old) =>
          putNode place (.file content ((applyMode mode old).getD old))
          return 0
        | .ok _ => return 0

/-! ## What there is -/

def classMark (c : Choices) : Node → Raw
  | .folder => if c.has 'F' || c.has 'p' then "/" else ""
  | .link _ => if c.has 'F' then "@" else ""
  | .program => if c.has 'F' then "*" else ""
  | .file _ mode => if c.has 'F' && mode &&& 0o111 ≠ 0 then "*" else ""
  | .device _ => ""

def kindText : Node → Raw
  | .folder => "directory"
  | .link _ => "symbolic link"
  | .device _ => "character special file"
  | .file content _ => if content.isEmpty then "regular empty file" else "regular file"
  | .program => "regular file"

def modeOf : Node → Nat
  | .folder => 0o755
  | .link _ => 0o777
  | .device _ => 0o666
  | .file _ mode => mode
  | .program => 0o755

def sizeOf : Node → Nat
  | .folder => 4096
  | .link target => target.length
  | .device _ => 0
  | .file content _ => content.length
  | .program => 100000

def rightsText (node : Node) : Raw :=
  let mode := modeOf node
  let kind :=
    match node with
    | .folder => "d"
    | .link _ => "l"
    | .device _ => "c"
    | _ => "-"
  let part (n : Nat) : Raw :=
    (if n &&& 4 ≠ 0 then "r" else "-") ++ (if n &&& 2 ≠ 0 then "w" else "-") ++
      (if n &&& 1 ≠ 0 then "x" else "-")
  kind ++ part (mode / 64 % 8) ++ part (mode / 8 % 8) ++ part (mode % 8)

structure Listed where
  name : Raw
  place : Place
  node : Node

def blocksOf (node : Node) : Nat :=
  match node with
  | .folder => 4
  | .link _ | .device _ => 0
  | node => (sizeOf node + 4095) / 4096 * 4

def sizeText (readable : Bool) (n : Nat) : Raw :=
  if !readable || n < 1024 then toString n
  else
    let (unit, letter) : Nat × Raw := if n < 1024 * 1024 then (1024, "K") else (1024 * 1024, "M")
    let tenths := (10 * n + unit - 1) / unit
    if tenths < 100 then toString (tenths / 10) ++ "." ++ toString (tenths % 10) ++ letter
    else toString ((n + unit - 1) / unit) ++ letter

/-- The number of names that a file has, or of those that lead to a folder. -/
def linksTo (disk : Disk) (l : Listed) : Nat :=
  match l.node with
  | .folder => 2 + ((disk.names l.place).filter fun name => disk.node? (l.place ++ [name]) = some .folder).length
  | _ => 1

/-- The lines for names, with facts about them where they are asked for. -/
def listedText (c : Choices) (disk : Disk) (items : List Listed) : Raw :=
  let long := ['l', 'n', 'g', 'o'].any c.has
  let widthOf (f : Listed → Raw) : Nat := (items.map fun l => (f l).length).foldl max 0
  let column (f : Listed → Raw) (l : Listed) : Raw :=
    ({ Layout.plain with width := widthOf f } : Layout).text (f l) ++ " "
  let owner : Raw := if c.has 'n' then "0" else "root"
  String.join (items.map fun l =>
    (if c.has 's' then column (fun l => sizeText (c.has 'h') (blocksOf l.node * (if c.has 'h' then 1024 else 1))) l
      else "") ++
      (if long then
        rightsText l.node ++ " " ++ column (fun l => toString (linksTo disk l)) l ++
          (if c.has 'g' then "" else owner ++ " ") ++ (if c.has 'o' || c.has 'G' then "" else owner ++ " ") ++
          column (fun l => match l.node with
            | .device _ => "1, 3"
            | node => sizeText (c.has 'h') (sizeOf node)) l ++ "Jan  1 00:00 "
      else "") ++
      (if c.has 'Q' then "\x22" ++ l.name ++ "\x22" else l.name) ++
      (match long, l.node with
      | true, .link target => " -> " ++ target
      | _, node => classMark c node) ++ "\n")

def listedOrder (c : Choices) (items : List Listed) : List Listed :=
  let items :=
    if c.has 'S' then items.mergeSort fun a b => decide (sizeOf b.node ≤ sizeOf a.node) else items
  if c.has 'r' then items.reverse else items

def folderLines (c : Choices) (disk : Disk) (place : Place) : Raw :=
  let all := c.has 'a' || c.has 'f'
  let names := (disk.names place).filter fun name =>
    all || c.has 'A' || name.toList.head? ≠ some '.'
  let items := names.filterMap fun name =>
    (disk.node? (place ++ [name])).map fun node => (⟨name, place ++ [name], node⟩ : Listed)
  let own : List Listed := if all then [⟨".", place, .folder⟩, ⟨"..", place.dropLast, .folder⟩] else []
  let items := listedOrder c (own ++ items)
  let total := (items.map fun l => blocksOf l.node).foldl (· + ·) 0
  (if ['l', 'n', 'g', 'o', 's'].any c.has then
      "total " ++ sizeText (c.has 'h') (if c.has 'h' then total * 1024 else total) ++ "\n"
    else "") ++ listedText c disk items

def foldersBelow (disk : Disk) : (fuel : Nat) → (path : Raw) → Place → List (Raw × Place)
  | 0, _, _ => []
  | fuel + 1, path, place =>
    (path, place) ::
      ((disk.names place).filter fun name => disk.node? (place ++ [name]) = some .folder).flatMap
        fun name =>
          foldersBelow disk fuel ((if path.toList.getLast? = some '/' then path else path ++ "/") ++ name)
            (place ++ [name])

def ls : List Raw → Task Nat :=
  withChoices [flag 'a' "all", flag 'A' "almost-all", flag '1' "", flag 'd' "directory", flag 'F' "classify",
    flag 'p' "", flag 'r' "reverse", flag 'R' "recursive", flag 't' "", flag 'S' "", flag 'l' "",
    flag 'h' "human-readable", flag 'n' "", flag 'i' "inode", flag 's' "size", flag 'L' "", flag 'f' "",
    flag 'C' "", flag 'x' "", flag 'm' "", flag 'N' "literal", flag 'q' "", flag 'b' "escape",
    flag 'Q' "quote-name", flag 'U' "", flag 'v' "", flag 'X' "", flag 'c' "", flag 'u' "", flag 'G' "no-group", flag 'g' "",
    flag 'o' "", longFlag 'z' "color"] 2 fun c => do
    let job ← read
    let disk := (← get).disk
    let paths := if c.arguments.isEmpty then ["."] else c.arguments
    let sorted := paths.mergeSort fun a b => decide (a ≤ b)
    let long := ['l', 'n', 'g', 'o', 'd', 'F'].any c.has
    let mut status := 0
    let mut files : List Listed := []
    let mut folders : List (Raw × Place) := []
    for path in paths do
      if let .error fault := disk.find job.folder path then
        if (disk.entry job.folder path).toOption.isNone then
          Task.complain ("cannot access " ++ quoted path ++ ": " ++ pathFault fault)
          status := 2
    for path in if c.has 'r' then sorted.reverse else sorted do
      match disk.find job.folder path, disk.entry job.folder path with
      | _, .ok (place, .link target) =>
        match disk.find job.folder path with
        | .ok (inner, .folder) =>
          if long then files := files ++ [⟨path, place, .link target⟩]
          else folders := folders ++ [(path, inner)]
        | .ok (inner, node) =>
          files := files ++ [if long then ⟨path, place, .link target⟩ else ⟨path, inner, node⟩]
        | .error _ => files := files ++ [⟨path, place, .link target⟩]
      | .ok (place, .folder), _ =>
        if c.has 'd' then files := files ++ [⟨path, place, .folder⟩]
        else folders := folders ++ [(path, place)]
      | .ok (place, node), _ => files := files ++ [⟨path, place, node⟩]
      | .error _, _ => pure ()
    Task.out (listedText c disk files)
    let shownFolders :=
      if c.has 'R' then folders.flatMap fun f => foldersBelow disk maxDepth f.1 f.2 else folders
    let titled := c.has 'R' || 1 < paths.length
    let mut first := files.isEmpty
    for (path, place) in shownFolders do
      if titled then Task.out ((if first then "" else "\n") ++ path ++ ":\n")
      first := false
      Task.out (folderLines c disk place)
    return status

def readlink : List Raw → Task Nat :=
  withChoices [flag 'f' "canonicalize", flag 'e' "canonicalize-existing", flag 'm' "canonicalize-missing",
    flag 'n' "no-newline", flag 'q' "quiet", flag 's' "silent", flag 'v' "verbose", flag 'z' "zero"] 1
    fun c => do
    if c.arguments.isEmpty then missing "operand"
    else
      let ending := if c.has 'n' then "" else "\n"
      each c.arguments fun path => do
        if c.has 'f' || c.has 'e' || c.has 'm' then
          match (← get).disk.place (← read).folder path with
          | .ok place =>
            if c.has 'e' && ((← get).disk.node? place).isNone then return 1
            Task.out (pathText place ++ ending)
            return 0
          | .error _ => return 1
        else
          match ← entryAt path with
          | .ok (_, .link target) =>
            Task.out (target ++ ending)
            return 0
          | _ => return 1

/-- Tells the paths of files from the root. -/
def realpath : List Raw → Task Nat :=
  withChoices [flag 'e' "canonicalize-existing", flag 'm' "canonicalize-missing", flag 's' "strip",
    flag 'q' "quiet", flag 'z' "zero", flag 'L' "logical", flag 'P' "physical"] 1 fun c => do
    if c.arguments.isEmpty then missing "operand"
    else
      each c.arguments fun path => do
        match (← get).disk.place (← read).folder path with
        | .ok place =>
          if c.has 'e' && ((← get).disk.node? place).isNone then
            if !c.has 'q' then Task.complain (shown path ++ ": No such file or directory")
            return 1
          Task.out (pathText place ++ "\n")
          return 0
        | .error fault =>
          if !c.has 'q' then Task.complain (shown path ++ ": " ++ pathFault fault)
          return 1

/-- A template with facts about a file put in. -/
def factsText (escapes : Bool) (path : Raw) (node : Node) : List Char → Raw
  | '%' :: c :: rest =>
    (match c with
    | 'n' => path
    | 's' => toString (sizeOf node)
    | 'a' => String.ofList (Nat.toDigits 8 (modeOf node))
    | 'A' => rightsText node
    | 'F' => kindText node
    | 'U' => "root"
    | 'G' => "root"
    | 'u' => "0"
    | 'g' => "0"
    | 'h' => "1"
    | 'N' => quoted path
    | '%' => "%"
    | _ => "?") ++ factsText escapes path node rest
  | '\\' :: 'n' :: rest => (if escapes then "\n" else "\x5cn") ++ factsText escapes path node rest
  | '\\' :: 't' :: rest => (if escapes then "\t" else "\x5ct") ++ factsText escapes path node rest
  | c :: rest => c.toString ++ factsText escapes path node rest
  | [] => ""

/-- Tells facts about files. -/
def stat : List Raw → Task Nat :=
  withChoices [valued 'c' "format", longValued 'p' "printf", flag 'L' "dereference", flag 't' "terse",
    flag 'f' "file-system"] 1 fun c => do
    if c.arguments.isEmpty then missing "operand"
    else
      each c.arguments fun path => do
        match ← if c.has 'L' then nodeAt path else entryAt path with
        | .error fault => blame "cannot statx" path (pathFault fault)
        | .ok (_, node) =>
          match c.value? 'p', c.value? 'c' with
          | some template, _ => Task.out (factsText true path node template.toList)
          | none, some template => Task.out (factsText false path node template.toList ++ "\n")
          | none, none => Task.out (factsText true path node "  File: %n\n  Size: %s\n".toList)
          return 0

/-- Makes a file or a folder of a name that is not there yet. -/
def mktemp : List Raw → Task Nat :=
  withChoices [flag 'd' "directory", flag 'u' "dry-run", flag 'q' "quiet", valued 'p' "tmpdir", flag 't' "",
    longValued 's' "suffix"] 1 fun c => do
    if 1 < c.arguments.length then return ← refuse "too many templates" 1
    let template := c.arguments.headD "tmp.XXXXXXXXXX"
    let cs := template.toList
    let ending := cs.reverse.takeWhile (· ≠ 'X')
    let marks := (cs.reverse.drop ending.length).takeWhile (· = 'X')
    if marks.length < 3 then
      Task.complain ("too few X's in template " ++ cited template)
      return 1
    else
      let front := cs.take (cs.length - ending.length - marks.length)
      let process := (← get).process
      let digits := toString process
      let middle := "".pushn 'a' (marks.length - digits.length) ++ (digits.take marks.length).toString
      let name := String.ofList front ++ middle ++ String.ofList ending.reverse
      let isBare := c.arguments.isEmpty || c.has 'p' || c.has 't'
      let folder := (c.value? 'p').getD "/tmp"
      let path := if isBare then folder ++ "/" ++ name else name
      modify fun w => { w with process := w.process + 1 }
      match (← get).disk.place (← read).folder path with
      | .error fault =>
        let shownPath := if isBare then folder ++ "/" ++ template else template
        Task.complain ("failed to create " ++ (if c.has 'd' then "directory" else "file") ++
          " via template " ++ cited shownPath ++ ": " ++ pathFault fault)
        return 1
      | .ok place =>
        if !c.has 'u' then putNode place (if c.has 'd' then .folder else .file "" 0o600)
        Task.out (path ++ "\n")
        return 0

/-! ## Comparing -/

def firstDifference (a b : List Char) : (byte line : Nat) → Option (Nat × Nat × Option Bool)
  | byte, line =>
    match a, b with
    | [], [] => none
    | [], _ :: _ => some (byte, line, some true)
    | _ :: _, [] => some (byte, line, some false)
    | c :: a, d :: b =>
      if c = d then firstDifference a b (byte + 1) (if c = '\n' then line + 1 else line)
      else some (byte, line, none)
termination_by structural a

def byteShown (c : Char) : Raw :=
  let n := c.toNat
  let lead := if 128 ≤ n then "M-" else ""
  let low := n % 128
  lead ++
    (if low < 32 then "^" ++ (Char.ofNat (low + 64)).toString
    else if low = 127 then "^?"
    else (Char.ofNat low).toString)

def byteOctal (c : Char) : Raw := String.ofList (Nat.toDigits 8 c.toNat)

def differences (a b : List Char) (start : Nat) : List (Nat × Char × Char) :=
  ((a.zip b).zipIdx start).filterMap fun p =>
    if p.1.1 = p.1.2 then none else some (p.2, p.1.1, p.1.2)

def endFault (name content : Raw) (byte line : Nat) (told : Bool) : Raw :=
  "EOF on " ++ name ++
    (if content.isEmpty then " which is empty"
    else
      " after byte " ++ toString (byte - 1) ++
        (if told then ""
        else if content.toList.getLast? = some '\n' then ", line " ++ toString (line - 1)
        else ", in line " ++ toString line))

def cmp (words : List Raw) : Task Nat := do
  let flags := [flag 's' "quiet", longFlag 's' "silent", flag 'l' "verbose", flag 'b' "print-bytes",
    valued 'n' "bytes", valued 'i' "ignore-initial"]
  match takeChoices flags true (words.foldl (fun n w => n + w.length + 1) 1) words with
  | .error message => refuseByName message 2
  | .ok c =>
    match c.arguments with
    | [] => refuseByName "missing operand after 'cmp'" 2
    | a :: rest =>
      let b := rest.headD "-"
      if let some word := (rest.drop 1).find? fun w => (Raw.nat? w.toList).isNone then
        return ← refuseByName ("invalid --ignore-initial value '" ++ word ++ "'") 2
      if let some extra := rest[3]? then
        return ← refuseByName ("extra operand '" ++ extra ++ "'") 2
      match ← readOperand a with
      | .error fault =>
        if !c.has 's' then Task.complain (a ++ ": " ++ fault.message)
        return 2
      | .ok x =>
        match ← readOperand b with
        | .error fault =>
          if !c.has 's' then Task.complain (b ++ ": " ++ fault.message)
          return 2
        | .ok y =>
          let skipped := (((c.value? 'i') <|> rest[1]?).bind fun w => Raw.nat? w.toList).getD 0
          let cut (content : Raw) : Raw :=
            let cs := content.toList.drop skipped
            match (c.value? 'n').bind fun w => Raw.nat? w.toList with
            | some n => String.ofList (cs.take n)
            | none => String.ofList cs
          let (x, y) := (cut x, cut y)
          match firstDifference x.toList y.toList 1 1 with
          | none => return 0
          | some (byte, line, short) =>
            if c.has 's' then return 1
            let shorter (ends : Nat) : Task Unit := do
              if x.length ≠ y.length then
                let first := x.length < y.length
                Task.err ("cmp: " ++ endFault (if first then a else b) (if first then x else y) ends line
                  (c.has 'l') ++ "\n")
            if c.has 'l' then
              let width := (toString (min x.length y.length)).length
              Task.out (String.join ((differences x.toList y.toList 1).map fun d =>
                let (n, u, v) := d
                rightAligned width n ++ " " ++
                  (if c.has 'b' then
                    ({ Layout.plain with width := 3 } : Layout).text (byteOctal u) ++ " " ++
                      ({ Layout.plain with width := 4, left := true } : Layout).text (byteShown u) ++ " " ++
                      ({ Layout.plain with width := 3 } : Layout).text (byteOctal v) ++ " " ++ byteShown v
                  else
                    ({ Layout.plain with width := 3 } : Layout).text (byteOctal u) ++ " " ++
                      ({ Layout.plain with width := 3 } : Layout).text (byteOctal v)) ++ "\n"))
              shorter (min x.length y.length + 1)
            else
              match short with
              | none =>
                let bytes : Raw :=
                  match c.has 'b', x.toList[byte - 1]?, y.toList[byte - 1]? with
                  | true, some u, some v =>
                    " is " ++ ({ Layout.plain with width := 3 } : Layout).text (byteOctal u) ++ " " ++
                      byteShown u ++ " " ++ ({ Layout.plain with width := 3 } : Layout).text (byteOctal v) ++
                      " " ++ byteShown v
                  | _, _, _ => ""
                Task.out (a ++ " " ++ b ++ " differ: byte " ++ toString byte ++ ", line " ++
                  toString line ++ bytes ++ "\n")
              | some _ => shorter byte
            return 1

def fileUtilities : List (Raw × Program) :=
  [("mkdir", .plain mkdir), ("rmdir", .plain rmdir), ("rm", .plain rm), ("unlink", .plain unlink),
    ("touch", .plain touch), ("truncate", .plain truncate), ("cp", .plain cp), ("mv", .plain mv),
    ("ln", .plain ln), ("chmod", .plain chmod), ("ls", .plain ls), ("readlink", .plain readlink),
    ("realpath", .plain realpath), ("stat", .plain stat), ("mktemp", .plain mktemp),
    ("cmp", .plain cmp)]

end ConfigVault.Host.Utility
