import ConfigVault.Instance.Host.Utility.Basic

/-!
# Differences between files

The lines that two files have in common, in order and as many as there can be, and the changes that
lead from one file to the other: in plain form, or with the lines around them.
-/

namespace ConfigVault.Host.Utility

/-- A change: some lines of the first file become some lines of the second one. -/
structure Change where
  firstStart : Nat
  firstCount : Nat
  secondStart : Nat
  secondCount : Nat

/-- The lengths of the longest common parts of the ends of two texts: one row for each end of the first
one, and in it one number for each end of the second one. -/
def commonLengths {α : Type} [BEq α] (a b : List α) : List (List Nat) :=
  a.foldr (fun x rows =>
    let below := rows.headD []
    let row := (b.zip (below.zip (below.drop 1))).foldr (fun p row =>
      (if x == p.1 then p.2.2 + 1 else max p.2.1 (row.headD 0)) :: row) [0]
    row :: rows) [List.replicate (b.length + 1) 0]

inductive LineStep where
  | keep
  | drop
  | add
  deriving DecidableEq, Repr

/-- The steps from one text to another one by the lengths of their common parts. -/
def stepsOf {α : Type} [BEq α] : (fuel : Nat) → List α → List α → List (List Nat) → List LineStep
  | 0, _, _, _ => []
  | _ + 1, [], b, _ => b.map fun _ => .add
  | _ + 1, a, [], _ => a.map fun _ => .drop
  | fuel + 1, x :: a, y :: b, rows =>
    let right := ((rows.headD []).drop 1).headD 0
    let below := ((rows.drop 1).headD []).headD 0
    if x == y then .keep :: stepsOf fuel a b ((rows.drop 1).map (·.drop 1))
    else if right ≤ below then .drop :: stepsOf fuel a (y :: b) (rows.drop 1)
    else .add :: stepsOf fuel (x :: a) b (rows.map (·.drop 1))

def changesOf : List LineStep → (first second : Nat) → List Change
  | [], _, _ => []
  | .keep :: rest, i, j => changesOf rest (i + 1) (j + 1)
  | .drop :: rest, i, j =>
    match changesOf rest (i + 1) j with
    | c :: cs =>
      if c.firstStart = i + 1 && c.secondStart = j then
        { c with firstStart := i, firstCount := c.firstCount + 1 } :: cs
      else ⟨i, 1, j, 0⟩ :: c :: cs
    | [] => [⟨i, 1, j, 0⟩]
  | .add :: rest, i, j =>
    match changesOf rest i (j + 1) with
    | c :: cs =>
      if c.firstStart = i && c.secondStart = j + 1 then
        { c with secondStart := j, secondCount := c.secondCount + 1 } :: cs
      else ⟨i, 0, j, 1⟩ :: c :: cs
    | [] => [⟨i, 0, j, 1⟩]

/-- A change of one file alone, moved towards the end as far as it leads to the same, but no further than
to the next change at `bound`; within `fuel` lines. -/
def slide {α : Type} [BEq α] (a b : Array α) (bound : Nat) : (fuel : Nat) → Change → Change
  | 0, c => c
  | fuel + 1, c =>
    let moves (text : Array α) (start count : Nat) : Bool :=
      match text[start]?, text[start + count]? with
      | some x, some y => x == y
      | _, _ => false
    if c.secondCount = 0 && c.firstStart + c.firstCount < bound && moves a c.firstStart c.firstCount ||
        c.firstCount = 0 && c.firstStart < bound && moves b c.secondStart c.secondCount then
      slide a b bound fuel { c with firstStart := c.firstStart + 1, secondStart := c.secondStart + 1 }
    else c

/-- Changes of one file alone, moved towards the end. -/
def slideAll {α : Type} [BEq α] (a b : Array α) : List Change → List Change
  | [] => []
  | c :: cs =>
    let rest := slideAll a b cs
    let bound := (rest.head?.map Change.firstStart).getD a.size
    slide a b bound (a.size + b.size) c :: rest

def commonStart {α : Type} [BEq α] : List α → List α → Nat
  | x :: a, y :: b => if x == y then commonStart a b + 1 else 0
  | _, _ => 0

def differencesOf {α : Type} [BEq α] (a b : List α) : List Change :=
  let start := commonStart a b
  let (a', b') := (a.drop start, b.drop start)
  let stop := commonStart a'.reverse b'.reverse
  let (a', b') := (a'.take (a'.length - stop), b'.take (b'.length - stop))
  let steps := stepsOf (a'.length + b'.length) a' b' (commonLengths a' b')
  slideAll a.toArray b.toArray (changesOf steps start start)

/-! ## Showing changes -/

/-- A line as it is shown: one that ends the file without a line feed is told so. -/
def lineShown (mark : Raw) (lines : Array Raw) (complete : Bool) (n : Nat) : Raw :=
  mark ++ lines.getD n "" ++ "\n" ++
    (if n + 1 = lines.size && !complete then "\x5c No newline at end of file\n" else "")

def linesShown (mark : Raw) (lines : Array Raw) (complete : Bool) (start count : Nat) : Raw :=
  String.join ((List.range count).map fun i => lineShown mark lines complete (start + i))

def rangeText (start count : Nat) : Raw :=
  if count ≤ 1 then toString (start + count) else toString (start + 1) ++ "," ++ toString (start + count)

structure FileLines where
  lines : Array Raw
  complete : Bool

def Change.plainText (a b : FileLines) (c : Change) : Raw :=
  let letter := if c.firstCount = 0 then "a" else if c.secondCount = 0 then "d" else "c"
  rangeText c.firstStart c.firstCount ++ letter ++ rangeText c.secondStart c.secondCount ++ "\n" ++
    linesShown "< " a.lines a.complete c.firstStart c.firstCount ++
    (if c.firstCount = 0 || c.secondCount = 0 then "" else "---\n") ++
    linesShown "> " b.lines b.complete c.secondStart c.secondCount

/-- Changes in groups: those that are no more than twice some lines apart are together. -/
def grouped (around : Nat) (changes : List Change) : List (List Change) :=
  changes.foldr (fun c groups =>
    match groups with
    | (d :: ds) :: rest =>
      if d.firstStart ≤ c.firstStart + c.firstCount + 2 * around then (c :: d :: ds) :: rest
      else [c] :: groups
    | groups => [c] :: groups) []

/-- The place of lines: the first one and their number, which is left out where it is one. -/
def spanText (start count : Nat) : Raw :=
  let first := if count = 0 then start else start + 1
  toString first ++ (if count = 1 then "" else "," ++ toString count)

def groupText (around : Nat) (a b : FileLines) (group : List Change) : Raw :=
  match group with
  | [] => ""
  | c :: _ =>
    let last := group.getLast?.getD c
    let lead := min around c.firstStart
    let firstEnd := last.firstStart + last.firstCount
    let tail := min around (a.lines.size - firstEnd)
    let (start, start') := (c.firstStart - lead, c.secondStart - lead)
    let count := firstEnd + tail - start
    let count' := last.secondStart + last.secondCount + tail - start'
    let (body, place) := group.foldl (fun (acc : Raw × Nat) d =>
      (acc.1 ++ linesShown " " a.lines a.complete acc.2 (d.firstStart - acc.2) ++
        linesShown "-" a.lines a.complete d.firstStart d.firstCount ++
        linesShown "+" b.lines b.complete d.secondStart d.secondCount, d.firstStart + d.firstCount))
      ("", start)
    "@@ -" ++ spanText start count ++ " +" ++ spanText start' count' ++ " @@\n" ++ body ++
      linesShown " " a.lines a.complete place (firstEnd + tail - place)

/-! ## The utility -/

def essence (c : Choices) (line : Raw) : Raw :=
  let isBlank (d : Char) : Bool := d = ' ' || (9 ≤ d.toNat && d.toNat ≤ 13)
  let cs := (if c.has 'i' then line.toLower else line).toList
  if c.has 'w' then String.ofList (cs.filter fun d => !isBlank d)
  else if c.has 'b' then
    let trimmed := (cs.reverse.dropWhile isBlank).reverse
    String.ofList (trimmed.foldr (fun d acc =>
      if isBlank d then (if acc.head?.any isBlank then acc else ' ' :: acc) else d :: acc) [])
  else line

def comparedLines (c : Choices) (f : FileLines) : List (Raw × Bool) :=
  f.lines.toList.zipIdx.map fun (line, i) =>
    (if c.has 'i' || c.has 'w' || c.has 'b' then essence c line else line,
      i + 1 = f.lines.size && !f.complete && !(c.has 'w' || c.has 'b'))

def tellDifferences (c : Choices) (nameA nameB x y : Raw) : Task Nat := do
  if x = y then
    if c.has 's' then Task.out ("Files " ++ nameA ++ " and " ++ nameB ++ " are identical\n")
    return 0
  else if (x.toList.contains '\x00' || y.toList.contains '\x00') && !c.has 'a' then
    let (nameA, nameB) := ((c.values 'L').headD nameA, ((c.values 'L')[1]?).getD nameB)
    Task.out ((if c.has 'q' then "Files " else "Binary files ") ++ nameA ++ " and " ++ nameB ++ " differ\n")
    return 1
  else
    let (xs, xc) := linesOf x
    let (ys, yc) := linesOf y
    let a : FileLines := ⟨xs.toArray, xc⟩
    let b : FileLines := ⟨ys.toArray, yc⟩
    let changes := differencesOf (comparedLines c a) (comparedLines c b)
    if changes.isEmpty then
      if c.has 's' then Task.out ("Files " ++ nameA ++ " and " ++ nameB ++ " are identical\n")
      return 0
    else if c.has 'q' then
      Task.out ("Files " ++ nameA ++ " and " ++ nameB ++ " differ\n")
      return 1
    else
      if c.has 'u' || c.has 'U' then
        let around := (((c.value? 'U').bind fun w => Raw.nat? w.toList)).getD 3
        let labels := c.values 'L'
        let time := "\t1970-01-01 00:00:00.000000000 +0000"
        Task.out ("--- " ++ labels.headD (nameA ++ time) ++ "\n+++ " ++ (labels[1]?).getD (nameB ++ time) ++
          "\n")
        for group in grouped around changes do Task.out (groupText around a b group)
      else
        for change in changes do Task.out (change.plainText a b)
      return 1

def diff (words : List Raw) : Task Nat := do
  let flags := [flag 'q' "brief", flag 's' "report-identical-files", flag 'u' "", valued 'U' "unified",
    valued 'L' "label", flag 'i' "ignore-case", flag 'w' "ignore-all-space",
    flag 'b' "ignore-space-change", flag 'B' "ignore-blank-lines", flag 'a' "text", flag 'N' "new-file",
    flag 'r' "recursive", flag 'd' "minimal", longFlag 'n' "normal"]
  match takeChoices flags true (words.foldl (fun n w => n + w.length + 1) 1) words with
  | .error message => refuseByName message 2
  | .ok c =>
    match c.arguments with
    | [] => refuseByName ("missing operand after '" ++ (words.getLast?.getD (← read).name) ++ "'") 2
    | [a] => refuseByName ("missing operand after '" ++ a ++ "'") 2
    | [a, b] =>
      let inFolder (name other : Raw) : Task Raw := do
        match ← Task.find? name with
        | some (_, .folder) =>
          return (if name.toList.getLast? = some '/' then name else name ++ "/") ++
            ((pathNames other).getLast?.getD "")
        | _ => return name
      let bothFolders := (← inFolder a b) ≠ a && (← inFolder b a) ≠ b
      if bothFolders then return 0
      else
        let a' ← inFolder a b
        let b' ← inFolder b a
        let x ← readOperand a'
        let y ← readOperand b'
        match x, y with
        | .ok x, .ok y => tellDifferences c a' b' x y
        | x, y =>
          if let .error fault := x then Task.complain (a' ++ ": " ++ fault.message)
          if let .error fault := y then Task.complain (b' ++ ": " ++ fault.message)
          return 2
    | _ :: _ :: extra :: _ => refuseByName ("extra operand '" ++ extra ++ "'") 2

end ConfigVault.Host.Utility
