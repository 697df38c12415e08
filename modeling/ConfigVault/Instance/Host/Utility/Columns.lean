import ConfigVault.Instance.Host.Glob
import ConfigVault.Instance.Host.Print.Escape
import ConfigVault.Instance.Host.Utility.Lines

/-!
# Utilities for columns and characters

Utilities that take columns out of lines, put columns side by side, or replace characters.
-/

namespace ConfigVault.Host.Utility

/-! ## Columns -/

/-- A range of positions, counted from one; without an end it goes on. -/
structure ColumnRange where
  first : Nat
  last : Option Nat

def inRanges (ranges : List ColumnRange) (i : Nat) : Bool :=
  ranges.any fun r => r.first ≤ i && r.last.all (i ≤ ·)

inductive RangeFault where
  | zero
  | word (word : Raw)
  | decreasing
  | empty

def range? (word : Raw) : Except RangeFault ColumnRange :=
  let cs := word.toList
  let low := cs.takeWhile (· ≠ '-')
  let number (ds : List Char) : Except RangeFault Nat :=
    match Raw.nat? ds with
    | some 0 => .error .zero
    | some n => .ok n
    | none => .error (.word word)
  match cs.drop low.length with
  | [] => do
    let n ← number low
    return ⟨n, some n⟩
  | _ :: high => do
    if low.isEmpty && high.isEmpty then throw .empty
    let first ← if low.isEmpty then pure 1 else number low
    if high.isEmpty then return ⟨first, none⟩
    let last ← number high
    if last < first then throw .decreasing
    return ⟨first, some last⟩

def ranges? (word : Raw) : Except RangeFault (List ColumnRange) :=
  ((word.toList.map fun c => if c = ' ' then ',' else c) |> String.ofList |> Raw.splitAt ',').mapM range?

/-- The fields of a line that are chosen; a line without a separator stays whole, or is left out. -/
def cutFields (ranges : List ColumnRange) (negated : Bool) (mark : Char) (between : Raw)
    (separatedOnly : Bool) (line : Raw) : Option Raw :=
  if !line.toList.contains mark then (if separatedOnly then none else some line)
  else
    let fields := (Raw.splitAt mark line).zipIdx 1
    some (String.intercalate between
      ((fields.filter fun f => inRanges ranges f.2 != negated).map Prod.fst))

/-- Runs of characters that are chosen, with something between them. -/
def cutLetters (ranges : List ColumnRange) (negated : Bool) (between : Option Raw) (line : Raw) :
    Raw :=
  match between with
  | none =>
    String.ofList ((line.toList.zipIdx 1).filterMap fun p =>
      if inRanges ranges p.2 != negated then some p.1 else none)
  | some between =>
    let runs := (line.toList.zipIdx 1).foldl (fun (acc : List (List Char) × Bool) p =>
      if inRanges ranges p.2 != negated then
        match acc with
        | (run :: rest, true) => ((p.1 :: run) :: rest, true)
        | (rest, _) => ([p.1] :: rest, true)
      else (acc.1, false)) ([], false)
    String.intercalate between ((runs.1.map fun r => String.ofList r.reverse).reverse)

def cut : List Raw → Task Nat :=
  withChoices [valued 'f' "fields", valued 'c' "characters", valued 'b' "bytes",
    valued 'd' "delimiter", flag 's' "only-delimited", flag 'n' "", longFlag 'C' "complement",
    longValued 'O' "output-delimiter", flag 'z' "zero-terminated"] 1 fun c => do
    let lists := c.options.filter fun o => o.1 = 'f' || o.1 = 'c' || o.1 = 'b'
    match lists with
    | [] => refuse "you must specify a list of bytes, characters, or fields" 1
    | _ :: _ :: _ => refuse "only one list may be specified" 1
    | [(kind, word)] =>
      let what := if kind = 'f' then "field" else "byte/character position"
      match ranges? word with
      | .error .zero =>
        refuse (if kind = 'f' then "fields are numbered from 1"
          else "byte/character positions are numbered from 1") 1
      | .error .decreasing => refuse "invalid decreasing range" 1
      | .error .empty => refuse "invalid range with no endpoint: -" 1
      | .error (.word w) =>
        if kind = 'f' then refuse ("invalid field value " ++ cited w) 1
        else refuse ("invalid " ++ what ++ " " ++ cited w) 1
      | .ok ranges =>
        let mark := c.value? 'd'
        if mark.isSome && kind ≠ 'f' then
          refuse "an input delimiter may be specified only when operating on fields" 1
        else if mark.any fun m => 1 < m.length then refuse "the delimiter must be a single character" 1
        else
          let mark := ((mark.getD "\t").toList.head?).getD '\x00'
          eachFile c.arguments fun _ content => do
            let lines := Raw.lines content
            let found :=
              if kind = 'f' then
                lines.filterMap (cutFields ranges (c.has 'C') mark ((c.value? 'O').getD mark.toString)
                  (c.has 's'))
              else lines.map (cutLetters ranges (c.has 'C') (c.value? 'O'))
            Task.out (Raw.unlines found)

/-- The texts between lines that are put side by side. -/
def pasteMarks (word : Raw) : List Raw :=
  let (text, _) := ((⟨false, false, false⟩ : EscapeStyle).text word)
  if text.isEmpty then [""] else text.toList.map Char.toString

def pasteWith (marks : List Raw) (texts : List Raw) : Raw :=
  String.join ((texts.zipIdx).map fun p =>
    if p.2 = 0 then p.1 else marks.getD ((p.2 - 1) % marks.length) "" ++ p.1)

/-- Puts the lines of files side by side. -/
def paste : List Raw → Task Nat :=
  withChoices [valued 'd' "delimiters", flag 's' "serial", flag 'z' "zero-terminated"] 1 fun c => do
    let marks := pasteMarks ((c.value? 'd').getD "\t")
    let names := operands c.arguments
    let dashes := (names.filter (· = "-")).length
    let mut files : List (List Raw) := []
    let mut failed := false
    let input ← if 0 < dashes then Task.input else pure ""
    let own := Raw.lines input
    let mut dash := 0
    for name in names do
      if name = "-" then
        let k := dash
        files := files ++ [if c.has 's' then own else
          (own.zipIdx).filterMap fun p => if p.2 % dashes = k then some p.1 else none]
        dash := dash + 1
      else if !failed then
        match ← readOperand name with
        | .ok content => files := files ++ [Raw.lines content]
        | .error fault =>
          Task.complain (shown name ++ ": " ++ fault.message)
          failed := true
    if failed then return 1
    if c.has 's' then Task.out (Raw.unlines (files.map (pasteWith marks)))
    else
      let height := (files.map List.length).foldl max 0
      Task.out (Raw.unlines ((List.range height).map fun i =>
        pasteWith marks (files.map fun f => f.getD i "")))
    return 0

def expand : List Raw → Task Nat :=
  withChoices [valued 't' "tabs", flag 'i' "initial"] 1 fun c => do
    let size := max 1 (((c.value? 't').bind fun w => Raw.nat? w.toList).getD 8)
    eachFile c.arguments fun _ content => do
      let step (acc : List Char × Nat) (ch : Char) : List Char × Nat :=
        if ch = '\t' then
          let n := size - acc.2 % size
          (List.replicate n ' ' ++ acc.1, acc.2 + n)
        else if ch = '\n' then (ch :: acc.1, 0)
        else (ch :: acc.1, acc.2 + 1)
      Task.out (String.ofList (content.toList.foldl step ([], 0)).1.reverse)

/-! ## Replacing characters -/

/-- A part of a set of characters as it is written. -/
inductive TrItem where
  | char (c : Char)
  | chars (cs : List Char)
  | named (name : String)
  /-- A character so many times; as often as is needed where no number is given. -/
  | again (c : Char) (count : Nat)

def allBytes : List Char := (List.range 256).map Char.ofNat

def takeTrChar (cs : List Char) : Option (Char × List Char) :=
  match cs with
  | [] => none
  | '\\' :: rest =>
    match (⟨false, false, false⟩ : EscapeStyle).read rest with
    | .char c rest => some (c, rest)
    | _ =>
      match rest with
      | c :: rest => some (c, rest)
      | [] => some ('\\', [])
  | c :: rest => some (c, rest)

def trItems : (fuel : Nat) → List Char → Except Raw (List TrItem)
  | 0, _ => .ok []
  | _ + 1, [] => .ok []
  | fuel + 1, cs => do
    match cs with
    | '[' :: ':' :: rest =>
      let name := rest.takeWhile fun c => c ≠ ':'
      match rest.drop name.length with
      | ':' :: ']' :: behind =>
        let name := String.ofList name
        if (charClass? name).isNone then throw ("invalid character class " ++ cited name)
        return .named name :: (← trItems fuel behind)
      | _ => return .char '[' :: (← trItems fuel (':' :: rest))
    | '[' :: '=' :: c :: '=' :: ']' :: rest => return .char c :: (← trItems fuel rest)
    | _ =>
      match cs, takeTrChar cs with
      | '[' :: rest, _ =>
        match takeTrChar rest with
        | some (c, '*' :: behind) =>
          let digits := behind.takeWhile Char.isDigit
          match behind.drop digits.length with
          | ']' :: behind =>
            let n := (Number.takeNumber digits).1
            return .again c n :: (← trItems fuel behind)
          | _ => plain fuel '[' rest
        | _ => plain fuel '[' rest
      | _, some (c, rest) => plain fuel c rest
      | _, none => return []
where
  plain (fuel : Nat) (c : Char) (rest : List Char) : Except Raw (List TrItem) := do
    match rest with
    | '-' :: behind =>
      match takeTrChar behind with
      | some (d, behind) =>
        if d < c then
          throw ("range-endpoints of '" ++ c.toString ++ "-" ++ d.toString ++
            "' are in reverse collating sequence order")
        let between := (List.range (d.toNat - c.toNat + 1)).map fun n => Char.ofNat (c.toNat + n)
        return .chars between :: (← trItems fuel behind)
      | none => return .char c :: (← trItems fuel rest)
    | _ => return .char c :: (← trItems fuel rest)

/-- The characters of a set, in order; `size` is the length that it should have. -/
def trChars (items : List TrItem) (size : Nat) : List Char :=
  let fixed := (items.map fun
    | .char _ => 1
    | .chars cs => cs.length
    | .named name => ((charClass? name).map fun p => (allBytes.filter p).length).getD 0
    | .again _ n => n).foldl (· + ·) 0
  items.flatMap fun
    | .char c => [c]
    | .chars cs => cs
    | .named name => ((charClass? name).map fun p => allBytes.filter p).getD []
    | .again c 0 => List.replicate (size - fixed) c
    | .again c n => List.replicate n c

/-- What becomes of each byte when one set is replaced by another one. -/
def trTable (first second : List Char) : Array Char :=
  let last := second.getLast?.getD '\x00'
  (first.zipIdx).foldl (fun (table : Array Char) p =>
    table.setIfInBounds p.1.toNat (second.getD p.2 last)) allBytes.toArray

def squeeze (set : List Char) (cs : List Char) : List Char :=
  let table := set.foldl (fun (t : Array Bool) c => t.setIfInBounds c.toNat true)
    (Array.replicate 256 false)
  (cs.foldl (fun (acc : List Char) c =>
    if acc.head? = some c && table.getD c.toNat false then acc else c :: acc) []).reverse

/-- The classes of letters in order, which stand for a change of case. -/
def caseTable (first second : List TrItem) : Option (List Char × List Char) :=
  let small := (List.range 26).map fun n => Char.ofNat (97 + n)
  let capital := (List.range 26).map fun n => Char.ofNat (65 + n)
  match first, second with
  | [.named "lower"], [.named "upper"] => some (small, capital)
  | [.named "upper"], [.named "lower"] => some (capital, small)
  | _, _ => none

/-- Replaces, takes away or joins characters. -/
def tr : List Raw → Task Nat := fun words =>
  withChoices [flag 'd' "delete", flag 's' "squeeze-repeats", flag 'c' "complement", flag 'C' "",
    flag 't' "truncate-set1"] 1 (fun c => do
    let complement := c.has 'c' || c.has 'C'
    let most := if c.has 'd' && !c.has 's' then 1 else 2
    match (c.arguments.take most).mapM fun w => trItems (w.length + 1) w.toList with
    | .error message =>
      if let some extra := c.arguments[2]? then
        refuse ("extra operand " ++ cited ((c.arguments[most]?).getD extra)) 1
      else
        Task.complain message
        return 1
    | .ok sets =>
      let firstItems := sets.headD []
      let first := trChars firstItems 0
      let chosen := if complement then allBytes.filter fun b => !first.contains b else first
      let run (f : List Char → List Char) : Task Nat := do
        let content ← Task.input
        Task.out (String.ofList (f content.toList))
        return 0
      let table (set : List Char) : Array Bool :=
        set.foldl (fun t b => t.setIfInBounds b.toNat true) (Array.replicate 256 false)
      match c.has 'd', c.has 's', c.arguments with
      | _, _, [] => refuse "missing operand" 1
      | _, _, _ :: _ :: extra :: _ => refuse ("extra operand " ++ cited ((c.arguments[most]?).getD extra)) 1
      | true, false, [_] =>
        let gone := table chosen
        run fun cs => cs.filter fun b => !gone.getD b.toNat false
      | true, false, [_, extra] =>
        Task.complain ("extra operand " ++ cited extra)
        Task.err "Only one string may be given when deleting without squeezing repeats.\n"
        Task.err ("Try '" ++ (← read).name ++ " --help' for more information.\n")
        return 1
      | true, true, [_, _] =>
        let gone := table chosen
        let second := trChars (sets.getD 1 []) 0
        run fun cs => squeeze second (cs.filter fun b => !gone.getD b.toNat false)
      | true, true, [word] =>
        Task.complain ("missing operand after " ++ cited word)
        Task.err "Two strings must be given when both deleting and squeezing repeats.\n"
        Task.err ("Try '" ++ (← read).name ++ " --help' for more information.\n")
        return 1
      | false, true, [_] => run (squeeze chosen)
      | false, false, [word] =>
        Task.complain ("missing operand after " ++ cited word)
        Task.err "Two strings must be given when translating.\n"
        Task.err ("Try '" ++ (← read).name ++ " --help' for more information.\n")
        return 1
      | false, squeezes, [_, _] =>
        let secondItems := sets.getD 1 []
        let second := trChars secondItems chosen.length
        if second.isEmpty && !c.has 't' then
          Task.complain "when not truncating set1, string2 must be non-empty"
          return 1
        else
          let (source, target) :=
            if complement then (chosen, second)
            else (caseTable firstItems secondItems).getD
              (if c.has 't' then chosen.take second.length else chosen, second)
          let t := trTable source target
          run fun cs =>
            let replaced := cs.map fun b => t.getD b.toNat b
            if squeezes then squeeze target replaced else replaced) words

def columnUtilities : List (Raw × Program) :=
  [("cut", .plain cut), ("paste", .plain paste), ("expand", .plain expand), ("tr", .plain tr)]

end ConfigVault.Host.Utility
