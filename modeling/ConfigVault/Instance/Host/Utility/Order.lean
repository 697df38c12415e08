import ConfigVault.Instance.Host.Utility.Lines

/-!
# Utilities for sorted lines

Sorting lines by keys, joining equal lines, and comparing files whose lines are sorted.
-/

namespace ConfigVault.Host.Utility

/-! ## Sorting -/

structure KeyOrder where
  numeric : Bool
  general : Bool
  /-- Numbers may end with a letter for a power of a thousand. -/
  human : Bool
  version : Bool
  reversed : Bool
  folded : Bool
  dictionary : Bool
  printable : Bool
  blanks : Bool
  deriving DecidableEq

namespace KeyOrder

def plain : KeyOrder := ⟨false, false, false, false, false, false, false, false, false⟩

def with? (o : KeyOrder) (c : Char) : Option KeyOrder :=
  match c with
  | 'n' => some { o with numeric := true }
  | 'g' => some { o with general := true }
  | 'h' => some { o with human := true }
  | 'V' => some { o with version := true }
  | 'r' => some { o with reversed := true }
  | 'f' => some { o with folded := true }
  | 'd' => some { o with dictionary := true }
  | 'i' => some { o with printable := true }
  | 'b' => some { o with blanks := true }
  | _ => none

/-- The number at the front of a text: its sign, its whole digits without zeros in front, and the
digits behind the point without zeros at the end. -/
def numberParts (cs : List Char) : Bool × List Char × List Char :=
  let cs := cs.dropWhile fun c => c = ' ' || c = '\t'
  let (negative, cs) : Bool × List Char :=
    match cs with
    | '-' :: rest => (true, rest)
    | rest => (false, rest)
  let whole := cs.takeWhile Char.isDigit
  let part : List Char :=
    match cs.drop whole.length with
    | '.' :: rest => rest.takeWhile Char.isDigit
    | _ => []
  let whole := whole.dropWhile (· = '0')
  let part := (part.reverse.dropWhile (· = '0')).reverse
  (negative && !(whole.isEmpty && part.isEmpty), whole, part)

def compareParts (a b : Bool × List Char × List Char) : Ordering :=
  let size : Ordering :=
    ((compare a.2.1.length b.2.1.length).then
      (compare (String.ofList a.2.1) (String.ofList b.2.1))).then
      (compare (String.ofList a.2.2) (String.ofList b.2.2))
  match a.1, b.1 with
  | false, false => size
  | true, true => size.swap
  | true, false => .lt
  | false, true => .gt

/-- The power of a thousand that a letter behind a number stands for. -/
def unitRank (cs : List Char) : Nat :=
  let rest := (cs.dropWhile fun c => c = ' ' || c = '\t' || c = '-').dropWhile fun c =>
    c.isDigit || c = '.'
  match rest.head? with
  | some c => (['K', 'M', 'G', 'T', 'P', 'E', 'Z', 'Y'].idxOf? (if c = 'k' then 'K' else c)).elim 0 (· + 1)
  | none => 0

def compareHuman (a b : List Char) : Ordering :=
  let pa := numberParts a
  let pb := numberParts b
  let isZero (p : Bool × List Char × List Char) : Bool := p.2.1.isEmpty && p.2.2.isEmpty
  let rank (cs : List Char) (p : Bool × List Char × List Char) : Int :=
    let r : Int := if isZero p then 0 else unitRank cs
    if p.1 then -r else r
  (compare (rank a pa) (rank b pb)).then (compareParts pa pb)

def generalRank (cs : List Char) : Nat × Float :=
  match Number.takeFloat? cs with
  | none => (0, 0.0)
  | some (x, _) => if x.isNaN then (1, 0.0) else (2, x)

def compareVersions : (fuel : Nat) → List Char → List Char → Ordering
  | 0, _, _ => .eq
  | fuel + 1, a, b =>
    if a.isEmpty && b.isEmpty then .eq
    else
      let weight (c : Option Char) : Int :=
        match c with
        | none => 0
        | some c => if c = '~' then -1 else if c.isAlpha then c.toNat else c.toNat + 256
      let textA := a.takeWhile fun c => !c.isDigit
      let textB := b.takeWhile fun c => !c.isDigit
      let size := max textA.length textB.length
      let texts := (List.range size).foldl (fun (o : Ordering) i =>
        o.then (compare (weight textA[i]?) (weight textB[i]?))) .eq
      let restA := a.drop textA.length
      let restB := b.drop textB.length
      let numA := restA.takeWhile Char.isDigit
      let numB := restB.takeWhile Char.isDigit
      (texts.then (compare ((Raw.nat? numA).getD 0) ((Raw.nat? numB).getD 0))).then
        (compareVersions fuel (restA.drop numA.length) (restB.drop numB.length))

def keyText (o : KeyOrder) (cs : List Char) : String :=
  let cs := if o.dictionary then cs.filter fun c => c.isAlphanum || c = ' ' || c = '\t' else cs
  let cs := if o.printable then cs.filter fun c => 32 ≤ c.toNat && c.toNat < 127 else cs
  String.ofList (if o.folded then cs.map Char.toUpper else cs)

def compareKeys (o : KeyOrder) (a b : List Char) : Ordering :=
  let result : Ordering :=
    if o.numeric then compareParts (numberParts a) (numberParts b)
    else if o.human then compareHuman a b
    else if o.general then
      let x := generalRank a
      let y := generalRank b
      (compare x.1 y.1).then
        (if x.2 < y.2 then .lt else if y.2 < x.2 then .gt else .eq)
    else if o.version then compareVersions (a.length + b.length + 2) a b
    else compare (o.keyText a) (o.keyText b)
  if o.reversed then result.swap else result

end KeyOrder

/-- The start or the end of a key: a field and a character in it, counted from one. -/
structure KeyPlace where
  field : Nat
  char : Nat
  skipsBlanks : Bool

structure SortKey where
  start : KeyPlace
  stop : Option KeyPlace
  order : KeyOrder

def sortFields (mark : Option Char) (cs : List Char) : List (Nat × Nat) :=
  match mark with
  | some m =>
    let ends := (cs.zipIdx).foldr (fun p acc => if p.1 = m then p.2 :: acc else acc) [cs.length]
    (((0 :: ends.map (· + 1)).zip ends))
  | none =>
    let isBlank (c : Char) : Bool := c = ' ' || c = '\t' || c = '\n'
    let rec go : (fuel start : Nat) → List Char → List (Nat × Nat)
      | 0, _, _ => []
      | _ + 1, _, [] => []
      | fuel + 1, start, cs =>
        let blanks := cs.takeWhile isBlank
        let body := (cs.drop blanks.length).takeWhile fun c => !isBlank c
        let size := blanks.length + body.length
        (start, start + size) :: go fuel (start + size) (cs.drop size)
    go (cs.length + 1) 0 cs

def SortKey.text (k : SortKey) (mark : Option Char) (cs : List Char) : List Char :=
  let fields := sortFields mark cs
  let size := cs.length
  let skip (i : Nat) (yes : Bool) : Nat :=
    if yes then i + ((cs.drop i).takeWhile fun c => c = ' ' || c = '\t').length else i
  let first :=
    match fields[k.start.field - 1]? with
    | some (s, _) => min size (skip s k.start.skipsBlanks + (k.start.char - 1))
    | none => size
  let last :=
    match k.stop with
    | none => size
    | some p =>
      match fields[p.field - 1]? with
      | some (s, e) => if p.char = 0 then e else min size (skip s p.skipsBlanks + p.char)
      | none => size
  (cs.drop first).take (last - first)

def sortKey? (word : Raw) : Option (SortKey × Bool) :=
  let place (cs : List Char) (char : Nat) : Option (Nat × Nat × List Char) :=
    let field := cs.takeWhile Char.isDigit
    match Raw.nat? field, cs.drop field.length with
    | some n, '.' :: rest =>
      let ds := rest.takeWhile Char.isDigit
      (Raw.nat? ds).map fun m => (n, m, rest.drop ds.length)
    | some n, rest => some (n, char, rest)
    | none, _ => none
  let letters (cs : List Char) : List Char := cs.takeWhile Char.isAlpha
  match place word.toList 1 with
  | none => none
  | some (f, ch, rest) =>
    if f = 0 || ch = 0 then none
    else
      let own := letters rest
      let order? (own : List Char) (o : KeyOrder) : Option KeyOrder :=
        own.foldl (fun o c => o.bind fun o => o.with? c) (some o)
      let start : KeyPlace := ⟨f, ch, own.contains 'b'⟩
      match rest.drop own.length with
      | [] => (order? own .plain).map fun o => (⟨start, none, o⟩, !own.isEmpty)
      | ',' :: rest =>
        match place rest 0 with
        | none => none
        | some (f', ch', rest) =>
          let other := letters rest
          if !(rest.drop other.length).isEmpty || f' = 0 then none
          else
            (order? (own ++ other) .plain).map fun o =>
              (⟨start, some ⟨f', ch', other.contains 'b'⟩, o⟩, !(own ++ other).isEmpty)
      | _ => none

def compareByKeys (keys : List SortKey) (mark : Option Char) (a b : List Char) : Ordering :=
  keys.foldl (fun (o : Ordering) k =>
    if o = .eq then k.order.compareKeys (k.text mark a) (k.text mark b) else o) .eq

def sort : List Raw → Task Nat :=
  withChoices [flag 'n' "numeric-sort", flag 'g' "general-numeric-sort", flag 'h' "human-numeric-sort",
    flag 'V' "version-sort", flag 'r' "reverse", flag 'f' "ignore-case", flag 'd' "dictionary-order",
    flag 'i' "ignore-nonprinting", flag 'b' "ignore-leading-blanks", flag 'u' "unique",
    flag 's' "stable", flag 'c' "check", flag 'C' "", flag 'm' "merge", flag 'z' "zero-terminated",
    valued 'k' "key", valued 't' "field-separator", valued 'o' "output", valued 'S' "buffer-size",
    valued 'T' "temporary-directory"] 2 fun c => do
    let whole : KeyOrder := (c.options.map Prod.fst).foldl (fun o l => (o.with? l).getD o) .plain
    let words := c.values 'k'
    match words.find? fun w => (sortKey? w).isNone with
    | some w =>
      let digits := w.toList.takeWhile Char.isDigit
      if digits.isEmpty then
        Task.complain ("invalid number at field start: invalid count at start of " ++ cited w)
      else if Raw.nat? digits = some 0 then
        Task.complain ("field number is zero: invalid field specification " ++ cited w)
      else Task.complain ("stray character in field spec: invalid field specification " ++ cited w)
      return 2
    | none =>
      let mark? := c.value? 't'
      match mark?.map fun m => if m = "\x5c0" then ['\x00'] else m.toList with
      | some [] =>
        Task.complain "empty tab"
        return 2
      | some (_ :: _ :: _) =>
        Task.complain ("multi-character tab " ++ cited (mark?.getD ""))
        return 2
      | mark =>
        let mark := mark.bind List.head?
        let keys : List SortKey := (words.filterMap sortKey?).map fun k =>
          if k.2 then k.1
          else
            { k.1 with
              order := whole
              start := { k.1.start with skipsBlanks := k.1.start.skipsBlanks || whole.blanks }
              stop := k.1.stop.map fun p => { p with skipsBlanks := p.skipsBlanks || whole.blanks } }
        let keys :=
          if !keys.isEmpty then keys
          else if whole = .plain then []
          else [⟨⟨1, 1, whole.blanks⟩, none, whole⟩]
        let byKeys (a b : List Char) : Ordering := compareByKeys keys mark a b
        let simple (a b : List Char) : Ordering :=
          let o := compare (String.ofList a) (String.ofList b)
          if whole.reversed then o.swap else o
        let order (a b : List Char) : Ordering :=
          if keys.isEmpty then simple a b
          else if c.has 's' || c.has 'u' then byKeys a b
          else (byKeys a b).then (simple a b)
        let equal (a b : List Char) : Bool := (if keys.isEmpty then simple a b else byKeys a b) = .eq
        let mut lines : List (List Char) := []
        for name in operands c.arguments do
          match ← readOperand name with
          | .ok content => lines := lines ++ (Raw.lines content).map String.toList
          | .error fault =>
            Task.complain ((if fault = .isFolder then "read failed: " else "cannot read: ") ++ shown name ++
              ": " ++ fault.message)
            return 2
        if c.has 'c' || c.has 'C' then
          let pairs := (lines.zip (lines.drop 1)).zipIdx 2
          let wrong := pairs.find? fun p =>
            let o := order p.1.1 p.1.2
            o = .gt || (c.has 'u' && o = .eq)
          match wrong with
          | none => return 0
          | some (pair, i) =>
            if c.has 'c' then
              Task.complain ((operands c.arguments).headD "-" ++ ":" ++ toString i ++ ": disorder: " ++
                String.ofList pair.2)
            return 1
        else
          let sorted := lines.mergeSort fun a b => order a b ≠ .gt
          let sorted :=
            if c.has 'u' then
              (sorted.foldl (fun (acc : List (List Char)) l =>
                match acc with
                | last :: _ => if equal last l then acc else l :: acc
                | [] => [l]) []).reverse
            else sorted
          let output := Raw.unlines (sorted.map String.ofList)
          match c.value? 'o' with
          | some name =>
            match ← Task.writePath name output .overwrite with
            | .ok _ => return 0
            | .error fault =>
              Task.complain ("open failed: " ++ shown name ++ ": " ++ fault.message)
              return 2
          | none =>
            Task.out output
            return 0

/-! ## Equal lines -/

def runsOf (same : Raw → Raw → Bool) (lines : List Raw) : List (List Raw) :=
  (lines.foldl (fun (acc : List (List Raw)) line =>
    match acc with
    | (first :: run) :: rest =>
      if same ((first :: run).getLast?.getD first) line then (line :: first :: run) :: rest
      else [line] :: acc
    | _ => [line] :: acc) []).reverse.map List.reverse

def uniq : List Raw → Task Nat :=
  withChoices [flag 'c' "count", flag 'd' "repeated", flag 'u' "unique", flag 'i' "ignore-case",
    flag 'D' "", valued 'f' "skip-fields", valued 's' "skip-chars", valued 'w' "check-chars",
    flag 'z' "zero-terminated"] 1 fun c => do
    let number (l : Char) : Option Nat := (c.value? l).bind fun w => Raw.nat? w.toList
    let key (line : Raw) : List Char :=
      let skipField (cs : List Char) : List Char :=
        (cs.dropWhile fun ch => ch = ' ' || ch = '\t').dropWhile fun ch => ch ≠ ' ' && ch ≠ '\t'
      let cs := (List.range ((number 'f').getD 0)).foldl (fun cs _ => skipField cs) line.toList
      let cs := cs.drop ((number 's').getD 0)
      let cs := match number 'w' with
        | some n => cs.take n
        | none => cs
      if c.has 'i' then cs.map Char.toUpper else cs
    match c.arguments with
    | _ :: _ :: extra :: _ => refuse ("extra operand " ++ cited extra) 1
    | arguments =>
      match ← readOperand (arguments.headD "-") with
      | .error fault =>
        Task.complain (shown (arguments.headD "-") ++ ": " ++ fault.message)
        return 1
      | .ok content =>
        let runs := runsOf (fun a b => key a = key b) (Raw.lines content)
        let shownRuns := runs.filter fun r =>
          (!(c.has 'd' || c.has 'D') || 1 < r.length) && (!c.has 'u' || r.length = 1)
        let lines := shownRuns.flatMap fun r =>
          if c.has 'D' then r
          else
            let line := r.headD ""
            [if c.has 'c' then rightAligned 7 r.length ++ " " ++ line else line]
        match arguments.drop 1 with
        | name :: _ =>
          match ← Task.writePath name (Raw.unlines lines) .overwrite with
          | .ok _ => return 0
          | .error fault =>
            Task.complain (shown name ++ ": " ++ fault.message)
            return 1
        | [] =>
          Task.out (Raw.unlines lines)
          return 0

/-! ## Sorted files side by side -/

/-- Lines with the column in which they stand: only in the first file, only in the second one, or in
both; within `fuel` lines. -/
def mergeLines : (fuel : Nat) → List Raw → List Raw → List (Nat × Raw)
  | 0, _, _ => []
  | _ + 1, [], bs => bs.map (1, ·)
  | _ + 1, as, [] => as.map (0, ·)
  | fuel + 1, a :: as, b :: bs =>
    if a < b then (0, a) :: mergeLines fuel as (b :: bs)
    else if b < a then (1, b) :: mergeLines fuel (a :: as) bs
    else (2, a) :: mergeLines fuel as bs

/-- Compares two files with sorted lines. -/
def comm : List Raw → Task Nat :=
  withChoices [flag '1' "", flag '2' "", flag '3' "", longValued 'O' "output-delimiter"] 1 fun c => do
    match c.arguments with
    | [a, b] =>
      let (files, status) ← readFiles [a, b]
      match files with
      | [fa, fb] =>
        let la := Raw.lines fa.2
        let lb := Raw.lines fb.2
        let hidden := [c.has '1', c.has '2', c.has '3']
        let tab := (c.value? 'O').getD "\t"
        let lines := (mergeLines (la.length + lb.length + 1) la lb).filterMap fun p =>
          if hidden.getD p.1 false then none
          else
            let before := ((hidden.take p.1).filter (· = false)).length
            some (String.join (List.replicate before tab) ++ p.2)
        Task.out (Raw.unlines lines)
        return 0
      | _ => return status
    | [] => refuse "missing operand" 1
    | [a] => refuse ("missing operand after " ++ cited a) 1
    | _ :: _ :: extra :: _ => refuse ("extra operand " ++ cited extra) 1

def orderUtilities : List (Raw × Program) :=
  [("sort", .plain sort), ("uniq", .plain uniq), ("comm", .plain comm)]

end ConfigVault.Host.Utility
