import ConfigVault.Instance.Host.Utility.Basic

/-!
# Pieces of files

Utilities that take a file apart into pieces, copy a part of it, and put lines of two files together.
-/

namespace ConfigVault.Host.Utility

/-! ## Copying a part -/

/-- The number that a word of digits and the letter of a unit stand for. -/
def sizeOf? (word : Raw) : Option Nat :=
  let (n, rest) := Number.takeDigits 10 word.toList
  if rest.length = word.length then none
  else
    match String.ofList rest with
    | "" => some n
    | "c" => some n
    | "w" => some (2 * n)
    | "b" => some (512 * n)
    | "k" => some (1024 * n)
    | "K" => some (1024 * n)
    | "M" => some (1024 * 1024 * n)
    | _ => none

def copySettings : List Raw :=
  ["if", "of", "bs", "ibs", "obs", "cbs", "count", "skip", "seek", "status", "conv", "iflag", "oflag"]

/-- Copies a part of a file, in blocks. -/
def dd (words : List Raw) : Task Nat := do
  let settings := words.map fun w =>
    let cs := w.toList
    let name := cs.takeWhile (· ≠ '=')
    let value := String.ofList (cs.drop (name.length + 1))
    (w, String.ofList name, if name.length = cs.length then none else some value)
  let value? (name : Raw) : Option Raw :=
    (settings.reverse.find? fun s => s.2.1 = name).bind fun s => s.2.2
  match settings.find? fun s => s.2.2.isNone || !copySettings.contains s.2.1 with
  | some (word, _) => refuse ("unrecognized operand " ++ quoted word) 1
  | none =>
    match ["bs", "ibs", "obs", "count", "skip", "seek"].find? fun name =>
        (value? name).any fun v => (sizeOf? v).isNone with
    | some name =>
      Task.complain ("invalid number: " ++ quoted ((value? name).getD ""))
      return 1
    | none =>
      let number (name : Raw) : Option Nat := (value? name).bind sizeOf?
      let block := max 1 ((number "bs" <|> number "ibs").getD 512)
      let source ← match value? "if" with
        | some name => Task.readPath name
        | none => do pure (Except.ok (← Task.input))
      match source with
      | .error fault =>
        Task.complain ("failed to open " ++ quoted ((value? "if").getD "") ++ ": " ++ fault.message)
        return 1
      | .ok content =>
        let cs := content.toList.drop (block * (number "skip").getD 0)
        let cs := match number "count" with
          | some n => cs.take (block * n)
          | none => cs
        let changes := Raw.splitAt ',' ((value? "conv").getD "")
        let part := String.ofList cs
        let part := if changes.contains "ucase" then part.toUpper else part
        let part := if changes.contains "lcase" then part.toLower else part
        let result ← match value? "of" with
          | some name => Task.writePath name part .overwrite
          | none => do
            Task.out part
            pure (Except.ok ())
        match result with
        | .error fault =>
          Task.complain ("failed to open " ++ quoted ((value? "of").getD "") ++ ": " ++ fault.message)
          return 1
        | .ok () =>
          let status := (value? "status").getD ""
          let records := toString (cs.length / block) ++ "+" ++ (if cs.length % block = 0 then "0" else "1")
          if status ≠ "none" then
            Task.err (records ++ " records in\n" ++ records ++ " records out\n")
            if status ≠ "noxfer" then
              Task.err (toString cs.length ++ (if cs.length = 1 then " byte" else " bytes") ++
                " copied, 0.0001 s, 1.0 MB/s\n")
          return 0

/-! ## Taking apart -/

def pieceEnding (digits : Bool) : (width n : Nat) → List Char
  | 0, _ => []
  | width + 1, n =>
    let base := if digits then 10 else 26
    pieceEnding digits width (n / base) ++ [Char.ofNat ((if digits then 48 else 97) + n % base)]

def wholeLines (content : Raw) : List Raw :=
  let (lines, complete) := linesOf content
  lines.zipIdx.map fun (l, i) => if i + 1 = lines.length && !complete then l else l ++ "\n"

def split : List Raw → Task Nat :=
  withChoices [valued 'l' "lines", valued 'b' "bytes", valued 'a' "suffix-length", flag 'd' "",
    longValued 's' "additional-suffix", flag 'e' "elide-empty-files"] 1 fun c => do
    match c.arguments with
    | _ :: _ :: extra :: _ => refuse ("extra operand " ++ cited extra) 1
    | arguments =>
      let name := arguments.headD "-"
      let front := (arguments.drop 1).headD "x"
      match ← readOperand name with
      | .error fault =>
        Task.complain ((if fault = .isFolder then "read error: " else
          "cannot open " ++ quoted name ++ " for reading: ") ++ fault.message)
        return 1
      | .ok content =>
        match (c.value? 'l').map fun w => (w, Raw.nat? w.toList), (c.value? 'b').map fun w => (w, sizeOf? w) with
        | some (word, none), _ =>
          Task.complain ("invalid number of lines: " ++ cited word)
          return 1
        | _, some (word, none) =>
          Task.complain ("invalid number of bytes: " ++ cited word)
          return 1
        | some (_, some 0), _ =>
          Task.complain ("invalid number of lines: " ++ cited "0")
          return 1
        | lines, bytes =>
          let parts : List Raw :=
            match bytes with
            | some (_, some size) =>
              (inGroups (max 1 size) (content.length + 1) content.toList).map String.ofList
            | _ =>
              let size := ((lines.bind Prod.snd)).getD 1000
              let all := wholeLines content
              (inGroups (max 1 size) (all.length + 1) all).map String.join
          let width := ((c.value? 'a').bind fun w => Raw.nat? w.toList).getD 2
          each parts.zipIdx fun (part, i) => do
            let path := front ++ String.ofList (pieceEnding (c.has 'd') width i) ++ (c.value? 's').getD ""
            match ← Task.writePath path part .overwrite with
            | .ok () => return 0
            | .error fault =>
              Task.complain (shown path ++ ": " ++ fault.message)
              return 1

/-! ## Putting together -/

structure JoinLine where
  key : Raw
  fields : List Raw

def joinFields (mark : Option Char) (line : Raw) : List Raw :=
  match mark with
  | some mark => Raw.splitAt mark line
  | none =>
    (line.split fun c => c = ' ' || c = '\t').toStringList.filter fun w => !w.isEmpty

def joinLinesOf (mark : Option Char) (folds : Bool) (field : Nat) (content : Raw) : List JoinLine :=
  (Raw.lines content).map fun line =>
    let fields := joinFields mark line
    let key := fields.getD (field - 1) ""
    ⟨if folds then key.toLower else key, fields⟩

/-- Which fields of joined lines are told. -/
structure JoinForm where
  mark : Option Char
  firstField : Nat
  secondField : Nat
  chosen : List (Nat × Nat)
  filler : Raw

def JoinForm.text (f : JoinForm) (a b : Option JoinLine) : Raw :=
  let separator := (f.mark.getD ' ').toString
  let fieldOf (line : Option JoinLine) (n : Nat) : Raw :=
    match (line.bind fun l => l.fields[n - 1]?) with
    | some w => if w.isEmpty then f.filler else w
    | none => f.filler
  let key := match a with
    | some _ => fieldOf a f.firstField
    | none => fieldOf b f.secondField
  let others (line : Option JoinLine) (field : Nat) : List Raw :=
    ((line.map JoinLine.fields).getD []).eraseIdx (field - 1)
  let told :=
    if f.chosen.isEmpty then key :: others a f.firstField ++ others b f.secondField
    else f.chosen.map fun (file, n) =>
      if file = 0 then key else fieldOf (if file = 1 then a else b) n
  String.intercalate separator told ++ "\n"

def JoinForm.join (f : JoinForm) (paired loneA loneB : Bool) : (fuel : Nat) → List JoinLine →
    List JoinLine → List Raw
  | 0, _, _ => []
  | _ + 1, [], bs => if loneB then bs.map fun b => f.text none (some b) else []
  | _ + 1, as, [] => if loneA then as.map fun a => f.text (some a) none else []
  | fuel + 1, a :: as, b :: bs =>
    if a.key < b.key then
      (if loneA then [f.text (some a) none] else []) ++ join f paired loneA loneB fuel as (b :: bs)
    else if b.key < a.key then
      (if loneB then [f.text none (some b)] else []) ++ join f paired loneA loneB fuel (a :: as) bs
    else
      let sameA := a :: as.takeWhile fun x => x.key = a.key
      let sameB := b :: bs.takeWhile fun x => x.key = a.key
      (if paired then sameA.flatMap fun x => sameB.map fun y => f.text (some x) (some y) else []) ++
        join f paired loneA loneB fuel (as.drop (sameA.length - 1)) (bs.drop (sameB.length - 1))

def chosenFields (word : Raw) : List (Nat × Nat) :=
  (word.split fun c => c = ',' || c = ' ').toStringList.filterMap fun w =>
    if w = "0" then some (0, 0)
    else
      match (Raw.splitAt '.' w).map fun p => Raw.nat? p.toList with
      | [some file, some n] => some (file, n)
      | _ => none

/-- Puts lines of two files together that have a field in common. -/
def join : List Raw → Task Nat :=
  withChoices [valued '1' "", valued '2' "", valued 'j' "", valued 't' "", valued 'a' "", valued 'v' "",
    valued 'o' "", valued 'e' "", flag 'i' "ignore-case"] 1 fun c => do
    match c.arguments with
    | [] => refuse "missing operand" 1
    | [a] => refuse ("missing operand after " ++ cited a) 1
    | _ :: _ :: extra :: _ => refuse ("extra operand " ++ cited extra) 1
    | [a, b] =>
      match ← readOperand a with
      | .error fault =>
        Task.complain (shown a ++ ": " ++ fault.message)
        return 1
      | .ok x =>
        match ← readOperand b with
        | .error fault =>
          Task.complain (shown b ++ ": " ++ fault.message)
          return 1
        | .ok y =>
          let field (letter : Char) : Nat :=
            (((c.value? letter) <|> (c.value? 'j')).bind fun w => Raw.nat? w.toList).getD 1
          let mark := (c.value? 't').map fun w => w.toList.headD '\n'
          let form : JoinForm :=
            ⟨mark, field '1', field '2', ((c.value? 'o').map chosenFields).getD [], (c.value? 'e').getD ""⟩
          let asks (n : Raw) : Bool := (c.values 'a').contains n || (c.values 'v').contains n
          let left := joinLinesOf mark (c.has 'i') form.firstField x
          let right := joinLinesOf mark (c.has 'i') form.secondField y
          Task.out (String.join (form.join (!c.has 'v') (asks "1") (asks "2")
            (left.length + right.length + 1) left right))
          return 0

def pieceUtilities : List (Raw × Program) :=
  [("dd", .plain dd), ("split", .plain split), ("join", .plain join)]

end ConfigVault.Host.Utility
