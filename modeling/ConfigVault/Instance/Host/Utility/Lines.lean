import ConfigVault.Instance.Host.Utility.Basic
import ConfigVault.Text.Digit
import ConfigVault.Text.Printable

/-!
# Utilities for lines

Utilities that hand on their input, or parts of it, or count what is in it.
-/

namespace ConfigVault.Host.Utility

/-! ## Handing on -/

structure CatStyle where
  numbered : Bool
  filledOnly : Bool
  /-- Of several empty lines only one is left. -/
  squeezed : Bool
  endMarks : Bool
  tabMarks : Bool
  visible : Bool

/-- What is known while input is handed on. -/
structure CatProgress where
  number : Nat
  atStart : Bool
  empty : Nat
  output : List Raw

def visibleByte (c : Char) : Raw :=
  let low (n : Nat) : Raw :=
    if n < 32 then "^" ++ (Char.ofNat (n + 64)).toString
    else if n = 127 then "^?"
    else (Char.ofNat n).toString
  if c = '\n' || c = '\t' then c.toString
  else if c.toNat < 128 then low c.toNat
  else "M-" ++ low (c.toNat - 128)

namespace CatStyle

def begin (p : CatProgress) : CatProgress :=
  { p with
    number := p.number + 1, output := (rightAligned 6 (p.number + 1) ++ "\t") :: p.output }

def step (style : CatStyle) (p : CatProgress) (c : Char) : CatProgress :=
  if c = '\n' then
    if p.atStart && style.squeezed && 1 ≤ p.empty then p
    else
      let isEmpty := p.atStart
      let p := if isEmpty && style.numbered && !style.filledOnly then begin p else p
      { p with
        output := (if style.endMarks then "$\n" else "\n") :: p.output, atStart := true
        empty := if isEmpty then p.empty + 1 else 0 }
  else
    let p := if p.atStart && style.numbered then begin p else p
    let text :=
      if c = '\t' then (if style.tabMarks then "^I" else "\t")
      else if style.visible then visibleByte c
      else c.toString
    { p with output := text :: p.output, atStart := false, empty := 0 }

end CatStyle

def cat : List Raw → Task Nat :=
  withChoices [flag 'A' "show-all", flag 'b' "number-nonblank", flag 'e' "", flag 'E' "show-ends",
    flag 'n' "number", flag 's' "squeeze-blank", flag 't' "", flag 'T' "show-tabs", flag 'u' "",
    flag 'v' "show-nonprinting"] 1 fun c => do
    let style : CatStyle :=
      ⟨c.has 'n' || c.has 'b', c.has 'b', c.has 's', c.has 'E' || c.has 'A' || c.has 'e',
        c.has 'T' || c.has 'A' || c.has 't', c.has 'v' || c.has 'A' || c.has 'e' || c.has 't'⟩
    let isPlain := !(style.numbered || style.squeezed || style.endMarks || style.tabMarks ||
      style.visible)
    let mut progress : CatProgress := ⟨0, true, 0, []⟩
    let mut status := 0
    for name in operands c.arguments do
      match ← readOperand name with
      | .ok content =>
        if isPlain then Task.out content
        else
          progress := content.toList.foldl style.step { progress with output := [] }
          Task.out (String.join progress.output.reverse)
      | .error fault =>
        Task.complain (shown name ++ ": " ++ fault.message)
        status := 1
    return status

def tac : List Raw → Task Nat :=
  withChoices [] 1 fun c => do
    let (output, status) ← (operands c.arguments).foldlM (fun (acc : Raw × Nat) name => do
      match ← readOperand name with
      | .ok content =>
        let pieces := (Raw.splitAt '\n' content)
        let whole := pieces.dropLast.map (· ++ "\n")
        let last := pieces.getLast?.getD ""
        return (acc.1 ++ String.join ((whole ++ (if last.isEmpty then [] else [last])).reverse), acc.2)
      | .error .isFolder =>
        Task.complain (shown name ++ ": read error: " ++ OpenFault.isFolder.message)
        return (acc.1, 1)
      | .error fault =>
        Task.complain ("failed to open " ++ quoted name ++ " for reading: " ++ fault.message)
        return (acc.1, 1)) ("", 0)
    Task.out output
    return status

/-- Hands on files with the characters of each line the last one first; complaints come before all of
them. -/
def rev : List Raw → Task Nat :=
  withChoices [] 1 fun c => do
    let turn (line : Raw) : Raw := Raw.ofLetters (Raw.letters line).reverse
    let (output, status) ← (operands c.arguments).foldlM (fun (acc : Raw × Nat) name => do
      match ← readOperand name with
      | .ok content =>
        let (lines, complete) := linesOf content
        return (acc.1 ++ joinLines (lines.map turn) complete, acc.2)
      | .error fault =>
        Task.err ("rev: cannot open " ++ name ++ ": " ++ fault.message ++ "\n")
        return (acc.1, 1)) ("", 0)
    Task.out output
    return status

/-- Hands on its input and writes it to files as well. -/
def tee : List Raw → Task Nat :=
  withChoices [flag 'a' "append", flag 'i' "ignore-interrupts"] 1 fun c => do
    let content ← Task.input
    Task.out content
    each c.arguments fun name => do
      match ← Task.writePath name content (if c.has 'a' then .append else .overwrite) with
      | .ok _ => return 0
      | .error fault =>
        Task.complain (shown name ++ ": " ++ fault.message)
        return 1

/-- Numbers the lines of files that have something in them. -/
def nl : List Raw → Task Nat :=
  withChoices [valued 'b' "body-numbering", valued 'w' "number-width", valued 's' "number-separator",
    valued 'v' "starting-line-number", valued 'i' "line-increment", valued 'n' "number-format"] 1
    fun c => do
    let width := ((c.value? 'w').bind fun w => Raw.nat? w.toList).getD 6
    let start := ((c.value? 'v').bind fun w => Raw.int? w.toList).getD 1
    let step := ((c.value? 'i').bind fun w => Raw.int? w.toList).getD 1
    let between := (c.value? 's').getD "\t"
    let all := c.value? 'b' = some "a"
    let silent := c.value? 'b' = some "n"
    let layout : Layout :=
      match c.value? 'n' with
      | some "ln" => { Layout.plain with width, left := true }
      | some "rz" => { Layout.plain with width, zeros := true }
      | _ => { Layout.plain with width }
    let step (acc : Int × List Raw) (line : Raw) : Int × List Raw :=
      if (all || !line.isEmpty) && !silent then
        (acc.1 + step, (layout.int acc.1 ++ between ++ line ++ "\n") :: acc.2)
      else
        (acc.1, ("".pushn ' ' (width + between.length) ++ line ++ "\n") :: acc.2)
    let (_, status) ← (operands c.arguments).foldlM (fun (acc : Int × Nat) name => do
      match ← readOperand name with
      | .ok content =>
        let (next, lines) := (Raw.lines content).foldl step (acc.1, [])
        Task.out (String.join lines.reverse)
        return (next, acc.2)
      | .error fault =>
        Task.complain (shown name ++ ": " ++ fault.message)
        return (acc.1, 1)) (start, 0)
    return status

/-! ## Parts -/

/-- A number of lines or bytes. -/
structure Amount where
  sign : Option Char
  count : Nat

def multiplier? (text : List Char) : Option Nat :=
  match text with
  | [] => some 1
  | ['b'] => some 512
  | ['k'] => some 1024
  | ['K'] => some 1024
  | ['k', 'B'] => some 1000
  | ['M'] => some (1024 * 1024)
  | ['M', 'B'] => some 1000000
  | ['G'] => some (1024 * 1024 * 1024)
  | _ => none

def amount? (word : Raw) : Option Amount :=
  let (sign, cs) : Option Char × List Char :=
    match word.toList with
    | '-' :: cs => (some '-', cs)
    | '+' :: cs => (some '+', cs)
    | cs => (none, cs)
  let digits := cs.takeWhile Char.isDigit
  match Raw.nat? digits, multiplier? (cs.drop digits.length) with
  | some n, some m => some ⟨sign, n * m⟩
  | _, _ => none

/-- Pieces of a content that end with line feeds; the last one may lack it. -/
def pieces (content : Raw) : List Raw :=
  let parts := Raw.splitAt '\n' content
  let last := parts.getLast?.getD ""
  parts.dropLast.map (· ++ "\n") ++ (if last.isEmpty then [] else [last])

def firstPart (bytes : Bool) (a : Amount) (content : Raw) : Raw :=
  let ps := if bytes then [] else pieces content
  let size := if bytes then content.length else ps.length
  let count := if a.sign = some '-' then size - a.count else a.count
  if bytes then (content.take count).toString else String.join (ps.take count)

def lastPart (bytes : Bool) (a : Amount) (content : Raw) : Raw :=
  let ps := if bytes then [] else pieces content
  let size := if bytes then content.length else ps.length
  let skipped := if a.sign = some '+' then a.count - 1 else size - a.count
  if bytes then (content.drop skipped).toString else String.join (ps.drop skipped)

/-- Replaces a word of a dash and a number by the option for lines. -/
def expandCount (words : List Raw) : List Raw :=
  match words with
  | word :: rest =>
    match word.toList with
    | '-' :: c :: cs =>
      if c.isDigit then
        let digits := (c :: cs).takeWhile Char.isDigit
        let letters := (c :: cs).drop digits.length
        let option := if letters.contains 'c' then "-c" else "-n"
        option :: String.ofList digits :: rest
      else word :: expandNext rest word
    | _ => words
  | [] => []
where
  /-- The words behind an option: its value stays. -/
  expandNext (rest : List Raw) (option : Raw) : List Raw :=
    match rest with
    | value :: rest =>
      if option = "-n" || option = "-c" then value :: rest
      else
        match value.toList with
        | '-' :: c :: cs =>
          if c.isDigit then "-n" :: String.ofList ((c :: cs).takeWhile Char.isDigit) :: rest
          else value :: rest
        | _ => value :: rest
    | [] => []

def fileTitle (name : Raw) (first : Bool) : Raw :=
  (if first then "" else "\n") ++ "==> " ++ (if name = "-" then "standard input" else name) ++ " <==\n"

def writeParts (part : Bool → Amount → Raw → Raw) (leaves : Bool) (words : List Raw) : Task Nat :=
  withChoices [valued 'n' "lines", valued 'c' "bytes", flag 'q' "quiet", flag 'v' "verbose",
    longFlag 'Q' "silent", flag 'z' "zero-terminated", flag 'f' "follow"] 1 (fun c => do
    let last := c.lastOf ['n', 'c']
    let bytes := last = some 'c'
    let word := (last.bind c.value?).getD "10"
    match amount? word with
    | none =>
      let word := if word.toList.head? = some '-' then (word.drop 1).toString else word
      Task.complain ("invalid number of " ++ (if bytes then "bytes" else "lines") ++ ": " ++ cited word)
      return 1
    | some amount =>
      let names := operands c.arguments
      let titled := (1 < names.length || c.has 'v') && !c.has 'q' && !c.has 'Q'
      let mut status := 0
      let mut first := true
      for name in names do
        let before := (← get)
        match ← readOperand name with
        | .error fault =>
          Task.complain (match fault with
            | .isFolder => "error reading " ++ quoted name ++ ": Is a directory"
            | fault => "cannot open " ++ quoted name ++ " for reading: " ++ fault.message)
          status := 1
        | .ok content =>
          if titled then Task.out (fileTitle name first)
          first := false
          let output := part bytes amount content
          if leaves && name = "-" then
            if let some n ← Task.number? 0 then
              match before.file? n with
              | some ⟨.file _, _, _, _, offset⟩ => modify fun w => w.seek n (offset + output.length)
              | _ => pure ()
          Task.out output
      return status) (expandCount words)

/-- Writes the first lines or bytes of files. -/
def head : List Raw → Task Nat := writeParts firstPart true

/-- Writes the last lines or bytes of files; a first word of a plus and digits tells where they begin. -/
def tail (words : List Raw) : Task Nat :=
  let words :=
    match words with
    | w :: rest =>
      match w.toList with
      | '+' :: cs =>
        if cs.all Char.isDigit && !cs.isEmpty && rest.length < 2 then ("-n" ++ w) :: rest else words
      | _ => words
    | [] => []
  writeParts lastPart false words

/-! ## Counts -/

structure Counts where
  lines : Nat
  words : Nat
  letters : Nat
  bytes : Nat
  longest : Nat

def Counts.add (a b : Counts) : Counts :=
  ⟨a.lines + b.lines, a.words + b.words, a.letters + b.letters, a.bytes + b.bytes,
    max a.longest b.longest⟩

def isWordBreak (c : Char) : Bool :=
  c = ' ' || (9 ≤ c.toNat && c.toNat ≤ 13) || Text.isBlank c

def countsOf (content : Raw) : Counts :=
  let letters := Raw.letters content
  let words := letters.foldl (fun (acc : Nat × Bool) c =>
    if isWordBreak c then (acc.1, false)
    else if acc.2 then acc
    else if !Raw.isStray c && Text.isPrintable c then (acc.1 + 1, true)
    else acc) (0, false)
  let width (acc : Nat × Nat) (c : Char) : Nat × Nat :=
    if c = '\n' || c = '\r' || c = '\x0c' then (0, max acc.1 acc.2)
    else if c = '\t' then (acc.1 + 8 - acc.1 % 8, acc.2)
    else if Text.isPrintable c then (acc.1 + 1, acc.2) else acc
  let widths := letters.foldl width (0, 0)
  ⟨(content.toList.filter (· = '\n')).length, words.1, (letters.filter fun c => !Raw.isStray c).length,
    content.length, max widths.1 widths.2⟩

/-- Counts lines, words and bytes. -/
def wc : List Raw → Task Nat :=
  withChoices [flag 'l' "lines", flag 'w' "words", flag 'm' "chars", flag 'c' "bytes",
    flag 'L' "max-line-length"] 1 fun c => do
    let silent := c.options.isEmpty
    let columns : List (Bool × (Counts → Nat)) :=
      [(c.has 'l' || silent, Counts.lines), (c.has 'w' || silent, Counts.words),
        (c.has 'm', Counts.letters), (c.has 'c' || silent, Counts.bytes), (c.has 'L', Counts.longest)]
    let chosen := columns.filterMap fun p => if p.1 then some p.2 else none
    let names := operands c.arguments
    let mut sizes : List (Option Nat) := []
    for name in names do
      if name = "-" then
        let w ← get
        let file := (← Task.number? 0).bind w.file?
        sizes := sizes ++ [file.bind fun f =>
          match f.target with
          | .file _ => some (w.content f).length
          | _ => none]
      else
        sizes := sizes ++ [match ← Task.find? name with
          | some (_, .file content _) => some content.length
          | some (_, .program) => some 100000
          | some _ => none
          | none => some 0]
    let total := (sizes.filterMap id).foldl (· + ·) 0
    let digits := (toString total).length
    let width :=
      if names.length = 1 && chosen.length = 1 then 1
      else if sizes.any Option.isNone then max 7 digits else digits
    let line (counts : Counts) (name : Option Raw) : Raw :=
      String.intercalate " " (chosen.map fun f => rightAligned width (f counts)) ++
        (match name with
        | some name => " " ++ name
        | none => "") ++ "\n"
    let mut status := 0
    let mut sum : Counts := ⟨0, 0, 0, 0, 0⟩
    for name in names do
      let given := if c.arguments.isEmpty then none else some name
      match ← readOperand name with
      | .ok content =>
        let counts := countsOf content
        sum := sum.add counts
        Task.out (line counts given)
      | .error fault =>
        Task.complain (shown name ++ ": " ++ fault.message)
        if fault = .isFolder then Task.out (line ⟨0, 0, 0, 0, 0⟩ given)
        status := 1
    if 1 < names.length then Task.out (line sum (some "total"))
    return status

/-! ## Width -/

def columnBehind (bytes : Bool) (column : Nat) (c : Char) : Nat :=
  if bytes then column + 1
  else
    match c with
    | '\x08' => column - 1
    | '\r' => 0
    | '\t' => column + 8 - column % 8
    | _ => column + 1

/-- Lines that reach no further than to a width, broken behind a blank where `atBlanks` is set: `held` are
the characters of the line so far, the last one first, up to a column.  Within `fuel` steps. -/
def foldLine (width : Nat) (atBlanks bytes : Bool) : (fuel : Nat) → (held : List Char) →
    (column : Nat) → List Char → List (List Char)
  | 0, held, _, cs => [held.reverse ++ cs]
  | _ + 1, held, _, [] => [held.reverse]
  | fuel + 1, held, column, c :: cs =>
    let next := columnBehind bytes column c
    if next ≤ width || held.isEmpty then foldLine width atBlanks bytes fuel (c :: held) next cs
    else if atBlanks && held.any fun d => d = ' ' || d = '\t' then
      let left := held.takeWhile fun d => d ≠ ' ' && d ≠ '\t'
      (held.drop left.length).reverse ::
        foldLine width atBlanks bytes fuel left (left.reverse.foldl (columnBehind bytes) 0) (c :: cs)
    else held.reverse :: foldLine width atBlanks bytes fuel [] 0 (c :: cs)

/-- Breaks lines that are too long. -/
def fold : List Raw → Task Nat :=
  withChoices [valued 'w' "width", flag 's' "spaces", flag 'b' "bytes"] 1 fun c => do
    let width := ((c.value? 'w').bind fun w => Raw.nat? w.toList).getD 80
    eachFile c.arguments fun _ content => do
      let (lines, complete) := linesOf content
      let broken := lines.flatMap fun line =>
        (foldLine width (c.has 's') (c.has 'b') (3 * line.length + 1) [] 0 line.toList).map String.ofList
      Task.out (joinLines broken complete)

def lineUtilities : List (Raw × Program) :=
  [("cat", .plain cat), ("tac", .plain tac), ("rev", .plain rev), ("tee", .plain tee),
    ("nl", .plain nl), ("head", .plain head), ("tail", .plain tail), ("wc", .plain wc),
    ("fold", .plain fold)]

end ConfigVault.Host.Utility
