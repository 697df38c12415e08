import ConfigVault.Instance.Host.Utility.Basic

/-!
# Showing bytes

Bytes are shown in lines, each with its offset in front and once for every form that is asked for.  A
line that is the same as the one before it is shown by a star.
-/

namespace ConfigVault.Host.Utility

/-- How the items of a form are written. -/
inductive DumpStyle where
  | character
  | named
  | octal
  | hexadecimal
  | decimal
  | signed
  deriving DecidableEq, Repr

structure DumpForm where
  style : DumpStyle
  size : Nat
  /-- The bytes stand behind the items once more, as characters. -/
  trailed : Bool

namespace DumpForm

def digitsOf (base size : Nat) : Nat := (Nat.toDigits base (Nat.pow 256 size - 1)).length

def width (f : DumpForm) : Nat :=
  match f.style with
  | .character | .named => 3
  | .octal => digitsOf 8 f.size
  | .hexadecimal => digitsOf 16 f.size
  | .decimal => digitsOf 10 f.size
  | .signed => (Nat.toDigits 10 (Nat.pow 256 f.size / 2)).length + 1

def controlNames : List Raw :=
  ["nul", "soh", "stx", "etx", "eot", "enq", "ack", "bel", "bs", "ht", "nl", "vt", "ff", "cr", "so", "si",
    "dle", "dc1", "dc2", "dc3", "dc4", "nak", "syn", "etb", "can", "em", "sub", "esc", "fs", "gs", "rs",
    "us", "sp"]

def digitText (base width n : Nat) : Raw :=
  ({ Layout.plain with precision := some width } : Layout).digits base n

def characterText (n : Nat) : Raw :=
  match n with
  | 0 => "\x5c0"
  | 7 => "\x5ca"
  | 8 => "\x5cb"
  | 9 => "\x5ct"
  | 10 => "\x5cn"
  | 11 => "\x5cv"
  | 12 => "\x5cf"
  | 13 => "\x5cr"
  | n => if 32 ≤ n && n < 127 then (Char.ofNat n).toString else digitText 8 3 n

def item (f : DumpForm) (bytes : List UInt8) : Raw :=
  let n := bytes.foldr (fun b n => b.toNat + 256 * n) 0
  match f.style with
  | .character => characterText n
  | .named =>
    let n := n % 128
    if n = 127 then "del" else (controlNames[n]?).getD (Char.ofNat n).toString
  | .octal => digitText 8 f.width n
  | .hexadecimal => digitText 16 f.width n
  | .decimal => toString n
  | .signed => toString (if 2 * n < Nat.pow 256 f.size then (n : Int) else (n : Int) - (Nat.pow 256 f.size : Nat))

/-- The items of a line, with `pad` blanks spread over the `count` items of a whole line. -/
def items (f : DumpForm) (count pad : Nat) (bytes : List UInt8) : Raw :=
  let used := (bytes.length + f.size - 1) / f.size
  String.join ((List.range used).map fun i =>
    let blanks := pad * (count - i) / count - pad * (count - i - 1) / count
    let group := (bytes.drop (i * f.size)).take f.size
    "".pushn ' ' (blanks + 1) ++ ({ Layout.plain with width := f.width } : Layout).text (f.item group))

end DumpForm

/-- The form that a letter and a size ask for, and what is left. -/
def takeForm (cs : List Char) : Except Raw (DumpForm × List Char) :=
  let whole := cited (String.ofList cs)
  let trail (style : DumpStyle) (size : Nat) (rest : List Char) : DumpForm × List Char :=
    match rest with
    | 'z' :: rest => (⟨style, size, true⟩, rest)
    | rest => (⟨style, size, false⟩, rest)
  let sized (style : DumpStyle) (rest : List Char) : Except Raw (DumpForm × List Char) :=
    match rest with
    | 'C' :: rest => .ok (trail style 1 rest)
    | 'S' :: rest => .ok (trail style 2 rest)
    | 'I' :: rest => .ok (trail style 4 rest)
    | 'L' :: rest => .ok (trail style 8 rest)
    | rest =>
      let (n, left) := Number.takeDigits 10 rest
      if left.length = rest.length then .ok (trail style 4 rest)
      else if [1, 2, 4, 8].contains n then .ok (trail style n left)
      else
        .error ("invalid type string " ++ whole ++ ";\nthis system doesn't provide a " ++ toString n ++
          "-byte integral type")
  match cs with
  | 'c' :: rest => .ok (trail .character 1 rest)
  | 'a' :: rest => .ok (trail .named 1 rest)
  | 'o' :: rest => sized .octal rest
  | 'x' :: rest => sized .hexadecimal rest
  | 'u' :: rest => sized .decimal rest
  | 'd' :: rest => sized .signed rest
  | c :: _ => .error ("invalid character '" ++ c.toString ++ "' in type string " ++ whole)
  | [] => .error ("invalid type string " ++ whole)

def takeForms : (fuel : Nat) → List Char → Except Raw (List DumpForm)
  | 0, _ => .ok []
  | _ + 1, [] => .ok []
  | fuel + 1, cs => do
    let (form, rest) ← takeForm cs
    return form :: (← takeForms fuel rest)

def shortForm? : Char → Option DumpForm
  | 'a' => some ⟨.named, 1, false⟩
  | 'b' => some ⟨.octal, 1, false⟩
  | 'c' => some ⟨.character, 1, false⟩
  | 'd' => some ⟨.decimal, 2, false⟩
  | 'o' => some ⟨.octal, 2, false⟩
  | 's' => some ⟨.signed, 2, false⟩
  | 'x' => some ⟨.hexadecimal, 2, false⟩
  | 'i' => some ⟨.signed, 4, false⟩
  | 'l' => some ⟨.signed, 8, false⟩
  | _ => none

def formsOf (c : Choices) : Except Raw (List DumpForm) :=
  c.options.foldlM (fun forms o =>
    if o.1 = 't' then (takeForms (o.2.length + 1) o.2.toList).map (forms ++ ·)
    else .ok (forms ++ (shortForm? o.1).toList)) []

def offsetText (radix : Char) (n : Nat) : Raw :=
  match radix with
  | 'd' => DumpForm.digitText 10 7 n
  | 'x' => DumpForm.digitText 16 6 n
  | 'n' => ""
  | _ => DumpForm.digitText 8 7 n

def dumpLine (forms : List DumpForm) (perLine : Nat) (offset : Raw) (bytes : List UInt8) : Raw :=
  let widths := forms.map fun f => (f.width + 1) * (perLine / f.size)
  let greatest := widths.foldl max 0
  String.join (forms.zipIdx.map fun (f, i) =>
    let count := perLine / f.size
    let pad := greatest - (f.width + 1) * count
    let shown := f.items count pad bytes
    let tail :=
      if f.trailed then
        "".pushn ' ' (greatest - shown.length) ++ "  >" ++
          String.ofList (bytes.map fun b =>
            if 32 ≤ b.toNat && b.toNat < 127 then Char.ofNat b.toNat else '.') ++ "<"
      else ""
    (if i = 0 then offset else "".pushn ' ' offset.length) ++ shown ++ tail ++ "\n")

/-- The lines for bytes, within `fuel` lines: `before` is the line in front of them, and `starred` says
whether a star stands for it. -/
def dumpLines (forms : List DumpForm) (perLine : Nat) (radix : Char) (all : Bool) : (fuel : Nat) →
    (before : List UInt8) → (starred : Bool) → (offset : Nat) → List UInt8 → Raw
  | 0, _, _, _, _ => ""
  | fuel + 1, before, starred, offset, bytes =>
    let line := bytes.take perLine
    if line.isEmpty then (if radix = 'n' then "" else offsetText radix offset ++ "\n")
    else
      let rest := dumpLines forms perLine radix all fuel line
      let next := offset + line.length
      if !all && line = before && line.length = perLine then
        (if starred then "" else "*\n") ++ rest true next (bytes.drop perLine)
      else
        dumpLine forms perLine (offsetText radix offset) line ++ rest false next (bytes.drop perLine)

def od : List Raw → Task Nat :=
  withChoices [valued 'A' "address-radix", valued 't' "format", valued 'N' "read-bytes",
    valued 'j' "skip-bytes", flag 'v' "output-duplicates", valued 'w' "width", flag 'a' "", flag 'b' "",
    flag 'c' "", flag 'd' "", flag 'o' "", flag 's' "", flag 'x' "", flag 'i' "", flag 'l' ""] 1 fun c => do
    match formsOf c with
    | .error message =>
      Task.complain message
      return 1
    | .ok forms =>
      let forms := if forms.isEmpty then [⟨.octal, 2, false⟩] else forms
      let number (letter : Char) : Option Nat := (c.value? letter).bind fun w => Raw.nat? w.toList
      let (files, status) ← readFiles c.arguments
      let bytes := Raw.toBytes (String.join (files.map Prod.snd))
      let skipped := (number 'j').getD 0
      let bytes := bytes.drop skipped
      let bytes := match number 'N' with
        | some n => bytes.take n
        | none => bytes
      let radix := ((c.value? 'A').getD "o").toList.headD 'o'
      if files.isEmpty then return status
      else if (files.foldl (fun n f => n + f.2.length) 0) < skipped then
        Task.complain "cannot skip past end of combined input"
        return 1
      else
        Task.out (dumpLines forms (max 1 ((number 'w').getD 16)) radix (c.has 'v') (bytes.length + 1) []
          false skipped bytes)
        return status

end ConfigVault.Host.Utility
