import ConfigVault.Instance.Host.Print.Layout
import ConfigVault.Instance.Host.Print.Template
import ConfigVault.Instance.Host.Record.Syntax

/-!
# Values of programs for records

A value is a number or a text.  What has been read is a text that counts as a number if it looks like one.
A whole number is written with all its digits, any other one in a layout of the program.
-/

namespace ConfigVault.Host.Record

inductive Value where
  /-- Nothing has been set: no text, and the number zero. -/
  | none
  | number (x : Float)
  | text (text : Raw)
  | input (text : Raw)

def looksNumeric (text : Raw) : Bool :=
  let cs := text.toList.dropWhile Number.isBlank
  let body :=
    match cs with
    | '-' :: rest => rest
    | '+' :: rest => rest
    | rest => rest
  (body.head?.any fun c => c.isDigit || c = '.') && !body.contains 'x' && !body.contains 'X' &&
    match Number.takeFloat? cs with
    | some (_, rest) => rest.all Number.isBlank
    | none => false

def numberOf (text : Raw) : Float :=
  match Number.takeFloat? text.toList with
  | some (x, _) => x
  | none => 0.0

/-- The number with what follows its point cut off. -/
def wholePart (x : Float) : Int :=
  if x.isNaN || x.isInf then (if x < 0.0 then -Number.half64 else Number.half64 - 1)
  else
    let (num, den) := (Decimal.Parts.ofBits x.toBits.toNat).magnitude.quotient
    let n : Int := (num / den : Nat)
    if x < 0.0 then -n else n

/-- A whole number for the letter of a layout; `top` is the greatest one. -/
def signedPart (top : Int) (x : Float) : Int :=
  if x.isNaN then -Number.half64
  else if x.isInf then (if x < 0.0 then -(Number.half64 - 1) else top)
  else
    let n := wholePart x
    if n < -Number.half64 then -(Number.half64 - 1) else min n top

/-- A whole number without a sign for the letter of a layout: one below zero is counted from the end. -/
def unsignedPart (x : Float) : Nat :=
  if x.isNaN then Number.half64.toNat
  else if x.isInf then (if x < 0.0 then 1 else (Number.whole64 - 1).toNat)
  else
    let n := wholePart x
    if n ≤ -Number.whole64 then 1
    else if n < -Number.half64 then Number.half64.toNat
    else if n < 0 then (n + Number.whole64).toNat
    else (min n (Number.whole64 - 1)).toNat

def floatText (l : Layout) (form : Layout.DecimalForm) (upper : Bool) (x : Float) : Raw :=
  if x.isNaN then l.pad (if upper then "-NAN" else "-nan") else l.float form upper x

/-- The number is whole and small enough to be written with all its digits. -/
def isWhole (x : Float) : Bool :=
  !x.isNaN && !x.isInf && x.floor == x && -9223372036854775808.0 ≤ x && x ≤ 18446744073709551616.0

def layOutNumber (template : Raw) (x : Float) : Raw :=
  match template.toList with
  | '%' :: cs =>
    let flags := cs.takeWhile fun c => ['#', '-', '+', ' ', '0'].contains c
    let (width, rest) := Template.takeSize (cs.drop flags.length)
    let (precision, rest) : Size × List Char :=
      match rest with
      | '.' :: rest =>
        match Template.takeSize rest with
        | (.absent, rest) => (.given 0, rest)
        | r => r
      | rest => (.absent, rest)
    let size (s : Size) : Option Int :=
      match s with
      | .given n => some n
      | _ => none
    let l := Template.layout flags (size width) (size precision)
    match rest with
    | letter :: tail =>
      match Template.form? letter with
      | some form => floatText l form letter.isUpper x ++ String.ofList tail
      | none => if letter = 'd' || letter = 'i' then l.int (wholePart x) ++ String.ofList tail else template
    | [] => template
  | _ => template

def numberText (template : Raw) (x : Float) : Raw :=
  if isWhole x then toString (min (wholePart x) (Number.whole64 - 1)) else layOutNumber template x

namespace Value

def toNumber : Value → Float
  | none => 0.0
  | number x => x
  | text t => numberOf t
  | input t => numberOf t

def toText (template : Raw) : Value → Raw
  | none => ""
  | number x => numberText template x
  | text t => t
  | input t => t

def isTrue : Value → Bool
  | none => false
  | number x => x != 0.0
  | text t => !t.isEmpty
  | input t => if looksNumeric t then numberOf t != 0.0 else !t.isEmpty

def comparable? : Value → Option Float
  | none => some 0.0
  | number x => some x
  | text _ => Option.none
  | input t => if looksNumeric t then some (numberOf t) else Option.none

def ofBool (b : Bool) : Value := .number (if b then 1.0 else 0.0)

def ofNat (n : Nat) : Value := .number (Float.ofNat n)

end Value

def Comparison.judge {α : Type} (c : Comparison) (less equal : α → α → Bool) (a b : α) : Bool :=
  match c with
  | .less => less a b
  | .atMost => less a b || equal a b
  | .equal => equal a b
  | .unequal => !equal a b
  | .more => less b a
  | .atLeast => less b a || equal a b

/-- Compares two values: as numbers if both are, else as texts. -/
def Comparison.holds (c : Comparison) (template : Raw) (a b : Value) : Bool :=
  match a.comparable?, b.comparable? with
  | some x, some y => c.judge (fun x y => decide (x < y)) (fun x y => !decide (x < y) && !decide (y < x)) x y
  | _, _ =>
    c.judge (fun s t => decide (s < t)) (fun s t => decide (s = t)) (a.toText template)
      (b.toText template)

def remainder (x y : Float) : Float :=
  if x.isNaN || y.isNaN || x.isInf || y == 0.0 then 0.0 / 0.0
  else if y.isInf then x
  else
    let (n, d) := (Decimal.Parts.ofBits x.toBits.toNat).magnitude.quotient
    let (m, e) := (Decimal.Parts.ofBits y.toBits.toNat).magnitude.quotient
    let r := (n * e) % (m * d)
    let z := Float.ofNat r / Float.ofNat (d * e)
    if x < 0.0 then -z else z

def Operator.apply (op : Operator) (x y : Float) : Float :=
  match op with
  | add => x + y
  | subtract => x - y
  | multiply => x * y
  | divide => x / y
  | remainder => Record.remainder x y
  | power => Float.pow x y

/-! ## Texts with values put in -/

/-- Why values cannot be put into a text. -/
inductive LayoutFault where
  | tooFew
  /-- A letter that stands for no layout, by the number of its place. -/
  | improper (place : Nat)

def sized (s : Size) (values : List Value) : Option (Option Int × List Value) :=
  match s, values with
  | .absent, values => some (none, values)
  | .given n, values => some (some n, values)
  | .argument, v :: values => some (some (wholePart v.toNumber), values)
  | .argument, [] => none

def laidOut? (numbers : Raw) (l : Layout) (letter : Char) (v : Value) : Option Raw :=
  match letter with
  | 's' => some (l.text (v.toText numbers))
  | 'c' =>
    match v with
    | .number x => some (l.pad (Char.ofNat (wholePart x % 256).toNat).toString)
    | v => some (l.pad ((v.toText numbers).toList.headD '\x00').toString)
  | _ =>
    if letter = 'd' then some (l.int (signedPart (Number.whole64 - 1) v.toNumber))
    else if letter = 'i' then some (l.int (signedPart (Number.half64 - 1) v.toNumber))
    else if ['o', 'x', 'X', 'u'].contains letter then
      let base := if letter = 'o' then 8 else if letter = 'u' then 10 else 16
      some (l.nat base (letter = 'X') (unsignedPart v.toNumber))
    else (Template.form? letter).map fun form => floatText l form letter.isUpper v.toNumber

def layOut (numbers : Raw) : (fuel : Nat) → List Char → List Value → (place : Nat) →
    List Raw × Option LayoutFault
  | 0, _, _, _ => ([], none)
  | _ + 1, [], _, _ => ([], none)
  | fuel + 1, '%' :: '%' :: cs, values, place =>
    let (pieces, fault) := layOut numbers fuel cs values place
    ("%" :: pieces, fault)
  | fuel + 1, '%' :: cs, values, place =>
    let flags := cs.takeWhile fun c => ['#', '-', '+', ' ', '0'].contains c
    let (width, rest) := Template.takeSize (cs.drop flags.length)
    let (precision, rest) : Size × List Char :=
      match rest with
      | '.' :: rest =>
        match Template.takeSize rest with
        | (.absent, rest) => (.given 0, rest)
        | r => r
      | rest => (.absent, rest)
    match sized width values with
    | none => ([], some .tooFew)
    | some (width, values) =>
      match sized precision values with
      | none => ([], some .tooFew)
      | some (precision, values) =>
        let l := Template.layout flags width precision
        match rest.dropWhile (fun c => c = 'l' || c = 'h'), values with
        | _, [] => ([], some .tooFew)
        | [], _ => ([], some (.improper place))
        | letter :: rest, v :: values =>
          match laidOut? numbers l letter v with
          | none => ([], some (.improper place))
          | some piece =>
            let (pieces, fault) := layOut numbers fuel rest values (place + 1)
            (piece :: pieces, fault)
  | fuel + 1, cs, values, place =>
    let front := cs.takeWhile (· ≠ '%')
    let (pieces, fault) := layOut numbers fuel (cs.drop front.length) values place
    (String.ofList front :: pieces, fault)

end ConfigVault.Host.Record
