import ConfigVault.Instance.Host.Print.Escape
import ConfigVault.Instance.Host.Print.Layout

/-!
# Templates

A template is a text with directives, each of which puts in an argument in a layout.  The template is
used again as long as arguments are left.
-/

namespace ConfigVault.Host

inductive Size where
  | absent
  | given (n : Nat)
  | argument
  deriving DecidableEq, Repr

structure Directive where
  flags : List Char
  width : Size
  precision : Size
  letter : Char
  spelling : Raw

inductive TemplatePart where
  | char (c : Char)
  | directive (d : Directive)
  | unfinished (spelling : Raw)
  | ends

namespace Template

def takeSize (cs : List Char) : Size × List Char :=
  match cs with
  | '*' :: rest => (.argument, rest)
  | _ =>
    let (n, rest) := Number.takeDigits 10 cs
    if rest.length = cs.length then (.absent, cs) else (.given n, rest)

def parts (style : EscapeStyle) : (fuel : Nat) → List Char → List TemplatePart
  | 0, _ => []
  | _ + 1, [] => []
  | fuel + 1, '\\' :: rest =>
    match style.read rest with
    | .char c rest => .char c :: parts style fuel rest
    | .ends => [.ends]
    | .plain => .char '\\' :: parts style fuel rest
  | fuel + 1, '%' :: '%' :: rest => .char '%' :: parts style fuel rest
  | fuel + 1, '%' :: cs =>
    let flags := cs.takeWhile fun c => ['#', '-', '+', ' ', '0'].contains c
    let (width, rest) := takeSize (cs.drop flags.length)
    let (precision, rest) : Size × List Char :=
      match rest with
      | '.' :: rest =>
        match takeSize rest with
        | (.absent, rest) => (.given 0, rest)
        | r => r
      | rest => (.absent, rest)
    match rest with
    | [] => [.unfinished (String.ofList ('%' :: cs))]
    | letter :: rest =>
      let spelling := String.ofList ('%' :: cs.take (cs.length - rest.length))
      .directive ⟨flags, width, precision, letter, spelling⟩ :: parts style fuel rest
  | fuel + 1, c :: rest => .char c :: parts style fuel rest

inductive ArgumentFault where
  | noNumber
  | leftover
  | outOfRange
  deriving DecidableEq, Repr

/-- What ends the use of a template before its end. -/
inductive Stop where
  | asked
  | unknown (spelling : Raw)
  | unfinished (spelling : Raw)
  deriving Repr

/-- What is known while a template is used. -/
structure Progress where
  arguments : List Raw
  output : Raw
  faults : List (Raw × ArgumentFault)
  asks : Bool
  stop : Option Stop

namespace Progress

def next (p : Progress) : Option Raw × Progress :=
  (p.arguments.head?, { p with arguments := p.arguments.drop 1, asks := true })

def add (p : Progress) (text : Raw) : Progress := { p with output := p.output ++ text }

def blame (p : Progress) (argument : Raw) (fault : ArgumentFault) : Progress :=
  { p with faults := (argument, fault) :: p.faults }

/-- The number of the character behind a quotation mark. -/
def quotedCode? (argument : Raw) : Option Nat :=
  match argument.toList with
  | c :: rest => if c = '"' || c = '\x27' then some ((rest.headD '\x00').toNat) else none
  | [] => none

/-- The next argument as a whole number between two bounds. -/
def nextInt (p : Progress) (low high : Int) : Int × Progress :=
  match p.next with
  | (none, p) => (0, p)
  | (some argument, p) =>
    match quotedCode? argument with
    | some code => (code, p)
    | none =>
      if argument.isEmpty then (0, p)
      else
        match Number.takeInt? Number.takeNumber argument.toList with
        | none => (0, p.blame argument .noNumber)
        | some (n, rest) =>
          if n < low then (low, p.blame argument .outOfRange)
          else if high < n then (high, p.blame argument .outOfRange)
          else (n, if rest.isEmpty then p else p.blame argument .leftover)

def nextFloat (p : Progress) : Float × Progress :=
  match p.next with
  | (none, p) => (0.0, p)
  | (some argument, p) =>
    match quotedCode? argument with
    | some code => (Float.ofNat code, p)
    | none =>
      if argument.isEmpty then (0.0, p)
      else
        match Number.takeFloat? argument.toList with
        | none => (0.0, p.blame argument .noNumber)
        | some (x, rest) => (x, if rest.isEmpty then p else p.blame argument .leftover)

def size (p : Progress) : Size → Option Int × Progress
  | .absent => (none, p)
  | .given n => (some n, p)
  | .argument => let (n, p) := p.nextInt (-Number.half32) (Number.half32 - 1); (some n, p)

end Progress

def layout (flags : List Char) (width precision : Option Int) : Layout where
  left := flags.contains '-' || (width.getD 0) < 0
  sign := if flags.contains '+' then some '+' else if flags.contains ' ' then some ' ' else none
  zeros := flags.contains '0'
  marked := flags.contains '#'
  width := (width.getD 0).natAbs
  precision := (precision.filter (0 ≤ ·)).map Int.toNat

def form? (letter : Char) : Option Layout.DecimalForm :=
  match letter.toLower with
  | 'f' => some .fixed
  | 'e' => some .scientific
  | 'g' => some .general
  | _ => none

/-- Does what a directive says; `style` is how backslashes in arguments are read. -/
def direct (style : EscapeStyle) (d : Directive) (p : Progress) : Progress :=
  let (width, p) := p.size d.width
  let (precision, p) := p.size d.precision
  let l := layout d.flags width precision
  if d.letter = 's' then
    let (argument, p) := p.next
    p.add (l.text (argument.getD ""))
  else if d.letter = 'b' then
    let (argument, p) := p.next
    let (text, ended) := style.text (argument.getD "")
    let p := p.add (l.text text)
    if ended then { p with stop := some .asked } else p
  else if d.letter = 'c' then
    let (argument, p) := p.next
    let c := (argument.getD "").toList.headD '\x00'
    p.add (l.pad c.toString)
  else if d.letter = 'd' || d.letter = 'i' then
    let (n, p) := p.nextInt (-Number.half64) (Number.half64 - 1)
    p.add (l.int n)
  else if ['o', 'u', 'x', 'X'].contains d.letter then
    let (n, p) := p.nextInt (-(Number.whole64 - 1)) (Number.whole64 - 1)
    let base := if d.letter = 'o' then 8 else if d.letter = 'u' then 10 else 16
    p.add (l.nat base (d.letter = 'X') (n % Number.whole64).toNat)
  else
    match form? d.letter with
    | some form =>
      let (x, p) := p.nextFloat
      p.add (l.float form d.letter.isUpper x)
    | none => { p with stop := some (.unknown d.spelling) }

def use (style : EscapeStyle) (parts : List TemplatePart) (p : Progress) : Progress :=
  parts.foldl (fun p part =>
    if p.stop.isSome then p
    else
      match part with
      | .char c => p.add c.toString
      | .directive d => direct style d p
      | .unfinished spelling => { p with stop := some (.unfinished spelling) }
      | .ends => { p with stop := some .asked }) p

/-- Uses a template as long as arguments are left, within `fuel` times. -/
def repeated (style : EscapeStyle) (parts : List TemplatePart) : (fuel : Nat) → Progress → Progress
  | 0, p => p
  | fuel + 1, p =>
    let p := use style parts p
    if p.stop.isSome || p.arguments.isEmpty || !p.asks then p else repeated style parts fuel p

def print (outer inner : EscapeStyle) (template : Raw) (arguments : List Raw) : Progress :=
  let ps := parts outer (template.length + 1) template.toList
  repeated inner ps (arguments.length + 1) ⟨arguments, "", [], false, none⟩

end Template

end ConfigVault.Host
