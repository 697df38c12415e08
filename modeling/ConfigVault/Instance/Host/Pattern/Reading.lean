import ConfigVault.Instance.Host.Pattern.Basic
import ConfigVault.Instance.Host.Print.Escape

/-!
# Reading patterns

There are two ways to write patterns, the basic one, in which the signs for choices, groups and numbers
of repetitions have a backslash in front, and the extended one, in which they have not.  Programs for
records use the extended one and know characters behind backslashes besides.
-/

namespace ConfigVault.Host.Pattern

/-- A way to write patterns. -/
inductive Dialect where
  | basic
  | extended
  /-- The extended one with characters behind backslashes. -/
  | records
  deriving DecidableEq, Repr

/-- Why a text is no pattern. -/
inductive Fault where
  | openSet
  | openGroup
  | openNumber
  | closedGroup
  | trailing
  | reference
  | range
  | number
  | nothingToRepeat
  | className
  /-- Nothing follows an opening bracket. -/
  | bare
  deriving DecidableEq, Repr

def Fault.message : Fault → Raw
  | openSet => "Unmatched [, [^, [:, [., or [="
  | openGroup => "Unmatched ( or \x5c("
  | openNumber => "Unmatched \x5c\x7b"
  | closedGroup => "Unmatched ) or \x5c)"
  | trailing => "Trailing backslash"
  | reference => "Invalid back reference"
  | range => "Invalid range end"
  | number => "Invalid content of \x5c\x7b\x5c\x7d"
  | nothingToRepeat => "Invalid preceding regular expression"
  | className => "Invalid character class name"
  | bare => "Invalid regular expression"

/-- What is known while a pattern is read. -/
structure Progress where
  rest : List Char
  groups : Nat
  closed : List Nat
  /-- Signs of repetitions with nothing in front, the last one first. -/
  idle : List Raw

abbrev Reading (α : Type) := StateT Progress (Except Fault) α

def rest : Reading (List Char) := do return (← get).rest

def skip (count : Nat) : Reading Unit := modify fun p => { p with rest := p.rest.drop count }

/-! ## Sets of characters -/

def takeName (mark : Char) (cs : List Char) : Except Fault (String × List Char) :=
  let name := cs.takeWhile (· ≠ mark)
  match cs.drop name.length with
  | _ :: ']' :: rest => .ok (String.ofList name, rest)
  | _ => .error .openSet

/-- A character of a set, with a backslash in front where the dialect knows it. -/
def takeLetter (dialect : Dialect) (cs : List Char) : Except Fault (Char × List Char) :=
  match cs with
  | [] => .error .openSet
  | '[' :: '.' :: rest => do
    let (name, rest) ← takeName '.' rest
    match name.toList with
    | [c] => return (c, rest)
    | _ => throw .range
  | '[' :: '=' :: rest => do
    let (name, rest) ← takeName '=' rest
    match name.toList with
    | [c] => return (c, rest)
    | _ => throw .range
  | '\\' :: c :: rest =>
    if dialect = .records then
      match (⟨false, false, false⟩ : EscapeStyle).read (c :: rest) with
      | .char d rest => .ok (d, rest)
      | _ => .ok (c, rest)
    else .ok ('\\', c :: rest)
  | c :: rest => .ok (c, rest)

def takeItems (dialect : Dialect) : (fuel : Nat) → (first : Bool) → List Char →
    Except Fault (List SetItem × List Char)
  | 0, _, _ => .error .openSet
  | fuel + 1, first, cs => do
    match cs, first with
    | ']' :: rest, false => return ([], rest)
    | '[' :: ':' :: rest, _ =>
      let (name, rest) ← takeName ':' rest
      if (charClass? name).isNone then throw .className
      let (items, rest) ← takeItems dialect fuel false rest
      return (.named name :: items, rest)
    | cs, _ =>
      let (low, rest) ← takeLetter dialect cs
      match rest with
      | '-' :: d :: _ =>
        if d = ']' then
          let (items, rest) ← takeItems dialect fuel false rest
          return (.range low low :: items, rest)
        else
          let (high, rest) ← takeLetter dialect (rest.drop 1)
          if high < low then throw .range
          let (items, rest) ← takeItems dialect fuel false rest
          return (.range low high :: items, rest)
      | _ =>
        let (items, rest) ← takeItems dialect fuel false rest
        return (.range low low :: items, rest)

def readSet (dialect : Dialect) : Reading Pattern := do
  let cs ← rest
  let (negated, body) : Bool × List Char :=
    match cs with
    | '^' :: body => (true, body)
    | body => (false, body)
  if body.isEmpty then throw .bare
  match takeItems dialect (body.length + 1) true body with
  | .ok (items, left) =>
    modify fun p => { p with rest := left }
    return .one negated items
  | .error fault => throw fault

/-! ## Repetitions -/

def bounds? (mark : List Char) (cs : List Char) : Option (Nat × Option Nat × List Char) :=
  let low := cs.takeWhile Char.isDigit
  let behind := cs.drop low.length
  let close (least : Nat) (most : Option Nat) (rest : List Char) :
      Option (Nat × Option Nat × List Char) :=
    if mark.isPrefixOf rest then some (least, most, rest.drop mark.length) else none
  match behind with
  | ',' :: rest =>
    let high := rest.takeWhile Char.isDigit
    close ((Raw.nat? low).getD 0) (Raw.nat? high) (rest.drop high.length)
  | rest => (Raw.nat? low).bind fun n => close n (some n) rest

/-- The sign of a repetition in front of what is left: the bounds and what is left behind the sign.  In
programs for records, a sign that asks for two or more asks for no more than the least number. -/
def repetition? (dialect : Dialect) (cs : List Char) :
    Except Fault (Option (Nat × Option Nat × List Char)) :=
  match dialect, cs with
  | _, '*' :: rest => .ok (some (0, none, rest))
  | .basic, '\\' :: '+' :: rest => .ok (some (1, none, rest))
  | .basic, '\\' :: '?' :: rest => .ok (some (0, some 1, rest))
  | .basic, '\\' :: '{' :: rest =>
    match bounds? ['\\', '}'] rest with
    | some (low, high, rest) =>
      if high.all (low ≤ ·) then .ok (some (low, high, rest)) else .error .number
    | none => .error (if rest.contains '}' then .number else .openNumber)
  | .basic, _ => .ok none
  | _, '+' :: rest => .ok (some (1, none, rest))
  | _, '?' :: rest => .ok (some (0, some 1, rest))
  | .extended, '{' :: rest =>
    match bounds? ['}'] rest with
    | some (low, high, rest) =>
      if high.all (low ≤ ·) then .ok (some (low, high, rest)) else .error .number
    | none => .ok none
  | .records, '{' :: rest =>
    match bounds? ['}'] rest with
    | some (low, high, rest) =>
      if !high.all (low ≤ ·) then .error .number
      else if 2 ≤ low then .ok (some (low, some low, rest))
      else .ok (some (low, high, rest))
    | none => if rest.head? = some '}' then .error .number else .ok none
  | _, _ => .ok none

def readRepetitions (dialect : Dialect) : (fuel : Nat) → Pattern → Reading Pattern
  | 0, part => return part
  | fuel + 1, part => do
    match repetition? dialect (← rest) with
    | .error fault => throw fault
    | .ok none => return part
    | .ok (some (least, most, left)) =>
      modify fun p => { p with rest := left }
      readRepetitions dialect fuel (.many part least most)

/-! ## Parts -/

def letterClass? (c : Char) : Option Pattern :=
  let word : List SetItem := [.named "alnum", .range '_' '_']
  match c with
  | 'w' => some (.one false word)
  | 'W' => some (.one true word)
  | 's' => some (.one false [.named "space"])
  | 'S' => some (.one true [.named "space"])
  | 'b' => some (.edge .word)
  | 'B' => some (.edge .noWord)
  | '<' => some (.edge .wordStart)
  | '>' => some (.edge .wordEnd)
  | '\x60' => some (.edge .textStart)
  | '\x27' => some (.edge .textEnd)
  | _ => none

def readEscape (dialect : Dialect) : Reading Pattern := do
  match ← rest with
  | [] => throw .trailing
  | c :: cs =>
    if dialect = .records then
      match (⟨false, false, false⟩ : EscapeStyle).read (c :: cs) with
      | .char d left =>
        modify fun p => { p with rest := left }
        return char d
      | _ =>
        skip 1
        return char c
    else
      skip 1
      match letterClass? c with
      | some part => return part
      | none =>
        if '1' ≤ c && c ≤ '9' then
          let n := c.toNat - 48
          if (← get).closed.contains n then return .again n else throw .reference
        else return char c

def endsBranch (dialect : Dialect) (inGroup : Bool) (cs : List Char) : Bool :=
  match dialect, cs with
  | _, [] => true
  | .basic, '\\' :: c :: _ => c = '|' || (c = ')' && inGroup)
  | .basic, _ => false
  | _, '|' :: _ => true
  | _, ')' :: _ => inGroup
  | _, _ => false

def signSize (dialect : Dialect) : Nat := if dialect = .basic then 2 else 1

def beginsChoice (dialect : Dialect) (cs : List Char) : Bool :=
  match dialect, cs with
  | .basic, '\\' :: '|' :: _ => true
  | .basic, _ => false
  | _, '|' :: _ => true
  | _, _ => false

mutual

def readChoice (dialect : Dialect) : (fuel : Nat) → (inGroup : Bool) → Reading Pattern
  | 0, _ => throw .openGroup
  | fuel + 1, inGroup => do
    let first ← readBranch dialect fuel inGroup true
    if beginsChoice dialect (← rest) then
      skip (signSize dialect)
      return .either first (← readChoice dialect fuel inGroup)
    else return first

def readBranch (dialect : Dialect) : (fuel : Nat) → (inGroup : Bool) → (first : Bool) →
    Reading Pattern
  | 0, _, _ => throw .openGroup
  | fuel + 1, inGroup, first => do
    if endsBranch dialect inGroup (← rest) then return .nothing
    let part ← readPart dialect fuel inGroup first
    let starts := first && part matches .edge .lineStart
    let part ←
      match dialect, part with
      | .basic, .edge .lineStart => pure part
      | _, _ => readRepetitions dialect ((← rest).length + 1) part
    let more ← readBranch dialect fuel inGroup (starts && dialect = .basic)
    match more with
    | .nothing => return part
    | more => return .both part more

def readPart (dialect : Dialect) : (fuel : Nat) → (inGroup : Bool) → (first : Bool) →
    Reading Pattern
  | 0, _, _ => throw .openGroup
  | fuel + 1, inGroup, first => do
    let group : Reading Pattern := do
      let n := (← get).groups + 1
      modify fun p => { p with groups := n }
      let inner ← readChoice dialect fuel true
      let closes : Bool :=
        match dialect, ← rest with
        | .basic, '\\' :: ')' :: _ => true
        | .basic, _ => false
        | _, ')' :: _ => true
        | _, _ => false
      if !closes then throw .openGroup
      skip (signSize dialect)
      modify fun p => { p with closed := n :: p.closed }
      return .group n inner
    match dialect, ← rest with
    | _, [] => return .nothing
    | _, '.' :: _ => skip 1; return any
    | _, '[' :: _ => skip 1; readSet dialect
    | .basic, '\\' :: '(' :: _ => skip 2; group
    | .basic, '\\' :: ')' :: _ => throw .closedGroup
    | .basic, '\\' :: '{' :: _ =>
      if first then
        skip 2
        return char '{'
      else throw .nothingToRepeat
    | .basic, '*' :: _ => skip 1; return char '*'
    | .basic, '^' :: _ =>
      skip 1
      return if first then .edge .lineStart else char '^'
    | .basic, '$' :: cs =>
      skip 1
      return if endsBranch .basic inGroup cs then .edge .lineEnd else char '$'
    | .basic, '\\' :: _ => skip 1; readEscape dialect
    | .basic, c :: _ => skip 1; return char c
    | _, '(' :: _ => skip 1; group
    | _, ')' :: _ => throw .closedGroup
    | _, '^' :: _ => skip 1; return .edge .lineStart
    | _, '$' :: _ => skip 1; return .edge .lineEnd
    | _, '\\' :: _ => skip 1; readEscape dialect
    | _, c :: cs =>
      let idle (sign : Raw) (left : List Char) : Reading Pattern := do
        modify fun p => { p with rest := left, idle := sign :: p.idle }
        return .nothing
      match first && (dialect = .extended || c ≠ '{'), c, bounds? ['}'] cs with
      | true, '{', some (_, _, left) => idle "\x7b...\x7d" left
      | true, '*', _ => idle "*" cs
      | true, '+', _ => idle "+" cs
      | true, '?', _ => idle "?" cs
      | _, _, _ =>
        skip 1
        return char c

end

/-- A pattern that is written in a dialect, and the signs of repetitions with nothing in front. -/
def ofLetters (dialect : Dialect) (cs : List Char) : Except Fault (Pattern × List Raw) := do
  let (pattern, p) ← (readChoice dialect (4 * cs.length + 8) false).run ⟨cs, 0, [], []⟩
  match p.rest with
  | [] => return (pattern, p.idle.reverse)
  | _ => throw .closedGroup

def ofText (dialect : Dialect) (text : Raw) : Except Fault Pattern :=
  (ofLetters dialect (Raw.letters text)).map Prod.fst

end ConfigVault.Host.Pattern
