import ConfigVault.Instance.Host.Pattern.Letter

/-!
# Patterns of text

Patterns with choices, repetitions and groups.  A pattern is laid over a text, where each of its
characters becomes the set of the positions at which it fits; a set of positions is a number with one bit
for each.  The positions that the pattern leads to from a set of positions are then found part by part,
and repetition is a fixed point.  Of all matches the one that starts first is taken, and of those the
longest; its groups are as long as can be, the first ones first.
-/

namespace ConfigVault.Host

inductive Edge where
  | lineStart
  | lineEnd
  | textStart
  | textEnd
  | wordStart
  | wordEnd
  | word
  /-- Neither a start nor an end of a word. -/
  | noWord
  | notBehindWord
  | notBeforeWord
  deriving DecidableEq, Repr

inductive Pattern where
  | nothing
  | one (negated : Bool) (items : List SetItem)
  | edge (edge : Edge)
  | both (first second : Pattern)
  | either (first second : Pattern)
  | many (part : Pattern) (least : Nat) (most : Option Nat)
  | group (number : Nat) (part : Pattern)
  | again (number : Nat)
  deriving Repr

namespace Pattern

def char (c : Char) : Pattern := .one false [.range c c]

def any : Pattern := .one true []

def looksBack : Pattern → Bool
  | .both a b => a.looksBack || b.looksBack
  | .either a b => a.looksBack || b.looksBack
  | .many a _ _ => a.looksBack
  | .group _ a => a.looksBack
  | .again _ => true
  | _ => false

def groups : Pattern → Nat
  | .both a b => max a.groups b.groups
  | .either a b => max a.groups b.groups
  | .many a _ _ => a.groups
  | .group n a => max n a.groups
  | _ => 0

end Pattern

/-- A text over which patterns are laid. -/
structure Page where
  letters : Array Char
  folds : Bool
  lines : Bool
  /-- Bytes that are no part of a character count as characters. -/
  strays : Bool

namespace Page

def hasWord (page : Page) (i : Nat) : Bool := (page.letters[i]?).any isWordLetter

def followsWord (page : Page) (i : Nat) : Bool := i ≠ 0 && page.hasWord (i - 1)

def isAt (page : Page) (i : Nat) : Edge → Bool
  | .lineStart => i = 0 || (page.lines && page.letters[i - 1]? = some '\n')
  | .lineEnd => i = page.letters.size || (page.lines && page.letters[i]? = some '\n')
  | .textStart => i = 0
  | .textEnd => i = page.letters.size
  | .wordStart => page.hasWord i && !page.followsWord i
  | .wordEnd => page.followsWord i && !page.hasWord i
  | .word => page.hasWord i != page.followsWord i
  | .noWord => page.hasWord i = page.followsWord i
  | .notBehindWord => !page.followsWord i
  | .notBeforeWord => !page.hasWord i

def holds (page : Page) (items : List SetItem) (c : Char) : Bool :=
  items.any fun item =>
    item.standsFor c ||
      (page.folds && (item.standsFor c.toLower || item.standsFor c.toUpper ||
        (128 ≤ c.toNat && (Text.lowerChar c ++ Text.upperChar c).any item.standsFor)))

/-- A character is one of some items, or none of them; a byte that is no part of a character is
neither, unless it counts as one. -/
def suits (page : Page) (negated : Bool) (items : List SetItem) (c : Char) : Bool :=
  if negated then (page.strays || !Raw.isStray c) && !page.holds items c else page.holds items c

/-- The positions with a property among so many from one on, as a set that begins with that one. -/
def positionsFrom (p : Nat → Bool) (start : Nat) : (count : Nat) → Nat
  | 0 => 0
  | count + 1 =>
    let front := positionsFrom p start count
    if p (start + count) then front ||| (1 <<< count) else front

/-- The number of positions that are taken together. -/
def chunk : Nat := 64

def positions (p : Nat → Bool) (size : Nat) : Nat :=
  let last := positionsFrom p (size / chunk * chunk) (size % chunk)
  (List.range (size / chunk)).foldr
    (fun k s => (s <<< chunk) ||| positionsFrom p (k * chunk) chunk) last

end Page

/-- A pattern that is laid over a text: sets of positions instead of characters. -/
inductive Net where
  | nothing
  | step (places : Nat)
  | edge (places : Nat)
  | both (first second : Net)
  | either (first second : Net)
  | many (part : Net) (least : Nat) (most : Option Nat)
  | group (number : Nat) (part : Net)

namespace Pattern

def netOver (page : Page) : Pattern → Net
  | .nothing => .nothing
  | .one negated items =>
    .step (Page.positions (fun i => (page.letters[i]?).any (page.suits negated items))
      page.letters.size)
  | .edge e => .edge (Page.positions (fun i => page.isAt i e) (page.letters.size + 1))
  | .both a b => .both (a.netOver page) (b.netOver page)
  | .either a b => .either (a.netOver page) (b.netOver page)
  | .many a least most => .many (a.netOver page) least most
  | .group n a => .group n (a.netOver page)
  | .again _ => .nothing

end Pattern

namespace Net

def times (f : Nat → Nat) : Nat → Nat → Nat
  | 0, s => s
  | n + 1, s => times f n (f s)

/-- Adds what a step leads to until nothing is new, within `fuel` steps. -/
def grow (f : Nat → Nat) : (fuel : Nat) → Nat → Nat
  | 0, s => s
  | fuel + 1, s =>
    let t := s ||| f s
    if t = s then s else grow f fuel t

/-- The positions that a set leads to by any number of steps over some places: the places of a run are
filled by the carry of a sum. -/
def star (places s : Nat) : Nat := (((s &&& places) + places) ^^^ places) ||| s

/-- The positions to which a net leads from a set of positions in a text of a size. -/
def ends (size : Nat) : Net → Nat → Nat
  | .nothing, s => s
  | .step places, s => (s &&& places) <<< 1
  | .edge places, s => s &&& places
  | .both a b, s => b.ends size (a.ends size s)
  | .either a b, s => a.ends size s ||| b.ends size s
  | .many a least most, s =>
    let s := times (fun t => a.ends size t) least s
    match most, a with
    | none, .step places => star places s
    | none, a => grow (fun t => a.ends size t) (size + 2) s
    | some most, a => times (fun t => t ||| a.ends size t) (most - least) s
  | .group _ a, s => a.ends size s

def has (s i : Nat) : Bool := s.testBit i

/-- The least position from `low` up to `high` that a condition holds of, when it holds of all behind that
and of `high`; the positions are halved, within `fuel` times. -/
def least (p : Nat → Bool) : (fuel : Nat) → (low high : Nat) → Nat
  | 0, _, high => high
  | fuel + 1, low, high =>
    if high ≤ low then high
    else
      let middle := (low + high) / 2
      if p middle then least p fuel low middle else least p fuel (middle + 1) high

def between (low high : Nat) : Nat := ((1 <<< (high + 1 - low)) - 1) <<< low

/-- The greatest position below one that a condition holds of. -/
def last? (p : Nat → Bool) : (bound : Nat) → Option Nat
  | 0 => none
  | bound + 1 => if p bound then some bound else last? p bound

/-- The start and the end of a group, with its number. -/
abbrev Span := Nat × Nat × Nat

/-- Goes through rounds of a repetition from one position to another, each as long as can be, within
`fuel` rounds. -/
def rounds (leads : Nat → Nat) (reach : Nat → Nat → Bool) (inner : Nat → Nat → List Span)
    (finish : Nat) : (fuel done start : Nat) → List Span
  | 0, _, _ => []
  | fuel + 1, done, start =>
    let next := leads start
    let found := last? (fun k => has next k && (start < k || start = finish) && reach (done + 1) k)
      (finish + 1)
    match found with
    | none => []
    | some k =>
      if k = start then inner start k
      else if k = finish then inner start k
      else
        match rounds leads reach inner finish fuel (done + 1) k with
        | [] => inner start k
        | spans => inner start k ++ spans

/-- The groups of a match from one position to another, those that were matched last at the end. -/
def spans (size : Nat) : Net → (start finish : Nat) → List Span
  | .both a b, start, finish =>
    let middle := a.ends size (1 <<< start)
    match last? (fun k => has middle k && has (b.ends size (1 <<< k)) finish) (finish + 1) with
    | some k => a.spans size start k ++ b.spans size k finish
    | none => []
  | .either a b, start, finish =>
    if has (a.ends size (1 <<< start)) finish then a.spans size start finish
    else b.spans size start finish
  | .many a least most, start, finish =>
    let reach (done k : Nat) : Bool :=
      has ((Net.many a (least - done) (most.map (· - done))).ends size (1 <<< k)) finish &&
        most.all fun m => done ≤ m
    if start = finish && least = 0 then []
    else
      rounds (fun i => a.ends size (1 <<< i)) reach (fun i k => a.spans size i k) finish (size + 2) 0
        start
  | .group n a, start, finish => a.spans size start finish ++ [(n, start, finish)]
  | _, _, _ => []

end Net

/-- What a pattern has found: where it starts and ends, and its groups. -/
structure Found where
  start : Nat
  finish : Nat
  groups : List Net.Span

namespace Found

/-- The start and the end of a group; of the whole for zero. -/
def group? (f : Found) (n : Nat) : Option (Nat × Nat) :=
  if n = 0 then some (f.start, f.finish)
  else (f.groups.reverse.find? (·.1 = n)).map Prod.snd

end Found

namespace Pattern

/-- The ways to match from a position, the preferred ones first: where they end and the groups, within
`fuel` rounds of repetitions. -/
def ways (page : Page) (fuel : Nat) : Pattern → Nat → List Net.Span → List (Nat × List Net.Span)
  | .nothing, i, spans => [(i, spans)]
  | .one negated items, i, spans =>
    match page.letters[i]? with
    | some c => if page.suits negated items c then [(i + 1, spans)] else []
    | none => []
  | .edge e, i, spans => if page.isAt i e then [(i, spans)] else []
  | .both a b, i, spans => (a.ways page fuel i spans).flatMap fun w => b.ways page fuel w.1 w.2
  | .either a b, i, spans => a.ways page fuel i spans ++ b.ways page fuel i spans
  | .many a least most, i, spans =>
    let rec rounds : (fuel done i : Nat) → List Net.Span → List (Nat × List Net.Span)
      | 0, done, i, spans => if least ≤ done then [(i, spans)] else []
      | fuel + 1, done, i, spans =>
        let more :=
          if most.all fun m => done < m then
            ((a.ways page fuel i spans).filter fun w => i < w.1 || done < least).flatMap fun w =>
              rounds fuel (done + 1) w.1 w.2
          else []
        more ++ (if least ≤ done then [(i, spans)] else [])
    rounds fuel 0 i spans
  | .group n a, i, spans =>
    (a.ways page fuel i spans).map fun w => (w.1, w.2 ++ [(n, i, w.1)])
  | .again n, i, spans =>
    match (spans.reverse.find? (·.1 = n)).map Prod.snd with
    | none => []
    | some (start, finish) =>
      let length := finish - start
      let same := (List.range length).all fun k =>
        match page.letters[start + k]?, page.letters[i + k]? with
        | some c, some d => c = d || (page.folds && c.toLower = d.toLower)
        | _, _ => false
      if same then [(i + length, spans)] else []

def longest (ways : List (Nat × List Net.Span)) : Option (Nat × List Net.Span) :=
  ways.foldl (fun best w =>
    match best with
    | none => some w
    | some b => if b.1 < w.1 then some w else best) none

/-- The first match of a net, in a text of a size, that starts at a position or behind it. -/
def ofNet? (net : Net) (size start : Nat) : Option Found :=
  if size < start || net.ends size (Net.between start size) = 0 then none
  else
    let leads (i : Nat) : Bool := net.ends size (Net.between start i) ≠ 0
    let first := Net.least leads (size.log2 + 2) start size
    let finish := (net.ends size (1 <<< first)).log2
    some ⟨first, finish, net.spans size first finish⟩

/-- The first match of a pattern that starts at a position of a page or behind it; the net is the pattern
laid over the page. -/
def findWith? (pattern : Pattern) (page : Page) (net : Net) (start : Nat) : Option Found :=
  let size := page.letters.size
  if pattern.looksBack then
    (List.range (size + 1 - start)).findSome? fun k =>
      (longest (pattern.ways page (size + 2) (start + k) [])).map fun w =>
        ⟨start + k, w.1, w.2⟩
  else ofNet? net size start

def find? (pattern : Pattern) (page : Page) (start : Nat) : Option Found :=
  pattern.findWith? page (pattern.netOver page) start

def isIn (pattern : Pattern) (page : Page) : Bool :=
  if pattern.looksBack then (pattern.find? page 0).isSome
  else
    let size := page.letters.size
    (pattern.netOver page).ends size ((1 <<< (size + 1)) - 1) ≠ 0

def isWhole (pattern : Pattern) (page : Page) : Bool :=
  let size := page.letters.size
  if pattern.looksBack then
    (pattern.ways page (size + 2) 0 []).any fun w => w.1 = size
  else Net.has ((pattern.netOver page).ends size 1) size

end Pattern

end ConfigVault.Host
