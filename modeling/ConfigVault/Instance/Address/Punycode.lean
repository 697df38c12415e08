/-!
# Punycode

Characters outside of ASCII written in letters and digits.  The characters of ASCII come first; behind
them stands, in the order of the code points, how far each other character is from the one before it,
counted over code points and places together.  These gaps are numbers in base thirty-six whose digits
tell themselves where a number ends; how they do that adapts to the gaps before.
-/

namespace ConfigVault.Address.Punycode

/-! ## Digits -/

def digitChar (d : Nat) : Char :=
  if d < 26 then Char.ofNat (97 + d) else Char.ofNat (22 + d)

def digit? (c : Char) : Option Nat :=
  if 'a' ≤ c && c ≤ 'z' then some (c.toNat - 97)
  else if 'A' ≤ c && c ≤ 'Z' then some (c.toNat - 65)
  else if '0' ≤ c && c ≤ '9' then some (c.toNat - 22)
  else none

/-- The least digit after which a number goes on, for the digit with thirty-six times its place as
`weight`. -/
def threshold (weight bias : Nat) : Nat :=
  if weight ≤ bias then 1 else min 26 (weight - bias)

theorem threshold_pos (weight bias : Nat) : 1 ≤ threshold weight bias := by
  unfold threshold
  split <;> omega

/-- Brings a gap down to the range of common ones, counting the digits that this takes off. -/
def settle (gap weight : Nat) : Nat :=
  if 455 < gap then settle (gap / 35) (weight + 36) else weight + 36 * gap / (gap + 38)
termination_by gap
decreasing_by exact Nat.div_lt_self (by omega) (by omega)

/-- The bias after a gap, where so many characters have been placed; the first gap tells little about
the next ones. -/
def adapt (gap placed : Nat) (first : Bool) : Nat :=
  let gap := if first then gap / 700 else gap / 2
  settle (gap + gap / placed) 0

def writeGap (bias weight gap : Nat) : List Char :=
  let t := threshold weight bias
  if gap < t then [digitChar gap]
  else
    digitChar (t + (gap - t) % (36 - t)) :: writeGap bias (weight + 36) ((gap - t) / (36 - t))
termination_by gap
decreasing_by
  have low := threshold_pos weight bias
  calc (gap - threshold weight bias) / (36 - threshold weight bias)
      ≤ gap - threshold weight bias := Nat.div_le_self _ _
    _ < gap := by omega

def writeGaps (bias placed : Nat) (first : Bool) : List Nat → List Char
  | [] => []
  | gap :: rest =>
    writeGap bias 36 gap ++ writeGaps (adapt gap (placed + 1) first) (placed + 1) false rest

/-! ## Gaps -/

/-- The gaps of one code point in a text, where `gap` has been counted before it; and what has been
counted since the last of them.  Only places of characters that are written before count. -/
def gapsOf (code gap : Nat) : List Nat → List Nat × Nat
  | [] => ([], gap)
  | n :: rest =>
    if n < code then gapsOf code (gap + 1) rest
    else if n = code then
      let (gaps, gap') := gapsOf code 0 rest
      (gap :: gaps, gap')
    else gapsOf code gap rest

/-- The gaps of code points in increasing order; `next` is the code point from which the next one is
counted. -/
def gapsFrom (text : List Nat) (placed next gap : Nat) : List Nat → List Nat
  | [] => []
  | code :: rest =>
    let (gaps, gap) := gapsOf code (gap + (code - next) * (placed + 1)) text
    gaps ++ gapsFrom text (placed + gaps.length) (code + 1) (gap + 1) rest

/-- A text in letters and digits. -/
def encode (cs : List Char) : List Char :=
  let plain := cs.filter fun c => c.toNat < 128
  let codes := cs.map Char.toNat
  let others := ((codes.filter (128 ≤ ·)).mergeSort fun a b => decide (a ≤ b)).eraseDups
  let gaps := gapsFrom codes plain.length 128 0 others
  plain ++ (if plain.isEmpty then [] else ['-']) ++ writeGaps 72 plain.length true gaps

/-! ## Reading -/

def readGap? (bias weight unit gap : Nat) : List Char → Option (Nat × List Char)
  | [] => none
  | c :: rest =>
    match digit? c with
    | none => none
    | some d =>
      let t := threshold weight bias
      if d < t then some (gap + d * unit, rest)
      else readGap? bias (weight + 36) (unit * (36 - t)) (gap + d * unit) rest

theorem length_lt_of_readGap? {bias weight unit gap : Nat} {cs : List Char} {r : Nat × List Char}
    (h : readGap? bias weight unit gap cs = some r) : r.2.length < cs.length := by
  fun_induction readGap? bias weight unit gap cs with
  | case1 => simp at h
  | case2 => simp at h
  | case3 => simp at h; subst h; simp
  | case4 _ _ _ _ _ _ _ _ _ ih => have := ih h; simp; omega

/-- Puts characters into a text by their gaps; `next` is how far places have been counted. -/
def place? (bias code next : Nat) (first : Bool) (text : List Char) (cs : List Char) :
    Option (List Char) :=
  match cs with
  | [] => some text
  | c :: rest =>
    match _h : readGap? bias 36 1 0 (c :: rest) with
    | none => none
    | some (gap, after) =>
      let places := text.length + 1
      let code := code + (next + gap) / places
      let spot := (next + gap) % places
      if code < 0xD800 || (0xE000 ≤ code && code < 0x110000) then
        place? (adapt gap places first) code (spot + 1) false
          (text.take spot ++ Char.ofNat code :: text.drop spot) after
      else none
termination_by cs.length
decreasing_by exact length_lt_of_readGap? (by assumption)

/-- The text that letters and digits stand for; characters of ASCII end at the last hyphen. -/
def decode? (cs : List Char) : Option (List Char) :=
  let behind := (cs.reverse.takeWhile (· ≠ '-')).reverse
  let plain := cs.take (cs.length - behind.length - 1)
  place? 72 128 0 true plain behind

end ConfigVault.Address.Punycode
