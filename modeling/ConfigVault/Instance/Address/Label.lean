import ConfigVault.Instance.Address.Letter
import ConfigVault.Instance.Address.Punycode
import ConfigVault.Text.Composition

/-!
# Labels of host names

The parts of a host name between its dots.  A label in the letters of any script obeys rules about its
characters, about the signs that need certain neighbours, and about the direction in which it is
written; then it has a form in ASCII.
-/

namespace ConfigVault.Address.Label

open Text

def isCode (n : Nat) (c : Char) : Bool := c.toNat = n

def isArabicDigit (c : Char) : Bool := 0x660 ≤ c.toNat && c.toNat ≤ 0x669

def isPersianDigit (c : Char) : Bool := 0x6F0 ≤ c.toNat && c.toNat ≤ 0x6F9

/-- The mark that takes the vowel from the letter before it has this class. -/
def isVirama (c : Char) : Bool := markClass c.toNat = 9

def joins (sorts : List (List (Nat × Nat))) (cs : List Char) : Bool :=
  ((cs.find? fun c => !inRanges transparentRanges c).map fun c =>
    sorts.any fun ranges => inRanges ranges c).getD false

/-- A sign stands where it may stand; `before` are the characters in front of it, the last one first,
and `behind` those after it. -/
def fitsNeighbours (before : List Char) (c : Char) (behind : List Char) : Bool :=
  let all := before ++ c :: behind
  let next (p : Char → Bool) : Bool := (behind.head?.map p).getD false
  let last (p : Char → Bool) : Bool := (before.head?.map p).getD false
  if isCode 0x200C c then
    last isVirama || (joins [joinBehindRanges, joinBothRanges] before &&
      joins [joinBeforeRanges, joinBothRanges] behind)
  else if isCode 0x200D c then last isVirama
  else if isCode 0xB7 c then last (· = 'l') && next (· = 'l')
  else if isCode 0x375 c then next (inRanges greekRanges)
  else if isCode 0x5F3 c || isCode 0x5F4 c then last (inRanges hebrewRanges)
  else if isCode 0x30FB c then all.any (inRanges japaneseRanges)
  else if isArabicDigit c then !all.any isPersianDigit
  else if isPersianDigit c then !all.any isArabicDigit
  else false

/-- All characters of a label are allowed where they stand. -/
def fits (before : List Char) : List Char → Bool
  | [] => true
  | c :: rest =>
    (inRanges freeRanges c || fitsNeighbours before c rest) && fits (c :: before) rest

/-- No hyphen stands at the ends of a label, and no two of them where the mark of a form in ASCII
ends. -/
def hyphensFit (cs : List Char) : Bool :=
  cs.head? ≠ some '-' && cs.getLast? ≠ some '-' && (cs.drop 2).take 2 ≠ ['-', '-']

/-- The direction of a label fits: without letters that run from right to left anything does.  With
them the first letter tells the direction, only that direction occurs, digits are of one kind, and the
last character in front of the marks at the end is a letter or a digit. -/
def directionFits (cs : List Char) : Bool :=
  let directions := cs.map direction
  let last? := directions.reverse.find? (· ≠ .mark)
  let ends (sorts : List Direction) : Bool := (last?.map sorts.contains).getD false
  if !directions.any [Direction.rightToLeft, .arabicLetter, .arabicDigit].contains then true
  else
    match directions.head? with
    | some .rightToLeft => fromRight directions ends
    | some .arabicLetter => fromRight directions ends
    | _ => false
where
  fromRight (directions : List Direction) (ends : List Direction → Bool) : Bool :=
    !directions.contains .leftToRight &&
      !(directions.contains .arabicDigit && directions.contains .digit) &&
      ends [.rightToLeft, .arabicLetter, .digit, .arabicDigit]

/-- A label obeys the rules. -/
def isFit (cs : List Char) : Bool :=
  !cs.isEmpty && isComposed cs && hyphensFit cs &&
    !((cs.head?.map (inRanges markRanges)).getD true) && fits [] cs && directionFits cs

def mark : List Char := ['x', 'n', '-', '-']

/-- The greatest length of a label in ASCII. -/
def maxLength : Nat := 63

/-- The form of a label in ASCII.  A label in ASCII is its own form, but the label that it stands for
has to obey the rules. -/
def ascii? (cs : List Char) : Option (List Char) :=
  let form : Option (List Char) :=
    if cs.all fun c => c.toNat < 128 then
      let meant :=
        if mark.isPrefixOf cs then
          let rest := cs.drop mark.length
          if rest.isEmpty || rest.getLast? = some '-' then none else Punycode.decode? rest
        else some cs
      if (meant.map isFit).getD false then some cs else none
    else if isFit cs then some (mark ++ Punycode.encode cs)
    else none
  form.filter fun f => f.length ≤ maxLength

end ConfigVault.Address.Label
