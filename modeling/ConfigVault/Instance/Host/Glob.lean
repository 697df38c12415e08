import ConfigVault.Instance.Host.Raw

/-!
# Patterns of names

Patterns as the shell knows them: a star stands for any characters, a question mark for one, and
characters in brackets for one of them.  What is quoted stands for itself.
-/

namespace ConfigVault.Host

def charClass? (name : String) : Option (Char → Bool) :=
  let isPunct (c : Char) : Bool := 33 ≤ c.toNat && c.toNat ≤ 126 && !c.isAlphanum
  let isSpace (c : Char) : Bool := c = ' ' || (9 ≤ c.toNat && c.toNat ≤ 13)
  let classes : List (String × (Char → Bool)) :=
    [("alpha", Char.isAlpha), ("digit", Char.isDigit), ("alnum", Char.isAlphanum),
      ("upper", Char.isUpper), ("lower", Char.isLower), ("space", isSpace),
      ("blank", fun c => c = ' ' || c = '\t'), ("punct", isPunct),
      ("print", fun c => 32 ≤ c.toNat && c.toNat ≤ 126),
      ("graph", fun c => 33 ≤ c.toNat && c.toNat ≤ 126),
      ("cntrl", fun c => c.toNat < 32 || c.toNat = 127),
      ("xdigit", fun c => c.isDigit || ('a' ≤ c && c ≤ 'f') || ('A' ≤ c && c ≤ 'F'))]
  (classes.find? (·.1 = name)).map Prod.snd

inductive SetItem where
  | range (low high : Char)
  | named (name : String)
  deriving DecidableEq, Repr

def SetItem.holds (c : Char) : SetItem → Bool
  | range low high => low ≤ c && c ≤ high
  | named name => ((charClass? name).map (· c)).getD false

inductive GlobItem where
  | char (c : Char)
  | any
  | anything
  | oneOf (negated : Bool) (items : List SetItem)
  deriving DecidableEq, Repr

abbrev Glob := List GlobItem

namespace Glob

abbrev Letter := Char × Bool

def takeClass? (cs : List Letter) : Option (String × List Letter) :=
  match cs with
  | ('[', false) :: (':', false) :: rest =>
    let name := (rest.map Prod.fst).takeWhile fun c => c.isAlpha
    match rest.drop name.length with
    | (':', _) :: (']', _) :: rest => some (String.ofList name, rest)
    | _ => none
  | _ => none

def takeItems : (fuel : Nat) → (first : Bool) → List Letter → Option (List SetItem × List Letter)
  | 0, _, _ => none
  | _ + 1, _, [] => none
  | fuel + 1, first, cs =>
    match takeClass? cs with
    | some (name, rest) =>
      (takeItems fuel false rest).map fun r => (.named name :: r.1, r.2)
    | none =>
      match cs with
      | [] => none
      | (c, quoted) :: rest =>
        if c = ']' && !quoted && !first then some ([], rest)
        else
          match rest with
          | ('-', false) :: (d, q) :: rest' =>
            if d = ']' && !q then
              (takeItems fuel false rest).map fun r => (.range c c :: r.1, r.2)
            else (takeItems fuel false rest').map fun r => (.range c d :: r.1, r.2)
          | _ => (takeItems fuel false rest).map fun r => (.range c c :: r.1, r.2)

def ofLetters : (fuel : Nat) → List Letter → Glob
  | 0, _ => []
  | _ + 1, [] => []
  | fuel + 1, (c, true) :: rest => .char c :: ofLetters fuel rest
  | fuel + 1, (c, false) :: rest =>
    if c = '*' then .anything :: ofLetters fuel rest
    else if c = '?' then .any :: ofLetters fuel rest
    else if c = '[' then
      let (negated, items) :=
        match rest with
        | ('!', false) :: items => (true, items)
        | ('^', false) :: items => (true, items)
        | items => (false, items)
      match takeItems (items.length + 1) true items with
      | some (set, rest) => .oneOf negated set :: ofLetters fuel rest
      | none => .char c :: ofLetters fuel rest
    else .char c :: ofLetters fuel rest

/-- The pattern of a word; a backslash quotes the character behind it. -/
def ofText (text : Raw) : Glob :=
  ofLetters (text.length + 1) (letters text.toList)
where
  letters : List Char → List Letter
    | '\\' :: c :: rest => (c, true) :: letters rest
    | c :: rest => (c, false) :: letters rest
    | [] => []

def isMatch : Glob → List Char → Bool
  | [], cs => cs.isEmpty
  | .anything :: p, cs => anyTail (isMatch p) cs
  | _ :: _, [] => false
  | .char d :: p, c :: cs => c = d && isMatch p cs
  | .any :: p, _ :: cs => isMatch p cs
  | .oneOf negated set :: p, c :: cs => (set.any (SetItem.holds c) != negated) && isMatch p cs
where
  /-- Something holds of a text or of one of its ends. -/
  anyTail (p : List Char → Bool) : List Char → Bool
    | [] => p []
    | c :: cs => p (c :: cs) || anyTail p cs

def isOpen (letters : List Letter) : Bool :=
  letters.any fun l => !l.2 && (l.1 = '*' || l.1 = '?' || l.1 = '[')

/-- The text without the part at its front that a pattern matches. -/
def cutFront (p : Glob) (longest : Bool) (cs : List Char) : List Char :=
  let lengths := List.range (cs.length + 1)
  match (if longest then lengths.reverse else lengths).find? fun n => isMatch p (cs.take n) with
  | some n => cs.drop n
  | none => cs

/-- The text without the part at its end that a pattern matches. -/
def cutEnd (p : Glob) (longest : Bool) (cs : List Char) : List Char :=
  let lengths := List.range (cs.length + 1)
  match (if longest then lengths else lengths.reverse).find? fun n => isMatch p (cs.drop n) with
  | some n => cs.take n
  | none => cs

end Glob

end ConfigVault.Host
