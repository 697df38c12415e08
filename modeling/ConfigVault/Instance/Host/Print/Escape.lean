import ConfigVault.Instance.Host.Number

/-!
# Characters behind a backslash

The characters that are hard to write are written as a backslash and a letter, or the number of the
character.  Programs differ in what they know of this.
-/

namespace ConfigVault.Host

/-- What is known behind a backslash. -/
structure EscapeStyle where
  /-- Numbers in base sixteen behind an `x`. -/
  hex : Bool
  /-- A zero in front of three digits of a number in base eight. -/
  longOctal : Bool
  ends : Bool
  deriving Repr

/-- What stands behind a backslash. -/
inductive Escaped where
  | char (c : Char) (rest : List Char)
  | ends
  | plain
  deriving Repr

namespace EscapeStyle

def letters : List (Char × Nat) :=
  [('a', 7), ('b', 8), ('e', 27), ('f', 12), ('n', 10), ('r', 13), ('t', 9), ('v', 11), ('\\', 92)]

def takeByte (base count : Nat) (cs : List Char) : Char × List Char :=
  let (n, rest) := Number.takeDigits base (cs.take count)
  (Char.ofNat (n % 256), cs.drop ((cs.take count).length - rest.length))

def read (style : EscapeStyle) (cs : List Char) : Escaped :=
  match cs with
  | [] => .plain
  | c :: rest =>
    if c = 'c' && style.ends then .ends
    else if c = '0' && style.longOctal then
      let (d, rest) := takeByte 8 3 rest
      .char d rest
    else if '0' ≤ c && c ≤ '7' then
      let (d, rest) := takeByte 8 3 cs
      .char d rest
    else if c = 'x' && style.hex && rest.head?.any (fun d => (Number.digit? d).any (· < 16)) then
      let (d, rest) := takeByte 16 2 rest
      .char d rest
    else
      match letters.find? (·.1 = c) with
      | some (_, n) => .char (Char.ofNat n) rest
      | none => .plain

/-- A text with its backslashes taken out, and whether it ends the output; within `fuel` characters. -/
def decode (style : EscapeStyle) : (fuel : Nat) → List Char → List Char × Bool
  | 0, _ => ([], false)
  | _ + 1, [] => ([], false)
  | fuel + 1, '\\' :: rest =>
    match style.read rest with
    | .char c rest => let (cs, ended) := decode style fuel rest; (c :: cs, ended)
    | .ends => ([], true)
    | .plain => let (cs, ended) := decode style fuel rest; ('\\' :: cs, ended)
  | fuel + 1, c :: rest => let (cs, ended) := decode style fuel rest; (c :: cs, ended)

/-- A text with its backslashes taken out, and whether it ends the output. -/
def text (style : EscapeStyle) (raw : Raw) : Raw × Bool :=
  let (cs, ended) := style.decode (raw.length + 1) raw.toList
  (String.ofList cs, ended)

end EscapeStyle

end ConfigVault.Host
