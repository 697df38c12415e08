import ConfigVault.Instance.Host.Glob
import ConfigVault.Text.Case
import ConfigVault.Text.Digit
import ConfigVault.Text.Printable

/-!
# Classes of letters

The classes that patterns name, for characters beyond ASCII as well: what is shown and is neither a blank
nor a sign counts as a letter.
-/

namespace ConfigVault.Host

def signRanges : List (Nat × Nat) :=
  [(0xA1, 0xA9), (0xAB, 0xB4), (0xB6, 0xB9), (0xBB, 0xBF), (0xD7, 0xD7), (0xF7, 0xF7),
    (0x2C2, 0x2C5), (0x2D2, 0x2DF), (0x2010, 0x2070), (0x207A, 0x207E), (0x208A, 0x208E),
    (0x20A0, 0x20C0), (0x2190, 0x245F), (0x249C, 0x24B5), (0x2500, 0x2BFF), (0x2E00, 0x2E7F),
    (0x3001, 0x3004), (0x3008, 0x3020), (0xFE10, 0xFE6F), (0xFF01, 0xFF0F), (0xFF1A, 0xFF20),
    (0xFF3B, 0xFF40), (0xFF5B, 0xFF65), (0xFFE0, 0xFFFD), (0x1F000, 0x1FAFF)]

def isWideLetter (c : Char) : Bool :=
  Text.isPrintable c && !Text.isBlank c && !Text.inRanges signRanges c && c.toNat < 0x10FF00

def inClass (name : String) (c : Char) : Bool :=
  if c.toNat < 128 then ((charClass? name).map (· c)).getD false
  else
    match name with
    | "alpha" => isWideLetter c
    | "alnum" => isWideLetter c
    | "upper" => Text.lowerChar c ≠ [c]
    | "lower" => Text.upperChar c ≠ [c]
    | "punct" => Text.inRanges signRanges c
    | "space" => Text.isBlank c && c.toNat ≠ 0xA0
    | "blank" => Text.isBlank c && c.toNat ≠ 0xA0
    | "print" => Text.isPrintable c
    | "graph" => Text.isPrintable c && !Text.isBlank c
    | "cntrl" => c.toNat < 160
    | _ => false

def isWordLetter (c : Char) : Bool := c = '_' || inClass "alnum" c

def SetItem.standsFor (c : Char) : SetItem → Bool
  | .named name => inClass name c
  | item => item.holds c

end ConfigVault.Host
