import ConfigVault.Instance.Address.Label
import ConfigVault.Instance.Address.Number
import ConfigVault.Instance.Address.Percent
import ConfigVault.Text.Case

/-!
# Hosts

A host is given by a number or by a name.  Numbers have to be right; names in ASCII are written in
small letters and with escapes, and other names are brought to ASCII label by label.
-/

namespace ConfigVault.Address

open Text

def isDot (c : Char) : Bool :=
  [0x2E, 0x3002, 0xFF0E, 0xFF61].contains c.toNat

def labels : List Char → List (List Char)
  | [] => [[]]
  | c :: rest =>
    if isDot c then [] :: labels rest
    else
      match labels rest with
      | label :: more => (c :: label) :: more
      | [] => [[c]]

/-- The greatest length of a name without a dot at its end. -/
def maxNameLength : Nat := 253

/-- The form of a name in ASCII; a dot at its end stays. -/
def asciiName? (cs : List Char) : Option (List Char) := do
  let parts := labels cs
  let dotted := parts.getLastD [] = []
  let forms ← (if dotted then parts.dropLast else parts).mapM Label.ascii?
  let name := List.intercalate ['.'] (if dotted then forms ++ [[]] else forms)
  if name.length ≤ maxNameLength + (if dotted then 1 else 0) then some name else none

/-- The normal form of a host: none if it is no host.  A number in brackets loses them. -/
def normalHost? (cs : List Char) : Option (List Char) :=
  if looksLikeFourBytes cs then
    if isFourBytes cs then some cs else none
  else if cs.head? = some '[' && cs.getLast? = some ']' then
    let number := (cs.drop 1).dropLast
    if isEightGroups number then some number else none
  else if cs.all fun c => c.toNat < 128 then some (encode isHostChar (cs.map Char.toLower))
  else asciiName? (lower (String.ofList cs)).toList

end ConfigVault.Address
