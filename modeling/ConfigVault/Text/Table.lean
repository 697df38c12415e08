import ConfigVault.Text.Digit

/-!
# Tables of code points

A table is written as a text of hexadecimal numbers with blanks between them.  A set of code points is
the list of its closed ranges.
-/

namespace ConfigVault.Text

/-- Reads the numbers of a text: `read` are those before, the last one first, and `current` is the
number whose digits are being read. -/
def hexNumbersFrom (read : List Nat) (current : Option Nat) : List Char → List Nat
  | [] => (current.toList ++ read).reverse
  | c :: rest =>
    match hexDigit? c with
    | some d => hexNumbersFrom read (some (current.getD 0 * 16 + d)) rest
    | none => hexNumbersFrom (current.toList ++ read) none rest

def hexNumbers (s : String) : List Nat := hexNumbersFrom [] none s.toList

/-- Numbers taken two by two. -/
def pairs : List Nat → List (Nat × Nat)
  | a :: b :: rest => (a, b) :: pairs rest
  | _ => []

/-- Numbers taken three by three. -/
def triples : List Nat → List (Nat × Nat × Nat)
  | a :: b :: c :: rest => (a, b, c) :: triples rest
  | _ => []

/-- A character lies in one of some closed ranges. -/
def inRanges (ranges : List (Nat × Nat)) (c : Char) : Bool :=
  ranges.any fun range => range.1 ≤ c.toNat && c.toNat ≤ range.2

end ConfigVault.Text
