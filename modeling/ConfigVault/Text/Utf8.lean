/-!
# UTF-8

Text as bytes and back.  Reading never fails: the longest start of a character that the bytes at
hand allow, when it is not a whole character, becomes one replacement character, and reading goes on
behind it.
-/

namespace ConfigVault.Text

def utf8Bytes (s : String) : List UInt8 :=
  s.toUTF8.toList

/-- What stands in a text for bytes that are no character. -/
def replacement : Char := Char.ofNat 0xFFFD

/-- The bytes that may follow a first byte: the number of bytes that have to follow, and the range
of the first of them.  The narrowed ranges shut out overlong forms, surrogates and code points above
the last one. -/
def following? (b : UInt8) : Option (Nat × UInt8 × UInt8) :=
  if 0xC2 ≤ b && b ≤ 0xDF then some (1, 0x80, 0xBF)
  else if b = 0xE0 then some (2, 0xA0, 0xBF)
  else if b = 0xED then some (2, 0x80, 0x9F)
  else if 0xE1 ≤ b && b ≤ 0xEF then some (2, 0x80, 0xBF)
  else if b = 0xF0 then some (3, 0x90, 0xBF)
  else if b = 0xF4 then some (3, 0x80, 0x8F)
  else if 0xF1 ≤ b && b ≤ 0xF3 then some (3, 0x80, 0xBF)
  else none

/-- Reads up to `count` further bytes of a character, the first of them in the given range; gives
the code point so far, the number of bytes still missing and the bytes left. -/
def continuation : (count : Nat) → (low high : UInt8) → (point : Nat) → List UInt8 →
    Nat × Nat × List UInt8
  | 0, _, _, point, rest => (point, 0, rest)
  | count + 1, _, _, point, [] => (point, count + 1, [])
  | count + 1, low, high, point, b :: rest =>
    if low ≤ b && b ≤ high then
      continuation count 0x80 0xBF (point * 64 + b.toNat % 64) rest
    else (point, count + 1, b :: rest)

theorem continuation_length_le (count : Nat) (low high : UInt8) (point : Nat)
    (bytes : List UInt8) :
    (continuation count low high point bytes).2.2.length ≤ bytes.length := by
  induction bytes generalizing count low high point with
  | nil => cases count <;> simp [continuation]
  | cons b rest ih =>
      cases count with
      | zero => simp [continuation]
      | succ count =>
          simp only [continuation]
          split
          · exact Nat.le_succ_of_le (ih _ _ _ _)
          · exact Nat.le_refl _

/-- The characters that bytes stand for, with a replacement character for each maximal start of a
character that is not followed by the rest of it. -/
def decodeUtf8 : List UInt8 → List Char
  | [] => []
  | b :: rest =>
    if b < 0x80 then Char.ofNat b.toNat :: decodeUtf8 rest
    else
      match following? b with
      | none => replacement :: decodeUtf8 rest
      | some (count, low, high) =>
        let start := b.toNat % (if count = 1 then 32 else if count = 2 then 16 else 8)
        let read := continuation count low high start rest
        have : read.2.2.length ≤ rest.length := continuation_length_le _ _ _ _ _
        (if read.2.1 = 0 then Char.ofNat read.1 else replacement) :: decodeUtf8 read.2.2
  termination_by bytes => bytes.length
  decreasing_by
    · exact Nat.lt_succ_self _
    · exact Nat.lt_succ_self _
    · exact Nat.lt_succ_of_le this

/-- The text that bytes stand for when every one of them belongs to a whole character. -/
def decodeUtf8? (bytes : List UInt8) : Option String :=
  let s := String.ofList (decodeUtf8 bytes)
  if utf8Bytes s = bytes then some s else none

end ConfigVault.Text
