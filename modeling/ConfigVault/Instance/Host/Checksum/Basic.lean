import ConfigVault.Instance.Host.Raw

/-!
# What checksums have in common

Messages are cut into blocks of sixty-four bytes: a mark and the length of the message are put behind
it, with zeros between the two.  A block is sixteen words, and a state of words is mixed with one block
after the other.
-/

namespace ConfigVault.Host.Checksum

inductive ByteOrder where
  | greatestFirst
  | leastFirst
  deriving DecidableEq, Repr

def bytesOf (count n : Nat) : List UInt8 := (List.range count).map fun i => UInt8.ofNat (n / Nat.pow 256 i)

def ByteOrder.bytes (order : ByteOrder) (count n : Nat) : List UInt8 :=
  match order with
  | .greatestFirst => (bytesOf count n).reverse
  | .leastFirst => bytesOf count n

def ByteOrder.word (order : ByteOrder) (bytes : List UInt8) : UInt32 :=
  let digits := match order with
    | .greatestFirst => bytes
    | .leastFirst => bytes.reverse
  digits.foldl (fun w b => (w <<< 8) ||| b.toUInt32) 0

/-- A message with the mark, the zeros and the length behind it. -/
def filled (order : ByteOrder) (message : List UInt8) : List UInt8 :=
  let n := message.length
  message ++ 0x80 :: List.replicate ((119 - n % 64) % 64) 0 ++ order.bytes 8 (8 * n)

def wordsOf (order : ByteOrder) : (fuel : Nat) → List UInt8 → List UInt32
  | 0, _ => []
  | _ + 1, [] => []
  | fuel + 1, bytes => order.word (bytes.take 4) :: wordsOf order fuel (bytes.drop 4)

def blocksOf : (fuel : Nat) → List UInt32 → List (Array UInt32)
  | 0, _ => []
  | _ + 1, [] => []
  | fuel + 1, words => (words.take 16).toArray :: blocksOf fuel (words.drop 16)

def absorb {σ : Type} (order : ByteOrder) (mix : σ → Array UInt32 → σ) (start : σ)
    (message : List UInt8) : σ :=
  let bytes := filled order message
  (blocksOf bytes.length (wordsOf order bytes.length bytes)).foldl mix start

def turnLeft (w : UInt32) (n : UInt32) : UInt32 := (w <<< n) ||| (w >>> (32 - n))

def turnRight (w : UInt32) (n : UInt32) : UInt32 := (w >>> n) ||| (w <<< (32 - n))

def bytesOfWords (order : ByteOrder) (words : List UInt32) : List UInt8 :=
  words.flatMap fun w => order.bytes 4 w.toNat

def hexDigit (n : Nat) : Char := if n < 10 then Char.ofNat (48 + n) else Char.ofNat (87 + n)

def hexText (bytes : List UInt8) : Raw :=
  String.ofList (bytes.flatMap fun b => [hexDigit (b.toNat / 16), hexDigit (b.toNat % 16)])

end ConfigVault.Host.Checksum
