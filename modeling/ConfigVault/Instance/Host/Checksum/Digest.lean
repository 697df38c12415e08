import ConfigVault.Instance.Host.Checksum.Basic

/-!
# Digests

The digests of a message that are known as MD5, SHA-1 and SHA-256, and two sums that find errors of
transmission.  Constants that are defined by mathematics are computed: the first bits of roots and of
sines.
-/

namespace ConfigVault.Host.Checksum

/-! ## Roots -/

/-- The greatest number below `low + 2 ^ bits` whose power is no more than `n`, where `low` is one of
those. -/
def rootFrom (power n : Nat) : (bits low : Nat) → Nat
  | 0, low => low
  | bits + 1, low =>
    let middle := low + Nat.pow 2 bits
    rootFrom power n bits (if Nat.pow middle power ≤ n then middle else low)

/-- The first thirty-two bits behind the point of a root of a number below two to the sixteenth. -/
def rootBits (power n : Nat) : UInt32 :=
  UInt32.ofNat (rootFrom power (n * Nat.pow 2 (32 * power)) 42 0)

def primes (count : Nat) : List Nat :=
  ((List.range 320).filter fun n =>
    2 ≤ n && (List.range n).all fun d => d < 2 || n % d ≠ 0).take count

/-! ## MD5 -/

structure FourWords where
  a : UInt32
  b : UInt32
  c : UInt32
  d : UInt32

def sineBits : Array UInt32 :=
  ((List.range 64).map fun i =>
    (Float.abs (Float.sin (i.toFloat + 1.0)) * 4294967296.0).floor.toUInt32).toArray

def md5Turns : Array UInt32 := #[7, 12, 17, 22, 5, 9, 14, 20, 4, 11, 16, 23, 6, 10, 15, 21]

def md5Step (block : Array UInt32) (s : FourWords) (i : Nat) : FourWords :=
  let (f, g) :=
    match i / 16 with
    | 0 => ((s.b &&& s.c) ||| (~~~s.b &&& s.d), i)
    | 1 => ((s.d &&& s.b) ||| (~~~s.d &&& s.c), (5 * i + 1) % 16)
    | 2 => (s.b ^^^ s.c ^^^ s.d, (3 * i + 5) % 16)
    | _ => (s.c ^^^ (s.b ||| ~~~s.d), 7 * i % 16)
  let sum := s.a + f + sineBits.getD i 0 + block.getD g 0
  ⟨s.d, s.b + turnLeft sum (md5Turns.getD (4 * (i / 16) + i % 4) 0), s.b, s.c⟩

def md5 (message : List UInt8) : List UInt8 :=
  let s := absorb .leastFirst (fun s block =>
    let t := (List.range 64).foldl (md5Step block) s
    ⟨s.a + t.a, s.b + t.b, s.c + t.c, s.d + t.d⟩)
    (⟨0x67452301, 0xefcdab89, 0x98badcfe, 0x10325476⟩ : FourWords) message
  bytesOfWords .leastFirst [s.a, s.b, s.c, s.d]

/-! ## SHA-1 -/

/-- The words of a block and those that follow from them, up to a number of words. -/
def extend (next : Array UInt32 → Nat → UInt32) (count : Nat) (block : Array UInt32) : Array UInt32 :=
  (List.range (count - 16)).foldl (fun ws i => ws.push (next ws (i + 16))) block

def sha1Next (ws : Array UInt32) (i : Nat) : UInt32 :=
  turnLeft (ws.getD (i - 3) 0 ^^^ ws.getD (i - 8) 0 ^^^ ws.getD (i - 14) 0 ^^^ ws.getD (i - 16) 0) 1

def sha1Step (ws : Array UInt32) (s : List UInt32) (i : Nat) : List UInt32 :=
  match s with
  | [a, b, c, d, e] =>
    let (f, k) : UInt32 × UInt32 :=
      match i / 20 with
      | 0 => ((b &&& c) ||| (~~~b &&& d), 0x5a827999)
      | 1 => (b ^^^ c ^^^ d, 0x6ed9eba1)
      | 2 => ((b &&& c) ||| (b &&& d) ||| (c &&& d), 0x8f1bbcdc)
      | _ => (b ^^^ c ^^^ d, 0xca62c1d6)
    [turnLeft a 5 + f + e + k + ws.getD i 0, a, turnLeft b 30, c, d]
  | s => s

def sha1 (message : List UInt8) : List UInt8 :=
  bytesOfWords .greatestFirst (absorb .greatestFirst (fun s block =>
    List.zipWith (· + ·) s ((List.range 80).foldl (sha1Step (extend sha1Next 80 block)) s))
    [0x67452301, 0xefcdab89, 0x98badcfe, 0x10325476, 0xc3d2e1f0] message)

/-! ## SHA-256 -/

/-- The constants of the steps: bits of cube roots of primes. -/
def cubeBits : Array UInt32 := ((primes 64).map (rootBits 3)).toArray

def sha256Next (ws : Array UInt32) (i : Nat) : UInt32 :=
  let u := ws.getD (i - 15) 0
  let v := ws.getD (i - 2) 0
  ws.getD (i - 16) 0 + (turnRight u 7 ^^^ turnRight u 18 ^^^ (u >>> 3)) + ws.getD (i - 7) 0 +
    (turnRight v 17 ^^^ turnRight v 19 ^^^ (v >>> 10))

def sha256Step (ws : Array UInt32) (s : List UInt32) (i : Nat) : List UInt32 :=
  match s with
  | [a, b, c, d, e, f, g, h] =>
    let t := h + (turnRight e 6 ^^^ turnRight e 11 ^^^ turnRight e 25) + ((e &&& f) ^^^ (~~~e &&& g)) +
      cubeBits.getD i 0 + ws.getD i 0
    let u := (turnRight a 2 ^^^ turnRight a 13 ^^^ turnRight a 22) +
      ((a &&& b) ^^^ (a &&& c) ^^^ (b &&& c))
    [t + u, a, b, c, d + t, e, f, g]
  | s => s

def sha256 (message : List UInt8) : List UInt8 :=
  bytesOfWords .greatestFirst (absorb .greatestFirst (fun s block =>
    List.zipWith (· + ·) s ((List.range 64).foldl (sha256Step (extend sha256Next 64 block)) s))
    ((primes 8).map (rootBits 2)) message)

/-! ## Sums -/

def crcShift (crc : UInt32) : UInt32 :=
  if crc &&& 0x80000000 ≠ 0 then (crc <<< 1) ^^^ 0x04c11db7 else crc <<< 1

def crcByte (crc : UInt32) (b : UInt8) : UInt32 :=
  (List.range 8).foldl (fun c _ => crcShift c) (crc ^^^ (b.toUInt32 <<< 24))

/-- The bytes of a number, the least first, without zeros at the end; within `fuel` of them. -/
def shortBytes : (fuel n : Nat) → List UInt8
  | 0, _ => []
  | fuel + 1, n => if n = 0 then [] else UInt8.ofNat n :: shortBytes fuel (n / 256)

def crc (message : List UInt8) : UInt32 :=
  ~~~((message ++ shortBytes 8 message.length).foldl crcByte 0)

def turningSum (message : List UInt8) : Nat :=
  message.foldl (fun s b => ((s / 2 + s % 2 * 32768) + b.toNat) % 65536) 0

/-- The sum of the bytes of a message, folded to sixteen bits. -/
def plainSum (message : List UInt8) : Nat :=
  let s := message.foldl (fun s b => s + b.toNat) 0 % 4294967296
  let r := s % 65536 + s / 65536
  r % 65536 + r / 65536

end ConfigVault.Host.Checksum
