import ConfigVault.Instance.Host.Checksum.Digest
import ConfigVault.Instance.Host.Utility.Basic
import ConfigVault.Text.Base64

/-!
# Utilities for checksums

Utilities that tell the digests and the sums of files, check digests that are written in a file, and
write bytes in base 64.
-/

namespace ConfigVault.Host.Utility

/-! ## Digests -/

/-- A way to make a digest: its name and the length of what it makes, in bytes. -/
structure DigestKind where
  name : Raw
  size : Nat
  digest : List UInt8 → List UInt8

structure WrittenDigest where
  digest : Raw
  file : Raw

/-- A text of digits in base sixteen. -/
def isHex (cs : List Char) : Bool := cs.all fun c => (Number.digit? c).any (· < 16)

/-- The digest in a line: in front of the name of the file, or behind the names of the digest and the
file. -/
def writtenDigest? (kind : DigestKind) (line : Raw) : Option WrittenDigest :=
  let cs := line.toList
  let width := 2 * kind.size
  let tag := (kind.name ++ " (").toList
  if tag.isPrefixOf cs then
    let digest := cs.drop (cs.length - width)
    let front := cs.take (cs.length - width)
    let closing := ") = ".toList
    if isHex digest && closing.isSuffixOf front then
      some ⟨String.ofList digest,
        String.ofList ((front.drop tag.length).take (front.length - tag.length - closing.length))⟩
    else none
  else
    match cs.drop width with
    | ' ' :: mark :: name =>
      if cs.length < width || !isHex (cs.take width) || (mark ≠ ' ' && mark ≠ '*') || name.isEmpty then none
      else some ⟨String.ofList (cs.take width), String.ofList name⟩
    | _ => none

structure CheckCount where
  wellFormed : Nat
  malformed : Nat
  unread : Nat
  different : Nat

def checkDigest (kind : DigestKind) (quiet silent : Bool) (n : CheckCount) (line : Raw) :
    Task CheckCount := do
  if line.isEmpty || line.toList.head? = some '#' then return n
  else
    match writtenDigest? kind line with
    | none => return { n with malformed := n.malformed + 1 }
    | some written =>
      let n := { n with wellFormed := n.wellFormed + 1 }
      match ← readOperand written.file with
      | .error fault =>
        Task.complain (shown written.file ++ ": " ++ fault.message)
        if !silent then Task.out (written.file ++ ": FAILED open or read\n")
        return { n with unread := n.unread + 1 }
      | .ok content =>
        if Checksum.hexText (kind.digest (Raw.toBytes content)) = written.digest.toLower then
          if !quiet && !silent then Task.out (written.file ++ ": OK\n")
          return n
        else
          if !silent then Task.out (written.file ++ ": FAILED\n")
          return { n with different := n.different + 1 }

def checkDigests (kind : DigestKind) (c : Choices) (name : Raw) : Task Nat := do
  match ← readOperand name with
  | .error fault =>
    Task.complain (shown name ++ ": " ++ fault.message)
    return 1
  | .ok content =>
    let silent := c.has 'S'
    let n ← (Raw.lines content).foldlM (checkDigest kind (c.has 'q') silent) ⟨0, 0, 0, 0⟩
    if n.wellFormed = 0 then
      Task.complain ((if name = "-" then quoted "standard input" else shown name) ++
        ": no properly formatted checksum lines found")
      return 1
    else
      let warn (count : Nat) (one many : Raw) : Task Unit := do
        if 0 < count && !silent then
          Task.complain ("WARNING: " ++ toString count ++ (if count = 1 then one else many))
      warn n.malformed " line is improperly formatted" " lines are improperly formatted"
      warn n.unread " listed file could not be read" " listed files could not be read"
      warn n.different " computed checksum did NOT match" " computed checksums did NOT match"
      return if n.unread + n.different = 0 && !(c.has 's' && 0 < n.malformed) then 0 else 1

/-- Tells the digests of files, or checks those that are written in them. -/
def digestSum (kind : DigestKind) : List Raw → Task Nat :=
  withChoices [flag 'b' "binary", flag 'c' "check", flag 't' "text", flag 'z' "zero", longFlag 'T' "tag",
    longFlag 'q' "quiet", longFlag 'S' "status", longFlag 's' "strict", flag 'w' "warn"] 1 fun c => do
    if c.has 'c' then each (operands c.arguments) (checkDigests kind c)
    else
      eachFile c.arguments fun name content => do
        let digest := Checksum.hexText (kind.digest (Raw.toBytes content))
        let plain := name.toList.all fun d => d ≠ '\\' && d ≠ '\n' && d ≠ '\r'
        let written :=
          if plain || c.has 'z' then name
          else ((name.replace "\\" "\x5c\x5c").replace "\n" "\x5cn").replace "\r" "\x5cr"
        let mark := if plain || c.has 'z' then "" else "\x5c"
        Task.out (mark ++
          (if c.has 'T' then kind.name ++ " (" ++ written ++ ") = " ++ digest
          else digest ++ (if c.lastOf ['b', 't'] = some 'b' then " *" else "  ") ++ written) ++
          (if c.has 'z' then "\x00" else "\n"))

/-! ## Sums -/

/-- Tells the sums of remainders of files, and their lengths. -/
def cksum : List Raw → Task Nat :=
  withChoices [] 1 fun c =>
    eachFile c.arguments fun name content =>
      Task.out (toString (Checksum.crc (Raw.toBytes content)).toNat ++ " " ++ toString content.length ++
        (if c.arguments.isEmpty then "" else " " ++ name) ++ "\n")

/-- Tells sums of files, and their lengths in blocks. -/
def sum : List Raw → Task Nat :=
  withChoices [flag 'r' "", flag 's' "sysv"] 1 fun c =>
    eachFile c.arguments fun name content =>
      let bytes := Raw.toBytes content
      let title := if c.arguments.isEmpty then "" else " " ++ name
      if c.lastOf ['r', 's'] = some 's' then
        Task.out (toString (Checksum.plainSum bytes) ++ " " ++ toString ((bytes.length + 511) / 512) ++
          title ++ "\n")
      else
        Task.out (({ Layout.plain with width := 5, zeros := true } : Layout).int (Checksum.turningSum bytes) ++
          " " ++ rightAligned 5 ((bytes.length + 1023) / 1024) ++ title ++ "\n")

/-! ## Base 64 -/

/-- The bytes that groups of four characters stand for, and whether nothing is wrong with them. -/
def decodeGroups : List Char → List UInt8 × Bool
  | [] => ([], true)
  | a :: b :: c :: d :: rest =>
    match Text.base64Value? a, Text.base64Value? b, Text.base64Value? c, Text.base64Value? d with
    | some u, some v, some w, some x =>
      let (bytes, good) := decodeGroups rest
      let n := ((u * 64 + v) * 64 + w) * 64 + x
      (UInt8.ofNat (n / 65536) :: UInt8.ofNat (n / 256) :: UInt8.ofNat n :: bytes, good)
    | some u, some v, some w, none =>
      let n := (u * 64 + v) * 64 + w
      let held := [UInt8.ofNat (n / 1024), UInt8.ofNat (n / 4)]
      if d = '=' then
        let (bytes, good) := decodeGroups rest
        (held ++ bytes, good)
      else (held, false)
    | some u, some v, none, _ =>
      let held := [UInt8.ofNat ((u * 64 + v) / 16)]
      if c = '=' && d = '=' then
        let (bytes, good) := decodeGroups rest
        (held ++ bytes, good)
      else (held, false)
    | _, _, _, _ => ([], false)
  | [a, b, c] =>
    match Text.base64Value? a, Text.base64Value? b, Text.base64Value? c with
    | some u, some v, some w =>
      let n := (u * 64 + v) * 64 + w
      ([UInt8.ofNat (n / 1024), UInt8.ofNat (n / 4)], false)
    | some u, some v, none => ([UInt8.ofNat ((u * 64 + v) / 16)], false)
    | _, _, _ => ([], false)
  | [a, b] =>
    match Text.base64Value? a, Text.base64Value? b with
    | some u, some v => ([UInt8.ofNat ((u * 64 + v) / 16)], false)
    | _, _ => ([], false)
  | [_] => ([], false)

def inWidth (width : Nat) : (fuel : Nat) → List Char → Raw
  | 0, _ => ""
  | _ + 1, [] => ""
  | fuel + 1, cs => String.ofList (cs.take width) ++ "\n" ++ inWidth width fuel (cs.drop width)

/-- Writes bytes in base 64, or reads them back. -/
def base64 : List Raw → Task Nat :=
  withChoices [flag 'd' "decode", flag 'i' "ignore-garbage", valued 'w' "wrap"] 1 fun c => do
    let width := match c.value? 'w' with
      | some w => Raw.nat? w.toList
      | none => some 76
    match width, c.arguments with
    | none, _ =>
      Task.complain ("invalid wrap size: " ++ cited ((c.value? 'w').getD ""))
      return 1
    | some _, _ :: extra :: _ => refuse ("extra operand " ++ cited extra) 1
    | some width, arguments =>
      let name := arguments.headD "-"
      match ← readOperand name with
      | .error .isFolder =>
        Task.complain ("read error: " ++ OpenFault.isFolder.message)
        return 1
      | .error fault =>
        Task.complain (shown name ++ ": " ++ fault.message)
        return 1
      | .ok content =>
        if c.has 'd' then
          let read := content.toList.filter fun d =>
            if c.has 'i' then (Text.base64Value? d).isSome || d = '=' else d ≠ '\n'
          let (bytes, good) := decodeGroups read
          Task.out (Raw.ofBytes bytes)
          if good then return 0
          else
            Task.complain "invalid input"
            return 1
        else
          let cs := Text.encodeBase64 (Raw.toBytes content)
          Task.out (if width = 0 then String.ofList cs else inWidth width cs.length cs)
          return 0

def digestUtilities : List (Raw × Program) :=
  [("md5sum", .plain (digestSum ⟨"MD5", 16, Checksum.md5⟩)),
    ("sha1sum", .plain (digestSum ⟨"SHA1", 20, Checksum.sha1⟩)),
    ("sha256sum", .plain (digestSum ⟨"SHA256", 32, Checksum.sha256⟩)), ("cksum", .plain cksum),
    ("sum", .plain sum), ("base64", .plain base64)]

end ConfigVault.Host.Utility
