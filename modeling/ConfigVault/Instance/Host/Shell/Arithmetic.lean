import ConfigVault.Instance.Host.Number
import ConfigVault.Instance.Host.Shell.Words

/-!
# Expressions

The sums that stand in scripts, over whole numbers of sixty-four bits.  Variables count as the numbers
that their texts spell.  What need not be known is read but not reckoned with.
-/

namespace ConfigVault.Host.Shell.Arithmetic

open Number

/-- Why an expression has no value. -/
inductive Fault where
  | expected (what : String)
  | zeroDivisor
  | badNumber (text : Raw)

inductive Token where
  | number (n : Int)
  | name (name : Raw)
  | sign (text : String)
  | other
  deriving DecidableEq

/-- A number within sixty-four bits. -/
def wrap (n : Int) : Int := Int.bmod n Number.whole64.toNat

/-- The number that a text spells, in any of the three bases; an empty text spells zero. -/
def ofText? (text : Raw) : Option Int :=
  let cs := text.toList.dropWhile isBlank
  let (negative, digits) : Bool × List Char :=
    match cs with
    | '-' :: rest => (true, rest)
    | '+' :: rest => (false, rest)
    | rest => (false, rest)
  let (n, rest) := takeNumber digits
  let n : Int := if negative then -(n : Int) else n
  if digits.length = rest.length then
    if cs.isEmpty then some 0 else none
  else if rest.all isBlank then some (clamp n) else none

def signs : List String :=
  ["<<=", ">>=", "||", "&&", "==", "!=", "<=", ">=", "<<", ">>", "*=", "/=", "%=", "+=", "-=", "&=", "^=",
    "|=", "=", "<", ">", "|", "^", "&", "+", "-", "*", "/", "%", "!", "~", "?", ":", "(", ")"]

def tokens : (fuel : Nat) → List Char → List Token
  | 0, _ => []
  | fuel + 1, cs =>
    match cs with
    | [] => []
    | c :: rest =>
      if isBlank c then tokens fuel rest
      else if c.isDigit then
        let (n, rest) := takeNumber cs
        .number (clamp n) :: tokens fuel rest
      else if isNameStart c then
        .name (String.ofList (cs.takeWhile isNameChar)) :: tokens fuel (cs.dropWhile isNameChar)
      else
        match signs.find? fun sign => sign.toList.isPrefixOf cs with
        | some sign => .sign sign :: tokens fuel (cs.drop sign.length)
        | none => [.other]

structure Variables (m : Type → Type) where
  get : Raw → m Raw
  set : Raw → Raw → m Unit
  fail : {α : Type} → Fault → m α

/-- How strongly a sign binds; a smaller number binds more strongly. -/
def rank? (sign : String) : Option Nat :=
  ([("*", 0), ("/", 0), ("%", 0), ("+", 1), ("-", 1), ("<<", 2), (">>", 2), ("<", 3), (">", 3), ("<=", 3),
    (">=", 3), ("==", 4), ("!=", 4), ("&", 5), ("^", 6), ("|", 7)].find? (·.1 = sign)).map Prod.snd

def bits (n : Int) : Nat := (n % Number.whole64).toNat

def truth (b : Bool) : Int := if b then 1 else 0

def combine (sign : String) (a b : Int) : Except Fault Int :=
  match sign with
  | "*" => .ok (wrap (a * b))
  | "/" => if b = 0 then .error .zeroDivisor else .ok (wrap (Int.tdiv a b))
  | "%" => if b = 0 then .error .zeroDivisor else .ok (Int.tmod a b)
  | "+" => .ok (wrap (a + b))
  | "-" => .ok (wrap (a - b))
  | "<<" => .ok (wrap (a * (Nat.pow 2 (b % 64).toNat : Nat)))
  | ">>" => .ok (Int.fdiv a (Nat.pow 2 (b % 64).toNat : Nat))
  | "<" => .ok (truth (a < b))
  | ">" => .ok (truth (b < a))
  | "<=" => .ok (truth (a ≤ b))
  | ">=" => .ok (truth (b ≤ a))
  | "==" => .ok (truth (a = b))
  | "!=" => .ok (truth (a ≠ b))
  | "&" => .ok (wrap (bits a &&& bits b))
  | "^" => .ok (wrap (bits a ^^^ bits b))
  | "|" => .ok (wrap (bits a ||| bits b))
  | _ => .error (.expected "expecting EOF")

variable {m : Type → Type} [Monad m]

def value (vars : Variables m) (name : Raw) : m Int := do
  let text ← vars.get name
  match ofText? text with
  | some n => return n
  | none => vars.fail (.badNumber text)

mutual

/-- Reckons an expression with what is assigned in it, within `fuel` steps.  Where `known` is set the
value need not be known. -/
def assignment (vars : Variables m) : (fuel : Nat) → (known : Bool) → List Token →
    m (Int × List Token)
  | 0, _, _ => vars.fail (.expected "expecting EOF")
  | fuel + 1, known, ts =>
    match ts with
    | .name name :: .sign sign :: rest =>
      let assigns := sign = "=" || (sign.endsWith "=" && (rank? sign).isNone)
      if assigns then do
        let (n, rest) ← assignment vars fuel known rest
        if known then return (n, rest)
        let result ←
          if sign = "=" then pure n
          else
            match combine (sign.dropEnd 1).toString (← value vars name) n with
            | .ok n => pure n
            | .error fault => vars.fail fault
        vars.set name (toString result)
        return (result, rest)
      else choice vars fuel known ts
    | _ => choice vars fuel known ts

def choice (vars : Variables m) : (fuel : Nat) → (known : Bool) → List Token → m (Int × List Token)
  | 0, _, _ => vars.fail (.expected "expecting EOF")
  | fuel + 1, known, ts => do
    let (a, rest) ← either vars fuel known ts
    match rest with
    | .sign "?" :: rest =>
      let (b, rest) ← assignment vars fuel (known || a = 0) rest
      match rest with
      | .sign ":" :: rest =>
        let (c, rest) ← choice vars fuel (known || a ≠ 0) rest
        return (if a ≠ 0 then b else c, rest)
      | _ => vars.fail (.expected "expecting ':'")
    | rest => return (a, rest)

def either (vars : Variables m) : (fuel : Nat) → (known : Bool) → List Token → m (Int × List Token)
  | 0, _, _ => vars.fail (.expected "expecting EOF")
  | fuel + 1, known, ts => do
    let (a, rest) ← both vars fuel known ts
    match rest with
    | .sign "||" :: rest =>
      let (b, rest) ← either vars fuel (known || a ≠ 0) rest
      return (truth (a ≠ 0 || b ≠ 0), rest)
    | rest => return (a, rest)

def both (vars : Variables m) : (fuel : Nat) → (known : Bool) → List Token → m (Int × List Token)
  | 0, _, _ => vars.fail (.expected "expecting EOF")
  | fuel + 1, known, ts => do
    let (a, rest) ← primary vars fuel known ts
    let (a, rest) ← operations vars fuel known 8 a rest
    match rest with
    | .sign "&&" :: rest =>
      let (b, rest) ← both vars fuel (known || a = 0) rest
      return (truth (a ≠ 0 && b ≠ 0), rest)
    | rest => return (a, rest)

/-- Reckons on with signs that bind more strongly than a rank. -/
def operations (vars : Variables m) : (fuel : Nat) → (known : Bool) → (rank : Nat) → Int →
    List Token → m (Int × List Token)
  | 0, _, _, _, _ => vars.fail (.expected "expecting EOF")
  | fuel + 1, known, rank, a, ts => do
    match ts with
    | .sign sign :: rest =>
      match rank? sign with
      | none => return (a, ts)
      | some r =>
        if rank ≤ r then return (a, ts)
        let (b, rest) ← primary vars fuel known rest
        let (b, rest) ← operations vars fuel known r b rest
        if known then operations vars fuel known rank b rest
        else
          match combine sign a b with
          | .ok n => operations vars fuel known rank n rest
          | .error fault => vars.fail fault
    | ts => return (a, ts)

/-- Reckons a number, a variable, or an expression in brackets, with signs in front. -/
def primary (vars : Variables m) : (fuel : Nat) → (known : Bool) → List Token → m (Int × List Token)
  | 0, _, _ => vars.fail (.expected "expecting EOF")
  | fuel + 1, known, ts => do
    match ts with
    | .number n :: rest => return (n, rest)
    | .name name :: rest =>
      let n ← if known then pure 0 else value vars name
      return (n, rest)
    | .sign "(" :: rest =>
      let (n, rest) ← assignment vars fuel known rest
      match rest with
      | .sign ")" :: rest => return (n, rest)
      | _ => vars.fail (.expected "expecting ')'")
    | .sign "+" :: rest => primary vars fuel known rest
    | .sign "-" :: rest =>
      let (n, rest) ← primary vars fuel known rest
      return (wrap (-n), rest)
    | .sign "!" :: rest =>
      let (n, rest) ← primary vars fuel known rest
      return (truth (n = 0), rest)
    | .sign "~" :: rest =>
      let (n, rest) ← primary vars fuel known rest
      return (-n - 1, rest)
    | _ => vars.fail (.expected "expecting primary")

end

def evaluate (vars : Variables m) (text : Raw) : m Int := do
  let ts := tokens (text.length + 1) text.toList
  let (n, rest) ← assignment vars (8 * ts.length + 16) false ts
  if rest.isEmpty then return n else vars.fail (.expected "expecting EOF")

end ConfigVault.Host.Shell.Arithmetic
