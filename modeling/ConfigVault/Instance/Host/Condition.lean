import ConfigVault.Instance.Host.Number
import ConfigVault.Instance.Host.World

/-!
# Conditions

Questions about files, texts and numbers, joined by signs: what the command `test` answers.  A word with
a meaning of its own counts as a plain text where it stands in the place of one.
-/

namespace ConfigVault.Host.Condition

inductive Role where
  | unary
  | binary
  | negation
  | joint
  | bracket
  deriving DecidableEq, Repr

def signs : List (String × Role) :=
  (["-r", "-w", "-x", "-e", "-f", "-d", "-c", "-b", "-p", "-u", "-g", "-k", "-s", "-t", "-z", "-n", "-h",
      "-L", "-O", "-G", "-S"].map (·, Role.unary)) ++
    (["=", "!=", "<", ">", "-eq", "-ne", "-ge", "-gt", "-le", "-lt", "-nt", "-ot", "-ef"].map
      (·, Role.binary)) ++
    [("!", .negation), ("-a", .joint), ("-o", .joint), ("(", .bracket), (")", .bracket)]

def role? (word : Raw) : Option Role := (signs.find? (·.1 = word)).map Prod.snd

/-- What stands at a place in the question. -/
inductive Sign where
  | ending
  | text
  | sign (role : Role) (word : Raw)
  deriving DecidableEq, Repr

/-- A sign for a question about one text is a text itself: nothing follows it, or a sign between two
texts. -/
def standsForText (words : Array Raw) (i : Nat) : Bool :=
  match words[i + 1]?, words[i + 2]? with
  | none, _ => true
  | some next, some _ => role? next == some Role.binary
  | some _, none => false

def signAt (words : Array Raw) (i : Nat) : Sign :=
  match words[i]? with
  | none => .ending
  | some word =>
    match role? word with
    | none => .text
    | some .unary =>
      if standsForText words i then .text else .sign .unary word
    | some role =>
      if word = "(" && words[i + 1]?.isNone then .text else .sign role word

/-- The answer that is being looked for: where the question has been read to, and a complaint
otherwise. -/
abbrev Answering := StateT Nat (ExceptT Raw (ReaderT Job (StateM World)))

def refuse {α : Type} (word message : Raw) : Answering α := throw (word ++ ": " ++ message)

def number (word : Raw) : Answering Int :=
  match Number.takeInt? (Number.takeDigits 10) word.toList with
  | some (n, rest) =>
    if rest.all Number.isBlank && n = Number.clamp n then return n
    else throw ("Illegal number: " ++ word)
  | none => throw ("Illegal number: " ++ word)

def isRunnable : Node → Bool
  | .program => true
  | .folder => true
  | .file _ mode => mode &&& 0o111 ≠ 0
  | _ => false

def ofFile (sign : Raw) (path : Raw) : Answering Bool := do
  let job ← readThe Job
  let w ← getThe World
  if sign = "-h" || sign = "-L" then
    return match w.disk.entry job.folder path with
      | .ok (_, .link _) => true
      | _ => false
  match w.disk.find job.folder path with
  | .error _ => return false
  | .ok (_, node) =>
    match sign with
    | "-f" => return match node with
      | .file _ _ => true
      | .program => true
      | _ => false
    | "-d" => return node = .folder
    | "-s" => return match node with
      | .file content _ => !content.isEmpty
      | .program => true
      | .folder => true
      | _ => false
    | "-x" => return isRunnable node
    | "-c" => return match node with
      | .device _ => true
      | _ => false
    | _ => return ["-e", "-r", "-w", "-O", "-G"].contains sign

def ofText (sign : Raw) (text : Raw) : Answering Bool := do
  match sign with
  | "-z" => return text.isEmpty
  | "-n" => return !text.isEmpty
  | "-t" =>
    let _ ← number text
    return false
  | _ => ofFile sign text

def ofTexts (a sign b : Raw) : Answering Bool := do
  match sign with
  | "=" => return a = b
  | "!=" => return a ≠ b
  | "<" => return a < b
  | ">" => return b < a
  | "-ef" | "-nt" | "-ot" =>
    let job ← readThe Job
    let disk := (← getThe World).disk
    let place? (path : Raw) : Option Place := (disk.find job.folder path).toOption.map Prod.fst
    let isNew (place : Place) : Bool := disk.node? place ≠ systemDisk.node? place
    let isNewer (a b : Option Place) : Bool :=
      match a, b with
      | some a, some b => isNew a && !isNew b
      | some _, none => true
      | none, _ => false
    match sign with
    | "-ef" => return (place? a).isSome && place? a = place? b
    | "-nt" => return isNewer (place? a) (place? b)
    | _ => return isNewer (place? b) (place? a)
  | _ =>
    let m ← number a
    let n ← number b
    match sign with
    | "-eq" => return m = n
    | "-ne" => return m ≠ n
    | "-ge" => return n ≤ m
    | "-gt" => return n < m
    | "-le" => return m ≤ n
    | _ => return m < n

def wordAt (words : Array Raw) (i : Nat) : Raw := words.getD i ""

mutual

def either (words : Array Raw) : (fuel : Nat) → Answering Bool
  | 0 => return false
  | fuel + 1 => do
    let first ← both words fuel
    if signAt words ((← get) + 1) = .sign .joint "-o" then
      modify (· + 2)
      let second ← either words fuel
      return first || second
    else return first

def both (words : Array Raw) : (fuel : Nat) → Answering Bool
  | 0 => return false
  | fuel + 1 => do
    let first ← negated words fuel
    if signAt words ((← get) + 1) = .sign .joint "-a" then
      modify (· + 2)
      let second ← both words fuel
      return first && second
    else return first

def negated (words : Array Raw) : (fuel : Nat) → Answering Bool
  | 0 => return false
  | fuel + 1 => do
    match signAt words (← get) with
    | .sign .negation _ =>
      if signAt words ((← get) + 1) = .ending then return true
      else
        modify (· + 1)
        return !(← negated words fuel)
    | _ => single words fuel

def single (words : Array Raw) : (fuel : Nat) → Answering Bool
  | 0 => return false
  | fuel + 1 => do
    let i ← get
    match signAt words i with
    | .ending => return false
    | .sign .bracket "(" =>
      set (i + 1)
      if signAt words (i + 1) = .sign .bracket ")" then return false
      let answer ← either words fuel
      modify (· + 1)
      if signAt words (← get) ≠ .sign .bracket ")" then throw "closing paren expected"
      return answer
    | .sign .unary sign =>
      set (i + 1)
      match words[i + 1]? with
      | none => refuse sign "argument expected"
      | some text => ofText sign text
    | _ =>
      match signAt words (i + 1) with
      | .sign .binary sign =>
        set (i + 2)
        match words[i + 2]? with
        | none => refuse sign "argument expected"
        | some b => ofTexts (wordAt words i) sign b
      | _ => return !(wordAt words i).isEmpty

end

/-- Answers a question of one word or more and sees that nothing is left of it. -/
def whole (words : Array Raw) : Answering Bool := do
  let fuel := 4 * words.size + 8
  let answer ←
    if words.size = 3 && role? (wordAt words 1) = some .binary then
      do
        set 2
        ofTexts (wordAt words 0) (wordAt words 1) (wordAt words 2)
    else either words fuel
  let i ← get
  if words[i]?.isSome && words[i + 1]?.isSome then refuse (wordAt words i) "unexpected operator"
  return answer

/-- Answers a question; a sign of negation in front of three or four words belongs to all of them. -/
def ask : (words : List Raw) → Answering Bool
  | [] => return false
  | w :: rest =>
    let words := w :: rest
    let long := words.length = 3 || words.length = 4
    let isComparison := words.length = 3 && (rest.head?.bind role?) = some .binary
    if isComparison then whole words.toArray
    else if long && w = "(" && rest.getLast? = some ")" then whole rest.dropLast.toArray
    else if long && w = "!" then do return !(← ask rest)
    else whole words.toArray

def answer (words : List Raw) : Task (Except Raw Bool) := do
  return (← ((ask words).run 0).run).map Prod.fst

end ConfigVault.Host.Condition
