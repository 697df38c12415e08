import ConfigVault.Instance.Host.Pattern.Reading
import ConfigVault.Instance.Host.Print.Template
import ConfigVault.Instance.Host.Utility.Basic

/-!
# Utilities for words

Utilities that write or weigh their arguments: `echo`, `printf`, `seq`, `expr`, parts of paths, and
those that only give a status.
-/

namespace ConfigVault.Host.Utility

/-! ## Echo and templates -/

def echoEscapes : EscapeStyle := ⟨true, true, true⟩

def formatEscapes : EscapeStyle := ⟨true, false, true⟩

def isEchoOption (word : Raw) : Bool :=
  match word.toList with
  | '-' :: c :: cs => (c :: cs).all fun c => c = 'n' || c = 'e' || c = 'E'
  | _ => false

/-- Texts with their backslashes taken out and blanks between them; whether they end the output. -/
def echoed : List Raw → Raw × Bool
  | [] => ("", false)
  | word :: rest =>
    let (text, ended) := echoEscapes.text word
    if ended then (text, true)
    else if rest.isEmpty then (text, false)
    else
      let (more, ended) := echoed rest
      (text ++ " " ++ more, ended)

def echo (arguments : List Raw) : Task Nat := do
  let words := arguments.takeWhile isEchoOption
  let letters := words.flatMap fun w => w.toList.drop 1
  let rest := arguments.drop words.length
  let escapes := (letters.filter (· ≠ 'n')).getLast? = some 'e'
  let (text, ended) := if escapes then echoed rest else (String.intercalate " " rest, false)
  Task.out (if ended || letters.contains 'n' then text else text ++ "\n")
  return 0

def faultText (argument : Raw) : Template.ArgumentFault → Raw
  | .noNumber => cited argument ++ ": expected a numeric value"
  | .leftover => cited argument ++ ": value not completely converted"
  | .outOfRange => cited argument ++ ": Numerical result out of range"

def printf (arguments : List Raw) : Task Nat := do
  match if arguments.head? = some "--" then arguments.drop 1 else arguments with
  | [] => refuse "missing operand" 1
  | template :: rest =>
    let p := Template.print formatEscapes echoEscapes template rest
    for (argument, fault) in p.faults.reverse do Task.complain (faultText argument fault)
    let status := if p.faults.isEmpty then 0 else 1
    match p.stop, p.arguments with
    | some (.unknown spelling), _ =>
      Task.complain (spelling ++ ": invalid conversion specification")
      Task.out p.output
      return 1
    | some (.unfinished spelling), _ =>
      Task.complain (spelling ++ ": invalid conversion specification")
      Task.out p.output
      return 1
    | none, extra :: _ =>
      Task.complain ("warning: ignoring excess arguments, starting with " ++ cited extra)
      Task.out p.output
      return status
    | _, _ =>
      Task.out p.output
      return status

def yes : List Raw → Task Nat :=
  withChoices [] 1 fun c => do
    let line := (if c.arguments.isEmpty then "y" else String.intercalate " " c.arguments) ++ "\n"
    Task.out (String.join (List.replicate (endlessSize / line.length + 1) line))
    return 0

/-! ## Conditions -/

def test (arguments : List Raw) : Task Nat := do
  match ← Condition.answer arguments with
  | .ok answer => return if answer then 0 else 1
  | .error message =>
    Task.complain message
    return 2

def bracket (arguments : List Raw) : Task Nat := do
  if arguments.getLast? = some "]" then test arguments.dropLast
  else
    Task.complain ("missing " ++ cited "]")
    return 2

/-! ## Sequences -/

/-- A decimal: a whole number and the number of its digits behind the point. -/
structure PlainDecimal where
  scaled : Int
  places : Nat

def decimal? (word : Raw) : Option PlainDecimal :=
  let (negative, cs) := ConfigVault.Decimal.takeSign word.toList
  let whole := cs.takeWhile Char.isDigit
  let part? : Option (List Char) :=
    match cs.drop whole.length with
    | [] => some []
    | '.' :: rest => if rest.all Char.isDigit then some rest else none
    | _ => none
  match part? with
  | some part =>
    (Raw.nat? (whole ++ part)).map fun n => ⟨if negative then -(n : Int) else n, part.length⟩
  | none => none

def PlainDecimal.widen (d : PlainDecimal) (places : Nat) : Int := d.scaled * (Nat.pow 10 (places - d.places) : Nat)

def scaledText (places : Nat) (n : Int) : Raw :=
  (if n < 0 then "-" else "") ++ Layout.plain.withPoint n.natAbs places

def numbersFrom (step last : Int) : (fuel : Nat) → Int → List Int
  | 0, _ => []
  | fuel + 1, n =>
    if (0 < step && last < n) || (step < 0 && n < last) then []
    else n :: numbersFrom step last fuel (n + step)

def seq (words : List Raw) : Task Nat := do
  let flags := [valued 's' "separator", flag 'w' "equal-width", valued 'f' "format"]
  let isOption (w : Raw) : Bool := (decimal? w).isNone && w.toList.head? = some '-'
  let value (w : Raw) : Bool := w = "-s" || w = "-f"
  let front := (words.zip ("" :: words)).takeWhile fun p => isOption p.1 || value p.2
  let (options, numbers) := (words.take front.length, words.drop front.length)
  match takeChoices flags false (words.length * 20 + 20) options with
  | .error message => refuse message 1
  | .ok c =>
    let numbers := c.arguments ++ numbers
    let bad := numbers.find? fun w => (decimal? w).isNone
    match bad, numbers with
    | some w, _ => refuse ("invalid floating point argument: " ++ cited w) 1
    | none, [] => refuse "missing operand" 1
    | none, _ :: _ :: _ :: extra :: _ => refuse ("extra operand " ++ cited extra) 1
    | none, _ =>
      let ds := numbers.filterMap decimal?
      let one : PlainDecimal := ⟨1, 0⟩
      let (first, step, last) : PlainDecimal × PlainDecimal × PlainDecimal :=
        match ds with
        | [last] => (one, one, last)
        | [first, last] => (first, one, last)
        | first :: step :: last :: _ => (first, step, last)
        | [] => (one, one, one)
      if step.scaled = 0 then
        refuse ("invalid Zero increment value: " ++ cited (numbers.getD 1 "")) 1
      else
        let shownPlaces := max first.places step.places
        let places := max shownPlaces last.places
        let ns := numbersFrom (step.widen places) (last.widen places) endlessSize (first.widen places)
        let text (n : Int) : Raw := scaledText shownPlaces (Int.tdiv n (Nat.pow 10 (places - shownPlaces) : Nat))
        let width := ((ns.take 1 ++ ns.drop (ns.length - 1)).map fun n => (text n).length).foldl max 0
        let padded (t : Raw) : Raw :=
          match t.toList with
          | '-' :: cs => "-" ++ "".pushn '0' (width - t.length) ++ String.ofList cs
          | _ => "".pushn '0' (width - t.length) ++ t
        let spell (n : Int) : Raw :=
          match c.value? 'f' with
          | some template =>
            (Template.print ⟨false, false, false⟩ echoEscapes template [text n]).output
          | none => if c.has 'w' then padded (text n) else text n
        if !ns.isEmpty then
          Task.out (String.intercalate ((c.value? 's').getD "\n") (ns.map spell) ++ "\n")
        return 0

/-! ## Parts of paths -/

def dropSlashes (path : Raw) : Raw :=
  let cs := (path.toList.reverse.dropWhile (· = '/')).reverse
  if cs.isEmpty && !path.isEmpty then "/" else String.ofList cs

def lastName (path : Raw) : Raw :=
  let path := dropSlashes path
  if path = "/" then path
  else String.ofList (path.toList.reverse.takeWhile (· ≠ '/')).reverse

def withoutEnding (name ending : Raw) : Raw :=
  if ending ≠ name && name.endsWith ending then (name.dropEnd ending.length).toString else name

def basename : List Raw → Task Nat :=
  withChoices [flag 'a' "multiple", valued 's' "suffix", flag 'z' "zero"] 1 fun c => do
    let stop := if c.has 'z' then "\x00" else "\n"
    let write (path ending : Raw) : Task Unit :=
      Task.out (withoutEnding (lastName path) ending ++ stop)
    if c.has 'a' || c.has 's' then
      for path in c.arguments do write path ((c.value? 's').getD "")
      return 0
    else
      match c.arguments with
      | [] => refuse "missing operand" 1
      | [path] => write path ""; return 0
      | [path, ending] => write path ending; return 0
      | _ :: _ :: extra :: _ => refuse ("extra operand " ++ cited extra) 1

def folderOf (path : Raw) : Raw :=
  let path := dropSlashes path
  let front := (path.toList.reverse.dropWhile (· ≠ '/')).reverse
  if front.isEmpty then "." else dropSlashes (String.ofList front)

def dirname : List Raw → Task Nat :=
  withChoices [flag 'z' "zero"] 1 fun c => do
    if c.arguments.isEmpty then refuse "missing operand" 1
    else
      for path in c.arguments do Task.out (folderOf path ++ (if c.has 'z' then "\x00" else "\n"))
      return 0

/-! ## Expressions of words -/

/-- Why an expression of words has no value. -/
inductive ExprFault where
  | missing (word : Raw)
  | unexpected (word : Raw)
  | missingBracket (word : Raw)
  | unexpectedBracket
  | noNumber
  | zeroDivisor
  | pattern (fault : Pattern.Fault)

def ExprFault.message : ExprFault → Raw
  | missing word => "syntax error: missing argument after " ++ cited word
  | unexpected word => "syntax error: unexpected argument " ++ cited word
  | missingBracket word => "syntax error: expecting " ++ cited ")" ++ " after " ++ cited word
  | unexpectedBracket => "syntax error: unexpected " ++ cited ")"
  | noNumber => "non-integer argument"
  | zeroDivisor => "division by zero"
  | pattern fault => fault.message

/-- A step of reckoning an expression: the words that are left, and the word before them. -/
abbrev Reckoning := StateT (List Raw × Raw) (Except ExprFault)

def exprInt? (text : Raw) : Option Int :=
  match text.toList with
  | '+' :: _ => none
  | cs => Raw.int? cs

def isNull (text : Raw) : Bool :=
  text.isEmpty || (exprInt? text = some 0)

def takeSign? (signs : List Raw) : Reckoning (Option Raw) := do
  match (← get).1 with
  | word :: rest =>
    if signs.contains word then
      set (rest, word)
      return some word
    else return none
  | [] => return none

def exprInt (text : Raw) : Reckoning Int :=
  match exprInt? text with
  | some n => return n
  | none => throw .noNumber

/-- What a pattern at the start of a text has matched: its first group, or a number of characters. -/
def exprMatch (text pattern : Raw) : Reckoning Raw := do
  match Pattern.ofText .basic pattern with
  | .error fault => throw (.pattern fault)
  | .ok p =>
    let letters := (Raw.letters text).toArray
    let anchored : Pattern := .both (.edge .textStart) p
    match anchored.find? ⟨letters, false, false, false⟩ 0 with
    | none => return if 0 < p.groups then "" else "0"
    | some found =>
      if 0 < p.groups then
        match found.group? 1 with
        | some (i, j) => return Raw.ofLetters ((letters.extract i j).toList)
        | none => return ""
      else return toString (found.finish - found.start)

def compareWords (sign a b : Raw) : Bool :=
  let order : Ordering :=
    match exprInt? a, exprInt? b with
    | some m, some n => compare m n
    | _, _ => compare a b
  match sign with
  | "<" => order = .lt
  | "<=" => order ≠ .gt
  | "=" => order = .eq
  | "==" => order = .eq
  | "!=" => order ≠ .eq
  | ">=" => order ≠ .lt
  | _ => order = .gt

/-- The signs of expressions by levels, those that bind most weakly first. -/
def exprSigns : List (List Raw) :=
  [["|"], ["&"], ["<", "<=", "=", "==", "!=", ">=", ">"], ["+", "-"], ["*", "/", "%"], [":"]]

def combineWords (sign a b : Raw) : Reckoning Raw := do
  match sign with
  | "|" => return if isNull a then (if isNull b then "0" else b) else a
  | "&" => return if isNull a || isNull b then "0" else a
  | ":" => exprMatch a b
  | _ =>
    if (exprSigns.getD 2 []).contains sign then return if compareWords sign a b then "1" else "0"
    else
      let x ← exprInt a
      let y ← exprInt b
      match sign with
      | "+" => return toString (x + y)
      | "-" => return toString (x - y)
      | "*" => return toString (x * y)
      | _ =>
        if y = 0 then throw .zeroDivisor
        return toString (if sign = "/" then Int.tdiv x y else Int.tmod x y)

def chainWords (below : Reckoning Raw) (signs : List Raw) : (fuel : Nat) → Raw → Reckoning Raw
  | 0, a => return a
  | fuel + 1, a => do
    match ← takeSign? signs with
    | none => return a
    | some sign => chainWords below signs fuel (← combineWords sign a (← below))

mutual

/-- The value of words with signs of a level and of those that bind more strongly, within `fuel`
steps. -/
def exprLevel : (fuel level : Nat) → Reckoning Raw
  | 0, _ => throw .noNumber
  | fuel + 1, level => do
    match exprSigns[level]? with
    | none => exprWord fuel
    | some signs =>
      chainWords (exprLevel fuel (level + 1)) signs fuel (← exprLevel fuel (level + 1))

def exprWord : (fuel : Nat) → Reckoning Raw
  | 0 => throw .noNumber
  | fuel + 1 => do
    match ← get with
    | ([], before) => throw (.missing before)
    | (word :: rest, _) =>
      set (rest, word)
      match word with
      | "(" =>
        let value ← exprLevel fuel 0
        match ← takeSign? [")"] with
        | some _ => return value
        | none => throw (.missingBracket (← get).2)
      | ")" => throw .unexpectedBracket
      | "+" =>
        match ← get with
        | ([], before) => throw (.missing before)
        | (word :: rest, _) =>
          set (rest, word)
          return word
      | "length" => return toString (Raw.letters (← exprWord fuel)).length
      | "match" =>
        let text ← exprWord fuel
        exprMatch text (← exprWord fuel)
      | "index" =>
        let text ← exprWord fuel
        let letters := Raw.letters (← exprWord fuel)
        match (Raw.letters text).findIdx? letters.contains with
        | some i => return toString (i + 1)
        | none => return "0"
      | "substr" =>
        let text ← exprWord fuel
        let start ← exprWord fuel
        let length ← exprWord fuel
        match exprInt? start, exprInt? length with
        | some s, some l =>
          if s ≤ 0 || l ≤ 0 then return ""
          else return Raw.ofLetters (((Raw.letters text).drop (s.toNat - 1)).take l.toNat)
        | _, _ => return ""
      | word => return word

end

def expr (arguments : List Raw) : Task Nat := do
  let words := if arguments.head? = some "--" then arguments.drop 1 else arguments
  if words.isEmpty then refuse "missing operand" 2
  else
    match (exprLevel (8 * words.length + 16) 0).run (words, "") with
    | .error fault =>
      Task.complain fault.message
      return 2
    | .ok (_, extra :: _, _) =>
      Task.complain (ExprFault.unexpected extra).message
      return 2
    | .ok (value, [], _) =>
      Task.out (value ++ "\n")
      return if isNull value then 1 else 0

/-! ## Others -/

def seconds? (word : Raw) : Option Float :=
  match Number.takeFloat? word.toList with
  | some (x, rest) =>
    if x < 0.0 then none
    else
      match rest with
      | [] => some x
      | ['s'] => some x
      | ['m'] => some (x * 60.0)
      | ['h'] => some (x * 3600.0)
      | ['d'] => some (x * 86400.0)
      | _ => none
  | none => none

def sleep (arguments : List Raw) : Task Nat := do
  if arguments.isEmpty then refuse "missing operand" 1
  else
    match arguments.find? fun w => (seconds? w).isNone with
    | some _ =>
      let bad := arguments.filter fun w => (seconds? w).isNone
      for word in bad do Task.complain ("invalid time interval " ++ cited word)
      Task.err ("Try '" ++ (← read).name ++ " --help' for more information.\n")
      return 1
    | none =>
      for word in arguments do modify fun w => w.wait ((seconds? word).getD 0.0)
      return 0

/-- Writes variables that are handed to programs. -/
def printenv (arguments : List Raw) : Task Nat := do
  let environment := (← read).environment
  match arguments with
  | [] =>
    Task.out (String.join (environment.map fun v => v.1 ++ "=" ++ v.2 ++ "\n"))
    return 0
  | names =>
    each names fun name => do
      match environment.find? (·.1 = name) with
      | some (_, value) => Task.out (value ++ "\n"); return 0
      | none => return 1

def user : Raw := "root"

def always (word : Raw) : List Raw → Task Nat :=
  withChoices [] 1 fun c => do
    match c.arguments with
    | extra :: _ => refuse ("extra operand " ++ cited extra) 1
    | [] =>
      Task.out (word ++ "\n")
      return 0

/-- Does something for each user who is named, and complains of those who do not exist. -/
def eachUser (names : List Raw) (f : Raw → Task Unit) : Task Nat :=
  each names fun name => do
    if name = user || name = "0" then
      f name
      return 0
    else
      Task.complain (cited name ++ ": no such user")
      return 1

/-- Writes who runs it, or facts about users who are named. -/
def identity : List Raw → Task Nat :=
  withChoices [flag 'u' "user", flag 'g' "group", flag 'G' "groups", flag 'n' "name", flag 'r' "real",
    flag 'a' "", flag 'z' "zero"] 1 fun c => do
    let kinds := ['u', 'g', 'G'].filter c.has
    let names := if c.arguments.isEmpty then [user] else c.arguments
    match kinds with
    | [] =>
      if c.has 'n' || c.has 'r' then
        Task.complain "printing only names or real IDs requires -u, -g, or -G"
        return 1
      eachUser names fun _ => Task.out "uid=0(root) gid=0(root) groups=0(root)\n"
    | [_] => eachUser names fun _ => Task.out ((if c.has 'n' then user else "0") ++ "\n")
    | _ =>
      Task.complain "cannot print \x22only\x22 of more than one choice"
      return 1

def groups : List Raw → Task Nat :=
  withChoices [] 1 fun c =>
    if c.arguments.isEmpty then do
      Task.out (user ++ "\n")
      return 0
    else eachUser c.arguments fun name => Task.out (name ++ " : " ++ user ++ "\n")

def workingFolder : List Raw → Task Nat :=
  withChoices [flag 'L' "logical", flag 'P' "physical"] 1 fun c => do
    if !c.arguments.isEmpty then Task.complain "ignoring non-option arguments"
    Task.out ("/" ++ String.intercalate "/" (← read).folder ++ "\n")
    return 0

def constant (status : Nat) (_ : List Raw) : Task Nat := return status

def wordUtilities : List (Raw × Program) :=
  [("echo", .plain echo), ("printf", .plain printf), ("yes", .plain yes), ("test", .plain test),
    ("[", .plain bracket), ("seq", .plain seq), ("basename", .plain basename),
    ("dirname", .plain dirname), ("expr", .plain expr), ("sleep", .plain sleep),
    ("printenv", .plain printenv), ("true", .plain (constant 0)), ("false", .plain (constant 1)),
    ("whoami", .plain (always user)), ("id", .plain identity), ("groups", .plain groups),
    ("pwd", .plain workingFolder),
    ("sync", .plain (constant 0))]

end ConfigVault.Host.Utility
