import ConfigVault.Instance.Host.Record.Syntax
import ConfigVault.Instance.Host.Record.Token

/-!
# Reading programs for records

Operators bind in levels: those of a choice the least, then `||`, `&&`, `in`, matches, comparisons, texts
that stand side by side, sums, products, signs and powers.  Where something is printed, a `>` outside of
brackets leads to a file.
-/

namespace ConfigVault.Host.Record

/-- What is known while a program is read. -/
structure Progress where
  pieces : List Piece
  braces : Nat
  brackets : Nat
  loops : Nat
  inFunction : Bool
  inRecord : Bool
  calls : List Raw

abbrev Reading (α : Type) := StateT Progress (Except Fault) α

namespace Reading

def piece : Reading Piece := do return (← get).pieces.headD ⟨.fin, 0⟩

def peek : Reading Token := do return (← piece).token

def fail {α : Type} (message : Raw) : Reading α := do
  throw (.told [((← piece).line, message)])

def refuse {α : Type} : Reading α := do
  let p ← get
  let t ← peek
  let ends :=
    match t with
    | .fin => true
    | .newline => true
    | .mark m => m = "\x7d" || m = ";"
    | _ => false
  let atEnd :=
    match t with
    | .fin => true
    | _ => false
  if ends && 0 < p.brackets then fail ("missing ) near " ++ t.spelling)
  else if atEnd && 0 < p.braces then fail ("missing \x7d near " ++ t.spelling)
  else fail ("syntax error at or near " ++ t.spelling)

def take : Reading Token := do
  let t ← peek
  match t with
  | .mark m =>
    if m = "\x7b" then modify fun p => { p with braces := p.braces + 1 }
    else if m = "(" then modify fun p => { p with brackets := p.brackets + 1 }
    else if m = "\x7d" then modify fun p => { p with braces := p.braces - 1 }
    else if m = ")" then modify fun p => { p with brackets := p.brackets - 1 }
  | _ => pure ()
  modify fun p => { p with pieces := p.pieces.drop 1 }
  return t

def isMark (m : Raw) : Reading Bool := do
  match ← peek with
  | .mark other => return other = m
  | _ => return false

def isKeyword (word : Raw) : Reading Bool := do
  match ← peek with
  | .keyword other => return other = word
  | _ => return false

def expect (m : Raw) : Reading Unit := do
  if ← isMark m then
    let _ ← take
  else refuse

def accept (m : Raw) : Reading Bool := do
  if ← isMark m then
    let _ ← take
    return true
  else return false

def takeName : Reading Raw := do
  match ← peek with
  | .name name =>
    let _ ← take
    return name
  | _ => refuse

/-- Passes over ends of lines, and over semicolons where they may stand. -/
def skipLines (semicolons : Bool) : Reading Unit :=
  modify fun p =>
    { p with
      pieces := p.pieces.dropWhile fun piece =>
        match piece.token with
        | .newline => true
        | .mark m => semicolons && m = ";"
        | _ => false }

end Reading

open Reading

def bytesOf (text : Raw) : List Char :=
  text.toList.map fun c => if c.toNat < 128 then c else Char.ofNat (Raw.strayBase + c.toNat)

def patternFault : Pattern.Fault → Raw
  | .openGroup => "missing ')'"
  | .closedGroup => "extra ')'"
  | .openSet => "class -- unterminated"
  | .bare => "class -- unterminated"
  | .number => "bad interval expression"
  | _ => "missing operand"

def patternOf (text : Raw) : Except Raw Pattern :=
  match Pattern.ofLetters .records (bytesOf text) with
  | .ok (p, []) => .ok p
  | .ok (_, _) => .error ("regular expression compile failed (missing operand)\n" ++ text)
  | .error fault =>
    .error ("regular expression compile failed (" ++ patternFault fault ++ ")\n" ++ text)

def Token.beginsValue : Token → Bool
  | .number _ _ => true
  | .text _ => true
  | .pattern _ => true
  | .name _ => true
  | .call _ => true
  | .standard _ => true
  | .mark m => ["$", "(", "!", "++", "--"].contains m
  | _ => false

def assignment? (m : Raw) : Option (Option Operator) :=
  [("=", none), ("+=", some .add), ("-=", some .subtract), ("*=", some .multiply),
    ("/=", some .divide), ("%=", some .remainder), ("^=", some .power)].lookup m

/-- How two expressions are joined on a level, by the piece between them.  The second part says that a piece
stands between them, and the third that lines may end behind it. -/
def join? (level : Nat) (prints : Bool) (t : Token) : Option ((Expr → Expr → Expr) × Bool × Bool) :=
  match level, t with
  | 0, .mark "||" => some (.either, true, true)
  | 1, .mark "&&" => some (.both, true, true)
  | 3, .mark "~" => some (.found false, true, false)
  | 3, .mark "!~" => some (.found true, true, false)
  | 4, .mark "<" => some (.compare .less, true, false)
  | 4, .mark "<=" => some (.compare .atMost, true, false)
  | 4, .mark "==" => some (.compare .equal, true, false)
  | 4, .mark "!=" => some (.compare .unequal, true, false)
  | 4, .mark ">" => if prints then none else some (.compare .more, true, false)
  | 4, .mark ">=" => some (.compare .atLeast, true, false)
  | 5, t =>
    if t.beginsValue && t.spelling ≠ "!" then some (.joined, false, false)
    else none
  | 6, .mark "+" => some (.combine .add, true, false)
  | 6, .mark "-" => some (.combine .subtract, true, false)
  | 7, .mark "*" => some (.combine .multiply, true, false)
  | 7, .mark "/" => some (.combine .divide, true, false)
  | 7, .mark "%" => some (.combine .remainder, true, false)
  | _, _ => none

def signLevel : Nat := 8

/-- The functions that every program has and that do not take exactly one argument, with the least and
the greatest number of arguments. -/
def unusualBounds : List (Raw × Nat × Nat) :=
  [("length", 0, 1), ("index", 2, 2), ("substr", 2, 3), ("split", 2, 3), ("sub", 2, 3), ("gsub", 2, 3),
    ("match", 2, 2), ("sprintf", 1, 1000), ("atan2", 2, 2), ("rand", 0, 0), ("srand", 0, 1),
    ("fflush", 0, 1), ("strftime", 0, 3), ("systime", 0, 0)]

/-- The least and the greatest number of arguments of a function that every program has. -/
def argumentBounds (name : Raw) : Nat × Nat := (unusualBounds.lookup name).getD (1, 1)

mutual

def takeExpr (prints : Bool) : (fuel : Nat) → Reading Expr
  | 0 => refuse
  | fuel + 1 => do
    let test ← takeLevel prints fuel 0
    if ← accept "?" then
      let yes ← takeExpr prints fuel
      expect ":"
      return .choice test yes (← takeExpr prints fuel)
    else return test

def takeLevel (prints : Bool) : (fuel : Nat) → (level : Nat) → Reading Expr
  | 0, _ => refuse
  | fuel + 1, level => do
    if signLevel ≤ level then takeSigned prints fuel
    else
      let left ← takeLevel prints fuel (level + 1)
      takeRest prints fuel level left

def takeRest (prints : Bool) : (fuel : Nat) → (level : Nat) → Expr → Reading Expr
  | 0, _, _ => refuse
  | fuel + 1, level, left => do
    if level = 2 && (← isKeyword "in") then
      let _ ← take
      let table ← takeName
      takeRest prints fuel level (.member [left] table)
    else
      match join? level prints (← peek) with
      | none => return left
      | some (build, isPiece, lines) =>
        if isPiece then
          let _ ← take
        if lines then skipLines false
        let right ← takeLevel prints fuel (level + 1)
        takeRest prints fuel level (build left right)

def takeSigned (prints : Bool) : (fuel : Nat) → Reading Expr
  | 0 => refuse
  | fuel + 1 => do
    if ← accept "!" then return .negated (← takeSigned prints fuel)
    else if ← accept "-" then return .sign true (← takeSigned prints fuel)
    else if ← accept "+" then return .sign false (← takeSigned prints fuel)
    else
      let base ← takeTarget prints fuel
      if ← accept "^" then return .combine .power base (← takeSigned prints fuel)
      else return base

def takeTarget (prints : Bool) : (fuel : Nat) → Reading Expr
  | 0 => refuse
  | fuel + 1 => do
    let e ← takePrimary prints fuel
    let e ←
      if e.isTarget then
        match ← peek with
        | .mark m =>
          if m = "++" then
            let _ ← take
            pure (.step e 1.0 true)
          else if m = "--" then
            let _ ← take
            pure (.step e (-1.0) true)
          else
            match assignment? m with
            | some op =>
              let _ ← take
              let value ← takeExpr prints fuel
              pure (match op with
                | none => .assign e value
                | some op => .update op e value)
            | none => pure e
        | _ => pure e
      else pure e
    takeCommands prints fuel e

def takeCommands (prints : Bool) : (fuel : Nat) → Expr → Reading Expr
  | 0, _ => refuse
  | fuel + 1, e => do
    let before ← get
    if ← accept "|" then
      if ← isKeyword "getline" then
        let _ ← take
        let target ← takeLineTarget prints fuel
        takeCommands prints fuel (.readCommand target e)
      else
        set before
        return e
    else return e

def takeLineTarget (prints : Bool) : (fuel : Nat) → Reading (Option Expr)
  | 0 => refuse
  | fuel + 1 => do
    match ← peek with
    | .name _ => return some (← takePrimary prints fuel)
    | .mark "$" => return some (← takePrimary prints fuel)
    | _ => return none

def takeExprs : (fuel : Nat) → (mark : Raw) → Reading (List Expr)
  | 0, _ => refuse
  | fuel + 1, mark => do
    let e ← takeExpr false fuel
    if ← accept "," then
      skipLines false
      return e :: (← takeExprs fuel mark)
    else
      expect mark
      return [e]

/-- Takes the arguments of a function behind its opening bracket. -/
def takeArguments : (fuel : Nat) → Reading (List Expr)
  | 0 => refuse
  | fuel + 1 => do
    if ← accept ")" then return []
    else takeExprs fuel ")"

def takePrimary (prints : Bool) : (fuel : Nat) → Reading Expr
  | 0 => refuse
  | fuel + 1 => do
    match ← peek with
    | .number x _ =>
      let _ ← take
      return .number x
    | .text text =>
      let _ ← take
      return .text text
    | .pattern text =>
      match patternOf text with
      | .ok p =>
        let _ ← take
        return .pattern p
      | .error message => fail message
    | .name name =>
      let _ ← take
      if ← accept "[" then return .element name (← takeExprs fuel "]")
      else return .name name
    | .call name =>
      let _ ← take
      expect "("
      let arguments ← takeArguments fuel
      modify fun p => { p with calls := name :: p.calls }
      return .call name arguments
    | .standard name =>
      let _ ← take
      let arguments ←
        if name = "length" && !(← isMark "(") then pure []
        else do
          expect "("
          takeArguments fuel
      let bounds := argumentBounds name
      if arguments.length < bounds.1 || bounds.2 < arguments.length then
        if bounds.2 = 1 && bounds.1 ≤ 1 && bounds.2 < arguments.length then
          fail "syntax error at or near ,"
        else fail ("wrong number of arguments in call to " ++ name)
      return .standard name arguments
    | .keyword "getline" =>
      let _ ← take
      let target ← takeLineTarget prints fuel
      if ← accept "<" then return .readFile target (← takePrimary prints fuel)
      else return .readLine target
    | .mark "(" =>
      let _ ← take
      match ← takeExprs fuel ")" with
      | [e] => return e
      | keys =>
        if ← isKeyword "in" then
          let _ ← take
          return .member keys (← takeName)
        else refuse
    | .mark "$" =>
      let _ ← take
      if ← accept "++" then return .field (.step (← takePrimary prints fuel) 1.0 false)
      else if ← accept "--" then return .field (.step (← takePrimary prints fuel) (-1.0) false)
      else if ← accept "-" then return .field (.sign true (← takePrimary prints fuel))
      else return .field (← takePrimary prints fuel)
    | .mark "++" =>
      let _ ← take
      return .step (← takePrimary prints fuel) 1.0 false
    | .mark "--" =>
      let _ ← take
      return .step (← takePrimary prints fuel) (-1.0) false
    | .mark "-" =>
      let _ ← take
      return .sign true (← takePrimary prints fuel)
    | _ => refuse

end

/-! ## Statements -/

def exprFuel : Reading Nat := do return 16 * (← get).pieces.length + 64

def takeTest : Reading Expr := do
  expect "("
  let e ← takeExpr false (← exprFuel)
  expect ")"
  return e

def endsPrinting : Reading Bool := do
  match ← peek with
  | .newline => return true
  | .fin => return true
  | .mark m => return [";", "\x7d", ">", ">>", "|"].contains m
  | _ => return false

def takePrinted : (fuel : Nat) → Reading (List Expr)
  | 0 => refuse
  | fuel + 1 => do
    let e ← takeExpr true (← exprFuel)
    if ← accept "," then
      skipLines false
      return e :: (← takePrinted fuel)
    else return [e]

def takePrintedParts : Reading (List Expr) := do
  if ← endsPrinting then return []
  else
    let before ← get
    let grouped : Reading (Option (List Expr)) := do
      if ← accept "(" then
        let es ← takeExprs (← exprFuel) ")"
        if ← endsPrinting then return some es else return none
      else return none
    match ← grouped with
    | some es => return es
    | none =>
      set before
      takePrinted (before.pieces.length + 1)

def takeDestination : Reading Destination := do
  if ← accept ">" then return .file (← takeExpr true (← exprFuel)) false
  else if ← accept ">>" then return .file (← takeExpr true (← exprFuel)) true
  else if ← accept "|" then return .command (← takeExpr true (← exprFuel))
  else return .output

def endsStatement : Reading Bool := do
  match ← peek with
  | .newline => return true
  | .fin => return true
  | .mark m => return m = ";" || m = "\x7d"
  | _ => return false

def takeEnd : Reading Unit := do
  match ← peek with
  | .newline => skipLines false
  | .mark ";" => skipLines true
  | .mark "\x7d" => return ()
  | .fin => return ()
  | _ => refuse

def takeOptional : Reading (Option Expr) := do
  if ← endsStatement then return none else return some (← takeExpr false (← exprFuel))

def takeSimple : Reading Statement := do
  match ← peek with
  | .keyword word =>
    match word with
    | "print" =>
      let _ ← take
      let es ← takePrintedParts
      return .print es (← takeDestination)
    | "printf" =>
      let _ ← take
      let es ← takePrintedParts
      if es.isEmpty then fail "no arguments in call to printf"
      return .printLaidOut es (← takeDestination)
    | "next" =>
      if !(← get).inRecord then fail "improper use of next"
      let _ ← take
      return .next
    | "nextfile" =>
      if !(← get).inRecord then fail "improper use of nextfile"
      let _ ← take
      return .nextFile
    | "exit" =>
      let _ ← take
      return .exit (← takeOptional)
    | "return" =>
      if !(← get).inFunction then fail "return outside function body"
      let _ ← take
      return .back (← takeOptional)
    | "break" =>
      if (← get).loops = 0 then fail "break statement outside of loop"
      let _ ← take
      return .leave
    | "continue" =>
      if (← get).loops = 0 then fail "continue statement outside of loop"
      let _ ← take
      return .again
    | "delete" =>
      let _ ← take
      let table ← takeName
      if ← accept "[" then return .erase table (← takeExprs (← exprFuel) "]")
      else return .eraseAll table
    | _ => return .expression (← takeExpr false (← exprFuel))
  | _ => return .expression (← takeExpr false (← exprFuel))

def inLoop {α : Type} (r : Reading α) : Reading α := do
  modify fun p => { p with loops := p.loops + 1 }
  let a ← r
  modify fun p => { p with loops := p.loops - 1 }
  return a

/-- The head of a loop over the keys of a table, behind its opening bracket. -/
def takeKeysHead : Reading (Option (Raw × Raw)) := do
  match (← get).pieces with
  | ⟨.name name, _⟩ :: ⟨.keyword "in", _⟩ :: ⟨.name table, _⟩ :: ⟨.mark ")", _⟩ :: _ =>
    for _ in [(), (), (), ()] do
      let _ ← take
    return some (name, table)
  | _ => return none

mutual

def takeStatement : (fuel : Nat) → Reading Statement
  | 0 => refuse
  | fuel + 1 => do
    match ← peek with
    | .mark "\x7b" =>
      let _ ← take
      let body ← takeBlock fuel
      return body
    | .mark ";" =>
      skipLines true
      return .nothing
    | .keyword "if" =>
      let _ ← take
      let test ← takeTest
      skipLines false
      let yes ← takeStatement fuel
      let before ← get
      skipLines true
      if ← isKeyword "else" then
        let _ ← take
        skipLines false
        return .choice test yes (← takeStatement fuel)
      else
        set before
        return .choice test yes .nothing
    | .keyword "while" =>
      let _ ← take
      let test ← takeTest
      skipLines false
      return .loop test (← inLoop (takeStatement fuel))
    | .keyword "do" =>
      let _ ← take
      skipLines false
      let body ← inLoop (takeStatement fuel)
      skipLines true
      if ← isKeyword "while" then
        let _ ← take
        let test ← takeTest
        takeEnd
        return .loopAfter body test
      else refuse
    | .keyword "for" =>
      let _ ← take
      expect "("
      match ← takeKeysHead with
      | some (name, table) =>
        skipLines false
        return .each name table (← inLoop (takeStatement fuel))
      | none =>
        let start ← if ← isMark ";" then pure .nothing else takeSimple
        expect ";"
        skipLines false
        let test ← if ← isMark ";" then pure none else do pure (some (← takeExpr false (← exprFuel)))
        expect ";"
        skipLines false
        let step ← if ← isMark ")" then pure .nothing else takeSimple
        expect ")"
        skipLines false
        return .count start test step (← inLoop (takeStatement fuel))
    | _ =>
      let s ← takeSimple
      takeEnd
      return s

def takeBlock : (fuel : Nat) → Reading Statement
  | 0 => refuse
  | fuel + 1 => do
    skipLines true
    if ← accept "\x7d" then return .nothing
    else
      let first ← takeStatement fuel
      return .sequence first (← takeBlock fuel)

end

/-- Takes the braces around what a rule does, with a semicolon right behind them. -/
def takeBody : Reading Statement := do
  expect "\x7b"
  let body ← takeBlock (4 * (← get).pieces.length + 16)
  let _ ← accept ";"
  return body

/-- Takes the parameters of a function behind its opening bracket, within `fuel` of them. -/
def takeParameters : (fuel : Nat) → Reading (List Raw)
  | 0 => refuse
  | fuel + 1 => do
    skipLines false
    if ← accept ")" then return []
    else
      let name ← takeName
      if ← accept "," then return name :: (← takeParameters fuel)
      else
        expect ")"
        return [name]

def takeRule : Reading Rule := do
  match ← peek with
  | .keyword "BEGIN" =>
    let _ ← take
    modify fun p => { p with inRecord := false }
    return ⟨.start, ← takeBody⟩
  | .keyword "END" =>
    let _ ← take
    modify fun p => { p with inRecord := false }
    return ⟨.finish, ← takeBody⟩
  | .mark "\x7b" =>
    modify fun p => { p with inRecord := true }
    return ⟨.always, ← takeBody⟩
  | _ =>
    modify fun p => { p with inRecord := true }
    let first ← takeExpr false (← exprFuel)
    let trigger ←
      if ← accept "," then do
        skipLines false
        pure (.range first (← takeExpr false (← exprFuel)))
      else pure (.when first)
    if ← isMark "\x7b" then return ⟨trigger, ← takeBody⟩
    else
      match ← peek with
      | .newline => skipLines false
      | .fin => pure ()
      | _ => expect ";"
      return ⟨trigger, .print [] .output⟩

def takeItems : (fuel : Nat) → Script → Reading Script
  | 0, s => return s
  | fuel + 1, s => do
    skipLines false
    match ← peek with
    | .fin => return ⟨s.rules.reverse, s.functions⟩
    | .keyword "function" =>
      let _ ← take
      let name ←
        match ← peek with
        | .name name => pure name
        | .call name => pure name
        | _ => refuse
      if s.functions.any (·.name = name) then fail ("redefinition of " ++ name)
      let _ ← take
      expect "("
      let parameters ← takeParameters ((← get).pieces.length + 1)
      if let some twice := parameters.find? fun p => 1 < parameters.count p then
        fail (twice ++ " is duplicated in argument list")
      skipLines false
      modify fun p => { p with inFunction := true, inRecord := true }
      let body ← takeBody
      modify fun p => { p with inFunction := false }
      takeItems fuel { s with functions := ⟨name, parameters, body⟩ :: s.functions }
    | _ =>
      let rule ← takeRule
      takeItems fuel { s with rules := rule :: s.rules }

def tooGreat (pieces : List Piece) : List (Nat × Raw) :=
  pieces.filterMap fun p =>
    match p.token with
    | .number x spelling => if x.isInf then some (p.line, spelling ++ " : decimal overflow") else none
    | _ => none

/-- The number of braces that are opened less that of those that are closed. -/
def openBraces (pieces : List Piece) : Int :=
  pieces.foldl (fun n p =>
    match p.token with
    | .mark m => if m = "\x7b" then n + 1 else if m = "\x7d" then n - 1 else n
    | _ => n) 0

def withOpenBraces (pieces : List Piece) (complaints : List (Nat × Raw)) : List (Nat × Raw) :=
  if 0 < openBraces pieces && complaints.any fun c => "syntax error".isPrefixOf c.2 then
    complaints ++ [((pieces.getLast?.map Piece.line).getD 1, "missing \x7d near end of file")]
  else complaints

def Script.ofText (text : Raw) : Except Fault Script := do
  let pieces ← piecesOf text
  let start : Progress := ⟨pieces, 0, 0, 0, false, true, []⟩
  match (takeItems (pieces.length + 1) ⟨[], []⟩).run start with
  | .error (.told complaints) => throw (.told (tooGreat pieces ++ withOpenBraces pieces complaints))
  | .error fault => throw fault
  | .ok (script, p) =>
    if !(tooGreat pieces).isEmpty then throw (.told (tooGreat pieces))
    match p.calls.reverse.find? fun name => !script.functions.any (·.name = name) with
    | some name =>
      throwAt ((pieces.getLast?.map Piece.line).getD 1) ("function " ++ name ++ " never defined")
    | none => return script

end ConfigVault.Host.Record
