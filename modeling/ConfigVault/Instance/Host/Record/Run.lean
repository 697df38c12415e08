import ConfigVault.Instance.Host.Record.State

/-!
# Running programs for records

First the rules for the start are run, then for each record those whose condition holds, and last those
for the end.  A program that asks for its end while records are read still runs its last rules.
-/

namespace ConfigVault.Host.Record

open Run

structure Setting where
  start : Starter
  functions : List Function

/-! ## Functions that every program has -/

def replacementOf (found : List Char) : (fuel : Nat) → List Char → List Char
  | 0, cs => cs
  | _ + 1, [] => []
  | fuel + 1, '\\' :: '&' :: rest => '&' :: replacementOf found fuel rest
  | fuel + 1, '\\' :: '\\' :: '&' :: rest => '\\' :: replacementOf found fuel ('&' :: rest)
  | fuel + 1, '\\' :: '\\' :: '\\' :: '&' :: rest => '\\' :: '&' :: replacementOf found fuel rest
  | fuel + 1, '&' :: rest => found ++ replacementOf found fuel rest
  | fuel + 1, c :: rest => c :: replacementOf found fuel rest

/-- The letters of a page with matches replaced, from a position on and within `fuel` matches, and the number of
the matches; the last match ended at `bound`. -/
def replaceFrom (pattern : Pattern) (p : Page) (net : Net) (replacement : List Char) (everywhere : Bool) :
    (fuel start : Nat) → (bound : Option Nat) → List Char × Nat
  | 0, start, _ => ((p.letters.extract start p.letters.size).toList, 0)
  | fuel + 1, start, bound =>
    let size := p.letters.size
    let part (i j : Nat) : List Char := (p.letters.extract i j).toList
    match pattern.findWith? p net start with
    | none => (part start size, 0)
    | some found =>
      let isEmpty := found.start = found.finish
      let next := if isEmpty then found.finish + 1 else found.finish
      let behind := if isEmpty then part found.finish (found.finish + 1) else []
      let skips := isEmpty && bound = some found.start
      let middle :=
        if skips then []
        else replacementOf (part found.start found.finish) (replacement.length + 1) replacement
      if !skips && !everywhere then (part start found.start ++ middle ++ part found.finish size, 1)
      else
        let (rest, count) :=
          if size < next then ([], 0)
          else
            replaceFrom pattern p net replacement everywhere fuel next (if isEmpty then none else some next)
        (part start found.start ++ middle ++ behind ++ rest, if skips then count else count + 1)

/-- A part of a text: the number of its first character, from one on, and the number of its characters.  What
a first number below one lacks is added to the number of characters. -/
def subtext (t : Raw) (first : Float) (count : Option Float) : Raw :=
  let whole (x : Float) : Int := max (-Number.half32) (min (wholePart x) (Number.half32 - 1))
  let start := if first.isNaN then 0 else whole first
  let size : Int :=
    match count with
    | some n => if n.isNaN then 0 else whole n
    | none => Number.half32
  let (start, size) := if start < 1 then (1, size - start) else (start, size)
  if size ≤ 0 then "" else ((t.drop (start - 1).toNat).take size.toNat).toString

def placeIn (t other : Raw) : Nat :=
  let needle := other.toList
  let cs := t.toList
  if needle.isEmpty then 1
  else
    (((List.range (cs.length + 1 - needle.length)).find? fun i =>
      needle.isPrefixOf (cs.drop i)).map (· + 1)).getD 0

def cut (x : Float) : Float := if x < 0.0 then x.ceil else x.floor

/-- The next number of a row that looks random. -/
def nextSeed (x : Float) : Float :=
  let n := (wholePart (x * 16777216.0)).toNat
  Float.ofNat ((n * 1103515245 + 12345) % 2147483648) / 2147483648.0

def numeric? (name : Raw) : Option (Float → Float) :=
  ([("sin", Float.sin), ("cos", Float.cos), ("exp", Float.exp), ("log", Float.log),
    ("sqrt", Float.sqrt), ("int", cut)] : List (Raw × (Float → Float))).lookup name

def layOutValues (function : Raw) (shows : Raw → Run Unit) : List Value → Run Raw
  | [] => return ""
  | template :: values => do
    let t ← text template
    let (pieces, fault) := layOut (← globalText "CONVFMT") (t.length + 1) t.toList values 1
    match fault with
    | none => return String.join pieces
    | some fault =>
      shows (String.join pieces)
      let place := function ++ "(\x22" ++ t ++ "\x22)"
      match fault with
      | .tooFew => fail ("run time error: not enough arguments passed to " ++ place)
      | .improper n =>
        fail ("run time error: improper conversion(number " ++ toString n ++ ") in " ++ place)

def keyOf : List Value → Run Key
  | [.number x] => do
    if isWhole x && x.abs < 9007199254740992.0 then return .number (wholePart x)
    else return .text (← text (.number x))
  | [v] => return .text (← text v)
  | vs => do return .text (String.intercalate (← globalText "SUBSEP") (← vs.mapM text))

def fieldNumber (v : Value) : Run Nat := do
  let n := wholePart v.toNumber
  if n < 0 then fail ("run time error: negative field index $" ++ toString n)
  else return min n.toNat 100000

def repeated (step : Run Bool) : (fuel : Nat) → Run Unit
  | 0 => throw .endless
  | fuel + 1 => do
    if ← step then repeated step fuel

def observe {α : Type} (r : Run α) : Run (Except Halt α) := fun state => do
  let (result, state) ← r.run state
  return (.ok result, state)

def oneRound (body : Run Unit) : Run Bool := do
  spend 1
  match ← observe body with
  | .ok _ => return true
  | .error .again => return true
  | .error .leave => return false
  | .error h => throw h

def forEach (step : Raw → Run Bool) : List Raw → Run Unit
  | [] => return ()
  | key :: rest => do
    if ← step key then forEach step rest

def maxDepth : Nat := 20000

mutual

def eval (c : Setting) : (fuel : Nat) → Expr → Run Value
  | 0, _ => throw .endless
  | fuel + 1, e => do
    match e with
    | .number x => return .number x
    | .text t => return .text t
    | .pattern p => return .ofBool (p.isIn (page (← text (← field 0))))
    | .name "NF" =>
      splitRecord
      return .ofNat (← get).fields.size
    | .name name =>
      match ← cell (← cellOf name) with
      | .value v => return v
      | .unused _ => return .none
      | .table _ => fail ("type error in use of array " ++ name)
    | .field i => field (← fieldNumber (← eval c fuel i))
    | .element name keys =>
      let key ← keyOf (← evalAll c fuel keys)
      let t ← tableOf name
      let (v, changed) := (← table t).get key
      setTable t changed
      return v
    | .assign target value =>
      let v ← eval c fuel value
      give c fuel target fun _ => pure v
    | .update op target value =>
      let v ← eval c fuel value
      give c fuel target fun old => pure (.number (op.apply old.toNumber v.toNumber))
    | .step target amount before =>
      if before then
        let v ← give c fuel target fun old => pure (.number (old.toNumber + amount))
        return .number (v.toNumber - amount)
      else give c fuel target fun old => pure (.number (old.toNumber + amount))
    | .choice test yes no =>
      if (← eval c fuel test).isTrue then eval c fuel yes else eval c fuel no
    | .both a b =>
      if (← eval c fuel a).isTrue then return .ofBool (← eval c fuel b).isTrue
      else return .ofBool false
    | .either a b =>
      if (← eval c fuel a).isTrue then return .ofBool true
      else return .ofBool (← eval c fuel b).isTrue
    | .negated a => return .ofBool !(← eval c fuel a).isTrue
    | .sign minus a =>
      let x := (← eval c fuel a).toNumber
      return .number (if minus then 0.0 - x else x)
    | .combine op a b =>
      let x ← eval c fuel a
      let y ← eval c fuel b
      return .number (op.apply x.toNumber y.toNumber)
    | .compare comparison a b =>
      let x ← eval c fuel a
      let y ← eval c fuel b
      return .ofBool (comparison.holds (← globalText "CONVFMT") x y)
    | .joined a b =>
      let x ← text (← eval c fuel a)
      let y ← text (← eval c fuel b)
      return .text (x ++ y)
    | .found negated t p =>
      let t ← text (← eval c fuel t)
      let p ← evalPattern c fuel p
      return .ofBool (p.isIn (page t) != negated)
    | .member keys name =>
      let key ← keyOf (← evalAll c fuel keys)
      let t ← tableOf name
      let (found, changed) := (← table t).asks key
      setTable t changed
      return .ofBool found
    | .call name arguments => callFunction c fuel name arguments
    | .standard name arguments => callStandard c fuel name arguments
    | .readLine target =>
      match ← nextRecord c.start maxFiles with
      | some record =>
        match target with
        | some target =>
          let _ ← give c fuel target fun _ => pure (.input record)
          return .number 1.0
        | none =>
          setRecord (.input record)
          return .number 1.0
      | none => return .number 0.0
    | .readFile target file =>
      let name ← text (← eval c fuel file)
      readFrom c fuel target name false
    | .readCommand target command =>
      let name ← text (← eval c fuel command)
      readFrom c fuel target name true

def evalAll (c : Setting) : (fuel : Nat) → List Expr → Run (List Value)
  | 0, _ => throw .endless
  | _ + 1, [] => return []
  | fuel + 1, e :: rest => do
    let v ← eval c fuel e
    return v :: (← evalAll c fuel rest)

def evalPattern (c : Setting) : (fuel : Nat) → Expr → Run Pattern
  | 0, _ => throw .endless
  | fuel + 1, e => do
    match e with
    | .pattern p => return p
    | e => dynamic (← text (← eval c fuel e))

def give (c : Setting) : (fuel : Nat) → Expr → (Value → Run Value) → Run Value
  | 0, _, _ => throw .endless
  | fuel + 1, target, f => do
    match target with
    | .name "NF" =>
      splitRecord
      let v ← f (.ofNat (← get).fields.size)
      let n := wholePart v.toNumber
      if n < 0 then fail "run time error: negative value assigned to NF"
      setFieldCount (min n.toNat 100000)
      return v
    | .name name =>
      let i ← cellOf name
      match ← cell i with
      | .value old =>
        let v ← f old
        setCell i (.value v)
        return v
      | .unused _ =>
        let v ← f .none
        setCell i (.value v)
        return v
      | .table _ => fail ("illegal reference to array " ++ name)
    | .field e =>
      let i ← fieldNumber (← eval c fuel e)
      let v ← f (← field i)
      setField i v
      return v
    | .element name keys =>
      let key ← keyOf (← evalAll c fuel keys)
      let t ← tableOf name
      let (old, changed) := (← table t).get key
      setTable t changed
      let v ← f old
      setTable t ((← table t).set key v)
      return v
    | _ => f .none

def readFrom (c : Setting) : (fuel : Nat) → Option Expr → (name : Raw) → (isCommand : Bool) → Run Value
  | 0, _, _, _ => throw .endless
  | fuel + 1, target, name, isCommand => do
    match ← sourceOf c.start name isCommand with
    | none => return .number (-1.0)
    | some source =>
      match ← takeRecord source.rest with
      | none =>
        keepSource { source with rest := [] }
        return .number 0.0
      | some (record, rest) =>
        keepSource { source with rest }
        match target with
        | some target =>
          let _ ← give c fuel target fun _ => pure (.input record)
          return .number 1.0
        | none =>
          setRecord (.input record)
          return .number 1.0

def callFunction (c : Setting) : (fuel : Nat) → (name : Raw) → List Expr → Run Value
  | 0, _, _ => throw .endless
  | fuel + 1, name, arguments => do
    match c.functions.find? (·.name = name) with
    | none => fail ("function " ++ name ++ " never defined")
    | some f =>
      spend 1
      if f.parameters.length < arguments.length then
        fail ("too many arguments in call to " ++ name)
      let given ← handOver c fuel arguments
      let before := (← get).locals
      let missing := (List.range (f.parameters.length - arguments.length)).map fun _ => Cell.unused none
      let size := (← get).cells.size
      let cells := given ++ missing
      modify fun s =>
        { s with
          cells := s.cells ++ cells.toArray
          locals := f.parameters.zip ((List.range cells.length).map (· + size)) }
      let result ← observe (exec c fuel f.body)
      modify fun s => { s with locals := before }
      match result with
      | .ok _ => return .none
      | .error (.back v) => return v
      | .error h => throw h

/-- The cells for the arguments of a function: tables, and what may become one, are shared. -/
def handOver (c : Setting) : (fuel : Nat) → List Expr → Run (List Cell)
  | 0, _ => throw .endless
  | _ + 1, [] => return []
  | fuel + 1, e :: rest => do
    let first ←
      match e with
      | .name "NF" => do pure (Cell.value (← eval c fuel e))
      | .name name => do
        let i ← cellOf name
        match ← cell i with
        | .table t => pure (Cell.table t)
        | .unused _ => pure (Cell.unused (some i))
        | .value v => pure (Cell.value v)
      | e => do pure (Cell.value (← eval c fuel e))
    return first :: (← handOver c fuel rest)

def callStandard (c : Setting) : (fuel : Nat) → (name : Raw) → List Expr → Run Value
  | 0, _, _ => throw .endless
  | fuel + 1, name, arguments => do
    match name, arguments with
    | "length", [] => return .ofNat (← text (← field 0)).length
    | "length", [.name n] =>
      if n = "NF" then return .ofNat (← text (← eval c fuel (.name n))).length
      else
        match ← cell (← cellOf n) with
        | .table t => return .ofNat (← table t).values.size
        | .value v => return .ofNat (← text v).length
        | .unused _ => return .number 0.0
    | "length", [e] => return .ofNat (← text (← eval c fuel e)).length
    | "split", e :: .name n :: more =>
      let t ← text (← eval c fuel e)
      let parts ←
        match more with
        | [] => divide (← globalText "FS") t
        | .pattern p :: _ =>
          if t.isEmpty then pure []
          else pure (piecesBetween p (page t) (p.netOver (page t)) (t.length + 1) 0 0)
        | e :: _ => do divide (← text (← eval c fuel e)) t
      let target ← tableOf n
      setTable target (Table.ofList (parts.map Value.input))
      return .ofNat parts.length
    | "match", [e, p] =>
      let t ← text (← eval c fuel e)
      let p ← evalPattern c fuel p
      let (first, length) : Float × Float :=
        match p.find? (page t) 0 with
        | some found => (Float.ofNat (found.start + 1), Float.ofNat (found.finish - found.start))
        | none => (0.0, -1.0)
      setGlobal "RSTART" (.number first)
      setGlobal "RLENGTH" (.number length)
      return .number first
    | "rand", _ =>
      let seed := nextSeed (← get).seed
      modify fun s => { s with seed }
      return .number seed
    | "fflush", _ =>
      flush
      return .number 0.0
    | "srand", es =>
      let vs ← evalAll c fuel es
      let before := (← get).origin
      let origin := ((vs.head?.map Value.toNumber)).getD 0.0
      modify fun s => { s with origin, seed := (origin - origin.floor + 0.5) / 2.0 }
      return .number before
    | "systime", _ => return .number 0.0
    | "mktime", [e] =>
      let parts := (words (← text (← eval c fuel e))).map fun w => Raw.nat? w.toList
      match parts with
      | some year :: some month :: some day :: some hour :: some minute :: some second :: _ =>
        return .number (Float.ofInt ((Utility.secondsAt? year month day hour minute second).getD (-1)))
      | _ => return .number (-1.0)
    | "strftime", es =>
      let vs ← evalAll c fuel es
      let template ← match vs with
        | v :: _ => text v
        | [] => pure ""
      let seconds := ((vs[1]?).map fun v => wholePart v.toNumber).getD 0
      return .text (Utility.timeAt seconds (if template.isEmpty then "%c" else template))
    | "sprintf", es => do return .text (← layOutValues name (fun _ => pure ()) (← evalAll c fuel es))
    | "atan2", [a, b] =>
      let x ← eval c fuel a
      let y ← eval c fuel b
      return .number (Float.atan2 x.toNumber y.toNumber)
    | "index", [a, b] =>
      let t ← text (← eval c fuel a)
      let other ← text (← eval c fuel b)
      return .ofNat (placeIn t other)
    | "substr", [a, b] =>
      let t ← text (← eval c fuel a)
      return .text (subtext t (← eval c fuel b).toNumber none)
    | "substr", [a, b, n] =>
      let t ← text (← eval c fuel a)
      let first := (← eval c fuel b).toNumber
      return .text (subtext t first (some (← eval c fuel n).toNumber))
    | "tolower", [e] =>
      return .text (String.ofList ((← text (← eval c fuel e)).toList.map Char.toLower))
    | "toupper", [e] =>
      return .text (String.ofList ((← text (← eval c fuel e)).toList.map Char.toUpper))
    | "system", [e] =>
      let command ← text (← eval c fuel e)
      flush
      return .ofNat (← runCommand c.start command [])
    | "close", [e] =>
      let t ← text (← eval c fuel e)
      let s ← get
      match s.sinks.find? (·.name = t), s.sources.find? (·.name = t) with
      | some sink, _ => return .ofNat (← closeSink c.start sink)
      | none, some source =>
        set { s with sources := s.sources.filter (·.name ≠ t) }
        return .ofNat source.status
      | none, none => return .number (-1.0)
    | name, pattern :: replacement :: more =>
      if name = "sub" || name = "gsub" then
        let p ← evalPattern c fuel pattern
        let r ← text (← eval c fuel replacement)
        let target := more.headD (.field (.number 0.0))
        let t ← text (← eval c fuel target)
        let on := page t
        let everywhere : Bool := name = "gsub"
        let (letters, count) :=
          replaceFrom p on (p.netOver on) (bytesOf r) everywhere (t.length + 2) 0 none
        if 0 < count && target.isTarget then
          let _ ← give c fuel target fun _ => pure (.text (Raw.ofLetters letters))
        return .ofNat count
      else return .none
    | name, [e] =>
      match numeric? name with
      | some f => return .number (f (← eval c fuel e).toNumber)
      | none => return .none
    | _, _ => return .none

def printText (c : Setting) : (fuel : Nat) → Destination → Raw → Run Unit
  | 0, _, _ => throw .endless
  | fuel + 1, destination, t => do
    spend (4 + t.length / 16)
    match destination with
    | .output => modify fun s => { s with output := t :: s.output }
    | .file name appends =>
      let name ← text (← eval c fuel name)
      printTo name false appends t
    | .command command =>
      let name ← text (← eval c fuel command)
      printTo name true false t

def exec (c : Setting) : (fuel : Nat) → Statement → Run Unit
  | 0, _ => throw .endless
  | fuel + 1, s => do
    match s with
    | .nothing => return ()
    | .expression e =>
      let _ ← eval c fuel e
      return ()
    | .print [] destination =>
      let t ← printed (← field 0)
      printText c fuel destination (t ++ (← globalText "ORS"))
    | .print es destination =>
      let parts ← (← evalAll c fuel es).mapM printed
      let t := String.intercalate (← globalText "OFS") parts
      printText c fuel destination (t ++ (← globalText "ORS"))
    | .printLaidOut es destination =>
      let t ← layOutValues "printf" (printText c fuel destination) (← evalAll c fuel es)
      printText c fuel destination t
    | .choice test yes no =>
      if (← eval c fuel test).isTrue then exec c fuel yes else exec c fuel no
    | .loop test body =>
      repeated (do
        if (← eval c fuel test).isTrue then oneRound (exec c fuel body) else return false)
        maxSteps
    | .loopAfter body test =>
      repeated (do
        if ← oneRound (exec c fuel body) then return (← eval c fuel test).isTrue else return false)
        maxSteps
    | .count start test step body =>
      exec c fuel start
      repeated (do
        let goesOn ←
          match test with
          | some test => do pure (← eval c fuel test).isTrue
          | none => pure true
        if goesOn then
          if ← oneRound (exec c fuel body) then
            exec c fuel step
            return true
          else return false
        else return false)
        maxSteps
    | .each name tableName body =>
      let t ← tableOf tableName
      let (keys, ordered) := (← table t).keys
      setTable t ordered
      forEach (fun key => do
        let _ ← give c fuel (.name name) fun _ => pure (.text key)
        oneRound (exec c fuel body)) keys
    | .sequence first rest =>
      exec c fuel first
      exec c fuel rest
    | .next => throw .next
    | .nextFile => throw .nextFile
    | .exit status =>
      if let some e := status then
        let n := wholePart (← eval c fuel e).toNumber
        modify fun s => { s with status := (n % 256).toNat }
      throw .exit
    | .back value =>
      match value with
      | some e => throw (.back (← eval c fuel e))
      | none => throw (.back .none)
    | .leave => throw .leave
    | .again => throw .again
    | .erase name keys =>
      let key ← keyOf (← evalAll c fuel keys)
      let t ← tableOf name
      setTable t ((← table t).erase key)
    | .eraseAll name =>
      let t ← tableOf name
      setTable t Table.empty

end

end ConfigVault.Host.Record
