import ConfigVault.Instance.Host.Glob
import ConfigVault.Instance.Host.Shell.State

/-!
# What words stand for

The values are put into a word; what comes of values outside of quotes is split at the characters of a
variable; what then still has the form of a pattern is replaced by the names of the files that it
matches; and quotes are taken away.  To put the output of a script into a word takes a shell, which is
handed down as `run`.
-/

namespace ConfigVault.Host.Shell

/-- A character of a word whose values have been put in. -/
inductive Glyph where
  | char (c : Char) (quoted splits : Bool)
  /-- The end of an argument, where a word is always split. -/
  | cut
  | quotes
  deriving DecidableEq

namespace Glyph

def ofValue (inQuotes : Bool) (value : Raw) : List Glyph :=
  value.toList.map fun c => .char c inQuotes (!inQuotes)

def text (glyphs : List Glyph) : Raw :=
  String.ofList (glyphs.filterMap fun
    | .char c _ _ => some c
    | .cut => some ' '
    | .quotes => none)

def letters (glyphs : List Glyph) : List Glob.Letter :=
  glyphs.filterMap fun
    | .char c quoted _ => some (c, quoted)
    | .cut => some (' ', false)
    | .quotes => none

end Glyph

/-- Blanks among the characters at which values are split. -/
def isSpace (c : Char) : Bool := c = ' ' || c = '\t' || c = '\n'

/-- What is known while a word is split: the field so far, the finished fields, the last one first, and
whether a blank has just ended one. -/
structure Splitting where
  field : Option (List Glyph)
  fields : List (List Glyph)
  afterBlank : Bool

namespace Splitting

def close (s : Splitting) : Splitting :=
  match s.field with
  | some field => { s with field := none, fields := field.reverse :: s.fields }
  | none => s

/-- Goes on with a character.  A separator that is no blank always ends a field, together with the
blanks around it; blanks alone end one if there is any. -/
def step (separators : List Char) (s : Splitting) (g : Glyph) : Splitting :=
  match g with
  | .cut => { s.close with afterBlank := false }
  | .quotes => { s with field := some (s.field.getD []), afterBlank := false }
  | .char c _ splits =>
    if splits && separators.contains c then
      if isSpace c then
        { s.close with afterBlank := s.afterBlank || s.field.isSome }
      else
        match s.field with
        | some _ => { s.close with afterBlank := false }
        | none =>
          if s.afterBlank then { s with afterBlank := false }
          else { s with fields := [] :: s.fields }
    else { s with field := some (g :: s.field.getD []), afterBlank := false }

def fieldsOf (separators : List Char) (glyphs : List Glyph) : List (List Glyph) :=
  (glyphs.foldl (step separators) ⟨none, [], false⟩).close.fields.reverse

end Splitting

/-- Runs a script that begins in a line and gives what it writes. -/
abbrev ScriptRunner := Raw → (line : Nat) → Run Raw

/-- The arguments of the shell as one value; where they stand in quotes each one is a word. -/
def argumentGlyphs (name : Char) (inQuotes : Bool) : Run (List Glyph) := do
  let arguments := (← Run.shell).arguments
  let separators := (← Run.valueOf? "IFS").getD standardSeparators
  if inQuotes && name = '*' then
    let between := String.ofList (separators.toList.take 1)
    return Glyph.ofValue true (String.intercalate between arguments)
  else
    let words := arguments.map fun a =>
      (if inQuotes then [Glyph.quotes] else []) ++ Glyph.ofValue inQuotes a
    return [Glyph.cut].intercalate words

/-- A text without the line feeds at its end and without null characters. -/
def trimOutput (output : Raw) : Raw :=
  String.ofList (((output.toList.filter (· ≠ '\x00')).reverse.dropWhile (· = '\n')).reverse)

/-- What a complaint about a missing value says. -/
def missingWord (name : Raw) (filled : Bool) (message : Raw) : Raw :=
  name ++ ": " ++
    (if message.isEmpty then "parameter not set" ++ (if filled then " or null" else "") else message)

mutual

def expandPiece (run : ScriptRunner) : Piece → Run (List Glyph)
  | .char c => return [.char c false false]
  | .quoted c => return [.char c true false]
  | .quotes => return [.quotes]
  | .output script line inQuotes => do
    let output ← run script line
    return Glyph.ofValue inQuotes (trimOutput output)
  | .sum expression inQuotes => do
    let text := Glyph.text (← expandPieces run expression)
    let n ← Arithmetic.evaluate (Run.sums text) text
    return Glyph.ofValue inQuotes (toString n)
  | .parameter name use filled operand inQuotes => do
    let isAll := name = "@" || name = "*"
    let arguments := (← Run.shell).arguments
    let value? ←
      if isAll then pure (if arguments.isEmpty then none else some (String.intercalate " " arguments))
      else Run.parameter? name
    let show' : Run (List Glyph) :=
      if isAll then argumentGlyphs (name.toList.headD '@') inQuotes
      else return Glyph.ofValue inQuotes (value?.getD "")
    let isPresent := value?.any fun value => !(filled && value.isEmpty)
    let cut (f : List Char → List Char) (value : Raw) : List Glyph :=
      Glyph.ofValue inQuotes (String.ofList (f value.toList))
    let mayBeMissing := isAll || !(← Run.has 'u') || value?.isSome
    match use with
    | .value =>
      if !mayBeMissing then Run.fail (missingWord name false "")
      show'
    | .length =>
      if !mayBeMissing then Run.fail (missingWord name false "")
      let length := if isAll then arguments.length else (value?.getD "").length
      return Glyph.ofValue inQuotes (toString length)
    | .orElse => if isPresent then show' else splitting inQuotes <$> expandPieces run operand
    | .ifPresent =>
      if isPresent then splitting inQuotes <$> expandPieces run operand else return []
    | .orAssign =>
      if isPresent then show'
      else
        let glyphs ← expandPieces run operand
        if !isName name then Run.fail (name ++ ": bad variable name")
        Run.setVariable name (Glyph.text glyphs)
        return Glyph.ofValue inQuotes (Glyph.text glyphs)
    | .orComplain =>
      if isPresent then show'
      else Run.fail (missingWord name filled (Glyph.text (← expandPieces run operand)))
    | .withoutFront longest =>
      if !mayBeMissing then Run.fail (missingWord name false "")
      let letters := Glyph.letters (← expandPieces run operand)
      return cut (Glob.cutFront (Glob.ofLetters (letters.length + 1) letters) longest)
        (value?.getD "")
    | .withoutEnd longest =>
      if !mayBeMissing then Run.fail (missingWord name false "")
      let letters := Glyph.letters (← expandPieces run operand)
      return cut (Glob.cutEnd (Glob.ofLetters (letters.length + 1) letters) longest)
        (value?.getD "")
    | .malformed => Run.fail "Bad substitution"
where
  /-- An operand outside of quotes can be split like a value. -/
  splitting (inQuotes : Bool) (glyphs : List Glyph) : List Glyph :=
    if inQuotes then glyphs
    else
      glyphs.map fun
        | .char c quoted _ => .char c quoted (!quoted)
        | g => g

def expandPieces (run : ScriptRunner) : List Piece → Run (List Glyph)
  | [] => return []
  | p :: rest => do
    let first ← expandPiece run p
    return first ++ (← expandPieces run rest)

end

/-! ## Home folders -/

def homeOf (user : String) : Run (Option Raw) := do
  if user.isEmpty then Run.valueOf? "HOME"
  else if user = "root" then return some "/root"
  else return none

/-- Replaces the sign for a home folder at the front of a word. -/
def expandHome (word : Word) : Run Word := do
  match word with
  | .char '~' :: rest =>
    let user := rest.takeWhile fun
      | .char c => c ≠ '/' && c ≠ ':'
      | _ => false
    let behind := rest.drop user.length
    let ends := match behind with
      | [] => true
      | .char _ :: _ => true
      | _ => false
    match ends, plainText? user with
    | true, some user =>
      match ← homeOf user with
      | some home => return home.toList.map Piece.quoted ++ behind
      | none => return word
    | _, _ => return word
  | word => return word

/-- Replaces the signs for home folders in a value: at its front and behind colons. -/
def expandHomes : (fuel : Nat) → Word → Run Word
  | 0, word => return word
  | fuel + 1, word => do
    let word ← expandHome word
    let first := word.takeWhile fun
      | .char c => c ≠ ':'
      | _ => true
    match word.drop first.length with
    | colon :: rest => return first ++ colon :: (← expandHomes fuel rest)
    | [] => return first

/-! ## Names of files -/

def matchPaths (disk : Disk) (folder : Place) : List (List Glob.Letter) → (done : String) → List Raw
  | [], done => if (disk.find folder done).toOption.isSome then [done] else []
  | part :: rest, done =>
    let add (name : String) : String := done ++ name ++ (if rest.isEmpty then "" else "/")
    if Glob.isOpen part then
      match disk.find folder (if done.isEmpty then "." else done) with
      | .ok (place, .folder) =>
        let pattern := Glob.ofLetters (part.length + 1) part
        let hidden := part.head?.map Prod.fst = some '.'
        let fits (name : String) : Bool :=
          (hidden || name.toList.head? ≠ some '.') && Glob.isMatch pattern name.toList
        let names := (if hidden then [".", ".."] else []) ++ disk.names place
        (names.filter fits).flatMap fun name => matchPaths disk folder rest (add name)
      | _ => []
    else
      let name := String.ofList (part.map Prod.fst)
      if rest.isEmpty && name.isEmpty then
        if (disk.find folder done).toOption.isSome then [done] else []
      else matchPaths disk folder rest (add name)

def patternParts (letters : List Glob.Letter) : List (List Glob.Letter) :=
  letters.foldr (fun l acc =>
    if l.1 = '/' then [] :: acc
    else
      match acc with
      | part :: rest => (l :: part) :: rest
      | [] => [[l]]) [[]]

def pathsOf (field : List Glyph) : Run (List Raw) := do
  let letters := Glyph.letters field
  let s ← get
  if !Glob.isOpen letters || s.shell.options.contains 'f' then return [Glyph.text field]
  else
    let found := matchPaths s.world.disk s.shell.folder (patternParts letters) ""
    if found.isEmpty then return [Glyph.text field]
    else return found.mergeSort fun a b => decide (a ≤ b)

/-! ## Words -/

def expandWord (run : ScriptRunner) (word : Word) : Run (List Raw) := do
  let glyphs ← expandPieces run (← expandHome word)
  let separators := (← Run.valueOf? "IFS").getD standardSeparators
  let fields := Splitting.fieldsOf separators.toList glyphs
  return (← fields.mapM pathsOf).flatten

def expandWords (run : ScriptRunner) (words : List Word) : Run (List Raw) := do
  return (← words.mapM (expandWord run)).flatten

def expandText (run : ScriptRunner) (word : Word) : Run Raw := do
  return Glyph.text (← expandPieces run (← expandHome word))

def expandValue (run : ScriptRunner) (word : Word) : Run Raw := do
  return Glyph.text (← expandPieces run (← expandHomes (word.length + 1) word))

def expandPattern (run : ScriptRunner) (word : Word) : Run Glob := do
  let letters := Glyph.letters (← expandPieces run (← expandHome word))
  return Glob.ofLetters (letters.length + 1) letters

end ConfigVault.Host.Shell
