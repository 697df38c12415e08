import ConfigVault.Data.Json
import ConfigVault.Instance.Settings.Merge
import ConfigVault.Text.Case

/-!
# Settings from the environment

Variables of the environment set fields by their names, behind a common start.  A section is given as
a whole in JSON, or field by field with a mark between the names, and then the single fields come on
top.  How the names are matched is itself a matter of settings.
-/

namespace ConfigVault

/-- How the variables of an environment name fields. -/
structure Environment where
  anyCase : Bool
  start : String
  /-- The mark between the names of nested fields; without one there are none. -/
  mark : String
  /-- The greatest number of marks that count, if there is one. -/
  maxMarks : Option Nat
  /-- Variables with an empty text count as left out. -/
  dropsEmpty : Bool
  nullWord : Option String
  deriving DecidableEq, Repr

namespace Environment

/-- The environment as it is read when nothing else is asked for. -/
def standard : Environment where
  anyCase := true
  start := "CONFKEEPER_"
  mark := "__"
  maxMarks := none
  dropsEmpty := false
  nullWord := none

def normalName (e : Environment) (name : String) : String :=
  if e.anyCase then Text.lower name else name

def variableName (e : Environment) (field : String) : String :=
  e.normalName (e.start ++ field)

/-- The variables that count, with their names in the form in which they are compared; of two with one
name the later one counts. -/
def normal (e : Environment) (vars : Variables) : Variables :=
  (vars.filter fun v => !(e.dropsEmpty && v.2.isEmpty)).foldl
    (fun acc v => set (e.normalName v.1) v.2 acc) []
where
  set (name value : String) : Variables → Variables
    | [] => [(name, value)]
    | v :: rest => if v.1 = name then (name, value) :: rest else v :: set name value rest

def valueOf (e : Environment) (text : String) : Value :=
  if e.nullWord = some text then .null else .text text

def partsBetween (mark : List Char) (marks : Option Nat) (part : List Char) :
    List Char → List (List Char)
  | [] => [part.reverse]
  | c :: rest =>
    if !mark.isEmpty && mark.isPrefixOf (c :: rest) && marks ≠ some 0 then
      part.reverse ::
        partsBetween mark (marks.map (· - 1)) [] (rest.drop (mark.length - 1))
    else partsBetween mark marks (c :: part) rest
termination_by cs => cs.length

/-- Sets a field of nested mappings by the names on the way to it.  Where something that is no
mapping is in the way nothing is set, and null is set only where nothing else is. -/
def setAt (value : Value) : (path : List String) → List (Value × Value) → List (Value × Value)
  | [], fields => fields
  | [name], fields =>
    match value, (Value.map fields).field? name with
    | .null, some (.map []) => Value.setEntry (.text name) value fields
    | .null, some _ => fields
    | _, _ => Value.setEntry (.text name) value fields
  | name :: path, fields =>
    match (Value.map fields).field? name with
    | none => Value.setEntry (.text name) (.map (setAt value path [])) fields
    | some (.map inner) => Value.setEntry (.text name) (.map (setAt value path inner)) fields
    | some _ => fields

def singleFields (e : Environment) (name : String) (vars : Variables) : List (Value × Value) :=
  let lead := (e.variableName name ++ e.mark).toList
  if e.mark.isEmpty then []
  else
    vars.foldl (fun fields v =>
      let cs := v.1.toList
      if lead.isPrefixOf cs then
        setAt (e.valueOf v.2)
          ((partsBetween e.mark.toList e.maxMarks [] (cs.drop lead.length)).map String.ofList) fields
      else fields) []

def fieldName (e : Environment) (known : List String) (name : String) : String :=
  if e.anyCase then (known.find? fun k => k = Text.lower name).getD name else name

/-- The value of a section with known fields: none where no variable sets it, and an error where its
text is no JSON of at most the given depth. -/
def section? (e : Environment) (depth : Nat) (known : List String) (name : String)
    (vars : Variables) : Except Json.Fault (Option Value) :=
  let rename (fields : List (Value × Value)) : Value :=
    .map (fields.foldl (fun acc entry =>
      let key := match entry.1 with
        | .text k => .text (e.fieldName known k)
        | k => k
      Value.setEntry key entry.2 acc) [])
  let single := e.singleFields name vars
  match (vars.find? (·.1 = e.variableName name)).map Prod.snd with
  | none => .ok (if single.isEmpty then none else some (rename single))
  | some text =>
    if e.nullWord = some text then .ok (some .null)
    else
      match Json.read depth text with
      | .error fault => .error fault
      | .ok .null => .ok none
      | .ok (.map fields) => .ok (some (rename (mergeFields single fields)))
      | .ok v => .ok (some v)

def field? (e : Environment) (name : String) (vars : Variables) : Option Value :=
  (vars.find? (·.1 = e.variableName name)).map fun v => e.valueOf v.2

end Environment

end ConfigVault
