import ConfigVault.Incident
import ConfigVault.Settings.Issue

/-!
# Libraries of settings

Settings are declared with a library from outside.  The library reads the values of fields by their
types.  It knows the sources of fields, from the one that counts most to the one that counts least, and
how the fields of one source are laid over those of the next.
-/

namespace ConfigVault

/-- The fields of a mapping in settings. -/
abbrev Fields := List (Value × Value)

/-- The variables of an environment by name. -/
abbrev Variables := List (String × String)

abbrev FieldReader (α : Type) := Value → Checked α

/-- How values are read by the types of their fields. -/
structure FieldTypes where
  text : FieldReader String
  /-- A text of one character at least. -/
  filledText : FieldReader String
  /-- A whole number that is not less than a bound. -/
  wholeFrom : (bound : Nat) → FieldReader Int
  /-- A number above a bound. -/
  numberAbove : (bound : Nat) → FieldReader Float
  /-- A number that is not less than a bound. -/
  numberFrom : (bound : Nat) → FieldReader Float
  truth : FieldReader Bool
  /-- One of the words of a literal type. -/
  literal : {α : Type} → (choices : List (String × α)) → FieldReader α
  /-- One of the words of an enumeration. -/
  enumeration : {α : Type} → (choices : List (String × α)) → FieldReader α
  optional : {α : Type} → FieldReader α → FieldReader (Option α)
  list : {α : Type} → FieldReader α → FieldReader (List α)
  /-- The fields of a mapping, read together. -/
  record : {α : Type} → (name : String) → (Fields → Checked α) → FieldReader α
  /-- Complains about fields that are not among the known ones. -/
  checkKnown : (names : List String) → Fields → Checked Unit

/-- Reads a field by its name; a field that is left out has a value of its own or is missed. -/
def readField {α : Type} (fields : Fields) (name : String) (standard : Option α)
    (read : FieldReader α) : Checked α :=
  let value : Checked α :=
    match (Value.map fields).field? name, standard with
    | some v, _ => read v
    | none, some a => .valid a
    | none, none => .complain .missing
  value.within (.field name)

/-- Why there is no configuration. -/
inductive ConfigurationFailure where
  | invalid (issues : List Issue)
  /-- A source of fields cannot be read. -/
  | unreadable (message : String)
  /-- There is no file at the path that was asked for. -/
  | noFile (path : String)
  | incident (incident : Incident)
  | escaped (escape : Escape)

/-- A library of settings, as far as a class of settings relies on it. -/
structure SettingsLibrary where
  types : FieldTypes
  /-- The fields that given arguments stand for. -/
  arguments : (given : Fields) → Fields
  /-- The fields that the variables of an environment set. -/
  environment : Variables → Except ConfigurationFailure Fields
  /-- The fields of all sources from the highest to the lowest.  There are more of them, and the
  environment is read in another way, if arguments ask for it. -/
  sources : (given : Fields) → Variables → Except ConfigurationFailure (List Fields)
  /-- Lays the fields of a source over those of a lower one. -/
  merge : (upper lower : Fields) → Fields

end ConfigVault
