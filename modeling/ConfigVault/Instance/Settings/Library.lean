import ConfigVault.Instance.Settings.Environment
import ConfigVault.Instance.Settings.Reader
import ConfigVault.Settings.Configuration

/-!
# A library of settings

Settings come from arguments and from the variables of the environment.  Some arguments are no fields
themselves but tell how the variables are read; those that ask for further sources are passed over.
It is one of the libraries that settings can be declared with.
-/

namespace ConfigVault

namespace Configuration

def environmentFields (depth : Nat) (e : Environment) (vars : Variables) :
    Except ConfigurationFailure Fields := do
  let vars := e.normal vars
  let plain := plainFields.filterMap fun name =>
    (e.field? name vars).map (Value.text name, ·)
  let rest ← sections.mapM fun (name, known) =>
    match e.section? depth known name vars with
    | .ok v => .ok (v.map (Value.text name, ·))
    | .error .malformed => .error (.unreadable ("error parsing value for field \x22" ++ name ++
        "\x22 from source \x22EnvSettingsSource\x22"))
    | .error .tooDeep => .error (.escaped .endless)
  return plain ++ rest.filterMap id

/-- The given fields under the names of the fields that they stand for in any case; a field that is
given by its very name is not looked for in another case. -/
def normalFields (given : Fields) : Fields :=
  let known := fieldNames.filterMap fun name =>
    (((Value.map given).field? name).or
      ((given.find? fun e => (e.1.text?.map Text.lower) = some name).map Prod.snd)).map
        (Value.text name, ·)
  known ++ given.filter fun e =>
    !(e.1.text?.map fun k => fieldNames.contains (Text.lower k)).getD false

/-! ## How settings are read -/

/-- The words among given fields that tell how settings are read and are no fields themselves. -/
def directives : List String :=
  ["_case_sensitive", "_nested_model_default_partial_update", "_env_prefix", "_env_file",
    "_env_file_encoding", "_env_ignore_empty", "_env_nested_delimiter", "_env_nested_max_split",
    "_env_parse_none_str", "_env_parse_enums", "_cli_prog_name", "_cli_parse_args",
    "_cli_settings_source", "_cli_parse_none_str", "_cli_hide_none_type", "_cli_avoid_json",
    "_cli_enforce_required", "_cli_use_class_docs_for_groups", "_cli_exit_on_error", "_cli_prefix",
    "_cli_flag_prefix_char", "_cli_implicit_flags", "_cli_ignore_unknown_args", "_cli_kebab_case",
    "_cli_shortcuts", "_secrets_dir"]

/-- A field is a word that tells how settings are read. -/
def isDirective (entry : Value × Value) : Bool :=
  (entry.1.text?.map directives.contains).getD false

/-- The greatest number of marks in the name of a variable; it is one less than the number of its
parts that is asked for. -/
def maxMarks? : Value → Option (Option Nat)
  | .null => some none
  | .bool b => some (if b then some 0 else none)
  | .int n => some (if 0 < n then some (n.toNat - 1) else none)
  | v => if v.truthy then none else some none

/-- How the environment is read under given fields.  The start of names has to be a text: a value
without a length is of the wrong sort, and another one fails at the first field that is looked for. -/
def environmentOf (given : Fields) : Except ConfigurationFailure Environment := do
  let directive (name : String) : Value := ((Value.map given).field? name).getD .null
  let standard := Environment.standard
  let start ←
    match directive "_env_prefix" with
    | .null => .ok standard.start
    | .text s => .ok s
    | .bytes _ => unnamed
    | .list _ => unnamed
    | .set _ => unnamed
    | .map _ => unnamed
    | _ => .error (.escaped .mismatch)
  let maxMarks ←
    match maxMarks? (directive "_env_nested_max_split") with
    | some n => .ok n
    | none => .error (.escaped .mismatch)
  return {
    anyCase := !(directive "_case_sensitive").truthy
    start
    mark :=
      match directive "_env_nested_delimiter" with
      | .null => standard.mark
      | v => if v.truthy then v.sentence else ""
    maxMarks
    dropsEmpty := (directive "_env_ignore_empty").truthy
    nullWord := (directive "_env_parse_none_str").text? }
where
  unnamed : Except ConfigurationFailure String :=
    .error (.unreadable
      "error getting value for field \x22environment\x22 from source \x22EnvSettingsSource\x22")

def argumentFields (given : Fields) : Fields :=
  normalFields (given.filter fun e => !isDirective e)

/-- A library of settings that reads variables in JSON of at most the given depth. -/
def library (depth : Nat) : SettingsLibrary where
  types := FieldReader.types
  arguments := argumentFields
  environment := environmentFields depth .standard
  sources given vars := do
    let environment ← environmentFields depth (← environmentOf given) vars
    return [argumentFields given, environment]
  merge := mergeFields

end Configuration

/-- Changes a part of a group.  Fields cannot be changed, and neither can names that could be
those of fields.  Names that begin with an underscore are free, except for the sort of a group, for
the table of its fields, which has to stay a mapping, and for the set of the fields that were given. -/
def Group.change (g : Group) (part value : Value) : Except Escape (Checked Group) :=
  match part.text? with
  | none => .error .mismatch
  | some name =>
    if name.toList.head? ≠ some '_' then .ok (.invalid [⟨[.field name], .frozen⟩])
    else if name = "__fields_set__" then .error .missingPart
    else if name = "__class__" then .error .mismatch
    else if name = "__dict__" && value.entries?.isNone then .error .mismatch
    else .ok (.valid g)

end ConfigVault
