import ConfigVault.Group
import ConfigVault.Version.Key

/-!
# Artifact names

Names become keys of collections, so they are short and use few characters.  A group adds rules of
its own.  A name is refused for the first rule that it breaks; a line break at the very end of a name
is not looked at by the rule on characters.
-/

namespace ConfigVault

/-- The rule that a name breaks. -/
inductive NameRefusal where
  | length
  | characters
  | noWordCharacter
  /-- The group holds another name only. -/
  | notTheFixedName (group fixedName : String)
  /-- The name does not carry the ending of the group. -/
  | suffixMissing (group suffix : String)
  /-- The name is the bare ending. -/
  | bareSuffix (group : String)
  deriving DecidableEq, Repr

namespace Name

/-- The greatest length of a name. -/
def maxLength : Nat := 253

/-- Letters, digits and the underscore. -/
def isWordChar (c : Char) : Bool :=
  c.isAlphanum || c = '_'

def isNameChar (c : Char) : Bool :=
  isWordChar c || c = '-' || c = '.'

/-- The rules for keys of collections. -/
def checkKey (name : String) : Except NameRefusal Unit :=
  let cs := name.toList
  let body := Version.dropFinalBreak cs
  if cs.isEmpty || maxLength < cs.length then .error .length
  else if body.isEmpty || !body.all isNameChar then .error .characters
  else if !cs.any isWordChar then .error .noWordCharacter
  else .ok ()

def endsWith (ending text : String) : Bool :=
  ending.toList.isSuffixOf text.toList

/-- The rules of a group for names that are keys. -/
def checkInGroup (group : Group) (name : String) : Except NameRefusal Unit :=
  match group.fixedName with
  | some fixed =>
    if name ≠ fixed then .error (.notTheFixedName group.name fixed)
    else checkSuffix
  | none => checkSuffix
where
  checkSuffix : Except NameRefusal Unit :=
    match group.suffix with
    | none => .ok ()
    | some suffix =>
      if suffix.isEmpty then .ok ()
      else if !endsWith suffix name then .error (.suffixMissing group.name suffix)
      else if name = suffix then .error (.bareSuffix group.name)
      else .ok ()

/-- The rules for names of artifacts in a group. -/
def check (group : Group) (name : String) : Except NameRefusal Unit :=
  match checkKey name with
  | .error refusal => .error refusal
  | .ok () => checkInGroup group name

end Name

/-- The sentence about a refusal. -/
def NameRefusal.message : NameRefusal → String
  | length => "Names must be between 1 and 253 characters long"
  | characters => "Names may contain only ASCII letters, digits, '-', '_' and '.'"
  | noWordCharacter => "Names must contain at least one letter, digit or underscore"
  | notTheFixedName group fixedName => "Group " ++ group ++ " only holds " ++ fixedName
  | suffixMissing _ suffix => "File name must end with: " ++ suffix
  | bareSuffix _ => "Invalid file name."

/-- The group whose rule was broken, for the rules of groups. -/
def NameRefusal.group? : NameRefusal → Option String
  | length => none
  | characters => none
  | noWordCharacter => none
  | notTheFixedName group _ => some group
  | suffixMissing group _ => some group
  | bareSuffix group => some group

end ConfigVault
