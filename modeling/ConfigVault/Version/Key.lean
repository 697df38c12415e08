import ConfigVault.Version.Timestamp

/-!
# Version keys

An archived version lies in the history under the name of its artifact, a hyphen and its timestamp.
Names may contain hyphens and digits themselves, so a key is always read against a name: it decodes
under a name when it starts with the name and a hyphen and a timestamp follows.
-/

namespace ConfigVault.Version

open Calendar

/-- The text behind a start, for texts that begin with it. -/
def stripStart? (start text : String) : Option String :=
  if start.toList.isPrefixOf text.toList then
    some (String.ofList (text.toList.drop start.toList.length))
  else none

def startsWith (start text : String) : Bool :=
  start.toList.isPrefixOf text.toList

def versionKey (name : String) (r : Reading) : String :=
  name ++ "-" ++ formatTimestamp r

def belongsTo (name key : String) : Bool :=
  startsWith name key

/-- What callers see of a key: the part behind the name and the hyphen, or all of it. -/
def label (name key : String) : String :=
  (stripStart? (name ++ "-") key).getD key

def decode? (name key : String) : Option Reading :=
  match stripStart? (name ++ "-") key with
  | none => none
  | some text =>
    match parseTimestamp text with
    | .ok r => some r
    | .error _ => none

end ConfigVault.Version
