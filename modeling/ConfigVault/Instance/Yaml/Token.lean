import ConfigVault.Instance.Yaml.Cursor

/-!
# Tokens

The pieces of a text in YAML: the marks of its structure, properties of nodes, and scalars.  The
structure that indentation gives is made explicit by tokens that open and close block collections.
-/

namespace ConfigVault.Yaml

/-- A line of instructions before a document. -/
inductive Directive where
  | version (major minor : Nat)
  | handle (handle start : String)
  | unknown
  deriving DecidableEq, Repr

/-- A tag as it is written: with a handle, or whole. -/
structure TagText where
  handle : Option String
  text : String
  deriving DecidableEq, Repr

inductive Token where
  | directive (directive : Directive)
  | documentStart
  | documentEnd
  | blockSequenceStart
  | blockMappingStart
  | blockEnd
  | flowSequenceStart
  | flowMappingStart
  | flowSequenceEnd
  | flowMappingEnd
  | blockEntry
  | flowEntry
  | key
  | value
  | aliasOf (name : String)
  | anchor (name : String)
  | tag (tag : TagText)
  /-- A scalar; plain ones stand without quotes on their own. -/
  | scalar (text : String) (plain : Bool)
  deriving DecidableEq, Repr

end ConfigVault.Yaml
