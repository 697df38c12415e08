import ConfigVault.Data.Value
import ConfigVault.Incident

/-!
# Loaders of documents

Texts are read as documents by a loader from outside.  A text that breaks the rules of the format has
a message of the loader, and whatever else goes wrong while values are built passes through as it is.
-/

namespace ConfigVault

/-- Why a loader gives no document. -/
inductive LoadFailure where
  /-- The text breaks the rules of the format. -/
  | malformed (message : String)
  | escaped (escape : Escape)
  deriving DecidableEq, Repr

/-- Reads a text as a document. -/
abbrev Loader := String → Except LoadFailure Value

end ConfigVault
