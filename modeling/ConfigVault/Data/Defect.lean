/-!
# Defects of documents

What can be wrong with a text that should be a document.
-/

namespace ConfigVault

/-- What is wrong with a text that breaks the rules of its format. -/
inductive Defect where
  /-- It holds a character that no text may hold. -/
  | character
  /-- Something in it is no piece of the format, or stands where no piece of its kind may. -/
  | piece
  /-- Its pieces do not fit together. -/
  | arrangement
  /-- A name of a node is missing or given twice, or there is more than one document. -/
  | reference
  /-- A node cannot have the tag that it has. -/
  | value
  deriving DecidableEq, Repr

end ConfigVault
