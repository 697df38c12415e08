import ConfigVault.Data.Value

/-!
# Issues of settings

What is wrong with settings: a complaint and the place of the value that it is about.  Settings are
read to the end, so that all issues are told at once.
-/

namespace ConfigVault

/-- A complaint about a value. -/
inductive Complaint where
  | missing
  | unexpected
  | frozen
  | notText
  | notUnicode
  | tooShort
  | notWhole
  | wholeUnreadable
  | wholeTooLong
  | fractional
  | notFinite
  | notNumber
  | numberUnreadable
  | notGreater (bound : Nat)
  | less (bound : Nat)
  | notTruth
  | truthUnreadable
  /-- None of the words that are allowed; `label` tells which sort of choice it is. -/
  | notChoice (label : String) (words : List String)
  /-- No mapping, where one with the named fields has to be. -/
  | notRecord (name : String)
  | notList
  | sameCollections
  deriving DecidableEq, Repr

namespace Complaint

def label : Complaint → String
  | missing => "missing"
  | unexpected => "extra_forbidden"
  | frozen => "frozen_instance"
  | notText => "string_type"
  | notUnicode => "string_unicode"
  | tooShort => "string_too_short"
  | notWhole => "int_type"
  | wholeUnreadable => "int_parsing"
  | wholeTooLong => "int_parsing_size"
  | fractional => "int_from_float"
  | notFinite => "finite_number"
  | notNumber => "float_type"
  | numberUnreadable => "float_parsing"
  | notGreater _ => "greater_than"
  | less _ => "greater_than_equal"
  | notTruth => "bool_type"
  | truthUnreadable => "bool_parsing"
  | notChoice label _ => label
  | notRecord _ => "model_type"
  | notList => "list_type"
  | sameCollections => "value_error"

/-- Words between single quotes, with an or before the last one. -/
def listed : List String → String
  | [] => ""
  | [word] => "'" ++ word ++ "'"
  | [first, last] => "'" ++ first ++ "' or '" ++ last ++ "'"
  | word :: rest => "'" ++ word ++ "', " ++ listed rest

/-- The sentence about a complaint. -/
def message : Complaint → String
  | missing => "Field required"
  | unexpected => "Extra inputs are not permitted"
  | frozen => "Instance is frozen"
  | notText => "Input should be a valid string"
  | notUnicode => "Input should be a valid string, unable to parse raw data as a unicode string"
  | tooShort => "String should have at least 1 character"
  | notWhole => "Input should be a valid integer"
  | wholeUnreadable => "Input should be a valid integer, unable to parse string as an integer"
  | wholeTooLong => "Unable to parse input string as an integer, exceeded maximum size"
  | fractional => "Input should be a valid integer, got a number with a fractional part"
  | notFinite => "Input should be a finite number"
  | notNumber => "Input should be a valid number"
  | numberUnreadable => "Input should be a valid number, unable to parse string as a number"
  | notGreater bound => "Input should be greater than " ++ toString bound
  | less bound => "Input should be greater than or equal to " ++ toString bound
  | notTruth => "Input should be a valid boolean"
  | truthUnreadable => "Input should be a valid boolean, unable to interpret input"
  | notChoice _ words => "Input should be " ++ listed words
  | notRecord name => "Input should be a valid dictionary or instance of " ++ name
  | notList => "Input should be a valid list"
  | sameCollections => "Value error, current_collection and history_collection must differ"

end Complaint

/-- One step to a place in settings. -/
inductive PlaceStep where
  | field (name : String)
  | index (n : Nat)
  deriving DecidableEq, Repr

/-- A complaint and the place that it is about. -/
structure Issue where
  place : List PlaceStep
  complaint : Complaint
  deriving DecidableEq, Repr

/-- A value that was read from settings, or all that is wrong with them. -/
inductive Checked (α : Type) where
  | valid (a : α)
  | invalid (issues : List Issue)
  deriving DecidableEq

namespace Checked

variable {α β : Type}

/-- Applies a function to what was read. -/
def map (f : α → β) : Checked α → Checked β
  | valid a => valid (f a)
  | invalid issues => invalid issues

/-- Puts two readings together; the issues of both are kept. -/
def seq (f : Checked (α → β)) (a : Unit → Checked α) : Checked β :=
  match f, a () with
  | valid f, valid a => valid (f a)
  | valid _, invalid issues => invalid issues
  | invalid issues, valid _ => invalid issues
  | invalid xs, invalid ys => invalid (xs ++ ys)

instance : Applicative Checked where
  pure := valid
  map := map
  seq := seq

/-- A complaint about the value itself. -/
def complain (c : Complaint) : Checked α := invalid [⟨[], c⟩]

/-- Reads on from a valid value. -/
def andThen (a : Checked α) (f : α → Checked β) : Checked β :=
  match a with
  | valid a => f a
  | invalid issues => invalid issues

/-- Puts a step in front of the places of issues. -/
def within (step : PlaceStep) : Checked α → Checked α
  | valid a => valid a
  | invalid issues => invalid (issues.map fun i => { i with place := step :: i.place })

def items (read : β → Checked α) (n : Nat) : List β → Checked (List α)
  | [] => valid []
  | b :: rest => List.cons <$> (read b).within (.index n) <*> items read (n + 1) rest

end Checked

end ConfigVault
