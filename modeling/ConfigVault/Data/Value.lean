import ConfigVault.Calendar.Moment
import ConfigVault.Decimal.Reading

/-!
# Values

The values that documents and settings are made of.  A mapping keeps its entries in the order in
which their keys first came up; setting a key again changes the value in its place.
-/

namespace ConfigVault

open Calendar

/-- A value of a document. -/
inductive Value where
  | null
  | bool (b : Bool)
  | int (i : Int)
  | float (x : Float)
  | text (s : String)
  | bytes (data : List UInt8)
  | date (d : Date)
  | moment (m : Moment)
  | list (items : List Value)
  | set (items : List Value)
  | map (entries : List (Value × Value))
  deriving Inhabited

namespace Value

/-- A value counts as true unless it is null, false, zero or empty. -/
def truthy : Value → Bool
  | null => false
  | bool b => b
  | int i => i ≠ 0
  | float x => !(x == 0.0)
  | text s => !s.isEmpty
  | bytes data => !data.isEmpty
  | date _ => true
  | moment _ => true
  | list items => !items.isEmpty
  | set items => !items.isEmpty
  | map entries => !entries.isEmpty

/-- The whole number that a value is as a key: truth values count as zero and one, and a double that
is whole counts as that number. -/
def wholeNumber? : Value → Option Int
  | bool b => some (if b then 1 else 0)
  | int i => some i
  | float x => Decimal.toInt? x
  | _ => none

/-- Two values name the same key of a mapping.  Only values that cannot be changed in place are
keys. -/
def sameKey (a b : Value) : Bool :=
  match wholeNumber? a, wholeNumber? b with
  | some i, some j => i == j
  | some _, none => false
  | none, some _ => false
  | none, none =>
    match a, b with
    | null, null => true
    | float x, float y => x == y || x.toBits == y.toBits
    | text s, text t => s == t
    | bytes s, bytes t => s == t
    | date d, date e => d == e
    | moment m, moment n =>
      match m.utcMicroseconds?, n.utcMicroseconds? with
      | some i, some j => i == j
      | none, none => m.reading == n.reading
      | _, _ => false
    | _, _ => false

def setEntry {α : Type} (key : Value) (a : α) : List (Value × α) → List (Value × α)
  | [] => [(key, a)]
  | (k, b) :: rest => if sameKey k key then (k, a) :: rest else (k, b) :: setEntry key a rest

/-- The value under a text key, for a mapping that has it. -/
def field? (name : String) : Value → Option Value
  | map entries =>
    (entries.find? fun e => match e.1 with
      | text s => s == name
      | _ => false).map Prod.snd
  | _ => none

def entries? : Value → Option (List (Value × Value))
  | map entries => some entries
  | _ => none

def items? : Value → Option (List Value)
  | list items => some items
  | _ => none

def text? : Value → Option String
  | text s => some s
  | _ => none

/-- A mapping with text keys. -/
def record (fields : List (String × Value)) : Value :=
  map (fields.map fun f => (text f.1, f.2))

end Value

/-- Sets a named detail: in its place when the name is there already, at the end otherwise. -/
def setDetail (name : String) (value : Value) : List (String × Value) → List (String × Value)
  | [] => [(name, value)]
  | (n, v) :: rest => if n = name then (n, value) :: rest else (n, v) :: setDetail name value rest

end ConfigVault
