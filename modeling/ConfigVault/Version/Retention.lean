import ConfigVault.Incident
import ConfigVault.KeyMap
import ConfigVault.Version.Key

/-!
# Retention

Which versions of an artifact leave the history.  A version is evicted when it is both beyond the
newest `keep` ones and at least `hours` old.  Keys that belong to the name but do not decode count
behind all that do, and are never evicted.
-/

namespace ConfigVault

open Calendar Version

/-- The limits of a history. -/
structure Retention where
  /-- The number of newest versions that always stay. -/
  keep : Int
  /-- The age in hours below which a version always stays. -/
  hours : Int
  deriving DecidableEq, Repr

namespace Retention

/-- The limits of a history that is given no others. -/
def standard : Retention := ⟨10, 48⟩

/-- The place of a key in the order of versions: its moment, if it decodes. -/
def rank? (name key : String) : Option Nat :=
  (decode? name key).map Reading.microseconds

/-- The order of versions: decoded keys before others, newer ones before older ones, and greater
keys first among equals. -/
def precedes (a b : Option Nat × String) : Bool :=
  match a.1, b.1 with
  | some s, some t => t < s || (s = t && decide (b.2 ≤ a.2))
  | some _, none => true
  | none, some _ => false
  | none, none => decide (b.2 ≤ a.2)

/-- The keys that belong to a name, newest first. -/
def order (name : String) (keys : List String) : List String :=
  (((keys.filter (belongsTo name)).map fun key => (rank? name key, key)).mergeSort
    precedes).map Prod.snd

/-- The longest span of time, in days. -/
def maxSpanDays : Nat := 999999999

/-- A number of hours as a span of time in microseconds, when spans are that long. -/
def span? (hours : Int) : Option Int :=
  let days := Int.fdiv hours 24
  if -(maxSpanDays : Int) ≤ days ∧ days ≤ maxSpanDays then some (hours * 3600000000) else none

/-- Whether a key is old enough to be evicted.  The age is a difference on the scale of UTC, which
a moment without an offset has no place on. -/
def isExpired (limits : Retention) (name : String) (now : Moment) (key : String) :
    Except Escape Bool :=
  match decode? name key with
  | none => .ok false
  | some made =>
    match now.utcMicroseconds? with
    | none => .error .mismatch
    | some t =>
      match span? limits.hours with
      | none => .error .overflow
      | some span => .ok (span ≤ t - made.microseconds)

/-- The items behind the first `n`; a negative `n` leaves that many at the end. -/
def behind {α : Type} (n : Int) (items : List α) : List α :=
  if 0 ≤ n then items.drop n.toNat else items.drop (items.length - n.natAbs)

/-- The keys among the given ones that pass a test which may fail. -/
def select (test : String → Except Escape Bool) : List String → Except Escape (List String)
  | [] => .ok []
  | key :: rest =>
    match test key with
    | .error e => .error e
    | .ok passes =>
      match select test rest with
      | .error e => .error e
      | .ok selected => .ok (if passes then key :: selected else selected)

/-- The keys that are to leave the history. -/
def evictions (limits : Retention) (name : String) (now : Moment) (keys : List String) :
    Except Escape (List String) :=
  let ordered := order name keys
  if (ordered.length : Int) ≤ limits.keep then .ok []
  else (select (limits.isExpired name now) (behind limits.keep ordered)).map List.eraseDups

/-- A history without the keys that are to leave it, and those keys. -/
def trim (limits : Retention) (name : String) (now : Moment) (history : Collection) :
    Except Escape (Collection × List String) :=
  (evictions limits name now history.keys).map fun evicted =>
    (history.filter fun key => !evicted.contains key, evicted)

end Retention

end ConfigVault
