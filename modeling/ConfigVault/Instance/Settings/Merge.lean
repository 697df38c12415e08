import ConfigVault.Settings.Library

/-!
# Merging of fields

Mappings are laid over each other key by key: of a field in both the upper one counts, and mappings are
laid over each other in turn.
-/

namespace ConfigVault

mutual

def laid : (upper lower : Value) → Value
  | .map upper, .map lower =>
    .map (lower.map (fun e => (e.1, laidFrom upper e)) ++
      upper.filter fun e => lower.all fun f => !Value.sameKey f.1 e.1)
  | v, _ => v

def laidFrom : (upper : Fields) → (lower : Value × Value) → Value
  | [], e => e.2
  | (key, v) :: rest, e => if Value.sameKey e.1 key then laid v e.2 else laidFrom rest e

end

def mergeFields (upper lower : Fields) : Fields :=
  lower.map (fun e => (e.1, laidFrom upper e)) ++
    upper.filter fun e => lower.all fun f => !Value.sameKey f.1 e.1

end ConfigVault
