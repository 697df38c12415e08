import ConfigVault.Failure
import ConfigVault.KeyMap

/-!
# Backends

A backend keeps collections under names.  It is a pair of step functions on its state, one to read a
collection and one to replace it, which see the time at which they are called.  Reading may change
the state, and a collection that was just replaced need not read back at once.  An empty collection
may read as no data.
-/

namespace ConfigVault

/-- The calls of a backend with states `σ` on a scale of time. -/
structure Backend (σ τ : Type) where
  /-- Reads a collection. -/
  get : String → τ → σ → Except Fault (Option Collection) × σ
  /-- Replaces a collection. -/
  put : String → Collection → τ → σ → Except Fault Unit × σ
  /-- Makes the backend ready for use. -/
  connect : σ → Except Obstacle σ := fun s => .ok s

/-- A read shows a collection: no data shows the empty one. -/
def Shows (observed : Option Collection) (m : Collection) : Prop :=
  observed = some m ∨ (observed = none ∧ m = KeyMap.empty)

instance (observed : Option Collection) (m : Collection) : Decidable (Shows observed m) := by
  unfold Shows
  infer_instance

def shown (observed : Option Collection) : Collection :=
  observed.getD KeyMap.empty

end ConfigVault
