import ConfigVault.KeyMap
import Mathlib.Tactic

/-!
# Keys of maps

A map lists each of its keys once.  Adding an entry adds its key at most, so the
keys that a test picks stay the same when the new key fails it.
-/

namespace ConfigVault.KeyMap

variable {α : Type}

theorem keys_nodup (m : KeyMap α) : m.keys.Nodup := by
  refine List.Pairwise.map Prod.fst ?_ m.increasing
  intro a b hlt heq
  exact String.lt_irrefl _ (heq ▸ hlt)

theorem mem_keys_insert {m : KeyMap α} {key other : String} {a : α} :
    other ∈ (m.insert key a).keys ↔ other = key ∨ other ∈ m.keys := by
  simp only [mem_keys_iff, get?_insert]
  by_cases hkey : key = other
  · simp [hkey]
  · simp [hkey, Ne.symm hkey]

/-- Of two values that are set under a key the later one stays. -/
theorem insert_insert (m : KeyMap α) (key : String) (a b : α) :
    (m.insert key a).insert key b = m.insert key b := by
  ext1 other
  simp only [get?_insert]
  split <;> rfl

theorem keys_filter (m : KeyMap α) (p : String → Bool) :
    (m.filter p).keys = m.keys.filter p := by
  simp only [keys, filter, List.filter_map]
  rfl

theorem get?_filter_not_contains (m : KeyMap α) (gone : List String) (key : String) :
    (m.filter fun key => !gone.contains key).get? key =
      if key ∈ gone then none else m.get? key := by
  rw [get?_filter]
  by_cases hkey : key ∈ gone <;> simp [hkey]

theorem keys_insert_perm {m : KeyMap α} {key : String} (hnew : m.get? key = none) (a : α) :
    (m.insert key a).keys.Perm (key :: m.keys) := by
  have hfresh : key ∉ m.keys := by
    rw [mem_keys_iff, hnew]
    simp
  rw [List.perm_ext_iff_of_nodup (keys_nodup _)
    (List.nodup_cons.mpr ⟨hfresh, keys_nodup m⟩)]
  intro other
  rw [mem_keys_insert, List.mem_cons]

/-- A new value under a key leaves the keys as they are. -/
theorem keys_insert_perm_of_mem {m : KeyMap α} {key : String} (hold : key ∈ m.keys) (a : α) :
    (m.insert key a).keys.Perm m.keys := by
  rw [List.perm_ext_iff_of_nodup (keys_nodup _) (keys_nodup m)]
  intro other
  rw [mem_keys_insert]
  constructor
  · rintro (rfl | hmem)
    · exact hold
    · exact hmem
  · exact .inr

/-- The keys that a test picks do not see a new key that fails it. -/
theorem filter_keys_insert_perm {m : KeyMap α} {p : String → Bool} {key : String}
    (hkey : p key = false) (a : α) :
    ((m.insert key a).keys.filter p).Perm (m.keys.filter p) := by
  rw [List.perm_ext_iff_of_nodup ((keys_nodup _).filter p) ((keys_nodup m).filter p)]
  intro other
  rw [List.mem_filter, List.mem_filter, mem_keys_insert]
  constructor
  · rintro ⟨rfl | hmem, hother⟩
    · rw [hkey] at hother
      cases hother
    · exact ⟨hmem, hother⟩
  · rintro ⟨hmem, hother⟩
    exact ⟨.inr hmem, hother⟩

end ConfigVault.KeyMap
