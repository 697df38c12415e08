import ConfigVault.Data.Value
import Mathlib.Tactic

/-!
# Entries of mappings

A mapping is looked up by texts.  Two keys of which one is a text are the same only if
they are the same text.
-/

namespace ConfigVault.Value

variable {name : String} {a b : Value}

theorem text?_eq_some_iff : a.text? = some name ↔ a = .text name := by
  constructor
  · intro h
    cases a with
    | text s => rw [Option.some.inj h]
    | _ => cases h
  · rintro rfl
    rfl

theorem sameKey_text_left : sameKey (.text name) b = true ↔ b = .text name := by
  unfold sameKey
  cases b with
  | float x => cases hx : Decimal.toInt? x <;> simp [wholeNumber?, hx]
  | text other =>
      simp only [wholeNumber?, beq_iff_eq, Value.text.injEq]
      exact eq_comm
  | _ => simp [wholeNumber?]

theorem sameKey_text_right : sameKey a (.text name) = true ↔ a = .text name := by
  unfold sameKey
  cases a with
  | float x => cases hx : Decimal.toInt? x <;> simp [wholeNumber?, hx]
  | text other => simp [wholeNumber?]
  | _ => simp [wholeNumber?]

/-! ## Looking up -/

@[simp] theorem field?_map_nil (name : String) : (map []).field? name = none := rfl

theorem field?_map_cons (key value : Value) (entries : List (Value × Value)) (name : String) :
    (map ((key, value) :: entries)).field? name =
      if key.text? = some name then some value else (map entries).field? name := by
  unfold field?
  cases key with
  | text s =>
      by_cases hs : s = name <;> simp [text?, hs]
  | _ => simp [text?]

theorem field?_map_isSome_iff {entries : List (Value × Value)} :
    ((map entries).field? name).isSome = true ↔ ∃ e ∈ entries, e.1 = .text name := by
  induction entries with
  | nil => simp
  | cons entry entries ih =>
      obtain ⟨key, value⟩ := entry
      rw [field?_map_cons, List.exists_mem_cons_iff, ← ih]
      by_cases hkey : key.text? = some name
      · rw [if_pos hkey]
        simp [text?_eq_some_iff.mp hkey]
      · have hne : key ≠ .text name := fun heq => hkey (text?_eq_some_iff.mpr heq)
        simp [hkey, hne]

theorem field?_map_eq_none_iff {entries : List (Value × Value)} :
    (map entries).field? name = none ↔ ∀ e ∈ entries, e.1 ≠ .text name := by
  rw [← Option.not_isSome_iff_eq_none, field?_map_isSome_iff]
  constructor
  · intro h e he heq
    exact h ⟨e, he, heq⟩
  · rintro h ⟨e, he, heq⟩
    exact h e he heq

end ConfigVault.Value
