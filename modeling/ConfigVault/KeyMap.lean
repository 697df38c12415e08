/-!
# Maps with text keys

Finite maps from text to values, kept as lists of entries in increasing order of the keys.  Two maps
with the same look-ups are therefore the same map, and the order in which entries were added leaves
no trace.  `Collection` is the map that backends hold: names or version keys to contents.
-/

namespace ConfigVault

def KeysIncrease {α : Type} (entries : List (String × α)) : Prop :=
  entries.Pairwise fun a b => a.1 < b.1

namespace Entries

variable {α : Type}

/-- The value of the first entry with a key. -/
def get? (key : String) : List (String × α) → Option α
  | [] => none
  | (k, a) :: rest => if k = key then some a else get? key rest

/-- Puts an entry in front of the first greater key, in place of an entry with its own key. -/
def insert (key : String) (a : α) : List (String × α) → List (String × α)
  | [] => [(key, a)]
  | (k, b) :: rest =>
    if key < k then (key, a) :: (k, b) :: rest
    else if key = k then (key, a) :: rest
    else (k, b) :: insert key a rest

theorem mem_insert {key : String} {a : α} {entries : List (String × α)} {e : String × α}
    (h : e ∈ insert key a entries) : e = (key, a) ∨ e ∈ entries := by
  induction entries with
  | nil => simpa [insert] using h
  | cons entry rest ih =>
      obtain ⟨k, b⟩ := entry
      simp only [insert] at h
      split at h
      · simpa using h
      · split at h
        · rcases List.mem_cons.1 h with rfl | h
          · exact Or.inl rfl
          · exact Or.inr (List.mem_cons_of_mem _ h)
        · rcases List.mem_cons.1 h with rfl | h
          · exact Or.inr List.mem_cons_self
          · exact (ih h).imp id (List.mem_cons_of_mem _)

theorem keysIncrease_insert {key : String} {a : α} {entries : List (String × α)}
    (h : KeysIncrease entries) : KeysIncrease (insert key a entries) := by
  induction entries with
  | nil => exact List.pairwise_singleton _ _
  | cons entry rest ih =>
      obtain ⟨k, b⟩ := entry
      have hrest := List.pairwise_cons.1 h
      simp only [insert]
      split
      · next hlt =>
          refine List.pairwise_cons.2 ⟨?_, h⟩
          intro e he
          rcases List.mem_cons.1 he with rfl | he
          · exact hlt
          · exact String.lt_trans hlt (hrest.1 e he)
      · next hnot =>
          split
          · next heq =>
              refine List.pairwise_cons.2 ⟨?_, hrest.2⟩
              intro e he
              rw [heq]
              exact hrest.1 e he
          · next hne =>
              refine List.pairwise_cons.2 ⟨?_, ih hrest.2⟩
              intro e he
              rcases mem_insert he with rfl | he
              · rcases Std.Trichotomous.rel_or_eq_or_rel_swap
                    (r := fun a b : String => a < b) (a := k) (b := key) with hlt | heq | hgt
                · exact hlt
                · exact absurd heq.symm hne
                · exact absurd hgt hnot
              · exact hrest.1 e he

theorem get?_insert (key other : String) (a : α) (entries : List (String × α)) :
    get? other (insert key a entries) = if key = other then some a else get? other entries := by
  induction entries with
  | nil => simp [insert, get?]
  | cons entry rest ih =>
      obtain ⟨k, b⟩ := entry
      simp only [insert]
      split
      · simp [get?]
      · split
        · next heq =>
            subst heq
            by_cases h : key = other <;> simp [get?, h]
        · next hne =>
            simp only [get?, ih]
            by_cases hk : k = other
            · subst hk
              simp [hne]
            · simp [hk]

theorem get?_eq_none_of_forall_ne {key : String} {entries : List (String × α)}
    (h : ∀ e ∈ entries, e.1 ≠ key) : get? key entries = none := by
  induction entries with
  | nil => rfl
  | cons entry rest ih =>
      simp only [get?, if_neg (h entry List.mem_cons_self)]
      exact ih fun e he => h e (List.mem_cons_of_mem _ he)

theorem get?_filter (p : String → Bool) (key : String) {entries : List (String × α)} :
    get? key (entries.filter fun e => p e.1) = if p key then get? key entries else none := by
  induction entries with
  | nil => simp [get?]
  | cons entry rest ih =>
      obtain ⟨k, b⟩ := entry
      by_cases hp : p k
      · rw [List.filter_cons_of_pos (by simpa using hp)]
        by_cases hk : k = key
        · subst hk
          simp [get?, hp]
        · simp [get?, hk, ih]
      · rw [List.filter_cons_of_neg (by simpa using hp)]
        by_cases hk : k = key
        · subst hk
          simp [ih, hp]
        · simp [get?, hk, ih]

theorem get?_eq_some_iff_mem {key : String} {a : α} {entries : List (String × α)}
    (h : KeysIncrease entries) : get? key entries = some a ↔ (key, a) ∈ entries := by
  induction entries with
  | nil => simp [get?]
  | cons entry rest ih =>
      obtain ⟨k, b⟩ := entry
      have hrest := List.pairwise_cons.1 h
      by_cases hk : k = key
      · subst hk
        simp only [get?, if_pos, Option.some.injEq, List.mem_cons, Prod.mk.injEq, true_and]
        constructor
        · exact fun heq => Or.inl heq.symm
        · rintro (heq | hmem)
          · exact heq.symm
          · exact absurd (hrest.1 _ hmem) (String.lt_irrefl _)
      · simp only [get?, if_neg hk, ih hrest.2, List.mem_cons, Prod.mk.injEq]
        constructor
        · exact Or.inr
        · rintro (⟨heq, -⟩ | hmem)
          · exact absurd heq.symm hk
          · exact hmem

/-- Increasing lists with the same look-ups are equal. -/
theorem eq_of_get?_eq {xs ys : List (String × α)} (hx : KeysIncrease xs) (hy : KeysIncrease ys)
    (h : ∀ key, get? key xs = get? key ys) : xs = ys := by
  induction xs generalizing ys with
  | nil =>
      cases ys with
      | nil => rfl
      | cons entry rest =>
          have := h entry.1
          simp [get?] at this
  | cons x xs ih =>
      cases ys with
      | nil =>
          have := h x.1
          simp [get?] at this
      | cons y ys =>
          obtain ⟨k, a⟩ := x
          obtain ⟨l, b⟩ := y
          have hx' := List.pairwise_cons.1 hx
          have hy' := List.pairwise_cons.1 hy
          have hkl : k = l := by
            have hk := (get?_eq_some_iff_mem hy).1 ((h k).symm.trans (if_pos rfl))
            have hl := (get?_eq_some_iff_mem hx).1 ((h l).trans (if_pos rfl))
            rcases List.mem_cons.1 hk with heq | hk
            · exact (Prod.mk.inj heq).1
            · rcases List.mem_cons.1 hl with heq | hl
              · exact (Prod.mk.inj heq).1.symm
              · exact absurd (hy'.1 _ hk) (String.lt_asymm (hx'.1 _ hl))
          subst hkl
          have hab : a = b := by
            have := h k
            simpa [get?] using this
          subst hab
          congr 1
          refine ih hx'.2 hy'.2 fun key => ?_
          by_cases hk : k = key
          · subst hk
            rw [get?_eq_none_of_forall_ne, get?_eq_none_of_forall_ne]
            · intro e he heq
              exact String.lt_irrefl _ (heq ▸ hy'.1 e he)
            · intro e he heq
              exact String.lt_irrefl _ (heq ▸ hx'.1 e he)
          · simpa [get?, hk] using h key

end Entries

/-- A finite map from text to `α`. -/
structure KeyMap (α : Type) where
  entries : List (String × α)
  increasing : KeysIncrease entries
  deriving DecidableEq

namespace KeyMap

variable {α : Type}

def empty : KeyMap α := ⟨[], List.Pairwise.nil⟩

instance : EmptyCollection (KeyMap α) := ⟨empty⟩

instance : Inhabited (KeyMap α) := ⟨empty⟩

def isEmpty (m : KeyMap α) : Bool := m.entries.isEmpty

def get? (m : KeyMap α) (key : String) : Option α := Entries.get? key m.entries

/-- Sets the value under a key. -/
def insert (m : KeyMap α) (key : String) (a : α) : KeyMap α :=
  ⟨Entries.insert key a m.entries, Entries.keysIncrease_insert m.increasing⟩

/-- Keeps the entries whose keys pass a test. -/
def filter (m : KeyMap α) (p : String → Bool) : KeyMap α :=
  ⟨m.entries.filter fun e => p e.1, List.Pairwise.filter _ m.increasing⟩

def erase (m : KeyMap α) (key : String) : KeyMap α := m.filter (· ≠ key)

/-- The keys in increasing order. -/
def keys (m : KeyMap α) : List String := m.entries.map Prod.fst

def contains (m : KeyMap α) (key : String) : Bool := (m.get? key).isSome

/-- Adds entries one after the other, so that of two with one key the later one stays. -/
def ofList (entries : List (String × α)) : KeyMap α :=
  entries.foldl (fun m e => m.insert e.1 e.2) empty

@[ext] theorem ext {m n : KeyMap α} (h : ∀ key, m.get? key = n.get? key) : m = n := by
  cases m with
  | mk xs hx =>
      cases n with
      | mk ys hy =>
          have := Entries.eq_of_get?_eq hx hy h
          subst this
          rfl

@[simp] theorem get?_empty (key : String) : (empty : KeyMap α).get? key = none := rfl

theorem get?_insert (m : KeyMap α) (key other : String) (a : α) :
    (m.insert key a).get? other = if key = other then some a else m.get? other :=
  Entries.get?_insert key other a m.entries

@[simp] theorem get?_insert_self (m : KeyMap α) (key : String) (a : α) :
    (m.insert key a).get? key = some a := by
  simp [get?_insert]

theorem get?_filter (m : KeyMap α) (p : String → Bool) (key : String) :
    (m.filter p).get? key = if p key then m.get? key else none :=
  Entries.get?_filter p key

theorem get?_erase (m : KeyMap α) (key other : String) :
    (m.erase key).get? other = if other = key then none else m.get? other := by
  rw [erase, get?_filter]
  by_cases h : other = key <;> simp [h]

theorem mem_keys_iff (m : KeyMap α) (key : String) :
    key ∈ m.keys ↔ ∃ a, m.get? key = some a := by
  constructor
  · intro h
    obtain ⟨e, he, rfl⟩ := List.mem_map.1 h
    exact ⟨e.2, (Entries.get?_eq_some_iff_mem m.increasing).2 he⟩
  · rintro ⟨a, h⟩
    exact List.mem_map.2 ⟨_, (Entries.get?_eq_some_iff_mem m.increasing).1 h, rfl⟩

theorem isEmpty_iff_eq_empty (m : KeyMap α) : m.isEmpty = true ↔ m = empty := by
  cases m with
  | mk entries h =>
      cases entries with
      | nil => simp [isEmpty, empty]
      | cons e rest =>
          refine iff_of_false (by simp [isEmpty]) fun heq => ?_
          simpa [empty] using congrArg KeyMap.entries heq

end KeyMap

/-- What a backend holds under one name: texts under keys. -/
abbrev Collection := KeyMap String

end ConfigVault
