import ConfigVault.Proofs.Version.Key
import ConfigVault.Version.Retention

/-!
# The order of versions

The keys of a name are put in order by their rank: those that decode come first,
newer ones before older ones, and the others follow.  No two keys decode to the
same moment, so the place of a decoded key in the order is the number of keys
that decode to a later moment, whatever other keys there are.
-/

namespace ConfigVault.Retention

open Calendar Version

/-! ## The order on keys -/

/-- The order of versions, on the keys of a name. -/
def ahead (name a b : String) : Bool :=
  precedes (rank? name a, a) (rank? name b, b)

theorem precedes_total (a b : Option Nat × String) :
    (precedes a b || precedes b a) = true := by
  obtain ⟨_ | s, k⟩ := a <;> obtain ⟨_ | t, l⟩ := b <;>
    simp only [precedes, Bool.or_eq_true, Bool.and_eq_true, decide_eq_true_eq]
  · exact String.le_total l k
  · exact Or.inr trivial
  · exact Or.inl trivial
  · rcases Nat.lt_trichotomy s t with hlt | rfl | hgt
    · exact Or.inr (Or.inl hlt)
    · rcases String.le_total l k with hle | hle
      · exact Or.inl (Or.inr ⟨rfl, hle⟩)
      · exact Or.inr (Or.inr ⟨rfl, hle⟩)
    · exact Or.inl (Or.inl hgt)

theorem precedes_trans (a b c : Option Nat × String)
    (hab : precedes a b = true) (hbc : precedes b c = true) :
    precedes a c = true := by
  obtain ⟨_ | s, k⟩ := a <;> obtain ⟨_ | t, l⟩ := b <;>
    obtain ⟨_ | u, m⟩ := c <;>
    simp only [precedes, Bool.or_eq_true, Bool.and_eq_true, decide_eq_true_eq,
      Bool.false_eq_true] at hab hbc ⊢
  · exact String.le_trans hbc hab
  · rcases hab with hab | ⟨rfl, hkl⟩
    · rcases hbc with hbc | ⟨rfl, -⟩
      · exact Or.inl (hbc.trans hab)
      · exact Or.inl hab
    · rcases hbc with hbc | ⟨rfl, hlm⟩
      · exact Or.inl hbc
      · exact Or.inr ⟨rfl, String.le_trans hlm hkl⟩

theorem order_eq_mergeSort (name : String) (keys : List String) :
    order name keys = (keys.filter (belongsTo name)).mergeSort (ahead name) := by
  have hkeys : ((keys.filter (belongsTo name)).mergeSort (ahead name)).map
        (fun key => (rank? name key, key)) =
      ((keys.filter (belongsTo name)).map fun key => (rank? name key, key)).mergeSort
        precedes :=
    List.map_mergeSort fun a _ b _ => rfl
  rw [order, ← hkeys, List.map_map]
  exact List.map_id _

theorem order_perm (name : String) (keys : List String) :
    (order name keys).Perm (keys.filter (belongsTo name)) := by
  rw [order_eq_mergeSort]
  exact List.mergeSort_perm _ _

theorem mem_order {name key : String} {keys : List String} :
    key ∈ order name keys ↔ key ∈ keys ∧ belongsTo name key = true := by
  rw [(order_perm name keys).mem_iff, List.mem_filter]

theorem order_nodup {name : String} {keys : List String} (h : keys.Nodup) :
    (order name keys).Nodup :=
  (order_perm name keys).nodup_iff.mpr (h.filter _)

theorem order_pairwise (name : String) (keys : List String) :
    (order name keys).Pairwise fun a b => ahead name a b = true := by
  rw [order_eq_mergeSort]
  exact List.pairwise_mergeSort
    (fun a b c => precedes_trans (rank? name a, a) (rank? name b, b) (rank? name c, c))
    (fun a b => precedes_total (rank? name a, a) (rank? name b, b)) _

theorem ahead_antisymm {name a b : String} (hab : ahead name a b = true)
    (hba : ahead name b a = true) : a = b := by
  unfold ahead at hab hba
  cases ha : rank? name a <;> cases hb : rank? name b <;>
    simp only [precedes, ha, hb, Bool.or_eq_true, Bool.and_eq_true, decide_eq_true_eq,
      Bool.false_eq_true] at hab hba
  · exact String.le_antisymm hba hab
  · rcases hab with hlt | ⟨heq, hle⟩
    · rcases hba with hgt | ⟨heq, -⟩
      · exact absurd hgt (Nat.lt_asymm hlt)
      · exact absurd hlt (by omega)
    · rcases hba with hgt | ⟨-, hge⟩
      · exact absurd hgt (by omega)
      · exact String.le_antisymm hge hle

theorem order_eq_of_pairwise {name : String} {keys sorted : List String}
    (hkeys : keys.Nodup) (hsorted : sorted.Nodup)
    (hmem : ∀ key, key ∈ sorted ↔ key ∈ keys ∧ belongsTo name key = true)
    (hpairwise : sorted.Pairwise fun a b => ahead name a b = true) :
    order name keys = sorted := by
  have hperm : (order name keys).Perm sorted := by
    rw [List.perm_ext_iff_of_nodup (order_nodup hkeys) hsorted]
    intro key
    rw [mem_order, hmem]
  exact hperm.eq_of_pairwise (fun a b _ _ => ahead_antisymm)
    (order_pairwise name keys) hpairwise

theorem order_eq_of_perm {name : String} {keys sorted : List String} (hkeys : keys.Nodup)
    (hperm : sorted.Perm (keys.filter (belongsTo name)))
    (hpairwise : sorted.Pairwise fun a b => ahead name a b = true) :
    order name keys = sorted := by
  refine order_eq_of_pairwise hkeys (hperm.nodup_iff.mpr (hkeys.filter _)) ?_ hpairwise
  intro key
  rw [hperm.mem_iff, List.mem_filter]

/-! ## Keys that decode and the others -/

/-- A list in which what passes a test comes first is cut in two by it. -/
theorem filter_append_filter_not {α : Type} {p : α → Bool} {items : List α}
    (h : items.Pairwise fun a b => p b = true → p a = true) :
    items.filter p ++ items.filter (fun a => !p a) = items := by
  induction items with
  | nil => rfl
  | cons a items ih =>
      obtain ⟨hfirst, hrest⟩ := List.pairwise_cons.mp h
      cases ha : p a with
      | true => simp [ha, ih hrest]
      | false =>
          have hnone : ∀ b ∈ items, p b = false := by
            intro b hb
            by_contra hpass
            rw [hfirst b hb (Bool.eq_true_of_not_eq_false hpass)] at ha
            cases ha
          have hpass : items.filter p = [] :=
            List.filter_eq_nil_iff.mpr fun b hb => by simp [hnone b hb]
          have hrest : items.filter (fun a => !p a) = items :=
            List.filter_eq_self.mpr fun b hb => by simp [hnone b hb]
          simp [ha, hpass, hrest]

/-- The keys that decode stand in front of those that do not. -/
theorem order_eq_append (name : String) (keys : List String) :
    ((order name keys).filter fun key => (decode? name key).isSome) ++
        (order name keys).filter (fun key => !(decode? name key).isSome) =
      order name keys := by
  apply filter_append_filter_not
  refine (order_pairwise name keys).imp ?_
  intro a b hahead hb
  cases ha : decode? name a with
  | some moment => rfl
  | none =>
      obtain ⟨moment, hmoment⟩ := Option.isSome_iff_exists.mp hb
      simp [ahead, rank?, precedes, ha, hmoment] at hahead

/-! ## Places in the order -/

def isLater (name : String) (made : Reading) (key : String) : Bool :=
  (decode? name key).any fun other => made.microseconds < other.microseconds

def laterKeys (name : String) (made : Reading) (keys : List String) : List String :=
  keys.filter (isLater name made)

theorem isLater_iff {name key : String} {made : Reading} :
    isLater name made key = true ↔
      ∃ other, decode? name key = some other ∧
        made.microseconds < other.microseconds := by
  simp [isLater, Option.any_eq_true]

theorem isLater_of_ahead {name key other : String} {made : Reading}
    (hmade : decode? name key = some made) (hahead : ahead name other key = true)
    (hne : other ≠ key) : isLater name made other = true := by
  cases hother : decode? name other with
  | none => simp [ahead, rank?, precedes, hmade, hother] at hahead
  | some moment =>
      simp only [ahead, rank?, precedes, hmade, hother, Option.map_some,
        Bool.or_eq_true, Bool.and_eq_true, decide_eq_true_eq] at hahead
      rcases hahead with hlt | ⟨heq, -⟩
      · exact isLater_iff.mpr ⟨moment, hother, hlt⟩
      · have hmoment : moment = made := Reading.microseconds_injective heq
        subst hmoment
        exact absurd (eq_of_decode?_eq hother hmade) hne

theorem not_isLater_of_ahead {name key other : String} {made : Reading}
    (hmade : decode? name key = some made) (hahead : ahead name key other = true) :
    ¬isLater name made other = true := by
  rw [isLater_iff]
  rintro ⟨moment, hother, hlt⟩
  simp only [ahead, rank?, precedes, hmade, hother, Option.map_some,
    Bool.or_eq_true, Bool.and_eq_true, decide_eq_true_eq] at hahead
  rcases hahead with hgt | ⟨heq, -⟩
  · exact Nat.lt_asymm hlt hgt
  · rw [heq] at hlt
    exact Nat.lt_irrefl _ hlt

theorem not_isLater_self {name key : String} {made : Reading}
    (hmade : decode? name key = some made) : ¬isLater name made key = true := by
  rw [isLater_iff]
  rintro ⟨moment, hmoment, hlt⟩
  rw [hmade] at hmoment
  cases hmoment
  exact Nat.lt_irrefl _ hlt

theorem decoded_pairwise_isLater (name : String) {keys : List String} (h : keys.Nodup) :
    ((order name keys).filter fun key => (decode? name key).isSome).Pairwise
      fun newer older => ∀ made, decode? name older = some made →
        isLater name made newer = true := by
  have hsorted := (order_pairwise name keys).and (order_nodup h)
  refine (hsorted.filter _).imp ?_
  rintro newer older ⟨hahead, hne⟩ made hmade
  exact isLater_of_ahead hmade hahead hne

/-- The later keys of a decoded key are those in front of it. -/
theorem laterKeys_eq_of_append {name key : String} {made : Reading}
    {before after : List String} (hmade : decode? name key = some made)
    (hnodup : (before ++ key :: after).Nodup)
    (hsorted : (before ++ key :: after).Pairwise fun a b => ahead name a b = true) :
    laterKeys name made (before ++ key :: after) = before := by
  obtain ⟨-, hafter, hcross⟩ := List.pairwise_append.mp hsorted
  have hbefore : before.filter (isLater name made) = before := by
    apply List.filter_eq_self.mpr
    intro other hother
    apply isLater_of_ahead hmade (hcross other hother key List.mem_cons_self)
    rintro rfl
    exact (List.nodup_append.mp hnodup).2.2 other hother other List.mem_cons_self rfl
  have hrest : after.filter (isLater name made) = [] := by
    apply List.filter_eq_nil_iff.mpr
    intro other hother
    exact not_isLater_of_ahead hmade ((List.pairwise_cons.mp hafter).1 other hother)
  rw [laterKeys, List.filter_append,
    List.filter_cons_of_neg (not_isLater_self hmade), hbefore, hrest, List.append_nil]

/-- Later keys belong to the name, so the order holds all of them. -/
theorem length_laterKeys_order (name : String) (made : Reading) (keys : List String) :
    (laterKeys name made (order name keys)).length =
      (laterKeys name made keys).length := by
  unfold laterKeys
  rw [((order_perm name keys).filter _).length_eq, List.filter_filter]
  congr 1
  apply List.filter_congr
  intro key _
  cases hlater : isLater name made key with
  | false => simp
  | true =>
      obtain ⟨moment, hdecode, -⟩ := isLater_iff.mp hlater
      simp [belongsTo_of_decode? hdecode]

/-- A decoded key is behind the first `n` exactly when at least `n` keys decode to
later moments. -/
theorem mem_drop_order_iff {name key : String} {made : Reading} {keys : List String}
    {n : Nat} (hnodup : keys.Nodup) (hkey : key ∈ keys)
    (hmade : decode? name key = some made) :
    key ∈ (order name keys).drop n ↔ n ≤ (laterKeys name made keys).length := by
  have hmem : key ∈ order name keys := mem_order.mpr ⟨hkey, belongsTo_of_decode? hmade⟩
  obtain ⟨before, after, hsplit⟩ := List.append_of_mem hmem
  have hsorted := order_pairwise name keys
  have hdistinct : (order name keys).Nodup := order_nodup hnodup
  rw [← length_laterKeys_order, hsplit]
  rw [hsplit] at hsorted hdistinct
  rw [laterKeys_eq_of_append hmade hdistinct hsorted]
  constructor
  · intro hdrop
    by_contra hlt
    have hkeyAfter : key ∈ after := by
      rw [List.drop_append, List.drop_eq_nil_of_le (by omega), List.nil_append] at hdrop
      obtain ⟨m, hm⟩ : ∃ m, n - before.length = m + 1 := ⟨n - before.length - 1, by omega⟩
      rw [hm, List.drop_succ_cons] at hdrop
      exact List.mem_of_mem_drop hdrop
    exact (List.nodup_cons.mp (List.nodup_append.mp hdistinct).2.1).1 hkeyAfter
  · intro hle
    rw [List.drop_append_of_le_length hle]
    simp

end ConfigVault.Retention
