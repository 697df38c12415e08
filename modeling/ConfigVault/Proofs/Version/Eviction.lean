import ConfigVault.Proofs.Version.Order

/-!
# Which versions leave a history

Eviction looks at places in the order of versions and at ages.  Put in terms of
the keys alone: a key leaves exactly when it decodes, enough keys decode to later
moments, and its moment lies far enough back.
-/

namespace ConfigVault.Retention

open Calendar Version

variable {limits : Retention} {name : String} {now : Moment} {t : Int}
  {keys evicted : List String}

/-! ## Keys that pass a test -/

theorem mem_select_iff {test : String → Except Escape Bool}
    {items selected : List String} (h : select test items = .ok selected)
    (key : String) : key ∈ selected ↔ key ∈ items ∧ test key = .ok true := by
  induction items generalizing selected with
  | nil =>
      cases h
      simp
  | cons item rest ih =>
      simp only [select] at h
      split at h
      · cases h
      next passes htest =>
        split at h
        · cases h
        next others hothers =>
          cases h
          cases passes
          · simp only [Bool.false_eq_true, if_false, List.mem_cons, ih hothers]
            refine ⟨fun hkey => ⟨Or.inr hkey.1, hkey.2⟩, ?_⟩
            rintro ⟨rfl | hrest, hkey⟩
            · simp [htest] at hkey
            · exact ⟨hrest, hkey⟩
          · simp only [if_true, List.mem_cons, ih hothers]
            constructor
            · rintro (rfl | ⟨hrest, hkey⟩)
              · exact ⟨Or.inl rfl, htest⟩
              · exact ⟨Or.inr hrest, hkey⟩
            · rintro ⟨rfl | hrest, hkey⟩
              · exact Or.inl rfl
              · exact Or.inr ⟨hrest, hkey⟩

theorem exists_test_eq_of_select {test : String → Except Escape Bool}
    {items selected : List String} (h : select test items = .ok selected)
    {key : String} (hkey : key ∈ items) : ∃ passes, test key = .ok passes := by
  induction items generalizing selected with
  | nil => cases hkey
  | cons item rest ih =>
      simp only [select] at h
      split at h
      · cases h
      next passes htest =>
        split at h
        · cases h
        next others hothers =>
          rcases List.mem_cons.mp hkey with rfl | hrest
          · exact ⟨passes, htest⟩
          · exact ih hothers hrest

theorem exists_select_eq_ok {test : String → Except Escape Bool} {items : List String}
    (h : ∀ key ∈ items, ∃ passes, test key = .ok passes) :
    ∃ selected, select test items = .ok selected := by
  induction items with
  | nil => exact ⟨[], rfl⟩
  | cons item rest ih =>
      obtain ⟨passes, hpasses⟩ := h item List.mem_cons_self
      obtain ⟨selected, hselected⟩ := ih fun key hkey => h key (List.mem_cons_of_mem _ hkey)
      simp [select, hpasses, hselected]

/-! ## Ages -/

theorem isExpired_of_undecoded {key : String} (h : decode? name key = none) :
    isExpired limits name now key = .ok false := by
  simp [isExpired, h]

theorem isExpired_of_decoded {key : String} {made : Reading} {span : Int}
    (hmade : decode? name key = some made) (hnow : now.utcMicroseconds? = some t)
    (hspan : span? limits.hours = some span) :
    isExpired limits name now key = .ok (decide (span ≤ t - made.microseconds)) := by
  simp [isExpired, hmade, hnow, hspan]

theorem isExpired_of_no_span {key : String} {made : Reading}
    (hmade : decode? name key = some made) (hnow : now.utcMicroseconds? = some t)
    (hspan : span? limits.hours = none) :
    isExpired limits name now key = .error .overflow := by
  simp [isExpired, hmade, hnow, hspan]

theorem span?_eq_some {hours span : Int} (h : span? hours = some span) :
    span = hours * 3600000000 := by
  simp only [span?] at h
  split at h
  · exact (Option.some.inj h).symm
  · cases h

theorem isExpired_eq_ok_true_iff {key : String} {made : Reading} {passes : Bool}
    (hmade : decode? name key = some made) (hnow : now.utcMicroseconds? = some t)
    (h : isExpired limits name now key = .ok passes) :
    isExpired limits name now key = .ok true ↔
      limits.hours * 3600000000 ≤ t - made.microseconds := by
  cases hspan : span? limits.hours with
  | none =>
      rw [isExpired_of_no_span hmade hnow hspan] at h
      cases h
  | some span =>
      rw [isExpired_of_decoded hmade hnow hspan, ← span?_eq_some hspan]
      simp

@[simp] theorem utcMicroseconds?_utc (r : Reading) :
    (Moment.utc r).utcMicroseconds? = some (r.microseconds : Int) := by
  simp [Moment.utc, Moment.utcMicroseconds?]

/-! ## Evictions -/

theorem behind_eq_drop (hkeep : 0 ≤ limits.keep) (items : List String) :
    behind limits.keep items = items.drop limits.keep.toNat := by
  rw [behind, if_pos hkeep]

theorem mem_evictions_iff_mem_behind (h : evictions limits name now keys = .ok evicted)
    (key : String) :
    key ∈ evicted ↔ limits.keep < ((order name keys).length : Int) ∧
      key ∈ behind limits.keep (order name keys) ∧
        isExpired limits name now key = .ok true := by
  simp only [evictions] at h
  split at h
  · next hfew =>
      cases h
      refine iff_of_false List.not_mem_nil ?_
      rintro ⟨hmany, -⟩
      omega
  · next hmany =>
      cases hselect : select (isExpired limits name now)
          (behind limits.keep (order name keys)) with
      | error e =>
          rw [hselect] at h
          cases h
      | ok selected =>
          rw [hselect] at h
          cases h
          rw [List.mem_eraseDups, mem_select_iff hselect]
          exact ⟨fun hkey => ⟨by omega, hkey⟩, fun hkey => hkey.2⟩

/-- The keys that leave are those behind the kept ones that are old enough. -/
theorem mem_evictions_iff_mem_drop (hkeep : 0 ≤ limits.keep)
    (h : evictions limits name now keys = .ok evicted) (key : String) :
    key ∈ evicted ↔
      key ∈ (order name keys).drop limits.keep.toNat ∧
        isExpired limits name now key = .ok true := by
  rw [mem_evictions_iff_mem_behind h, behind_eq_drop hkeep]
  constructor
  · exact fun hkey => hkey.2
  · rintro ⟨hdrop, hexpired⟩
    refine ⟨?_, hdrop, hexpired⟩
    by_contra hfew
    rw [List.drop_eq_nil_of_le (by omega)] at hdrop
    cases hdrop

/-- Only keys that decode leave, whatever the limits. -/
theorem exists_decode?_of_mem_evictions (h : evictions limits name now keys = .ok evicted)
    {key : String} (hkey : key ∈ evicted) : ∃ made, decode? name key = some made := by
  obtain ⟨-, -, hexpired⟩ := (mem_evictions_iff_mem_behind h key).mp hkey
  cases hmade : decode? name key with
  | none =>
      rw [isExpired_of_undecoded hmade] at hexpired
      cases hexpired
  | some made => exact ⟨made, rfl⟩

theorem exists_isExpired_of_evictions (hkeep : 0 ≤ limits.keep)
    (h : evictions limits name now keys = .ok evicted) {key : String}
    (hkey : key ∈ (order name keys).drop limits.keep.toNat) :
    ∃ passes, isExpired limits name now key = .ok passes := by
  simp only [evictions, behind_eq_drop hkeep] at h
  split at h
  · next hfew =>
      rw [List.drop_eq_nil_of_le (by omega)] at hkey
      cases hkey
  · cases hselect : select (isExpired limits name now)
        ((order name keys).drop limits.keep.toNat) with
    | error e =>
        rw [hselect] at h
        cases h
    | ok selected => exact exists_test_eq_of_select hselect hkey

/-- A key leaves exactly when it decodes, as many keys as are kept decode to later
moments, and its moment lies as far back as the limits say. -/
theorem mem_evictions_iff (hkeep : 0 ≤ limits.keep) (hnodup : keys.Nodup)
    (hnow : now.utcMicroseconds? = some t)
    (h : evictions limits name now keys = .ok evicted) (key : String) :
    key ∈ evicted ↔
      key ∈ keys ∧ ∃ made, decode? name key = some made ∧
        limits.keep ≤ ((laterKeys name made keys).length : Int) ∧
        limits.hours * 3600000000 ≤ t - made.microseconds := by
  rw [mem_evictions_iff_mem_drop hkeep h]
  constructor
  · rintro ⟨hdrop, hexpired⟩
    have hkey := mem_order.mp (List.mem_of_mem_drop hdrop)
    cases hmade : decode? name key with
    | none =>
        rw [isExpired_of_undecoded hmade] at hexpired
        cases hexpired
    | some made =>
        have hplace := (mem_drop_order_iff hnodup hkey.1 hmade).mp hdrop
        refine ⟨hkey.1, made, rfl, by omega, ?_⟩
        exact (isExpired_eq_ok_true_iff hmade hnow hexpired).mp hexpired
  · rintro ⟨hkey, made, hmade, hplace, hage⟩
    have hdrop : key ∈ (order name keys).drop limits.keep.toNat :=
      (mem_drop_order_iff hnodup hkey hmade).mpr (by omega)
    obtain ⟨passes, hpasses⟩ := exists_isExpired_of_evictions hkeep h hdrop
    exact ⟨hdrop, (isExpired_eq_ok_true_iff hmade hnow hpasses).mpr hage⟩

/-- Limits in the range of spans never fail. -/
theorem exists_evictions_eq_ok {span : Int} (hspan : span? limits.hours = some span)
    (hnow : now.utcMicroseconds? = some t) (keys : List String) :
    ∃ evicted, evictions limits name now keys = .ok evicted := by
  have htest : ∀ key, ∃ passes, isExpired limits name now key = .ok passes := by
    intro key
    cases hmade : decode? name key with
    | none => exact ⟨false, isExpired_of_undecoded hmade⟩
    | some made => exact ⟨_, isExpired_of_decoded hmade hnow hspan⟩
  obtain ⟨selected, hselected⟩ : ∃ selected, select (isExpired limits name now)
      (behind limits.keep (order name keys)) = .ok selected :=
    exists_select_eq_ok fun key _ => htest key
  simp only [evictions, hselected]
  split
  · exact ⟨[], rfl⟩
  · exact ⟨selected.eraseDups, rfl⟩

end ConfigVault.Retention
