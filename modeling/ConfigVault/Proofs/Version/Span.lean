import ConfigVault.Proofs.Calendar.Order
import ConfigVault.Proofs.Version.Rule

/-!
# Ages beyond the longest span

The age that limits ask for is compared as a span of time, and spans end before a thousand
million days.  Limits beyond that make trimming fail, but only once a version lies behind
those that always stay, so a short history is trimmed under any limits.  Where trimming
fails nothing would have left: the calendar ends long before spans do.
-/

namespace ConfigVault

open Calendar Version

/-! ## The end of the calendar -/

namespace Calendar

def Date.last : Date := ⟨9999, 12, 31, by decide⟩

theorem Date.not_last_before (d : Date) : ¬Date.last.Before d := by
  have hyear := d.year_le
  have hmonth := d.month_bounds.2
  have hday := d.day_bounds.2.trans (daysInMonth_le _ _)
  unfold Date.Before Date.last
  dsimp only
  omega

theorem Date.ordinal_le_last (d : Date) : d.ordinal ≤ Date.last.ordinal := by
  by_contra hlt
  exact d.not_last_before (Date.ordinal_lt_iff.mp (not_le.mp hlt))

/-- No two readings lie as far apart as the end of the calendar from its start. -/
theorem Reading.microseconds_lt (r : Reading) :
    r.microseconds < (Date.last.ordinal + 1) * 86400000000 := by
  have hdate := r.date.ordinal_le_last
  have hseconds := r.time.seconds_lt
  have hmicro := r.time.inRange.2.2.2
  unfold Reading.microseconds
  generalize Date.last.ordinal = last at hdate ⊢
  omega

end Calendar

namespace Retention

variable {limits : Retention} {name : String} {now : Moment} {t : Int}
  {keys : List String} {history : Collection} {key : String} {escape : Escape}

/-! ## Spans -/

/-- Spans are bounded by a number of days, and the last day counts to its end. -/
theorem span?_eq_none_iff {hours : Int} :
    span? hours = none ↔
      hours < -(24 * maxSpanDays) ∨ 24 * (maxSpanDays + 1) ≤ hours := by
  unfold span?
  rw [Int.fdiv_eq_ediv_of_nonneg _ (by decide)]
  dsimp only
  split
  · next hdays =>
      refine iff_of_false (by simp) ?_
      omega
  · next hdays =>
      refine iff_of_true rfl ?_
      omega

/-! ## Keys that decode behind the first ones -/

def decodedKeys (name : String) (keys : List String) : List String :=
  keys.filter fun key => (decode? name key).isSome

theorem length_decodedKeys_order (name : String) (keys : List String) :
    (decodedKeys name (order name keys)).length = (decodedKeys name keys).length := by
  unfold decodedKeys
  rw [((order_perm name keys).filter _).length_eq, List.filter_filter]
  congr 1
  apply List.filter_congr
  intro key _
  cases hmade : decode? name key with
  | none => rfl
  | some made => simp [belongsTo_of_decode? hmade]

theorem exists_decoded_mem_drop_iff {n : Nat} :
    (∃ key ∈ (order name keys).drop n, (decode? name key).isSome) ↔
      n < (decodedKeys name keys).length := by
  rw [← length_decodedKeys_order]
  unfold decodedKeys
  have hsplit := order_eq_append name keys
  constructor
  · rintro ⟨key, hdrop, hmade⟩
    by_contra hfew
    rw [← hsplit, List.drop_append, List.drop_eq_nil_of_le (not_lt.mp hfew),
      List.nil_append] at hdrop
    have hrest := List.of_mem_filter (List.mem_of_mem_drop hdrop)
    simp [hmade] at hrest
  · intro hmany
    obtain ⟨key, hkey⟩ := List.exists_mem_of_ne_nil _
      (List.drop_eq_nil_iff.not.mpr (not_le.mpr hmany))
    refine ⟨key, ?_, (List.mem_filter.mp (List.mem_of_mem_drop hkey)).2⟩
    rw [← hsplit, List.drop_append]
    exact List.mem_append_left _ hkey

/-! ## Tests that fail -/

theorem exists_of_select_eq_error {test : String → Except Escape Bool}
    {items : List String} (h : select test items = .error escape) :
    ∃ key ∈ items, test key = .error escape := by
  induction items with
  | nil => cases h
  | cons item rest ih =>
      simp only [select] at h
      split at h
      next htest =>
        cases h
        exact ⟨item, List.mem_cons_self, htest⟩
      · split at h
        next hrest =>
          cases h
          obtain ⟨key, hkey, htest⟩ := ih hrest
          exact ⟨key, List.mem_cons_of_mem _ hkey, htest⟩
        · cases h

theorem isExpired_eq_error_iff (hnow : now.utcMicroseconds? = some t) :
    isExpired limits name now key = .error escape ↔
      escape = .overflow ∧ span? limits.hours = none ∧ (decode? name key).isSome := by
  cases hmade : decode? name key with
  | none => simp [isExpired_of_undecoded hmade]
  | some made =>
      cases hspan : span? limits.hours with
      | none => simp [isExpired_of_no_span hmade hnow hspan, eq_comm]
      | some span => simp [isExpired_of_decoded hmade hnow hspan]

/-! ## Limits out of reach -/

/-- The limits ask for an age that no span has, of a version behind those that always
stay. -/
def OutOfSpan (limits : Retention) (name : String) (keys : List String) : Prop :=
  24 * (maxSpanDays + 1) ≤ limits.hours ∧ limits.keep < ((decodedKeys name keys).length : Int)

instance (limits : Retention) (name : String) (keys : List String) :
    Decidable (limits.OutOfSpan name keys) :=
  inferInstanceAs (Decidable (_ ∧ _))

theorem evictions_eq_error_iff (hkeep : 0 ≤ limits.keep) (hhours : 0 ≤ limits.hours)
    (hnow : now.utcMicroseconds? = some t) :
    evictions limits name now keys = .error escape ↔
      escape = .overflow ∧ limits.OutOfSpan name keys := by
  have hspan : span? limits.hours = none ↔ 24 * (maxSpanDays + 1) ≤ limits.hours := by
    rw [span?_eq_none_iff, or_iff_right (by omega)]
  unfold OutOfSpan
  rw [← hspan]
  simp only [evictions, behind_eq_drop hkeep]
  constructor
  · intro h
    split at h
    · cases h
    cases hselect : select (isExpired limits name now)
        ((order name keys).drop limits.keep.toNat) with
    | ok selected =>
        rw [hselect] at h
        cases h
    | error escape' =>
        rw [hselect] at h
        cases h
        obtain ⟨key, hdrop, hexpired⟩ := exists_of_select_eq_error hselect
        obtain ⟨hescape, hnone, hmade⟩ := (isExpired_eq_error_iff hnow).mp hexpired
        have hmany := exists_decoded_mem_drop_iff.mp ⟨key, hdrop, hmade⟩
        exact ⟨hescape, hnone, by omega⟩
  · rintro ⟨rfl, hnone, hmany⟩
    obtain ⟨key, hdrop, hmade⟩ :
        ∃ key ∈ (order name keys).drop limits.keep.toNat, (decode? name key).isSome :=
      exists_decoded_mem_drop_iff.mpr (by omega)
    have hlength := List.length_pos_of_mem hdrop
    rw [List.length_drop] at hlength
    rw [if_neg (by omega)]
    have hexpired := (isExpired_eq_error_iff hnow).mpr ⟨rfl, hnone, hmade⟩
    cases hselect : select (isExpired limits name now)
        ((order name keys).drop limits.keep.toNat) with
    | ok selected =>
        obtain ⟨passes, hpasses⟩ := exists_test_eq_of_select hselect hdrop
        rw [hexpired] at hpasses
        cases hpasses
    | error escape' =>
        obtain ⟨other, -, hother⟩ := exists_of_select_eq_error hselect
        obtain ⟨rfl, -⟩ := (isExpired_eq_error_iff hnow).mp hother
        rfl

/-- Trimming fails in one way only, and exactly when the limits are out of reach. -/
theorem trim_eq_error_iff (hkeep : 0 ≤ limits.keep) (hhours : 0 ≤ limits.hours)
    (hnow : now.utcMicroseconds? = some t) :
    trim limits name now history = .error escape ↔
      escape = .overflow ∧ limits.OutOfSpan name history.keys := by
  rw [← evictions_eq_error_iff hkeep hhours hnow]
  unfold trim
  cases evictions limits name now history.keys <;> simp [Except.map]

/-- Trimming within reach takes out the versions that are due, and nothing else. -/
theorem exists_trim_of_reach (hkeep : 0 ≤ limits.keep) (hhours : 0 ≤ limits.hours)
    (hnow : now.utcMicroseconds? = some t) (hreach : ¬limits.OutOfSpan name history.keys) :
    ∃ trimmed evicted, trim limits name now history = .ok (trimmed, evicted) ∧
      (∀ key, key ∈ evicted ↔
        key ∈ history.keys ∧ limits.Due name t history.keys key) ∧
      ∀ key, trimmed.get? key = if key ∈ evicted then none else history.get? key := by
  cases hevicted : evictions limits name now history.keys with
  | error escape =>
      exact absurd ((evictions_eq_error_iff hkeep hhours hnow).mp hevicted).2 hreach
  | ok evicted =>
      exact ⟨_, evicted, trim_eq_ok hevicted,
        mem_evictions_iff hkeep history.keys_nodup hnow hevicted,
        history.get?_filter_not_contains evicted⟩

/-- No version is as old as limits that are out of reach ask for. -/
theorem OutOfSpan.not_due (hout : limits.OutOfSpan name keys) (now : Reading)
    (others : List String) : ¬limits.Due name now.microseconds others key := by
  rintro ⟨made, -, -, hage⟩
  have hlt := now.microseconds_lt
  have hlast : Date.last.ordinal ≤ maxSpanDays := by decide
  have hhours := hout.1
  generalize Date.last.ordinal = last at hlt hlast
  generalize maxSpanDays = days at hlast hhours
  omega

end Retention

end ConfigVault
