import ConfigVault.Proofs.Retry.Waits

/-!
# Growth of the waits

The bases of a schedule come one from the other, and a base that was cut to the cap is
multiplied and cut again.  A factor of at least one makes this the same as one cut of the
power, so every wait can be told from its number and its roll alone.
-/

namespace ConfigVault.Backoff

/-- The base of a wait by its number: the duration first, then powers of the factor that
are cut to the cap. -/
def growth (s : Backoff Rat) (k : Nat) : Rat :=
  if k = 0 then s.duration
  else
    match s.cap with
    | none => s.duration * s.factor ^ k
    | some cap => min (s.duration * s.factor ^ k) cap

variable {s : Backoff Rat} {cap : Rat}

theorem growth_of_no_cap (hcap : s.cap = none) (k : Nat) :
    s.growth k = s.duration * s.factor ^ k := by
  by_cases hk : k = 0
  · simp [growth, hk]
  · simp [growth, hk, hcap]

theorem growth_succ_of_cap (hcap : s.cap = some cap) (k : Nat) :
    s.growth (k + 1) = min (s.duration * s.factor ^ (k + 1)) cap := by
  simp [growth, hcap]

theorem base_of_no_cap (hcap : s.cap = none) (k : Nat) :
    s.base k = s.duration * s.factor ^ k := by
  induction k with
  | zero => simp [base]
  | succ k ih =>
      have hgrow : s.grow (s.base k) = s.base k * s.factor := by
        simp [grow, hcap]
      rw [base, hgrow, ih, pow_succ, mul_assoc]

/-- Cutting at every step comes to the same as cutting the power once. -/
theorem base_eq_growth (hvalid : s.Valid) (k : Nat) : s.base k = s.growth k := by
  cases hcap : s.cap with
  | none => rw [base_of_no_cap hcap, growth_of_no_cap hcap]
  | some cap =>
      cases k with
      | zero => simp [base, growth]
      | succ k => rw [base_succ_eq_min hvalid hcap, growth_succ_of_cap hcap]

theorem growth_mono (hvalid : s.Valid) {j k : Nat} (hj : 1 ≤ j) (hjk : j ≤ k) :
    s.growth j ≤ s.growth k := by
  have hpower : s.duration * s.factor ^ j ≤ s.duration * s.factor ^ k := by
    have hfactor : s.factor ^ j ≤ s.factor ^ k := pow_le_pow_right₀ hvalid.one_le_factor hjk
    exact mul_le_mul_of_nonneg_left hfactor hvalid.duration_nonneg
  cases hcap : s.cap with
  | none =>
      rw [growth_of_no_cap hcap, growth_of_no_cap hcap]
      exact hpower
  | some cap =>
      obtain ⟨i, rfl⟩ : ∃ i, j = i + 1 := ⟨j - 1, by omega⟩
      obtain ⟨l, rfl⟩ : ∃ l, k = l + 1 := ⟨k - 1, by omega⟩
      rw [growth_succ_of_cap hcap, growth_succ_of_cap hcap]
      exact min_le_min_right cap hpower

theorem getElem?_waits (hvalid : s.Valid) (rolls : Nat → Rat) {k : Nat}
    (hk : k < s.steps - 1) :
    (s.waits rolls)[k]? = some (s.growth k * (1 + s.jitter * rolls k)) := by
  rw [getElem?_waits_eq_some_iff]
  refine ⟨hk, ?_⟩
  rw [wait_eq hvalid.jitter_nonneg, base_eq_growth hvalid]

/-- The waits of a valid schedule: one fewer than there are attempts, each the power of its
number within the cap with the jitter of its own roll.  No other roll has a part in it, and
from the second wait on the powers do not fall. -/
theorem waits_closed_form (hvalid : s.Valid) (rolls : Nat → Rat) :
    (s.waits rolls).length = s.steps - 1 ∧
      (∀ k < s.steps - 1,
        (s.waits rolls)[k]? = some (s.growth k * (1 + s.jitter * rolls k))) ∧
      (∀ (k : Nat) (rolls' : Nat → Rat), rolls' k = rolls k →
        (s.waits rolls')[k]? = (s.waits rolls)[k]?) ∧
      ∀ j k, 1 ≤ j → j ≤ k → s.growth j ≤ s.growth k := by
  refine ⟨s.length_waits rolls, fun k hk => getElem?_waits hvalid rolls hk, ?_, ?_⟩
  · intro k rolls' hroll
    by_cases hk : k < s.steps - 1
    · rw [getElem?_waits hvalid rolls' hk, getElem?_waits hvalid rolls hk, hroll]
    · have hbeyond (rolls : Nat → Rat) : (s.waits rolls)[k]? = none := by
        rw [List.getElem?_eq_none_iff, length_waits]
        omega
      rw [hbeyond, hbeyond]
  · exact fun j k hj hjk => growth_mono hvalid hj hjk

theorem waits_closed_form_shaken :
    let s : Backoff Rat := ⟨1, 3, 1 / 2, 5, some 5⟩
    let rolls : Nat → Rat := fun k => if k = 1 then 1 else 0
    s.Valid ∧ s.waits rolls = [1, 9 / 2, 5, 5] ∧ (s.waits rolls).length = 4 ∧
      (s.waits rolls)[1]? = some (min (1 * 3 ^ 1) 5 * (1 + 1 / 2 * 1)) ∧
      (s.waits rolls)[2]? = some (min (1 * 3 ^ 2) 5 * (1 + 1 / 2 * 0)) ∧
      (s.waits fun _ => 0)[2]? = (s.waits rolls)[2]? ∧ s.growth 1 ≤ s.growth 3 := by
  intro s rolls
  have hvalid : s.Valid := .of_cap rfl (by decide +kernel)
  have hwaits : s.waits rolls = [1, 9 / 2, 5, 5] := by decide +kernel
  obtain ⟨hlength, hform, hroll, hmono⟩ := waits_closed_form hvalid rolls
  exact ⟨hvalid, hwaits, hlength, hform 1 (by decide), hform 2 (by decide),
    hroll 2 (fun _ => 0) rfl, hmono 1 3 (by decide) (by decide)⟩

end ConfigVault.Backoff
