import ConfigVault.Backoff
import Mathlib.Tactic

/-!
# Waits of a schedule

Each wait of a schedule is a base with what a roll adds to it, and the bases do not depend
on the rolls.  In exact arithmetic what is added is a part of the base, and the bases after
the first grow like a power up to the cap.
-/

namespace ConfigVault.Backoff

section

variable {τ : Type} [TimeScale τ] [Mul τ] (s : Backoff τ) (rolls : Nat → τ)

@[simp] theorem length_waitsFrom (n k : Nat) (base : τ) :
    (s.waitsFrom rolls n k base).length = n := by
  induction n generalizing k base with
  | zero => rfl
  | succ n ih => simp [waitsFrom, ih]

@[simp] theorem length_waits : (s.waits rolls).length = s.steps - 1 :=
  s.length_waitsFrom rolls _ _ _

/-- The base of a wait, the waits counted from zero. -/
def base : Nat → τ
  | 0 => s.duration
  | k + 1 => s.grow (base k)

theorem getElem?_waitsFrom {i n : Nat} (h : i < n) (k : Nat) :
    (s.waitsFrom rolls n k (s.base k))[i]? = some (s.wait (s.base (k + i)) (rolls (k + i))) := by
  induction n generalizing i k with
  | zero => omega
  | succ n ih =>
      cases i with
      | zero => rfl
      | succ i =>
          have hlater := ih (by omega : i < n) (k + 1)
          rw [show k + (i + 1) = k + 1 + i by omega, ← hlater]
          rfl

theorem getElem?_waits_eq_some_iff {k : Nat} {wait : τ} :
    (s.waits rolls)[k]? = some wait ↔
      k < s.steps - 1 ∧ wait = s.wait (s.base k) (rolls k) := by
  have hsome (hk : k < s.steps - 1) :
      (s.waits rolls)[k]? = some (s.wait (s.base k) (rolls k)) := by
    have hwait := s.getElem?_waitsFrom rolls hk 0
    rwa [Nat.zero_add] at hwait
  constructor
  · intro hwait
    obtain ⟨hk, -⟩ := List.getElem?_eq_some_iff.mp hwait
    rw [length_waits] at hk
    rw [hsome hk] at hwait
    exact ⟨hk, (Option.some.inj hwait).symm⟩
  · rintro ⟨hk, rfl⟩
    exact hsome hk

end

/-! ## Exact arithmetic -/

/-- The schedule is one that settings may give. -/
structure Valid (s : Backoff Rat) : Prop where
  duration_nonneg : 0 ≤ s.duration
  one_le_factor : 1 ≤ s.factor
  jitter_nonneg : 0 ≤ s.jitter
  one_le_steps : 1 ≤ s.steps
  cap_pos : ∀ cap, s.cap = some cap → 0 < cap

variable {s : Backoff Rat} {cap : Rat}

theorem Valid.of_cap (hcap : s.cap = some cap)
    (h : 0 ≤ s.duration ∧ 1 ≤ s.factor ∧ 0 ≤ s.jitter ∧ 1 ≤ s.steps ∧ 0 < cap) :
    s.Valid := by
  obtain ⟨hduration, hfactor, hjitter, hsteps, hpos⟩ := h
  refine ⟨hduration, hfactor, hjitter, hsteps, ?_⟩
  intro other hother
  obtain rfl : cap = other := Option.some.inj (hcap.symm.trans hother)
  exact hpos

theorem wait_eq (hjitter : 0 ≤ s.jitter) (base roll : Rat) :
    s.wait base roll = base * (1 + s.jitter * roll) := by
  have hwait : s.wait base roll =
      if 0 < s.jitter then base + (0 + (base * s.jitter - 0) * roll) else base := rfl
  rw [hwait]
  split
  · ring
  · next hnone =>
      have hzero : s.jitter = 0 := le_antisymm (not_lt.mp hnone) hjitter
      rw [hzero]
      ring

theorem grow_of_cap (hcap : s.cap = some cap) (base : Rat) :
    s.grow base = min (base * s.factor) cap := by
  have hgrow : s.grow base =
      if cap < base * s.factor then cap else base * s.factor := by
    unfold grow
    rw [hcap]
  rw [hgrow]
  split
  · next hbeyond => exact (min_eq_right hbeyond.le).symm
  · next hwithin => exact (min_eq_left (not_lt.mp hwithin)).symm

/-- A base that has reached the cap stays there. -/
theorem base_succ_eq_min (hvalid : s.Valid) (hcap : s.cap = some cap) (k : Nat) :
    s.base (k + 1) = min (s.duration * s.factor ^ (k + 1)) cap := by
  have hpos : 0 < cap := hvalid.cap_pos cap hcap
  have hfactor : 0 ≤ s.factor := by linarith [hvalid.one_le_factor]
  induction k with
  | zero => rw [base, grow_of_cap hcap, base, zero_add, pow_one]
  | succ k ih =>
      have hreached : cap ≤ cap * s.factor := by nlinarith [hvalid.one_le_factor]
      calc s.base (k + 1 + 1)
          = min (min (s.duration * s.factor ^ (k + 1)) cap * s.factor) cap := by
            rw [base, grow_of_cap hcap, ih]
        _ = min (min (s.duration * s.factor ^ (k + 1) * s.factor) (cap * s.factor)) cap := by
            rw [min_mul_of_nonneg _ _ hfactor]
        _ = min (s.duration * s.factor ^ (k + 1 + 1)) cap := by
            rw [min_assoc, min_eq_right hreached, pow_succ _ (k + 1), ← mul_assoc]

theorem base_nonneg (hvalid : s.Valid) (k : Nat) (hcap : s.cap = some cap) :
    0 ≤ s.base k := by
  cases k with
  | zero => exact hvalid.duration_nonneg
  | succ k =>
      rw [base_succ_eq_min hvalid hcap]
      have hfactor : 0 ≤ s.factor := by linarith [hvalid.one_le_factor]
      exact le_min (mul_nonneg hvalid.duration_nonneg (pow_nonneg hfactor _))
        (hvalid.cap_pos cap hcap).le

end ConfigVault.Backoff
