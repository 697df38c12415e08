import ConfigVault.Proofs.Retry.Waits

/-!
# What the cap bounds

The cap bounds the bases after the first one.  It bounds neither the first base nor what a
roll adds to a base, so waits stay within it for every roll only if the schedule hardly
needs it: there is no jitter and the first wait is within the cap, or even the greatest wait
without a cap is.
-/

namespace ConfigVault.Backoff

variable {s : Backoff Rat} {cap : Rat} {rolls : Nat → Rat}

def Fair (rolls : Nat → Rat) : Prop := ∀ k, 0 ≤ rolls k ∧ rolls k ≤ 1

theorem base_le_cap (hvalid : s.Valid) (hcap : s.cap = some cap) (hfirst : s.duration ≤ cap)
    (k : Nat) : s.base k ≤ cap := by
  cases k with
  | zero => exact hfirst
  | succ k =>
      rw [base_succ_eq_min hvalid hcap]
      exact min_le_right _ _

theorem base_le_power (hvalid : s.Valid) (hcap : s.cap = some cap) (k : Nat) :
    s.base k ≤ s.duration * s.factor ^ k := by
  cases k with
  | zero => rw [base, pow_zero, mul_one]
  | succ k =>
      rw [base_succ_eq_min hvalid hcap]
      exact min_le_left _ _

theorem base_eq_power_or_cap (hvalid : s.Valid) (hcap : s.cap = some cap) (k : Nat) :
    s.base k = s.duration * s.factor ^ k ∨ s.base k = cap := by
  cases k with
  | zero =>
      left
      rw [base, pow_zero, mul_one]
  | succ k =>
      rw [base_succ_eq_min hvalid hcap]
      exact min_choice _ _

theorem wait_le_of_fair (hvalid : s.Valid) (hcap : s.cap = some cap) (hfair : Fair rolls)
    (k : Nat) : s.wait (s.base k) (rolls k) ≤ s.base k * (1 + s.jitter) := by
  have hadded : s.jitter * rolls k ≤ s.jitter :=
    mul_le_of_le_one_right hvalid.jitter_nonneg (hfair k).2
  rw [wait_eq hvalid.jitter_nonneg]
  exact mul_le_mul_of_nonneg_left (by linarith) (base_nonneg hvalid k hcap)

/-- With full rolls every wait takes all of its jitter. -/
theorem jittered_base_le_cap (hvalid : s.Valid)
    (hbound : ∀ rolls, Fair rolls → ∀ wait ∈ s.waits rolls, wait ≤ cap) {k : Nat}
    (hk : k < s.steps - 1) : s.base k * (1 + s.jitter) ≤ cap := by
  have hfull : Fair fun _ => 1 := fun _ => ⟨zero_le_one, le_rfl⟩
  have hwait : (s.waits fun _ => 1)[k]? = some (s.base k * (1 + s.jitter)) := by
    rw [getElem?_waits_eq_some_iff, wait_eq hvalid.jitter_nonneg, mul_one]
    exact ⟨hk, rfl⟩
  exact hbound _ hfull _ (List.mem_of_getElem? hwait)

theorem waits_le_cap_of_no_jitter (hvalid : s.Valid) (hcap : s.cap = some cap)
    (hjitter : s.jitter = 0) (hfirst : s.duration ≤ cap) (k : Nat) :
    s.wait (s.base k) (rolls k) ≤ cap := by
  have hwait : s.wait (s.base k) (rolls k) = s.base k := by
    rw [wait_eq hvalid.jitter_nonneg, hjitter]
    ring
  rw [hwait]
  exact base_le_cap hvalid hcap hfirst k

theorem waits_le_cap_of_power_le (hvalid : s.Valid) (hcap : s.cap = some cap)
    (hpower : s.duration * s.factor ^ (s.steps - 2) * (1 + s.jitter) ≤ cap)
    (hfair : Fair rolls) {k : Nat} (hk : k < s.steps - 1) :
    s.wait (s.base k) (rolls k) ≤ cap := by
  have hjitter : 0 ≤ 1 + s.jitter := by linarith [hvalid.jitter_nonneg]
  have hgrowth : s.factor ^ k ≤ s.factor ^ (s.steps - 2) :=
    pow_le_pow_right₀ hvalid.one_le_factor (by omega)
  calc s.wait (s.base k) (rolls k)
      ≤ s.base k * (1 + s.jitter) := wait_le_of_fair hvalid hcap hfair k
    _ ≤ s.duration * s.factor ^ k * (1 + s.jitter) :=
        mul_le_mul_of_nonneg_right (base_le_power hvalid hcap k) hjitter
    _ ≤ s.duration * s.factor ^ (s.steps - 2) * (1 + s.jitter) :=
        mul_le_mul_of_nonneg_right
          (mul_le_mul_of_nonneg_left hgrowth hvalid.duration_nonneg) hjitter
    _ ≤ cap := hpower

theorem later_wait_le (hvalid : s.Valid) (hcap : s.cap = some cap) (hfair : Fair rolls)
    (k : Nat) :
    s.wait (s.base (k + 1)) (rolls (k + 1)) ≤ cap * (1 + s.jitter * rolls (k + 1)) := by
  have hbase : s.base (k + 1) ≤ cap := by
    rw [base_succ_eq_min hvalid hcap]
    exact min_le_right _ _
  have hadded : 0 ≤ s.jitter * rolls (k + 1) :=
    mul_nonneg hvalid.jitter_nonneg (hfair (k + 1)).1
  rw [wait_eq hvalid.jitter_nonneg]
  exact mul_le_mul_of_nonneg_right hbase (by linarith)

/-- Waits that stay within the cap for all rolls leave no room for jitter at the cap. -/
theorem fits_of_waits_le_cap (hvalid : s.Valid) (hcap : s.cap = some cap)
    (hbound : ∀ rolls, Fair rolls → ∀ wait ∈ s.waits rolls, wait ≤ cap)
    (hmany : 2 ≤ s.steps) :
    (s.jitter = 0 ∧ s.duration ≤ cap) ∨
      s.duration * s.factor ^ (s.steps - 2) * (1 + s.jitter) ≤ cap := by
  have hfirst : s.duration * (1 + s.jitter) ≤ cap :=
    jittered_base_le_cap hvalid hbound (by omega : 0 < s.steps - 1)
  have hlast : s.base (s.steps - 2) * (1 + s.jitter) ≤ cap :=
    jittered_base_le_cap hvalid hbound (by omega)
  rcases hvalid.jitter_nonneg.eq_or_lt with hzero | hpos
  · left
    rw [← hzero] at hfirst
    exact ⟨hzero.symm, by linarith⟩
  · right
    rcases base_eq_power_or_cap hvalid hcap (s.steps - 2) with hpower | hreached
    · rwa [hpower] at hlast
    · rw [hreached] at hlast
      have hcapPos : 0 < cap := hvalid.cap_pos cap hcap
      nlinarith

/-- The waits of a schedule with a cap stay within it for all rolls exactly when there are
none, when there is no jitter and the first one does, or when the last one would without a
cap.  In any case the first wait is the duration with its jitter, and the bases of the later
waits are within the cap. -/
theorem waits_within_cap_iff (hvalid : s.Valid) (hcap : s.cap = some cap) :
    ((∀ rolls, Fair rolls → ∀ wait ∈ s.waits rolls, wait ≤ cap) ↔
      s.steps = 1 ∨ (s.jitter = 0 ∧ s.duration ≤ cap) ∨
        s.duration * s.factor ^ (s.steps - 2) * (1 + s.jitter) ≤ cap) ∧
    ∀ rolls, Fair rolls → ∀ k wait, (s.waits rolls)[k]? = some wait →
      (k = 0 → wait = s.duration * (1 + s.jitter * rolls 0)) ∧
      (k ≠ 0 → wait ≤ cap * (1 + s.jitter * rolls k)) := by
  have hsteps : 1 ≤ s.steps := hvalid.one_le_steps
  refine ⟨⟨?_, ?_⟩, ?_⟩
  · intro hbound
    rcases hsteps.eq_or_lt with hone | hmany
    · exact .inl hone.symm
    · exact .inr (fits_of_waits_le_cap hvalid hcap hbound hmany)
  · intro hfits rolls hfair wait hwait
    obtain ⟨k, hplace⟩ := List.mem_iff_getElem?.mp hwait
    obtain ⟨hk, rfl⟩ := (s.getElem?_waits_eq_some_iff rolls).mp hplace
    rcases hfits with hone | ⟨hjitter, hfirst⟩ | hpower
    · omega
    · exact waits_le_cap_of_no_jitter hvalid hcap hjitter hfirst k
    · exact waits_le_cap_of_power_le hvalid hcap hpower hfair hk
  · intro rolls hfair k wait hwait
    obtain ⟨-, rfl⟩ := (s.getElem?_waits_eq_some_iff rolls).mp hwait
    constructor
    · rintro rfl
      exact wait_eq hvalid.jitter_nonneg ..
    · intro hk
      obtain ⟨k, rfl⟩ := Nat.exists_eq_succ_of_ne_zero hk
      exact later_wait_le hvalid hcap hfair k

theorem waits_within_cap_iff_growing :
    let s : Backoff Rat := ⟨1, 3, 0, 5, some 5⟩
    s.Valid ∧ s.cap = some 5 ∧ s.waits (fun _ => 0) = [1, 3, 5, 5] ∧
      ∀ rolls, Fair rolls → ∀ wait ∈ s.waits rolls, wait ≤ 5 := by
  intro s
  have hvalid : s.Valid := .of_cap rfl (by decide +kernel)
  have hwaits : s.waits (fun _ => 0) = [1, 3, 5, 5] := by decide +kernel
  refine ⟨hvalid, rfl, hwaits, ?_⟩
  exact (waits_within_cap_iff hvalid rfl).1.mpr (.inr (.inl ⟨rfl, by decide⟩))

/-- A schedule whose first wait is beyond the cap, and one whose jitter leads beyond it. -/
theorem waits_beyond_cap :
    let long : Backoff Rat := ⟨5, 2, 0, 3, some 1⟩
    let shaken : Backoff Rat := ⟨1, 2, 1 / 2, 3, some 1⟩
    (long.Valid ∧ Fair (fun _ => 0) ∧ long.waits (fun _ => 0) = [5, 1] ∧
      ¬∀ wait ∈ long.waits (fun _ => 0), wait ≤ 1) ∧
    (shaken.Valid ∧ Fair (fun _ => 1) ∧ shaken.waits (fun _ => 1) = [3 / 2, 3 / 2] ∧
      ¬∀ wait ∈ shaken.waits (fun _ => 1), wait ≤ 1) := by
  intro long shaken
  have hlong : long.Valid := .of_cap rfl (by decide +kernel)
  have hshaken : shaken.Valid := .of_cap rfl (by decide +kernel)
  have hlongWaits : long.waits (fun _ => 0) = [5, 1] := by decide +kernel
  have hshakenWaits : shaken.waits (fun _ => 1) = [3 / 2, 3 / 2] := by decide +kernel
  refine ⟨⟨hlong, fun _ => ⟨le_rfl, zero_le_one⟩, hlongWaits, ?_⟩,
    ⟨hshaken, fun _ => ⟨zero_le_one, le_rfl⟩, hshakenWaits, ?_⟩⟩
  · rw [hlongWaits]
    decide
  · rw [hshakenWaits]
    decide +kernel

end ConfigVault.Backoff
