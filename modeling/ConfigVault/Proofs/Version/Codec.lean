import ConfigVault.Proofs.Calendar.Shift
import ConfigVault.Proofs.Version.Key

/-!
# The codec of version keys

A version key holds a name and a second of UTC, and nothing else can be read out of it:
it decodes under its own name only, to its own second, and only if its year has four
digits.  The text of a year may be shorter, and names may end like the start of a
timestamp, but the digits of a year lie between two hyphens, so no two names and seconds
share a key in any year.
-/

namespace ConfigVault.Version

open Calendar

variable {name other : String} {r s : Reading}

theorem year_of_decode?_versionKey (h : decode? name (versionKey name r) = some s) :
    1000 ≤ r.date.year := by
  obtain ⟨hkey, -⟩ := decode?_eq_some_iff.mp h
  rw [toList_versionKey, List.append_cancel_left_eq, List.cons.injEq] at hkey
  exact year_of_formatTimestamp_eq_stamp hkey.2

theorem decode?_versionKey_eq_some_iff :
    decode? other (versionKey name r) = some s ↔
      other = name ∧ 1000 ≤ r.date.year ∧ s = r.wholeSeconds := by
  constructor
  · intro h
    obtain rfl := (versionOf_of_decode? h).name_eq (versionOf_versionKey name r)
    have hyear := year_of_decode?_versionKey h
    exact ⟨rfl, hyear, (eq_of_decode?_versionKey hyear h).2⟩
  · rintro ⟨rfl, hyear, rfl⟩
    exact decode?_versionKey other hyear

/-- Version keys tell names and seconds apart, also in years that are not filled. -/
theorem versionKey_eq_iff :
    versionKey name r = versionKey other s ↔
      name = other ∧ r.wholeSeconds = s.wholeSeconds := by
  constructor
  · intro h
    have hname := versionOf_versionKey name r
    rw [h] at hname
    obtain rfl := hname.name_eq (versionOf_versionKey other s)
    exact ⟨rfl, versionKey_self_inj.mp h⟩
  · rintro ⟨rfl, hseconds⟩
    exact versionKey_self_inj.mpr hseconds

/-- The key of a name and a moment decodes exactly under that name and in years of four
digits, to the second of UTC in which the moment falls; and two keys are equal exactly
when their names are and their moments fall in one second of UTC. -/
theorem versionKey_exact {m m' : Moment} (hoffset : m.OffsetInRange)
    (hoffset' : m'.OffsetInRange) {r r' : Reading} (hr : m.inUtc? = some r)
    (hr' : m'.inUtc? = some r') (name other : String) :
    (∀ s, decode? other (versionKey name r) = some s ↔
      other = name ∧ 1000 ≤ r.date.year ∧ (s.microseconds : Int) = m.second * 1000000) ∧
    (versionKey name r = versionKey other r' ↔ name = other ∧ m.second = m'.second) := by
  have hplace := (Moment.inUtc?_eq_some_iff hoffset).mp hr
  have hwhole := r.wholeSeconds_microseconds
  constructor
  · intro s
    rw [decode?_versionKey_eq_some_iff]
    refine and_congr_right fun _ => and_congr_right fun _ => ?_
    unfold Moment.second
    rw [← hplace]
    constructor
    · rintro rfl
      omega
    · intro hs
      exact Reading.microseconds_injective (by omega)
  · rw [versionKey_eq_iff, Moment.second_eq_iff hoffset hoffset' hr hr']

/-- Half an hour before the year 1000, on a clock an hour behind UTC. -/
def lateEvening : Moment :=
  ⟨⟨⟨999, 12, 31, by decide⟩, ⟨23, 30, 0, 5, by decide⟩⟩, some (-3600000000)⟩

/-- A day before on the same clock, where the year is one of three digits in UTC too. -/
def eveningBefore : Moment :=
  ⟨⟨⟨999, 12, 30, by decide⟩, ⟨23, 30, 0, 5, by decide⟩⟩, some (-3600000000)⟩

theorem versionKey_exact_late_evening :
    let r : Reading := ⟨⟨1000, 1, 1, by decide⟩, ⟨0, 30, 0, 5, by decide⟩⟩
    let r' : Reading := ⟨⟨999, 12, 31, by decide⟩, ⟨0, 30, 0, 5, by decide⟩⟩
    lateEvening.OffsetInRange ∧ eveningBefore.OffsetInRange ∧
      lateEvening.inUtc? = some r ∧ eveningBefore.inUtc? = some r' ∧
      (∀ s, decode? "a" (versionKey "a" r) = some s ↔
        "a" = "a" ∧ 1000 ≤ r.date.year ∧
          (s.microseconds : Int) = lateEvening.second * 1000000) ∧
      (versionKey "a" r = versionKey "a-1" r' ↔
        "a" = "a-1" ∧ lateEvening.second = eveningBefore.second) := by
  intro r r'
  have hoffset : lateEvening.OffsetInRange := by decide
  have hoffset' : eveningBefore.OffsetInRange := by decide
  have hr : lateEvening.inUtc? = some r := by decide +kernel
  have hr' : eveningBefore.inUtc? = some r' := by decide +kernel
  obtain ⟨hread, -⟩ := versionKey_exact hoffset hoffset' hr hr' "a" "a"
  obtain ⟨-, hsame⟩ := versionKey_exact hoffset hoffset' hr hr' "a" "a-1"
  exact ⟨hoffset, hoffset', hr, hr', hread, hsame⟩

end ConfigVault.Version
