import ConfigVault.Calendar.Moment
import Mathlib.Tactic

/-!
# The order of dates and readings

The ordinal of a date counts days, so it puts dates in the order of the
calendar: by year, then by month, then by day.  The microseconds of a reading
do the same for readings.  In particular both tell dates and readings apart.
-/

namespace ConfigVault.Calendar

/-! ## Days before months and years -/

theorem daysBeforeMonth_succ (year month : Nat) (h : 1 ≤ month) :
    daysBeforeMonth year (month + 1) =
      daysBeforeMonth year month + daysInMonth year month := by
  obtain ⟨month, rfl⟩ : ∃ before, month = before + 1 := ⟨month - 1, by omega⟩
  rfl

/-- A month ends before every later month begins. -/
theorem daysBeforeMonth_add_daysInMonth_le {year month later : Nat}
    (hmonth : 1 ≤ month) (hlater : month < later) :
    daysBeforeMonth year month + daysInMonth year month ≤
      daysBeforeMonth year later := by
  induction later with
  | zero => omega
  | succ later ih =>
      rw [daysBeforeMonth_succ year later (by omega)]
      rcases Nat.lt_succ_iff_lt_or_eq.mp hlater with hlt | heq
      · exact (ih hlt).trans (Nat.le_add_right _ _)
      · rw [heq]

theorem daysBeforeMonth_thirteen (year : Nat) :
    daysBeforeMonth year 13 = if isLeap year then 366 else 365 := by
  by_cases hleap : isLeap year <;> simp [daysBeforeMonth, daysInMonth, hleap]

theorem isLeap_iff (year : Nat) :
    isLeap year = true ↔ 4 ∣ year ∧ (¬100 ∣ year ∨ 400 ∣ year) := by
  simp [isLeap, Nat.dvd_iff_mod_eq_zero]

/-- The days of a year lead from its start to the start of the next one. -/
theorem daysBeforeYear_succ {year : Nat} (h : 1 ≤ year) :
    daysBeforeYear (year + 1) = daysBeforeYear year + daysBeforeMonth year 13 := by
  obtain ⟨past, rfl⟩ : ∃ past, year = past + 1 := ⟨year - 1, by omega⟩
  have hcenturies : past / 100 ≤ past / 4 :=
    Nat.div_le_div_left (by decide) (by decide)
  rw [daysBeforeMonth_thirteen]
  simp only [daysBeforeYear, Nat.add_sub_cancel, Nat.succ_div, isLeap_iff]
  split_ifs <;> omega

theorem daysBeforeYear_mono {year later : Nat} (hyear : 1 ≤ year)
    (h : year ≤ later) : daysBeforeYear year ≤ daysBeforeYear later := by
  induction later, h using Nat.le_induction with
  | base => exact le_rfl
  | succ later hle ih =>
      rw [daysBeforeYear_succ (hyear.trans hle)]
      exact ih.trans (Nat.le_add_right _ _)

/-! ## Dates -/

theorem Date.year_pos (d : Date) : 1 ≤ d.year := d.isDate.1

theorem Date.year_le (d : Date) : d.year ≤ 9999 := d.isDate.2.1

theorem Date.month_bounds (d : Date) : 1 ≤ d.month ∧ d.month ≤ 12 :=
  ⟨d.isDate.2.2.1, d.isDate.2.2.2.1⟩

theorem Date.day_bounds (d : Date) :
    1 ≤ d.day ∧ d.day ≤ daysInMonth d.year d.month := d.isDate.2.2.2.2

def Date.Before (d e : Date) : Prop :=
  d.year < e.year ∨
    d.year = e.year ∧ (d.month < e.month ∨ d.month = e.month ∧ d.day < e.day)

theorem Date.ordinal_le_of_month (d : Date) :
    d.ordinal ≤
      daysBeforeYear d.year + daysBeforeMonth d.year (d.month + 1) := by
  rw [daysBeforeMonth_succ d.year d.month d.month_bounds.1, Date.ordinal]
  have hday := d.day_bounds.2
  omega

theorem Date.ordinal_lt_of_before {d e : Date} (h : d.Before e) :
    d.ordinal < e.ordinal := by
  have hday := e.day_bounds.1
  have hend := d.ordinal_le_of_month
  rcases h with hyear | ⟨hyear, hmonth | ⟨hmonth, hlt⟩⟩
  · -- the year of `d` is over when that of `e` begins
    have hmonths : daysBeforeMonth d.year (d.month + 1) ≤
        daysBeforeMonth d.year 13 := by
      rcases Nat.lt_or_eq_of_le d.month_bounds.2 with hlt | heq
      · exact (Nat.le_add_right _ _).trans
          (daysBeforeMonth_add_daysInMonth_le (by omega) (by omega))
      · rw [heq]
    have hyears : daysBeforeYear (d.year + 1) ≤ daysBeforeYear e.year :=
      daysBeforeYear_mono (by omega) hyear
    rw [daysBeforeYear_succ d.year_pos] at hyears
    unfold Date.ordinal at hend ⊢
    omega
  · have hmonths : daysBeforeMonth d.year (d.month + 1) ≤
        daysBeforeMonth d.year e.month := by
      rw [daysBeforeMonth_succ d.year d.month d.month_bounds.1]
      exact daysBeforeMonth_add_daysInMonth_le d.month_bounds.1 hmonth
    unfold Date.ordinal at hend ⊢
    rw [← hyear]
    omega
  · unfold Date.ordinal
    rw [← hyear, ← hmonth]
    omega

theorem Date.before_or_eq_or_before (d e : Date) :
    d.Before e ∨ d = e ∨ e.Before d := by
  simp only [Date.Before, Date.ext_iff]
  omega

/-- Ordinals put dates in the order of the calendar. -/
theorem Date.ordinal_lt_iff {d e : Date} : d.ordinal < e.ordinal ↔ d.Before e := by
  constructor
  · intro hlt
    rcases d.before_or_eq_or_before e with hbefore | rfl | hafter
    · exact hbefore
    · omega
    · have := Date.ordinal_lt_of_before hafter
      omega
  · exact Date.ordinal_lt_of_before

theorem Date.ordinal_injective {d e : Date} (h : d.ordinal = e.ordinal) : d = e := by
  rcases d.before_or_eq_or_before e with hbefore | heq | hafter
  · have := Date.ordinal_lt_of_before hbefore
    omega
  · exact heq
  · have := Date.ordinal_lt_of_before hafter
    omega

/-! ## Readings -/

theorem TimeOfDay.seconds_lt (t : TimeOfDay) : t.seconds < 86400 := by
  obtain ⟨hhour, hminute, hsecond, -⟩ := t.inRange
  unfold TimeOfDay.seconds
  omega

theorem TimeOfDay.eq_of_seconds_eq {s t : TimeOfDay}
    (hseconds : s.seconds = t.seconds) (hmicro : s.microsecond = t.microsecond) :
    s = t := by
  obtain ⟨-, hminute, hsecond, -⟩ := s.inRange
  obtain ⟨-, hminute', hsecond', -⟩ := t.inRange
  unfold TimeOfDay.seconds at hseconds
  ext <;> omega

theorem TimeOfDay.seconds_lt_iff {s t : TimeOfDay} :
    s.seconds < t.seconds ↔
      s.hour < t.hour ∨ s.hour = t.hour ∧
        (s.minute < t.minute ∨ s.minute = t.minute ∧ s.second < t.second) := by
  obtain ⟨-, hminute, hsecond, -⟩ := s.inRange
  obtain ⟨-, hminute', hsecond', -⟩ := t.inRange
  unfold TimeOfDay.seconds
  omega

/-- Microseconds put readings in the order of the calendar and then of the day. -/
theorem Reading.microseconds_lt_iff {r s : Reading} :
    r.microseconds < s.microseconds ↔
      r.date.Before s.date ∨ r.date = s.date ∧
        (r.time.seconds < s.time.seconds ∨
          r.time.seconds = s.time.seconds ∧ r.time.microsecond < s.time.microsecond) := by
  have hr := r.time.seconds_lt
  have hs := s.time.seconds_lt
  have hrmicro := r.time.inRange.2.2.2
  have hsmicro := s.time.inRange.2.2.2
  have hdate : r.date = s.date ↔ r.date.ordinal = s.date.ordinal :=
    ⟨congrArg Date.ordinal, Date.ordinal_injective⟩
  rw [← Date.ordinal_lt_iff, hdate]
  unfold Reading.microseconds
  omega

theorem Reading.microseconds_injective {r s : Reading}
    (h : r.microseconds = s.microseconds) : r = s := by
  have hr := r.time.seconds_lt
  have hs := s.time.seconds_lt
  have hrmicro := r.time.inRange.2.2.2
  have hsmicro := s.time.inRange.2.2.2
  unfold Reading.microseconds at h
  have hdate : r.date = s.date := Date.ordinal_injective (by omega)
  have htime : r.time = s.time :=
    TimeOfDay.eq_of_seconds_eq (by rw [hdate] at h; omega) (by omega)
  exact Reading.ext hdate htime

theorem TimeOfDay.ofNumbers?_eq_some_iff {hour minute second microsecond : Nat}
    {t : TimeOfDay} :
    TimeOfDay.ofNumbers? hour minute second microsecond = some t ↔
      t.hour = hour ∧ t.minute = minute ∧ t.second = second ∧
        t.microsecond = microsecond := by
  unfold TimeOfDay.ofNumbers?
  constructor
  · intro h
    split at h
    · cases h
      exact ⟨rfl, rfl, rfl, rfl⟩
    · cases h
  · rintro ⟨rfl, rfl, rfl, rfl⟩
    rw [dif_pos t.inRange]

@[simp] theorem Reading.wholeSeconds_date (r : Reading) :
    r.wholeSeconds.date = r.date := rfl

@[simp] theorem Reading.wholeSeconds_microsecond (r : Reading) :
    r.wholeSeconds.time.microsecond = 0 := rfl

@[simp] theorem Reading.wholeSeconds_wholeSeconds (r : Reading) :
    r.wholeSeconds.wholeSeconds = r.wholeSeconds := rfl

theorem Reading.wholeSeconds_eq_self {r : Reading} (h : r.time.microsecond = 0) :
    r.wholeSeconds = r := by
  ext <;> simp [Reading.wholeSeconds, TimeOfDay.wholeSeconds, h]

/-- What is dropped from a reading is less than a second. -/
theorem Reading.microseconds_eq_wholeSeconds_add (r : Reading) :
    r.microseconds = r.wholeSeconds.microseconds + r.time.microsecond := by
  simp [Reading.microseconds, Reading.wholeSeconds, TimeOfDay.wholeSeconds,
    TimeOfDay.seconds]

theorem Reading.microseconds_lt_wholeSeconds_add (r : Reading) :
    r.microseconds < r.wholeSeconds.microseconds + 1000000 := by
  rw [r.microseconds_eq_wholeSeconds_add]
  have := r.time.inRange.2.2.2
  omega

theorem Reading.wholeSeconds_microseconds_le (r : Reading) :
    r.wholeSeconds.microseconds ≤ r.microseconds := by
  rw [r.microseconds_eq_wholeSeconds_add]
  omega

theorem TimeOfDay.microseconds_lt (t : TimeOfDay) : t.microseconds < 86400000000 := by
  have hseconds := t.seconds_lt
  have hmicro := t.inRange.2.2.2
  unfold TimeOfDay.microseconds
  omega

theorem TimeOfDay.microseconds_injective {s t : TimeOfDay}
    (h : s.microseconds = t.microseconds) : s = t := by
  have hmicro := s.inRange.2.2.2
  have hmicro' := t.inRange.2.2.2
  unfold TimeOfDay.microseconds at h
  exact TimeOfDay.eq_of_seconds_eq (by omega) (by omega)

theorem TimeOfDay.microseconds_ofMicroseconds {microseconds : Nat}
    (h : microseconds < 86400000000) :
    (TimeOfDay.ofMicroseconds microseconds).microseconds = microseconds := by
  simp only [TimeOfDay.ofMicroseconds, TimeOfDay.microseconds, TimeOfDay.seconds]
  omega

theorem Reading.microseconds_eq_add (r : Reading) :
    r.microseconds = r.date.ordinal * 86400000000 + r.time.microseconds := by
  unfold Reading.microseconds TimeOfDay.microseconds
  omega

theorem Reading.shift?_zero (r : Reading) : r.shift? 0 = some r := by
  have hlt := r.time.microseconds_lt
  have hsame : (((r.time.microseconds : Int) + 0) % 86400000000).toNat =
      r.time.microseconds := by omega
  have htime : TimeOfDay.ofMicroseconds r.time.microseconds = r.time :=
    TimeOfDay.microseconds_injective (TimeOfDay.microseconds_ofMicroseconds hlt)
  unfold Reading.shift?
  dsimp only
  rw [hsame, htime, if_neg (by omega), if_pos (by omega)]

@[simp] theorem Moment.inUtc?_utc (r : Reading) : (Moment.utc r).inUtc? = some r :=
  r.shift?_zero

end ConfigVault.Calendar
