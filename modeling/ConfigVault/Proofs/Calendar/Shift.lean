import ConfigVault.Proofs.Calendar.Order

/-!
# Neighbouring days and clocks beside UTC

Stepping to a neighbouring date moves the ordinal by one, and fails only where the
calendar ends.  A reading is therefore shifted by less than a day exactly to the reading
whose microseconds lie that far away, and a moment has a reading in UTC exactly when a
reading lies at its place on that scale.
-/

namespace ConfigVault.Calendar

/-! ## Neighbouring days -/

theorem Date.ofNumbers?_eq_none_iff {year month day : Nat} :
    Date.ofNumbers? year month day = none ↔ ¬IsDate year month day := by
  unfold Date.ofNumbers?
  split
  · next hdate => simp [hdate]
  · next hdate => simp [hdate]

theorem Date.ordinal_of_next? {d e : Date} (h : d.next? = some e) :
    e.ordinal = d.ordinal + 1 := by
  have hmonth := d.month_bounds
  have hday := d.day_bounds
  have hend := daysBeforeMonth_succ d.year d.month hmonth.1
  unfold Date.next? at h
  split at h
  · obtain ⟨hyear', hmonth', hday'⟩ := Date.ofNumbers?_eq_some_iff.mp h
    rw [Date.ordinal, hyear', hmonth', hday', Date.ordinal]
    omega
  next hlast =>
    split at h
    · obtain ⟨hyear', hmonth', hday'⟩ := Date.ofNumbers?_eq_some_iff.mp h
      rw [Date.ordinal, hyear', hmonth', hday', hend, Date.ordinal]
      omega
    next hdecember =>
      obtain ⟨hyear', hmonth', hday'⟩ := Date.ofNumbers?_eq_some_iff.mp h
      have hfirst : daysBeforeMonth (d.year + 1) 1 = 0 := rfl
      have hmonths : d.month + 1 = 13 := by omega
      rw [hmonths] at hend
      rw [Date.ordinal, hyear', hmonth', hday', hfirst, daysBeforeYear_succ d.year_pos,
        hend, Date.ordinal]
      omega

theorem Date.ordinal_of_previous? {d e : Date} (h : d.previous? = some e) :
    e.ordinal + 1 = d.ordinal := by
  have hmonth := d.month_bounds
  have hday := d.day_bounds
  unfold Date.previous? at h
  split at h
  · obtain ⟨hyear', hmonth', hday'⟩ := Date.ofNumbers?_eq_some_iff.mp h
    rw [Date.ordinal, hyear', hmonth', hday', Date.ordinal]
    omega
  next hfirst =>
    split at h
    next hmonths =>
      obtain ⟨hyear', hmonth', hday'⟩ := Date.ofNumbers?_eq_some_iff.mp h
      have hend := daysBeforeMonth_succ d.year (d.month - 1) (by omega)
      rw [Nat.sub_add_cancel hmonth.1] at hend
      rw [Date.ordinal, hyear', hmonth', hday', Date.ordinal]
      omega
    next hjanuary =>
      obtain ⟨hyear', hmonth', hday'⟩ := Date.ofNumbers?_eq_some_iff.mp h
      have hstart : daysBeforeMonth d.year d.month = 0 := by
        have hone : d.month = 1 := by omega
        rw [hone]
        rfl
      have hyears := daysBeforeYear_succ e.year_pos
      have hend := daysBeforeMonth_succ e.year 12 (by decide)
      have hdays : daysInMonth e.year 12 = 31 := by simp [daysInMonth]
      have hyear : e.year + 1 = d.year := by
        have := e.year_pos
        omega
      rw [hyear] at hyears
      rw [Date.ordinal, hmonth', hday', Date.ordinal, hstart, hyears, hend, hdays]
      omega

theorem Date.not_before_of_next?_eq_none {d : Date} (h : d.next? = none) (e : Date) :
    ¬d.Before e := by
  have hyear := d.year_pos
  have hmonth := d.month_bounds
  have hday := d.day_bounds
  have hend := d.year_le
  unfold Date.next? at h
  split at h
  · rw [Date.ofNumbers?_eq_none_iff] at h
    simp only [IsDate, minYear, maxYear] at h
    omega
  next hlast =>
    split at h
    next hmonths =>
      rw [Date.ofNumbers?_eq_none_iff] at h
      have hpos := daysInMonth_pos d.year (d.month + 1)
      simp only [IsDate, minYear, maxYear] at h
      omega
    next hdecember =>
      rw [Date.ofNumbers?_eq_none_iff] at h
      have hpos := daysInMonth_pos (d.year + 1) 1
      simp only [IsDate, minYear, maxYear] at h
      rintro (hyear' | ⟨hyear', hmonth' | ⟨hmonth', hday'⟩⟩)
      · have := e.year_le
        omega
      · have := e.month_bounds
        omega
      · have hend' := e.day_bounds
        rw [← hyear', ← hmonth'] at hend'
        omega

theorem Date.not_before_of_previous?_eq_none {d : Date} (h : d.previous? = none)
    (e : Date) : ¬e.Before d := by
  have hmonth := d.month_bounds
  have hday := d.day_bounds
  have hend := d.year_le
  have hyear := d.year_pos
  unfold Date.previous? at h
  split at h
  · rw [Date.ofNumbers?_eq_none_iff] at h
    simp only [IsDate, minYear, maxYear] at h
    omega
  next hfirst =>
    split at h
    next hmonths =>
      rw [Date.ofNumbers?_eq_none_iff] at h
      have hpos := daysInMonth_pos d.year (d.month - 1)
      simp only [IsDate, minYear, maxYear] at h
      omega
    next hjanuary =>
      rw [Date.ofNumbers?_eq_none_iff] at h
      have hdays : daysInMonth (d.year - 1) 12 = 31 := by simp [daysInMonth]
      simp only [IsDate, minYear, maxYear] at h
      have := e.year_pos
      have := e.month_bounds
      have := e.day_bounds
      rintro (hyear' | ⟨hyear', hmonth' | ⟨hmonth', hday'⟩⟩) <;> omega

theorem Date.next?_eq_some_iff {d e : Date} :
    d.next? = some e ↔ e.ordinal = d.ordinal + 1 := by
  constructor
  · exact Date.ordinal_of_next?
  · intro hordinal
    cases hnext : d.next? with
    | some f =>
        have hf := Date.ordinal_of_next? hnext
        rw [Date.ordinal_injective (hf.trans hordinal.symm)]
    | none =>
        have hbefore : d.Before e := Date.ordinal_lt_iff.mp (by omega)
        exact absurd hbefore (Date.not_before_of_next?_eq_none hnext e)

theorem Date.previous?_eq_some_iff {d e : Date} :
    d.previous? = some e ↔ e.ordinal + 1 = d.ordinal := by
  constructor
  · exact Date.ordinal_of_previous?
  · intro hordinal
    cases hprevious : d.previous? with
    | some f =>
        have hf := Date.ordinal_of_previous? hprevious
        rw [Date.ordinal_injective (d := f) (e := e) (by omega)]
    | none =>
        have hbefore : e.Before d := Date.ordinal_lt_iff.mp (by omega)
        exact absurd hbefore (Date.not_before_of_previous?_eq_none hprevious e)

/-! ## Readings shifted by less than a day -/

theorem Reading.mk_eq_iff {d : Date} {t : TimeOfDay} {s : Reading} :
    (⟨d, t⟩ : Reading) = s ↔ d = s.date ∧ t.microseconds = s.time.microseconds := by
  constructor
  · rintro rfl
    exact ⟨rfl, rfl⟩
  · rintro ⟨rfl, htime⟩
    exact Reading.ext rfl (TimeOfDay.microseconds_injective htime)

/-- A reading is shifted to the one that lies that far away. -/
theorem Reading.shift?_eq_some_iff {r s : Reading} {microseconds : Int}
    (h : microseconds.natAbs < 86400000000) :
    r.shift? microseconds = some s ↔
      (s.microseconds : Int) = r.microseconds + microseconds := by
  have hr := r.time.microseconds_lt
  have hs := s.time.microseconds_lt
  have hmake (d : Date) :
      (⟨d, TimeOfDay.ofMicroseconds
        (((r.time.microseconds : Int) + microseconds) % 86400000000).toNat⟩ : Reading) = s ↔
      d = s.date ∧ (((r.time.microseconds : Int) + microseconds) % 86400000000).toNat =
        s.time.microseconds := by
    rw [Reading.mk_eq_iff, TimeOfDay.microseconds_ofMicroseconds (by omega)]
  rw [r.microseconds_eq_add, s.microseconds_eq_add]
  -- The shift leads to the day before, stays on the day, or leads to the day after.
  unfold Reading.shift?
  dsimp only
  split
  · simp only [Option.map_eq_some_iff, Date.previous?_eq_some_iff, hmake, and_left_comm,
      exists_eq_left]
    omega
  split
  · rw [Option.some.injEq, hmake]
    constructor
    · rintro ⟨hdate, hrest⟩
      rw [← hdate]
      omega
    · intro hmicroseconds
      exact ⟨Date.ordinal_injective (by omega), by omega⟩
  · simp only [Option.map_eq_some_iff, Date.next?_eq_some_iff, hmake, and_left_comm,
      exists_eq_left]
    omega

/-! ## Moments on the scale of UTC -/

/-- The microsecond of UTC at which a clock shows a moment.  A moment without an offset is
taken as one of UTC. -/
def Moment.instant (m : Moment) : Int :=
  m.reading.microseconds - m.offset.getD 0

def Moment.second (m : Moment) : Int :=
  m.instant / 1000000

/-- The clock runs less than a day ahead of UTC or behind it. -/
def Moment.OffsetInRange (m : Moment) : Prop :=
  (m.offset.getD 0).natAbs < 86400000000

instance (m : Moment) : Decidable m.OffsetInRange := by
  unfold Moment.OffsetInRange
  infer_instance

/-- The reading of a moment in UTC is the one that lies at its place. -/
theorem Moment.inUtc?_eq_some_iff {m : Moment} (h : m.OffsetInRange) {r : Reading} :
    m.inUtc? = some r ↔ (r.microseconds : Int) = m.instant := by
  obtain ⟨reading, _ | offset⟩ := m
  · simp only [inUtc?, instant, Option.some.injEq, Option.getD_none]
    constructor
    · rintro rfl
      omega
    · intro hmicroseconds
      exact Reading.microseconds_injective (by omega)
  · have hoffset : (-offset).natAbs < 86400000000 := by
      have : offset.natAbs < 86400000000 := h
      omega
    simp only [inUtc?, instant, Option.getD_some, Reading.shift?_eq_some_iff hoffset]
    omega

theorem Reading.wholeSeconds_microseconds (r : Reading) :
    r.wholeSeconds.microseconds = r.microseconds / 1000000 * 1000000 := by
  have hmicro := r.time.inRange.2.2.2
  simp only [microseconds, wholeSeconds, TimeOfDay.wholeSeconds, TimeOfDay.seconds]
  omega

/-- The second of UTC in which a moment falls is that of its reading there. -/
theorem Moment.eq_wholeSeconds_iff {m : Moment} {r s : Reading}
    (hplace : (r.microseconds : Int) = m.instant) :
    s = r.wholeSeconds ↔ (s.microseconds : Int) = m.second * 1000000 := by
  have hwhole := r.wholeSeconds_microseconds
  unfold second
  rw [← hplace]
  constructor
  · rintro rfl
    omega
  · intro hs
    exact Reading.microseconds_injective (by omega)

/-- Two moments fall in one second of UTC exactly when their readings there do. -/
theorem Moment.second_eq_iff {m m' : Moment} (h : m.OffsetInRange)
    (h' : m'.OffsetInRange) {r r' : Reading} (hr : m.inUtc? = some r)
    (hr' : m'.inUtc? = some r') :
    m.second = m'.second ↔ r.wholeSeconds = r'.wholeSeconds := by
  have hsecond := (eq_wholeSeconds_iff ((inUtc?_eq_some_iff h).mp hr)).mp rfl
  rw [eq_wholeSeconds_iff ((inUtc?_eq_some_iff h').mp hr'), hsecond]
  omega

end ConfigVault.Calendar
