import ConfigVault.Failure
import ConfigVault.Proofs.Version.Codec

/-!
# The grammar of timestamps

Reading goes through three gates, each with rules of its own.  What passes all three is
said by one picture: nineteen characters with digits where the picture has them, which
name a day of the calendar and a second of it.  All other texts are refused with an
incident that carries the text.  From the year 1000 on, writing and reading undo each
other; texts written for earlier years are refused.
-/

namespace ConfigVault.Version

open Calendar

/-! ## The picture of a timestamp -/

/-- The places of a timestamp: `D` is the place of a digit, and other characters stand for
themselves. -/
def picture : List Char := "DDDD-DD-DDTDD-DD-DD".toList

def Fills (place c : Char) : Prop :=
  if place = 'D' then '0' ≤ c ∧ c ≤ '9' else c = place

/-- The text fills the picture place by place, and there is nothing behind it. -/
def HasLayout (cs : List Char) : Prop :=
  List.Forall₂ Fills picture cs

/-- The number that is spelled in some places of a text. -/
def numberAt (start width : Nat) (cs : List Char) : Nat :=
  Nat.ofDigitChars 10 ((cs.drop start).take width) 0

/-- The numbers of a text that fills the picture. -/
def numbersIn (cs : List Char) : Fields where
  year := numberAt 0 4 cs
  month := numberAt 5 2 cs
  day := numberAt 8 2 cs
  hour := numberAt 11 2 cs
  minute := numberAt 14 2 cs
  second := numberAt 17 2 cs

/-- The numbers name a day of the calendar and a second of it. -/
def Fields.NamesSecond (f : Fields) : Prop :=
  IsDate f.year f.month f.day ∧ f.hour ≤ 23 ∧ f.minute ≤ 59 ∧ f.second ≤ 59

theorem fills_digit_iff {c : Char} : Fills 'D' c ↔ isDigit c = true := by
  simp [Fills, isDigit]

theorem forall₂_fills_digits_iff (read : Nat) {width : Nat} {places cs : List Char} :
    List.Forall₂ Fills (List.replicate width 'D' ++ places) cs ↔
      ∃ n rest, takeNumber? width read cs = some (n, rest) ∧
        List.Forall₂ Fills places rest := by
  induction width generalizing read cs with
  | zero => simp [takeNumber?]
  | succ width ih =>
      rw [List.replicate_succ, List.cons_append, List.forall₂_cons_left_iff]
      cases cs with
      | nil => simp [takeNumber?]
      | cons c cs =>
          simp only [takeNumber?, fills_digit_iff]
          by_cases hdigit : isDigit c = true
          · simp [hdigit, ih (read * 10 + (c.toNat - '0'.toNat))]
          · simp [hdigit]

theorem forall₂_fills_mark_iff {mark : Char} (hmark : mark ≠ 'D') {places cs : List Char} :
    List.Forall₂ Fills (mark :: places) cs ↔
      ∃ rest, takeMark? mark cs = some rest ∧ List.Forall₂ Fills places rest := by
  rw [List.forall₂_cons_left_iff]
  simp only [Fills, if_neg hmark, takeMark?_eq_some_iff]
  constructor
  · rintro ⟨c, rest, rfl, hrest, rfl⟩
    exact ⟨rest, rfl, hrest⟩
  · rintro ⟨rest, rfl, hrest⟩
    exact ⟨mark, rest, rfl, hrest, rfl⟩

/-- The picture is the layout that is read. -/
theorem hasLayout_iff {cs : List Char} : HasLayout cs ↔ ∃ f, fields? cs = some f := by
  have hpicture : picture = List.replicate 4 'D' ++ '-' :: (List.replicate 2 'D' ++ '-' ::
      (List.replicate 2 'D' ++ 'T' :: (List.replicate 2 'D' ++ '-' ::
        (List.replicate 2 'D' ++ '-' :: (List.replicate 2 'D' ++ []))))) := by decide
  rw [HasLayout, hpicture]
  simp only [forall₂_fills_digits_iff 0,
    forall₂_fills_mark_iff (show '-' ≠ 'D' by decide),
    forall₂_fills_mark_iff (show 'T' ≠ 'D' by decide), List.forall₂_nil_left_iff,
    fields?, bind, Option.bind_eq_some_iff, Prod.exists,
    Option.ite_none_right_eq_some, List.isEmpty_iff, Option.some.injEq]
  constructor
  · rintro ⟨year, _, hyear, _, hmark, month, _, hmonth, _, hmark', day, _, hday, _, hmark'',
      hour, _, hhour, _, hmark''', minute, _, hminute, _, hmark'''', second, _, hsecond, rfl⟩
    exact ⟨⟨year, month, day, hour, minute, second⟩, year, _, hyear, _, hmark, month, _,
      hmonth, _, hmark', day, _, hday, _, hmark'', hour, _, hhour, _, hmark''', minute, _,
      hminute, _, hmark'''', second, _, hsecond, rfl, rfl⟩
  · rintro ⟨f, year, _, hyear, _, hmark, month, _, hmonth, _, hmark', day, _, hday, _,
      hmark'', hour, _, hhour, _, hmark''', minute, _, hminute, _, hmark'''', second, _,
      hsecond, rfl, -⟩
    exact ⟨year, _, hyear, _, hmark, month, _, hmonth, _, hmark', day, _, hday, _, hmark'',
      hour, _, hhour, _, hmark''', minute, _, hminute, _, hmark'''', second, _, hsecond, rfl⟩

theorem numberAt_append {start width : Nat} {xs ys : List Char} (h : xs.length ≤ start) :
    numberAt start width (xs ++ ys) = numberAt (start - xs.length) width ys := by
  rw [numberAt, List.drop_append, List.drop_eq_nil_of_le h, List.nil_append, numberAt]

theorem numberAt_succ_cons (start width : Nat) (c : Char) (cs : List Char) :
    numberAt (start + 1) width (c :: cs) = numberAt start width cs := rfl

theorem numberAt_zero_padded {width n : Nat} (hwidth : 1 ≤ width) (hn : n < 10 ^ width)
    (rest : List Char) : numberAt 0 width (padded width n ++ rest) = n := by
  rw [numberAt, List.drop_zero, List.take_left' (length_padded hwidth hn),
    ofDigitChars_padded]

/-- The numbers of a stamp are read off its places. -/
theorem numbersIn_stamp {f : Fields} (h : f.Fit) : numbersIn f.stamp = f := by
  have hyear := length_padded (show 1 ≤ 4 by decide) h.year
  have htwo : 1 ≤ 2 := by decide
  have hmonth := length_padded htwo h.month
  have hday := length_padded htwo h.day
  have hhour := length_padded htwo h.hour
  have hminute := length_padded htwo h.minute
  have hsecond := numberAt_zero_padded htwo h.second []
  rw [List.append_nil] at hsecond
  simp [numbersIn, Fields.stamp, numberAt_append, numberAt_succ_cons, hyear, hmonth, hday,
    hhour, hminute, hsecond, numberAt_zero_padded (show 1 ≤ 4 by decide) h.year,
    numberAt_zero_padded htwo h.month, numberAt_zero_padded htwo h.day,
    numberAt_zero_padded htwo h.hour, numberAt_zero_padded htwo h.minute]

/-- A text fills the picture exactly when it is the stamp of the numbers in its places. -/
theorem hasLayout_iff_eq_stamp {cs : List Char} :
    HasLayout cs ↔ (numbersIn cs).Fit ∧ cs = (numbersIn cs).stamp := by
  rw [hasLayout_iff]
  constructor
  · rintro ⟨f, hf⟩
    obtain ⟨hfit, rfl⟩ := fields?_eq_some_iff.mp hf
    rw [numbersIn_stamp hfit]
    exact ⟨hfit, rfl⟩
  · rintro ⟨hfit, hcs⟩
    exact ⟨numbersIn cs, fields?_eq_some_iff.mpr ⟨hfit, hcs⟩⟩

/-! ## What is read -/

theorem parseTimestamp_eq_ok_iff_numbersIn {text : String} {r : Reading} :
    parseTimestamp text = .ok r ↔
      HasLayout text.toList ∧ numbersIn text.toList = fieldsOf r ∧ r.time.microsecond = 0 := by
  rw [parseTimestamp_eq_ok_iff, hasLayout_iff_eq_stamp]
  constructor
  · rintro ⟨htext, hmicro⟩
    have hnumbers : numbersIn (stamp r) = fieldsOf r := numbersIn_stamp (fieldsOf_fit r)
    rw [htext, hnumbers]
    exact ⟨⟨fieldsOf_fit r, rfl⟩, rfl, hmicro⟩
  · rintro ⟨⟨-, htext⟩, hnumbers, hmicro⟩
    rw [hnumbers] at htext
    exact ⟨htext, hmicro⟩

/-- Numbers name a second of a day exactly when a reading shows them. -/
theorem Fields.namesSecond_iff {f : Fields} :
    f.NamesSecond ↔ ∃ r, f = fieldsOf r ∧ r.time.microsecond = 0 := by
  constructor
  · rintro ⟨hdate, hhour, hminute, hsecond⟩
    have htime : f.hour < 24 ∧ f.minute < 60 ∧ f.second < 60 ∧ 0 < 1000000 := by omega
    exact ⟨⟨⟨f.year, f.month, f.day, hdate⟩, ⟨f.hour, f.minute, f.second, 0, htime⟩⟩, rfl, rfl⟩
  · rintro ⟨r, rfl, -⟩
    obtain ⟨hhour, hminute, hsecond, -⟩ := r.time.inRange
    refine ⟨r.date.isDate, ?_, ?_, ?_⟩ <;> simp only [fieldsOf] <;> omega

theorem exists_parseTimestamp_eq_ok_iff {text : String} :
    (∃ r, parseTimestamp text = .ok r) ↔
      HasLayout text.toList ∧ (numbersIn text.toList).NamesSecond := by
  simp only [parseTimestamp_eq_ok_iff_numbersIn, Fields.namesSecond_iff, exists_and_left]

/-! ## Reading what was written -/

/-- What was written is read back exactly from the year 1000 on. -/
theorem parseTimestamp_formatTimestamp_eq_ok_iff {r s : Reading} :
    parseTimestamp (formatTimestamp r) = .ok s ↔ 1000 ≤ r.date.year ∧ s = r.wholeSeconds := by
  constructor
  · intro h
    have hyear := year_of_formatTimestamp_eq_stamp (parseTimestamp_eq_ok_iff.mp h).1
    rw [parseTimestamp_formatTimestamp hyear, Except.ok.injEq] at h
    exact ⟨hyear, h.symm⟩
  · rintro ⟨hyear, rfl⟩
    exact parseTimestamp_formatTimestamp hyear

/-- What was read is written back from the year 1000 on. -/
theorem formatTimestamp_of_parseTimestamp {text : String} {r : Reading}
    (h : parseTimestamp text = .ok r) (hyear : 1000 ≤ r.date.year) :
    formatTimestamp r = text := by
  rw [← String.toList_inj, toList_formatTimestamp_eq_stamp hyear,
    (parseTimestamp_eq_ok_iff.mp h).1]

/-- A text is read exactly if it fills the picture with the numbers of a second of a day,
and then as that second; any other text is refused with an incident that carries it.
Reading and writing undo each other from the year 1000 of UTC on, but for the part of a
second that no timestamp holds, and what is written for earlier years is refused. -/
theorem timestamps_exact :
    (∀ text,
      ((∃ r, parseTimestamp text = .ok r) ↔
        HasLayout text.toList ∧ (numbersIn text.toList).NamesSecond) ∧
      (∀ r, parseTimestamp text = .ok r →
        numbersIn text.toList = fieldsOf r ∧ r.time.microsecond = 0) ∧
      ∀ defect, parseTimestamp text = .error defect →
        (defect.incident text).kind = .timestamp ∧
          (defect.incident text).details = [("timestamp", .text text)]) ∧
    (∀ text r, parseTimestamp text = .ok r → 1000 ≤ r.date.year →
      formatTimestamp r = text) ∧
    ∀ m : Moment, m.OffsetInRange → ∀ r : Reading, (r.microseconds : Int) = m.instant →
      m.inUtc? = some r ∧
      (1000 ≤ r.date.year → ∃ s, parseTimestamp (formatTimestamp r) = .ok s ∧
        (s.microseconds : Int) = m.second * 1000000) ∧
      (r.date.year < 1000 → ∃ defect, parseTimestamp (formatTimestamp r) = .error defect) := by
  refine ⟨fun text => ⟨exists_parseTimestamp_eq_ok_iff, ?_, ?_⟩, ?_, ?_⟩
  · intro r hr
    exact (parseTimestamp_eq_ok_iff_numbersIn.mp hr).2
  · intro defect _
    exact ⟨rfl, rfl⟩
  · intro text r hr hyear
    exact formatTimestamp_of_parseTimestamp hr hyear
  · intro m hoffset r hplace
    refine ⟨(Moment.inUtc?_eq_some_iff hoffset).mpr hplace, ?_, ?_⟩
    · intro hyear
      exact ⟨r.wholeSeconds, parseTimestamp_formatTimestamp hyear,
        (Moment.eq_wholeSeconds_iff hplace).mp rfl⟩
    · intro hyear
      cases hparse : parseTimestamp (formatTimestamp r) with
      | error defect => exact ⟨defect, rfl⟩
      | ok s =>
          have hlate := (parseTimestamp_formatTimestamp_eq_ok_iff.mp hparse).1
          omega

theorem timestamps_exact_late_evening :
    let r : Reading := ⟨⟨1000, 1, 1, by decide⟩, ⟨0, 30, 0, 5, by decide⟩⟩
    let leapDay : Reading := ⟨⟨2024, 2, 29, by decide⟩, ⟨23, 59, 59, 0, by decide⟩⟩
    lateEvening.OffsetInRange ∧ (r.microseconds : Int) = lateEvening.instant ∧
      1000 ≤ r.date.year ∧
      (∃ s, parseTimestamp (formatTimestamp r) = .ok s ∧
        (s.microseconds : Int) = lateEvening.second * 1000000) ∧
      parseTimestamp "2024-02-29T23-59-59" = .ok leapDay ∧
      formatTimestamp leapDay = "2024-02-29T23-59-59" := by
  intro r leapDay
  have hoffset : lateEvening.OffsetInRange := by decide
  have hplace : (r.microseconds : Int) = lateEvening.instant := by decide
  have hparse : parseTimestamp "2024-02-29T23-59-59" = .ok leapDay := by
    rw [parseTimestamp_eq_ok_iff]
    decide +kernel
  obtain ⟨-, hwritten, hmoments⟩ := timestamps_exact
  obtain ⟨-, hread, -⟩ := hmoments lateEvening hoffset r hplace
  exact ⟨hoffset, hplace, by decide, hread (by decide), hparse,
    hwritten _ leapDay hparse (by decide)⟩

end ConfigVault.Version
