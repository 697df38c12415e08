import ConfigVault.Proofs.Calendar.Order
import ConfigVault.Version.Timestamp

/-!
# Reading and writing timestamps

A text is read as a timestamp exactly when it is the stamp of a reading that
falls on a whole second: six numbers in their places, with the year filled to
four digits.  A reading writes its stamp when its year has four digits, so from
the year 1000 on what is written is read back, up to the part of a second that
no timestamp holds.
-/

namespace ConfigVault.Version

open Calendar

/-! ## Numbers of a fixed width -/

theorem isDigit_iff (c : Char) : isDigit c = true ↔ c.isDigit = true := by
  simp [isDigit, Char.isDigit, Char.le_def, UInt32.le_iff_toNat_le]

theorem toNat_sub_lt_of_isDigit {c : Char} (h : isDigit c = true) :
    '0'.toNat ≤ c.toNat ∧ c.toNat - '0'.toNat < 10 := by
  simp only [isDigit, Bool.and_eq_true, decide_eq_true_eq, Char.le_def,
    UInt32.le_iff_toNat_le] at h
  have hzero : '0'.val.toNat = 48 := rfl
  have hnine : '9'.val.toNat = 57 := rfl
  have hchar : '0'.toNat = 48 := rfl
  have hvalue : c.val.toNat = c.toNat := rfl
  omega

/-- Taking a number of some width takes that many digits off the front. -/
theorem takeNumber?_eq_some_iff_exists {width read n : Nat} {cs rest : List Char} :
    takeNumber? width read cs = some (n, rest) ↔
      ∃ digits : List Char, digits.length = width ∧ (∀ c ∈ digits, isDigit c) ∧
        cs = digits ++ rest ∧ n = Nat.ofDigitChars 10 digits read := by
  induction width generalizing read cs with
  | zero =>
      simp only [takeNumber?, Option.some.injEq, Prod.mk.injEq,
        List.length_eq_zero_iff]
      constructor
      · rintro ⟨rfl, rfl⟩
        exact ⟨[], rfl, by simp, rfl, by simp⟩
      · rintro ⟨digits, rfl, -, rfl, rfl⟩
        simp
  | succ width ih =>
      cases cs with
      | nil =>
          simp only [takeNumber?, reduceCtorEq, false_iff, not_exists]
          rintro digits ⟨hlength, -, hcs, -⟩
          have := congrArg List.length hcs
          simp only [List.length_nil, List.length_append] at this
          omega
      | cons c cs =>
          simp only [takeNumber?]
          split
          · next hdigit =>
              rw [ih]
              constructor
              · rintro ⟨digits, hlength, hdigits, rfl, rfl⟩
                refine ⟨c :: digits, by simp [hlength], ?_, rfl, ?_⟩
                · simpa [hdigit] using hdigits
                · rw [Nat.ofDigitChars_cons, Nat.mul_comm]
              · rintro ⟨digits, hlength, hdigits, hcs, rfl⟩
                cases digits with
                | nil => simp at hlength
                | cons d digits =>
                    obtain ⟨rfl, rfl⟩ := List.cons.inj hcs
                    refine ⟨digits, by simpa using hlength, ?_, rfl, ?_⟩
                    · exact fun e he => hdigits e (List.mem_cons_of_mem _ he)
                    · rw [Nat.ofDigitChars_cons, Nat.mul_comm]
          · next hdigit =>
              simp only [reduceCtorEq, false_iff, not_exists]
              rintro digits ⟨hlength, hdigits, hcs, -⟩
              cases digits with
              | nil => simp at hlength
              | cons d digits =>
                  obtain ⟨rfl, rfl⟩ := List.cons.inj hcs
                  exact hdigit (hdigits c List.mem_cons_self)

theorem ofDigitChars_lt {digits : List Char} (h : ∀ c ∈ digits, isDigit c) :
    Nat.ofDigitChars 10 digits 0 < 10 ^ digits.length := by
  induction digits with
  | nil => simp
  | cons c digits ih =>
      have hc := (toNat_sub_lt_of_isDigit (h c List.mem_cons_self)).2
      have hdigits := ih fun d hd => h d (List.mem_cons_of_mem _ hd)
      rw [Nat.ofDigitChars_cons, Nat.ofDigitChars_eq_ofDigitChars_zero,
        List.length_cons, Nat.pow_succ]
      have hbound : 10 ^ digits.length * (10 * 0 + (c.toNat - '0'.toNat)) ≤
          10 ^ digits.length * 9 := Nat.mul_le_mul_left _ (by omega)
      omega

/-- A number has one spelling in each width. -/
theorem eq_of_ofDigitChars_eq {ds es : List Char} (hlength : ds.length = es.length)
    (hds : ∀ c ∈ ds, isDigit c) (hes : ∀ c ∈ es, isDigit c)
    (h : Nat.ofDigitChars 10 ds 0 = Nat.ofDigitChars 10 es 0) : ds = es := by
  induction ds generalizing es with
  | nil => exact (List.eq_nil_of_length_eq_zero hlength.symm).symm
  | cons c ds ih =>
      cases es with
      | nil => simp at hlength
      | cons d es =>
          have hrest : ds.length = es.length := by simpa using hlength
          have hdsRest : ∀ x ∈ ds, isDigit x := fun x hx => hds x (List.mem_cons_of_mem _ hx)
          have hesRest : ∀ x ∈ es, isDigit x := fun x hx => hes x (List.mem_cons_of_mem _ hx)
          have hltDs := ofDigitChars_lt hdsRest
          have hltEs := ofDigitChars_lt hesRest
          have hc := toNat_sub_lt_of_isDigit (hds c List.mem_cons_self)
          have hd := toNat_sub_lt_of_isDigit (hes d List.mem_cons_self)
          rw [Nat.ofDigitChars_cons, Nat.ofDigitChars_cons,
            Nat.ofDigitChars_eq_ofDigitChars_zero (l := ds),
            Nat.ofDigitChars_eq_ofDigitChars_zero (l := es), ← hrest] at h
          rw [← hrest] at hltEs
          have hhead : c.toNat - '0'.toNat = d.toNat - '0'.toNat := by
            have hdiv := congrArg (· / 10 ^ ds.length) h
            simpa [Nat.mul_add_div, Nat.div_eq_of_lt, hltDs, hltEs] using hdiv
          rw [hhead] at h
          have hchar : c = d := Char.toNat_inj.mp (by omega)
          rw [hchar, ih hrest hdsRest hesRest (by omega)]

theorem isDigit_of_mem_padded {width n : Nat} {c : Char} (h : c ∈ padded width n) :
    isDigit c = true := by
  simp only [padded, List.mem_append, List.mem_replicate] at h
  rcases h with ⟨-, rfl⟩ | h
  · decide
  · exact (isDigit_iff c).mpr
      (Nat.isDigit_of_mem_toDigits (by decide) (by decide) h)

theorem length_padded {width n : Nat} (hwidth : 1 ≤ width) (h : n < 10 ^ width) :
    (padded width n).length = width := by
  have hlength : (Nat.toDigits 10 n).length ≤ width :=
    (Nat.length_toDigits_le_iff (by decide) hwidth).mpr h
  simp only [padded, List.length_append, List.length_replicate]
  omega

theorem ofDigitChars_padded (width n : Nat) :
    Nat.ofDigitChars 10 (padded width n) 0 = n := by
  simp [padded, Nat.ofDigitChars_append]

/-- A number is taken off the front of a text exactly where the text begins
with its digits, filled with zeros. -/
theorem takeNumber?_eq_some_iff {width n : Nat} {cs rest : List Char}
    (hwidth : 1 ≤ width) :
    takeNumber? width 0 cs = some (n, rest) ↔
      n < 10 ^ width ∧ cs = padded width n ++ rest := by
  rw [takeNumber?_eq_some_iff_exists]
  constructor
  · rintro ⟨digits, rfl, hdigits, rfl, rfl⟩
    have hlt := ofDigitChars_lt hdigits
    refine ⟨hlt, ?_⟩
    congr 1
    apply eq_of_ofDigitChars_eq (length_padded hwidth hlt).symm hdigits
    · exact fun c hc => isDigit_of_mem_padded hc
    · rw [ofDigitChars_padded]
  · rintro ⟨hlt, rfl⟩
    exact ⟨padded width n, length_padded hwidth hlt,
      fun c hc => isDigit_of_mem_padded hc, rfl, (ofDigitChars_padded width n).symm⟩

theorem takeMark?_eq_some_iff {mark : Char} {cs rest : List Char} :
    takeMark? mark cs = some rest ↔ cs = mark :: rest := by
  cases cs with
  | nil => simp [takeMark?]
  | cons c cs => simp [takeMark?]

/-! ## Stamps -/

/-- The numbers fit into the places of a timestamp. -/
structure Fields.Fit (f : Fields) : Prop where
  year : f.year < 10 ^ 4
  month : f.month < 10 ^ 2
  day : f.day < 10 ^ 2
  hour : f.hour < 10 ^ 2
  minute : f.minute < 10 ^ 2
  second : f.second < 10 ^ 2

def Fields.stamp (f : Fields) : List Char :=
  padded 4 f.year ++ '-' :: (padded 2 f.month ++ '-' :: (padded 2 f.day ++
    'T' :: (padded 2 f.hour ++ '-' :: (padded 2 f.minute ++
      '-' :: padded 2 f.second))))

/-- The layout of timestamps holds exactly the stamps of numbers that fit. -/
theorem fields?_eq_some_iff {cs : List Char} {f : Fields} :
    fields? cs = some f ↔ f.Fit ∧ cs = f.stamp := by
  simp only [fields?, bind, Option.bind_eq_some_iff, Prod.exists,
    takeNumber?_eq_some_iff (show 1 ≤ 4 by decide),
    takeNumber?_eq_some_iff (show 1 ≤ 2 by decide), takeMark?_eq_some_iff,
    Option.ite_none_right_eq_some, List.isEmpty_iff, Option.some.injEq]
  constructor
  · rintro ⟨year, _, ⟨hyear, rfl⟩, _, rfl, month, _, ⟨hmonth, rfl⟩, _, rfl, day, _,
      ⟨hday, rfl⟩, _, rfl, hour, _, ⟨hhour, rfl⟩, _, rfl, minute, _, ⟨hminute, rfl⟩,
      _, rfl, second, _, ⟨hsecond, rfl⟩, rfl, rfl⟩
    exact ⟨⟨hyear, hmonth, hday, hhour, hminute, hsecond⟩, by simp [Fields.stamp]⟩
  · rintro ⟨hfit, rfl⟩
    exact ⟨f.year, _, ⟨hfit.year, rfl⟩, _, rfl, f.month, _, ⟨hfit.month, rfl⟩, _, rfl,
      f.day, _, ⟨hfit.day, rfl⟩, _, rfl, f.hour, _, ⟨hfit.hour, rfl⟩, _, rfl,
      f.minute, _, ⟨hfit.minute, rfl⟩, _, rfl, f.second, _,
      ⟨hfit.second, (List.append_nil _).symm⟩, rfl, rfl⟩

theorem Fields.isStampChar_of_mem_stamp {f : Fields} {c : Char} (h : c ∈ f.stamp) :
    isStampChar c = true := by
  have hdigit : ∀ {width n : Nat}, c ∈ padded width n → isStampChar c = true := by
    intro width n hc
    simp [isStampChar, isDigit_of_mem_padded hc]
  simp only [Fields.stamp, List.mem_append, List.mem_cons] at h
  rcases h with h | rfl | h | rfl | h | rfl | h | rfl | h | rfl | h
  all_goals first | exact hdigit h | decide

theorem Fields.stamp_ne_nil (f : Fields) : f.stamp ≠ [] := by
  simp [Fields.stamp]

theorem dropFinalBreak_eq_self {cs : List Char} (h : '\n' ∉ cs) :
    dropFinalBreak cs = cs := by
  unfold dropFinalBreak
  rw [if_neg]
  exact fun hlast => h (List.mem_of_getLast? hlast)

/-- A line break that is taken off is missed in the length. -/
theorem dropFinalBreak_eq_self_of_length {cs : List Char}
    (h : (dropFinalBreak cs).length = cs.length) : dropFinalBreak cs = cs := by
  unfold dropFinalBreak at h ⊢
  split at h
  · next hlast =>
      have hpos : 0 < cs.length := List.length_pos_of_mem (List.mem_of_getLast? hlast)
      rw [List.length_dropLast] at h
      omega
  · next hlast => rw [if_neg hlast]

theorem Fields.stamp_dropFinalBreak (f : Fields) : dropFinalBreak f.stamp = f.stamp :=
  dropFinalBreak_eq_self fun hbreak =>
    absurd (Fields.isStampChar_of_mem_stamp hbreak) (by decide)

/-! ## Readings and their stamps -/

/-- The numbers of a reading that a timestamp shows. -/
def fieldsOf (r : Reading) : Fields where
  year := r.date.year
  month := r.date.month
  day := r.date.day
  hour := r.time.hour
  minute := r.time.minute
  second := r.time.second

/-- The text of the second of a reading, with the year in four digits. -/
def stamp (r : Reading) : List Char :=
  (fieldsOf r).stamp

theorem fieldsOf_fit (r : Reading) : (fieldsOf r).Fit := by
  have hyear := r.date.year_le
  have hmonth := r.date.month_bounds.2
  have hday := r.date.day_bounds.2.trans (daysInMonth_le _ _)
  obtain ⟨hhour, hminute, hsecond, -⟩ := r.time.inRange
  constructor <;> simp only [fieldsOf] <;> omega

@[simp] theorem stamp_wholeSeconds (r : Reading) : stamp r.wholeSeconds = stamp r := rfl

theorem leftover_eq_nil_iff {f : Fields} {finalBreak : Bool} :
    leftover f finalBreak = [] ↔ f.second ≤ 61 ∧ finalBreak = false := by
  cases finalBreak <;> simp [leftover]

/-- Six numbers make a moment exactly when they are those of a reading. -/
theorem Fields.reading_eq_ok_iff {f : Fields} {finalBreak : Bool} {r : Reading} :
    f.reading finalBreak = .ok r ↔
      finalBreak = false ∧ f = fieldsOf r ∧ r.time.microsecond = 0 := by
  constructor
  · intro h
    unfold Fields.reading at h
    split at h
    · cases h
    split at h
    · cases h
    split at h
    · cases h
    next hleft _ =>
      simp only [ne_eq, not_not, leftover_eq_nil_iff] at hleft
      split at h
      · cases h
      next date hdate =>
        split at h
        · cases h
        next time htime =>
          cases h
          obtain ⟨hyear, hmonth, hday⟩ := Date.ofNumbers?_eq_some_iff.mp hdate
          obtain ⟨hhour, hminute, hsecond, hmicro⟩ :=
            TimeOfDay.ofNumbers?_eq_some_iff.mp htime
          refine ⟨hleft.2, ?_, hmicro⟩
          simp [fieldsOf, hyear, hmonth, hday, hhour, hminute, hsecond]
  · rintro ⟨rfl, rfl, hmicro⟩
    have hmonth := r.date.month_bounds
    have hday := r.date.day_bounds
    have hdays := daysInMonth_le r.date.year r.date.month
    obtain ⟨hhour, hminute, hsecond, -⟩ := r.time.inRange
    have hdate : Date.ofNumbers? (fieldsOf r).year (fieldsOf r).month (fieldsOf r).day =
        some r.date := Date.ofNumbers?_eq_some_iff.mpr ⟨rfl, rfl, rfl⟩
    have htime : TimeOfDay.ofNumbers? (fieldsOf r).hour (fieldsOf r).minute
        (fieldsOf r).second 0 = some r.time :=
      TimeOfDay.ofNumbers?_eq_some_iff.mpr ⟨rfl, rfl, rfl, hmicro⟩
    unfold Fields.reading
    rw [if_neg, if_neg, if_neg, hdate, htime]
    · have := r.date.year_pos
      simp only [fieldsOf]
      omega
    · simp only [ne_eq, not_not, leftover_eq_nil_iff, fieldsOf, and_true]
      omega
    · simp only [Bool.or_eq_true, decide_eq_true_eq]
      simp only [fieldsOf]
      omega

/-- A text is read as a timestamp exactly when it is the stamp of a reading that
falls on a whole second. -/
theorem parseTimestamp_eq_ok_iff {text : String} {r : Reading} :
    parseTimestamp text = .ok r ↔
      text.toList = stamp r ∧ r.time.microsecond = 0 := by
  constructor
  · intro h
    simp only [parseTimestamp] at h
    split at h
    · cases h
    split at h
    · cases h
    next f hfields =>
      split at h
      · cases h
      next result hreading =>
        cases h
        obtain ⟨hbreak, rfl, hmicro⟩ := Fields.reading_eq_ok_iff.mp hreading
        have hbody : dropFinalBreak text.toList = text.toList :=
          dropFinalBreak_eq_self_of_length (by simpa using hbreak)
        rw [hbody] at hfields
        exact ⟨(fields?_eq_some_iff.mp hfields).2, hmicro⟩
  · rintro ⟨htext, hmicro⟩
    have hbody : dropFinalBreak (stamp r) = stamp r := (fieldsOf r).stamp_dropFinalBreak
    have hfields : fields? (stamp r) = some (fieldsOf r) :=
      fields?_eq_some_iff.mpr ⟨fieldsOf_fit r, rfl⟩
    have hreading : (fieldsOf r).reading false = .ok r :=
      Fields.reading_eq_ok_iff.mpr ⟨rfl, rfl, hmicro⟩
    have hchars : (stamp r).all isStampChar = true :=
      List.all_eq_true.mpr fun c hc => Fields.isStampChar_of_mem_stamp hc
    have hnil : (stamp r).isEmpty = false := by
      simpa [stamp] using (fieldsOf r).stamp_ne_nil
    simp only [parseTimestamp, htext, hbody, hchars, hnil, hfields]
    simp [hreading]

theorem parseTimestamp_injective {text other : String} {r : Reading}
    (h : parseTimestamp text = .ok r) (hother : parseTimestamp other = .ok r) :
    text = other :=
  String.toList_inj.mp
    ((parseTimestamp_eq_ok_iff.mp h).1.trans (parseTimestamp_eq_ok_iff.mp hother).1.symm)

/-! ## Writing timestamps -/

/-- A number with as many digits as there are places is not filled. -/
theorem padded_eq_toDigits {width n : Nat} (hwidth : 1 ≤ width)
    (h : 10 ^ (width - 1) ≤ n) : padded width n = Nat.toDigits 10 n := by
  have hlength : width ≤ (Nat.toDigits 10 n).length := by
    by_contra hshort
    have hpos : 0 < (Nat.toDigits 10 n).length := Nat.length_toDigits_pos
    have hle : (Nat.toDigits 10 n).length ≤ width - 1 := by omega
    have hlt := (Nat.length_toDigits_le_iff (by decide) (by omega)).mp hle
    omega
  simp [padded, Nat.sub_eq_zero_of_le hlength]

theorem toList_formatTimestamp (r : Reading) :
    (formatTimestamp r).toList =
      Nat.toDigits 10 r.date.year ++ '-' :: (padded 2 r.date.month ++ '-' ::
        (padded 2 r.date.day ++ 'T' :: (padded 2 r.time.hour ++ '-' ::
          (padded 2 r.time.minute ++ '-' :: padded 2 r.time.second)))) := by
  simp [formatTimestamp]

theorem toList_formatTimestamp_eq_stamp {r : Reading} (h : 1000 ≤ r.date.year) :
    (formatTimestamp r).toList = stamp r := by
  rw [toList_formatTimestamp, ← padded_eq_toDigits (show 1 ≤ 4 by decide) h]
  rfl

theorem parseTimestamp_formatTimestamp {r : Reading} (h : 1000 ≤ r.date.year) :
    parseTimestamp (formatTimestamp r) = .ok r.wholeSeconds :=
  parseTimestamp_eq_ok_iff.mpr ⟨toList_formatTimestamp_eq_stamp h, rfl⟩

@[simp] theorem formatTimestamp_wholeSeconds (r : Reading) :
    formatTimestamp r.wholeSeconds = formatTimestamp r := rfl

end ConfigVault.Version
