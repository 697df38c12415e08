import ConfigVault.Proofs.Version.Timestamp
import ConfigVault.Version.Key

/-!
# Keys and the names they decode under

A key decodes under a name to a second exactly when it is the name, a hyphen and
the stamp of the second.  Stamps have one length, so a key written for a name in
a year with four digits is read under no other name and as no other second.
-/

namespace ConfigVault.Version

open Calendar

/-! ## Starts of texts -/

theorem stripStart?_eq_some_iff {start text rest : String} :
    stripStart? start text = some rest ↔
      text.toList = start.toList ++ rest.toList := by
  unfold stripStart?
  constructor
  · intro h
    split at h
    · next hstart =>
        obtain ⟨tail, htail⟩ := List.isPrefixOf_iff_prefix.mp hstart
        cases h
        rw [← htail, List.drop_left, String.toList_ofList]
    · cases h
  · intro h
    rw [if_pos (List.isPrefixOf_iff_prefix.mpr ⟨rest.toList, h.symm⟩), h,
      List.drop_left, String.ofList_toList]

theorem belongsTo_iff {name key : String} :
    belongsTo name key = true ↔ name.toList <+: key.toList :=
  List.isPrefixOf_iff_prefix

/-! ## Decoding -/

/-- A key decodes to a second exactly when it is the name, a hyphen and the stamp
of that second. -/
theorem decode?_eq_some_iff {name key : String} {r : Reading} :
    decode? name key = some r ↔
      key.toList = name.toList ++ '-' :: stamp r ∧ r.time.microsecond = 0 := by
  unfold decode?
  constructor
  · intro h
    split at h
    · cases h
    next text htext =>
      split at h
      · next reading hparse =>
          cases h
          obtain ⟨hstamp, hmicro⟩ := parseTimestamp_eq_ok_iff.mp hparse
          refine ⟨?_, hmicro⟩
          rw [stripStart?_eq_some_iff.mp htext, hstamp]
          simp
      · cases h
  · rintro ⟨hkey, hmicro⟩
    have hstrip : stripStart? (name ++ "-") key = some (String.ofList (stamp r)) :=
      stripStart?_eq_some_iff.mpr (by simp [hkey])
    have hparse : parseTimestamp (String.ofList (stamp r)) = .ok r :=
      parseTimestamp_eq_ok_iff.mpr ⟨String.toList_ofList, hmicro⟩
    rw [hstrip]
    simp only [hparse]

theorem eq_of_decode?_eq {name key other : String} {r : Reading}
    (h : decode? name key = some r) (hother : decode? name other = some r) :
    key = other :=
  String.toList_inj.mp
    ((decode?_eq_some_iff.mp h).1.trans (decode?_eq_some_iff.mp hother).1.symm)

theorem belongsTo_of_decode? {name key : String} {r : Reading}
    (h : decode? name key = some r) : belongsTo name key = true :=
  belongsTo_iff.mpr ⟨'-' :: stamp r, (decode?_eq_some_iff.mp h).1.symm⟩

/-! ## Keys of versions -/

theorem toList_versionKey (name : String) (r : Reading) :
    (versionKey name r).toList = name.toList ++ '-' :: (formatTimestamp r).toList := by
  simp [versionKey]

theorem belongsTo_versionKey (name : String) (r : Reading) :
    belongsTo name (versionKey name r) = true :=
  belongsTo_iff.mpr ⟨_, (toList_versionKey name r).symm⟩

theorem decode?_versionKey (name : String) {r : Reading} (h : 1000 ≤ r.date.year) :
    decode? name (versionKey name r) = some r.wholeSeconds := by
  refine decode?_eq_some_iff.mpr ⟨?_, rfl⟩
  rw [toList_versionKey, toList_formatTimestamp_eq_stamp h, stamp_wholeSeconds]

@[simp] theorem versionKey_wholeSeconds (name : String) (r : Reading) :
    versionKey name r.wholeSeconds = versionKey name r := rfl

@[simp] theorem label_versionKey (name : String) (r : Reading) :
    label name (versionKey name r) = formatTimestamp r := by
  have hstrip : stripStart? (name ++ "-") (versionKey name r) =
      some (formatTimestamp r) :=
    stripStart?_eq_some_iff.mpr (by simp [toList_versionKey])
  simp [label, hstrip]

theorem length_stamp (r : Reading) : (stamp r).length = 19 := by
  have hfit := fieldsOf_fit r
  have hfour : 1 ≤ 4 := by decide
  have htwo : 1 ≤ 2 := by decide
  simp only [stamp, Fields.stamp, List.length_append, List.length_cons,
    length_padded hfour hfit.year, length_padded htwo hfit.month,
    length_padded htwo hfit.day, length_padded htwo hfit.hour,
    length_padded htwo hfit.minute, length_padded htwo hfit.second]

/-- Stamps tell seconds apart. -/
theorem wholeSeconds_eq_of_stamp_eq {r s : Reading} (h : stamp r = stamp s) :
    r.wholeSeconds = s.wholeSeconds := by
  have hr : parseTimestamp (String.ofList (stamp r)) = .ok r.wholeSeconds :=
    parseTimestamp_eq_ok_iff.mpr ⟨by simp, rfl⟩
  have hs : parseTimestamp (String.ofList (stamp r)) = .ok s.wholeSeconds :=
    parseTimestamp_eq_ok_iff.mpr ⟨by simp [h], rfl⟩
  exact Except.ok.inj (hr.symm.trans hs)

/-- What is written behind the year. -/
def stampTail (r : Reading) : List Char :=
  '-' :: (padded 2 r.date.month ++ '-' :: (padded 2 r.date.day ++ 'T' ::
    (padded 2 r.time.hour ++ '-' :: (padded 2 r.time.minute ++ '-' ::
      padded 2 r.time.second))))

theorem stamp_eq (r : Reading) : stamp r = padded 4 r.date.year ++ stampTail r := rfl

theorem length_stampTail (r : Reading) : (stampTail r).length = 15 := by
  have hlength := length_stamp r
  have hyear : (padded 4 r.date.year).length = 4 :=
    length_padded (by decide) (fieldsOf_fit r).year
  rw [stamp_eq, List.length_append, hyear] at hlength
  omega

/-- A written year fills its four places from the year 1000 on. -/
theorem year_of_formatTimestamp_eq_stamp {r s : Reading}
    (h : (formatTimestamp r).toList = stamp s) : 1000 ≤ r.date.year := by
  have hwritten : (formatTimestamp r).toList =
      Nat.toDigits 10 r.date.year ++ stampTail r := toList_formatTimestamp r
  have hlength := congrArg List.length h
  have hyear : (padded 4 s.date.year).length = 4 :=
    length_padded (by decide) (fieldsOf_fit s).year
  rw [hwritten, stamp_eq, List.length_append, List.length_append, length_stampTail,
    length_stampTail, hyear] at hlength
  by_contra hlt
  have hshort : (Nat.toDigits 10 r.date.year).length ≤ 3 :=
    (Nat.length_toDigits_le_iff (by decide) (by decide)).mpr (by omega)
  omega

/-- What is written tells seconds apart in every year. -/
theorem formatTimestamp_inj {r s : Reading} :
    formatTimestamp r = formatTimestamp s ↔ r.wholeSeconds = s.wholeSeconds := by
  constructor
  · intro h
    have htext : Nat.toDigits 10 r.date.year ++ stampTail r =
        Nat.toDigits 10 s.date.year ++ stampTail s := by
      have htext := congrArg String.toList h
      rwa [toList_formatTimestamp, toList_formatTimestamp] at htext
    obtain ⟨hdigits, htail⟩ := List.append_inj' htext (by simp [length_stampTail])
    have hyear : r.date.year = s.date.year := by
      have hnumbers := congrArg (Nat.ofDigitChars 10 · 0) hdigits
      simpa [Nat.ofDigitChars_toDigits] using hnumbers
    apply wholeSeconds_eq_of_stamp_eq
    rw [stamp_eq, stamp_eq, hyear, htail]
  · intro h
    rw [← formatTimestamp_wholeSeconds, h, formatTimestamp_wholeSeconds]

theorem eq_of_decode?_versionKey {name other : String} {r s : Reading}
    (hr : 1000 ≤ r.date.year) (h : decode? other (versionKey name r) = some s) :
    other = name ∧ s = r.wholeSeconds := by
  obtain ⟨hkey, hmicro⟩ := decode?_eq_some_iff.mp h
  rw [toList_versionKey, toList_formatTimestamp_eq_stamp hr] at hkey
  obtain ⟨hname, htail⟩ := List.append_inj' hkey (by simp [length_stamp])
  refine ⟨String.toList_inj.mp hname.symm, ?_⟩
  rw [← Reading.wholeSeconds_eq_self hmicro]
  exact wholeSeconds_eq_of_stamp_eq (List.cons.inj htail).2.symm

theorem versionKey_self_inj {name : String} {r s : Reading} :
    versionKey name r = versionKey name s ↔ r.wholeSeconds = s.wholeSeconds := by
  rw [← formatTimestamp_inj, ← String.toList_inj, ← String.toList_inj,
    toList_versionKey, toList_versionKey, List.append_cancel_left_eq, List.cons.injEq]
  simp

/-- A key belongs to no name but its own, as long as no name begins with another. -/
theorem belongsTo_versionKey_iff {name other : String} {r : Reading}
    (hapart : belongsTo name other = true → name = other)
    (hapart' : belongsTo other name = true → other = name) :
    belongsTo name (versionKey other r) = true ↔ name = other := by
  constructor
  · intro h
    have hname := belongsTo_iff.mp h
    have hother := belongsTo_iff.mp (belongsTo_versionKey other r)
    rcases List.prefix_or_prefix_of_prefix hname hother with hle | hle
    · exact hapart (belongsTo_iff.mpr hle)
    · exact (hapart' (belongsTo_iff.mpr hle)).symm
  · rintro rfl
    exact belongsTo_versionKey name r

/-! ## Keys of different names -/

/-- The key is made like that of a version of the name, in whatever year. -/
def VersionOf (name key : String) : Prop :=
  ∃ digits r, (∀ c ∈ digits, isDigit c = true) ∧
    key.toList = name.toList ++ '-' :: (digits ++ stampTail r)

theorem versionOf_versionKey (name : String) (r : Reading) :
    VersionOf name (versionKey name r) := by
  refine ⟨Nat.toDigits 10 r.date.year, r, ?_, ?_⟩
  · intro c hc
    exact (isDigit_iff c).mpr (Nat.isDigit_of_mem_toDigits (by decide) (by decide) hc)
  · rw [toList_versionKey, toList_formatTimestamp]
    rfl

theorem versionOf_of_decode? {name key : String} {r : Reading}
    (h : decode? name key = some r) : VersionOf name key := by
  refine ⟨padded 4 r.date.year, r, fun c hc => isDigit_of_mem_padded hc, ?_⟩
  rw [(decode?_eq_some_iff.mp h).1, stamp_eq]

theorem VersionOf.belongsTo {name key : String} (h : VersionOf name key) :
    belongsTo name key = true := by
  obtain ⟨digits, r, -, hkey⟩ := h
  exact belongsTo_iff.mpr ⟨_, hkey.symm⟩

/-- Digits behind the last hyphen leave no choice for what is in front of it. -/
theorem eq_of_append_hyphen {xs ys ds es : List Char}
    (hds : ∀ c ∈ ds, isDigit c = true) (hes : ∀ c ∈ es, isDigit c = true)
    (h : xs ++ '-' :: ds = ys ++ '-' :: es) : xs = ys := by
  rcases List.append_eq_append_iff.mp h with ⟨mid, hys, htail⟩ | ⟨mid, hxs, htail⟩
  · cases mid with
    | nil => rw [hys, List.append_nil]
    | cons c mid =>
        obtain ⟨-, rfl⟩ := List.cons.inj htail
        exact absurd (hds '-' (by simp)) (by decide)
  · cases mid with
    | nil => rw [hxs, List.append_nil]
    | cons c mid =>
        obtain ⟨-, rfl⟩ := List.cons.inj htail
        exact absurd (hes '-' (by simp)) (by decide)

theorem VersionOf.name_eq {name other key : String} (h : VersionOf name key)
    (hother : VersionOf other key) : name = other := by
  obtain ⟨ds, r, hds, hkey⟩ := h
  obtain ⟨es, s, hes, hkey'⟩ := hother
  have htext : (name.toList ++ '-' :: ds) ++ stampTail r =
      (other.toList ++ '-' :: es) ++ stampTail s := by
    rw [hkey] at hkey'
    simpa using hkey'
  obtain ⟨hfront, -⟩ := List.append_inj' htext (by simp [length_stampTail])
  exact String.toList_inj.mp (eq_of_append_hyphen hds hes hfront)

/-- No key begins with two names neither of which begins with the other. -/
theorem belongsTo_eq_false_of_apart {name other key : String}
    (hapart : belongsTo name other = false) (hapart' : belongsTo other name = false)
    (hkey : belongsTo other key = true) : belongsTo name key = false := by
  by_contra hname
  have hname := belongsTo_iff.mp (Bool.eq_true_of_not_eq_false hname)
  rcases List.prefix_or_prefix_of_prefix hname (belongsTo_iff.mp hkey) with hle | hle
  · rw [belongsTo_iff.mpr hle] at hapart
    cases hapart
  · rw [belongsTo_iff.mpr hle] at hapart'
    cases hapart'

end ConfigVault.Version
