import ConfigVault.Proofs.Version.Order

/-!
# The order of keys and the order of time

A timestamp fills every number with zeros to its width and goes from the year down to
the second, so texts of timestamps are in the order of their moments, and so are the
keys of one name that decode.  The order of versions is therefore made of two blocks,
each with the greatest key first: the keys that decode, and behind them the others.
-/

namespace ConfigVault

open Calendar

namespace Version

/-! ## The order of numbers of a fixed width -/

/-- Numbers with a high and a low part are in the order of the high parts first. -/
theorem mul_add_lt_mul_add_iff {size high low high' low' : Nat} (hlow : low < size)
    (hlow' : low' < size) :
    size * high + low < size * high' + low' ↔ high < high' ∨ high = high' ∧ low < low' := by
  rcases Nat.lt_trichotomy high high' with hlt | rfl | hgt
  · have hstep : size * (high + 1) ≤ size * high' := Nat.mul_le_mul_left size hlt
    rw [Nat.mul_succ] at hstep
    omega
  · omega
  · have hstep : size * (high' + 1) ≤ size * high := Nat.mul_le_mul_left size hgt
    rw [Nat.mul_succ] at hstep
    omega

theorem ofDigitChars_cons_zero (c : Char) (ds : List Char) :
    Nat.ofDigitChars 10 (c :: ds) 0 =
      10 ^ ds.length * (c.toNat - '0'.toNat) + Nat.ofDigitChars 10 ds 0 := by
  rw [Nat.ofDigitChars_cons, Nat.ofDigitChars_eq_ofDigitChars_zero, Nat.mul_zero,
    Nat.zero_add]

/-- As many digits are in the order of the numbers they spell. -/
theorem lt_iff_ofDigitChars_lt {ds es : List Char} (hlength : ds.length = es.length)
    (hds : ∀ c ∈ ds, isDigit c) (hes : ∀ c ∈ es, isDigit c) :
    ds < es ↔ Nat.ofDigitChars 10 ds 0 < Nat.ofDigitChars 10 es 0 := by
  induction ds generalizing es with
  | nil =>
      obtain rfl := List.eq_nil_of_length_eq_zero hlength.symm
      simp
  | cons c ds ih =>
      cases es with
      | nil => simp at hlength
      | cons d es =>
          have hrest : ds.length = es.length := by simpa using hlength
          have hdsRest : ∀ x ∈ ds, isDigit x := fun x hx => hds x (List.mem_cons_of_mem _ hx)
          have hesRest : ∀ x ∈ es, isDigit x := fun x hx => hes x (List.mem_cons_of_mem _ hx)
          have hc := toNat_sub_lt_of_isDigit (hds c List.mem_cons_self)
          have hd := toNat_sub_lt_of_isDigit (hes d List.mem_cons_self)
          have hltDs := ofDigitChars_lt hdsRest
          have hltEs := ofDigitChars_lt hesRest
          have hhead : c < d ↔ c.toNat - '0'.toNat < d.toNat - '0'.toNat := by
            change c.toNat < d.toNat ↔ _
            omega
          have hsame : c = d ↔ c.toNat - '0'.toNat = d.toNat - '0'.toNat := by
            rw [← Char.toNat_inj]
            omega
          rw [← hrest] at hltEs
          rw [List.cons_lt_cons_iff, ih hrest hdsRest hesRest, hhead, hsame,
            ofDigitChars_cons_zero, ofDigitChars_cons_zero, ← hrest,
            mul_add_lt_mul_add_iff hltDs hltEs]

theorem padded_lt_padded_iff {width m n : Nat} (hwidth : 1 ≤ width) (hm : m < 10 ^ width)
    (hn : n < 10 ^ width) : padded width m < padded width n ↔ m < n := by
  have hlength : (padded width m).length = (padded width n).length := by
    rw [length_padded hwidth hm, length_padded hwidth hn]
  rw [lt_iff_ofDigitChars_lt hlength (fun _ => isDigit_of_mem_padded)
    (fun _ => isDigit_of_mem_padded), ofDigitChars_padded, ofDigitChars_padded]

theorem append_lt_append_iff {xs xs' ys ys' : List Char}
    (hlength : xs.length = xs'.length) :
    xs ++ ys < xs' ++ ys' ↔ xs < xs' ∨ xs = xs' ∧ ys < ys' := by
  induction xs generalizing xs' with
  | nil =>
      obtain rfl := List.eq_nil_of_length_eq_zero hlength.symm
      simp
  | cons x xs ih =>
      cases xs' with
      | nil => simp at hlength
      | cons x' xs' =>
          have hrest : xs.length = xs'.length := by simpa using hlength
          simp only [List.cons_append, List.cons_lt_cons_iff, ih hrest, List.cons.injEq,
            and_or_left, or_assoc, and_assoc]

/-- A number in front of a text counts before what stands behind it. -/
theorem padded_append_lt_iff {width m n : Nat} (hwidth : 1 ≤ width) (hm : m < 10 ^ width)
    (hn : n < 10 ^ width) {xs ys : List Char} :
    padded width m ++ xs < padded width n ++ ys ↔ m < n ∨ m = n ∧ xs < ys := by
  have hlength : (padded width m).length = (padded width n).length := by
    rw [length_padded hwidth hm, length_padded hwidth hn]
  have hsame : padded width m = padded width n ↔ m = n := by
    constructor
    · intro heq
      rw [← ofDigitChars_padded width m, heq, ofDigitChars_padded]
    · rintro rfl
      rfl
  rw [append_lt_append_iff hlength, padded_lt_padded_iff hwidth hm hn, hsame]

/-! ## The order of stamps and keys -/

/-- Stamps are in the order of the seconds that they name. -/
theorem stamp_lt_stamp_iff {r s : Reading} :
    stamp r < stamp s ↔ r.wholeSeconds.microseconds < s.wholeSeconds.microseconds := by
  have hr := fieldsOf_fit r
  have hs := fieldsOf_fit s
  have hfour : 1 ≤ 4 := by decide
  have htwo : 1 ≤ 2 := by decide
  have hnumbers : stamp r < stamp s ↔
      r.date.Before s.date ∨ r.date = s.date ∧ r.time.seconds < s.time.seconds := by
    unfold stamp Fields.stamp
    rw [padded_append_lt_iff hfour hr.year hs.year, List.cons_lt_cons_self,
      padded_append_lt_iff htwo hr.month hs.month, List.cons_lt_cons_self,
      padded_append_lt_iff htwo hr.day hs.day, List.cons_lt_cons_self,
      padded_append_lt_iff htwo hr.hour hs.hour, List.cons_lt_cons_self,
      padded_append_lt_iff htwo hr.minute hs.minute, List.cons_lt_cons_self,
      padded_lt_padded_iff htwo hr.second hs.second]
    simp only [fieldsOf, Date.Before, Date.ext_iff, TimeOfDay.seconds_lt_iff]
    tauto
  rw [hnumbers, Reading.microseconds_lt_iff]
  simp [Reading.wholeSeconds, TimeOfDay.wholeSeconds, TimeOfDay.seconds]

/-- Keys that decode under one name are in the order of their moments. -/
theorem lt_iff_of_decode? {name a b : String} {r s : Reading}
    (ha : decode? name a = some r) (hb : decode? name b = some s) :
    a < b ↔ r.microseconds < s.microseconds := by
  obtain ⟨hkeyA, hmicroA⟩ := decode?_eq_some_iff.mp ha
  obtain ⟨hkeyB, hmicroB⟩ := decode?_eq_some_iff.mp hb
  have htexts : a < b ↔ a.toList < b.toList := Iff.rfl
  rw [htexts, hkeyA, hkeyB, append_lt_append_iff rfl, List.cons_lt_cons_self,
    stamp_lt_stamp_iff, Reading.wholeSeconds_eq_self hmicroA,
    Reading.wholeSeconds_eq_self hmicroB]
  simp

end Version

namespace Retention

open Version

/-! ## The two blocks of the order -/

/-- The order of the keys of a name, cut where the keys that do not decode begin. -/
structure Blocks (name : String) (keys decoded undecoded : List String) : Prop where
  order_eq : order name keys = decoded ++ undecoded
  perm : (order name keys).Perm (keys.filter (belongsTo name))
  decodes : ∀ key ∈ decoded, ∃ made, decode? name key = some made
  not_decodes : ∀ key ∈ undecoded, decode? name key = none
  newest_first : decoded.Pairwise fun newer older => ∀ made made',
    decode? name newer = some made → decode? name older = some made' →
      made'.microseconds < made.microseconds
  decoded_greatest_first : decoded.Pairwise fun greater less => less < greater
  undecoded_greatest_first : undecoded.Pairwise fun greater less => less < greater

/-- Among keys that do not decode, a greater one stands in front. -/
theorem lt_of_ahead_of_undecoded {name a b : String} (ha : decode? name a = none)
    (hb : decode? name b = none) (hahead : ahead name a b = true) (hne : a ≠ b) : b < a := by
  simp only [ahead, rank?, precedes, ha, hb, Option.map_none, decide_eq_true_eq] at hahead
  by_contra hnot
  exact hne (String.le_antisymm (String.not_lt.mp hnot) hahead)

theorem undecoded_pairwise (name : String) {keys : List String} (h : keys.Nodup) :
    ((order name keys).filter fun key => !(decode? name key).isSome).Pairwise
      fun greater less => less < greater := by
  have hsorted := (order_pairwise name keys).and (order_nodup h)
  refine (hsorted.filter _).imp_of_mem ?_
  rintro greater less hgreater hless ⟨hahead, hne⟩
  have hundecoded : ∀ key, key ∈ (order name keys).filter
      (fun key => !(decode? name key).isSome) → decode? name key = none := by
    intro key hkey
    simpa using (List.mem_filter.mp hkey).2
  exact lt_of_ahead_of_undecoded (hundecoded greater hgreater) (hundecoded less hless)
    hahead hne

theorem exists_blocks (name : String) {keys : List String} (h : keys.Nodup) :
    ∃ decoded undecoded, Blocks name keys decoded undecoded := by
  have hdecodes : ∀ key ∈ (order name keys).filter fun key => (decode? name key).isSome,
      ∃ made, decode? name key = some made := fun key hkey =>
    Option.isSome_iff_exists.mp (List.mem_filter.mp hkey).2
  have hlater := decoded_pairwise_isLater name h
  refine ⟨_, _, (order_eq_append name keys).symm, order_perm name keys, hdecodes, ?_, ?_, ?_,
    undecoded_pairwise name h⟩
  · intro key hkey
    simpa using (List.mem_filter.mp hkey).2
  · refine hlater.imp ?_
    intro newer older hlater made made' hmade hmade'
    obtain ⟨other, hother, hlt⟩ := isLater_iff.mp (hlater made' hmade')
    rw [hmade, Option.some.injEq] at hother
    rwa [hother]
  · refine hlater.imp_of_mem ?_
    intro newer older hnewer holder hlater
    obtain ⟨made, hmade⟩ := hdecodes newer hnewer
    obtain ⟨made', hmade'⟩ := hdecodes older holder
    obtain ⟨other, hother, hlt⟩ := isLater_iff.mp (hlater made' hmade')
    exact (lt_iff_of_decode? hmade' hother).mpr hlt

/-- The order has the keys of the name, each once, in two blocks, whatever order they are
given in.  Going from the newest to the oldest is the same for keys that decode as going
from the greatest to the least. -/
theorem order_in_blocks (name : String) {keys : List String} (hkeys : keys.Nodup) :
    (∃ decoded undecoded, Blocks name keys decoded undecoded) ∧
      (∀ others : List String, others.Perm keys → order name others = order name keys) ∧
      ∀ decoded : List String, (∀ key ∈ decoded, ∃ made, decode? name key = some made) →
        ((decoded.Pairwise fun newer older => ∀ made made', decode? name newer = some made →
            decode? name older = some made' → made'.microseconds < made.microseconds) ↔
          decoded.Pairwise fun greater less => less < greater) := by
  refine ⟨exists_blocks name hkeys, ?_, ?_⟩
  · intro others hothers
    refine order_eq_of_pairwise (hothers.nodup_iff.mpr hkeys) (order_nodup hkeys) ?_
      (order_pairwise name keys)
    intro key
    rw [mem_order, hothers.mem_iff]
  · intro decoded hdecodes
    apply List.Pairwise.iff_of_mem
    intro newer older hnewer holder
    obtain ⟨made, hmade⟩ := hdecodes newer hnewer
    obtain ⟨made', hmade'⟩ := hdecodes older holder
    rw [lt_iff_of_decode? hmade' hmade]
    constructor
    · exact fun hlt => hlt made made' hmade hmade'
    · intro hlt first second hfirst hsecond
      rw [hmade, Option.some.injEq] at hfirst
      rw [hmade', Option.some.injEq] at hsecond
      rwa [← hfirst, ← hsecond]

/-- Versions of one rule, one of them made in the first second of all, among keys that do
not decode. -/
def ruleKeys : List String :=
  ["a.rules-2024-02-30T00-00-00", "a.rules-0001-01-01T00-00-00",
    "a.rules-2024-06-03T09-00-00", "a.rules.bak", "b.rules-2024-06-03T09-00-00",
    "a.rules-1999-12-31T23-59-59"]

theorem order_in_blocks_first_second :
    ruleKeys.Nodup ∧ (∃ decoded undecoded, Blocks "a.rules" ruleKeys decoded undecoded) ∧
      order "a.rules" ruleKeys.reverse = order "a.rules" ruleKeys := by
  have hkeys : ruleKeys.Nodup := by decide
  obtain ⟨hblocks, hsame, -⟩ := order_in_blocks "a.rules" hkeys
  exact ⟨hkeys, hblocks, hsame _ ruleKeys.reverse_perm⟩

end Retention

end ConfigVault
