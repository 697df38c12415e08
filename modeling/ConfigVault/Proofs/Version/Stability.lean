import ConfigVault.Proofs.Version.Rule

/-!
# Retention over time

A history that is trimmed at one time and again at a later one is the history that the
later time alone leaves.  The reason is that trimming never takes one of the newest
versions that are kept in any case, so among the versions that stay the same ones as
before have enough newer ones.
-/

namespace ConfigVault.Retention

open Calendar Version

variable {limits : Retention} {name : String} {now earlier later : Moment} {s t span : Int}
  {keys evicted : List String} {key : String} {made : Reading}

/-- The newest keys, as many as are kept, never leave. -/
theorem not_mem_evictions_of_mem_take (hkeep : 0 ≤ limits.keep) (hkeys : keys.Nodup)
    (h : evictions limits name now keys = .ok evicted)
    (hkey : key ∈ (order name keys).take limits.keep.toNat) : key ∉ evicted := by
  intro hgone
  have hdrop := ((mem_evictions_iff_mem_drop hkeep h key).mp hgone).1
  have hdisjoint : List.Disjoint ((order name keys).take limits.keep.toNat)
      ((order name keys).drop limits.keep.toNat) :=
    List.disjoint_take_drop (order_nodup hkeys) le_rfl
  exact hdisjoint hkey hdrop

/-- A key has enough later ones among those that stay if it had enough before. -/
theorem keep_le_length_laterKeys_filter_iff (hkeep : 0 ≤ limits.keep) (hkeys : keys.Nodup)
    (h : evictions limits name now keys = .ok evicted) (hkey : key ∈ keys)
    (hmade : decode? name key = some made) :
    limits.keep ≤ ((laterKeys name made
        (keys.filter fun key => !evicted.contains key)).length : Int) ↔
      limits.keep ≤ ((laterKeys name made keys).length : Int) := by
  constructor
  · intro hplace
    have hle : (laterKeys name made (keys.filter fun key => !evicted.contains key)).length ≤
        (laterKeys name made keys).length :=
      (List.filter_sublist.filter _).length_le
    omega
  · intro hplace
    have hmem : key ∈ order name keys := mem_order.mpr ⟨hkey, belongsTo_of_decode? hmade⟩
    obtain ⟨before, after, hsplit⟩ := List.append_of_mem hmem
    have hsorted := order_pairwise name keys
    have hdistinct : (order name keys).Nodup := order_nodup hkeys
    rw [hsplit] at hsorted hdistinct
    have hbefore : laterKeys name made (order name keys) = before := by
      rw [hsplit]
      exact laterKeys_eq_of_append hmade hdistinct hsorted
    have hlength : limits.keep.toNat ≤ before.length := by
      rw [← length_laterKeys_order, hbefore] at hplace
      omega
    have hfront : (order name keys).take limits.keep.toNat =
        before.take limits.keep.toNat := by
      rw [hsplit, List.take_append_of_le_length hlength]
    -- The newest keys are later than this one, and all of them stay.
    have hstay : before.take limits.keep.toNat ⊆
        laterKeys name made (keys.filter fun key => !evicted.contains key) := by
      intro other hother
      have hnewest : other ∉ evicted :=
        not_mem_evictions_of_mem_take hkeep hkeys h (hfront ▸ hother)
      have hbeforeMem : other ∈ laterKeys name made (order name keys) := by
        rw [hbefore]
        exact List.mem_of_mem_take hother
      obtain ⟨horder, hlater⟩ := List.mem_filter.mp hbeforeMem
      have hotherKeys : other ∈ keys := (mem_order.mp horder).1
      exact List.mem_filter.mpr
        ⟨List.mem_filter.mpr ⟨hotherKeys, by simpa using hnewest⟩, hlater⟩
    have hnodup : (before.take limits.keep.toNat).Nodup := by
      have hbeforeNodup : before.Nodup := (List.nodup_append.mp hdistinct).1
      exact hbeforeNodup.sublist (List.take_sublist _ _)
    have hle := (hnodup.subperm hstay).length_le
    rw [List.length_take_of_le hlength] at hle
    omega

theorem due_filter_iff (hkeep : 0 ≤ limits.keep) (hkeys : keys.Nodup)
    (h : evictions limits name now keys = .ok evicted) (hkey : key ∈ keys) :
    limits.Due name t (keys.filter fun key => !evicted.contains key) key ↔
      limits.Due name t keys key := by
  constructor
  · rintro ⟨made, hmade, hplace, hage⟩
    rw [keep_le_length_laterKeys_filter_iff hkeep hkeys h hkey hmade] at hplace
    exact ⟨made, hmade, hplace, hage⟩
  · rintro ⟨made, hmade, hplace, hage⟩
    rw [← keep_le_length_laterKeys_filter_iff hkeep hkeys h hkey hmade] at hplace
    exact ⟨made, hmade, hplace, hage⟩

theorem mem_keys_trimmed {history : Collection} :
    key ∈ (history.filter fun key => !evicted.contains key).keys ↔
      key ∈ history.keys ∧ key ∉ evicted := by
  rw [KeyMap.keys_filter, List.mem_filter]
  simp

section

variable (hkeep : 0 ≤ limits.keep) (hspan : span? limits.hours = some span)
  (hnow : now.utcMicroseconds? = some s) (hlater : later.utcMicroseconds? = some t)

include hkeep hspan hlater

/-- What is due later among the keys that stay is what is due later among all of them,
less what has left. -/
theorem exists_evictions_filter (hkeys : keys.Nodup)
    (h : evictions limits name now keys = .ok evicted) :
    ∃ rest, evictions limits name later (keys.filter fun key => !evicted.contains key) =
        .ok rest ∧
      ∀ key, key ∈ rest ↔ key ∈ keys ∧ key ∉ evicted ∧ limits.Due name t keys key := by
  obtain ⟨rest, hrest, hmem⟩ :=
    exists_evictions_mem_iff_due hkeep hspan hlater name (hkeys.filter fun key =>
      !evicted.contains key)
  refine ⟨rest, hrest, ?_⟩
  intro key
  rw [hmem, List.mem_filter]
  constructor
  · rintro ⟨⟨hkey, hstays⟩, hdue⟩
    exact ⟨hkey, by simpa using hstays, (due_filter_iff hkeep hkeys h hkey).mp hdue⟩
  · rintro ⟨hkey, hstays, hdue⟩
    exact ⟨⟨hkey, by simpa using hstays⟩, (due_filter_iff hkeep hkeys h hkey).mpr hdue⟩

include hnow

theorem exists_trim_trimmed (hle : s ≤ t) (history : Collection)
    (h : evictions limits name now history.keys = .ok evicted) :
    ∃ gone rest, evictions limits name later history.keys = .ok gone ∧
      trim limits name later (history.filter fun key => !evicted.contains key) =
        .ok (history.filter fun key => !gone.contains key, rest) ∧
      (∀ key, key ∈ evicted → key ∈ gone) ∧
      ∀ key, key ∈ rest ↔ key ∈ gone ∧ key ∉ evicted := by
  obtain ⟨gone, hgone, hgoneMem⟩ :=
    exists_evictions_mem_iff_due hkeep hspan hlater name history.keys_nodup
  obtain ⟨rest, hrest, hrestMem⟩ :=
    exists_evictions_filter hkeep hspan hlater history.keys_nodup h
  have hevicted := mem_evictions_iff hkeep history.keys_nodup hnow h
  have hsubset : ∀ key, key ∈ evicted → key ∈ gone := by
    intro key hkey
    obtain ⟨hmem, hdue⟩ := (hevicted key).mp hkey
    have hdue : limits.Due name s history.keys key := hdue
    exact (hgoneMem key).mpr ⟨hmem, hdue.of_le hle⟩
  have hdifference : ∀ key, key ∈ rest ↔ key ∈ gone ∧ key ∉ evicted := by
    intro key
    rw [hrestMem, hgoneMem]
    tauto
  refine ⟨gone, rest, hgone, ?_, hsubset, hdifference⟩
  rw [← KeyMap.keys_filter] at hrest
  rw [trim_eq_ok hrest]
  congr 2
  ext1 key
  simp only [KeyMap.get?_filter, List.contains_eq_mem, Bool.not_eq_true',
    decide_eq_false_iff_not]
  by_cases hkey : key ∈ evicted
  · simp [hkey, hsubset key hkey]
  · by_cases hmem : key ∈ gone <;> simp [hkey, hmem, hdifference]

end

/-- Trimming a history at one time and again at a later one leaves what the later time
alone leaves; in particular a second trimming at the same time takes nothing, and the
later time takes at least as much.  No version that stays is due, neither among all
versions nor among those that stay, and with a version all newer ones stay. -/
theorem trim_stable (name : String) (hkeep : 0 ≤ limits.keep)
    (hspan : span? limits.hours = some span) (hearlier : earlier.utcMicroseconds? = some s)
    (hlater : later.utcMicroseconds? = some t) (hle : s ≤ t) (history : Collection) :
    ∃ first gone second goneLater,
      trim limits name earlier history = .ok (first, gone) ∧
      trim limits name later history = .ok (second, goneLater) ∧
      (∃ rest, trim limits name later first = .ok (second, rest)) ∧
      trim limits name earlier first = .ok (first, []) ∧
      (∀ key, key ∈ gone → key ∈ goneLater) ∧
      (∀ key, key ∈ first.keys →
        ¬limits.Due name s history.keys key ∧ ¬limits.Due name s first.keys key) ∧
      (∀ key other made newer, key ∈ first.keys → decode? name key = some made →
        other ∈ history.keys → decode? name other = some newer →
        made.microseconds < newer.microseconds → other ∈ first.keys) := by
  obtain ⟨gone, hgone, hmem⟩ :=
    exists_evictions_mem_iff_due hkeep hspan hearlier name history.keys_nodup
  obtain ⟨goneLater, rest, hgoneLater, hrest, hsubset, -⟩ :=
    exists_trim_trimmed hkeep hspan hearlier hlater hle history hgone
  obtain ⟨same, nothing, hsame, hnothing, -, hnone⟩ :=
    exists_trim_trimmed hkeep hspan hearlier hearlier le_rfl history hgone
  obtain rfl : gone = same := Except.ok.inj (hgone.symm.trans hsame)
  obtain rfl : nothing = [] := by
    apply List.eq_nil_iff_forall_not_mem.mpr
    intro key hkey
    obtain ⟨hin, hout⟩ := (hnone key).mp hkey
    exact hout hin
  have hstays : ∀ key, key ∈ (history.filter fun key => !gone.contains key).keys →
      key ∈ history.keys ∧ ¬limits.Due name s history.keys key := by
    intro key hkey
    obtain ⟨hin, hout⟩ := mem_keys_trimmed.mp hkey
    exact ⟨hin, fun hdue => hout ((hmem key).mpr ⟨hin, hdue⟩)⟩
  refine ⟨_, gone, _, goneLater, trim_eq_ok hgone, trim_eq_ok hgoneLater, ⟨rest, hrest⟩,
    hnothing, hsubset, ?_, ?_⟩
  · intro key hkey
    obtain ⟨hin, hnot⟩ := hstays key hkey
    refine ⟨hnot, ?_⟩
    rw [KeyMap.keys_filter, due_filter_iff hkeep history.keys_nodup hgone hin]
    exact hnot
  · intro key other made newer hkey hmade hother hnewer hlt
    obtain ⟨-, hnot⟩ := hstays key hkey
    refine mem_keys_trimmed.mpr ⟨hother, fun hleft => hnot ?_⟩
    obtain ⟨-, hdue⟩ := (hmem other).mp hleft
    exact hdue.of_older hnewer hmade hlt

def lateMorning : Reading := { morning with time := ⟨11, 30, 0, 0, by decide⟩ }

/-- Three versions of a rule, of which one is due in the morning and two are in the afternoon. -/
theorem trim_stable_until_afternoon :
    let limits : Retention := ⟨1, 2⟩
    let history : Collection := .ofList (mixedKeys.map fun key => (key, "text of " ++ key))
    0 ≤ limits.keep ∧ span? limits.hours = some 7200000000 ∧
      (Moment.utc lateMorning).utcMicroseconds? = some (lateMorning.microseconds : Int) ∧
      (Moment.utc afternoon).utcMicroseconds? = some (afternoon.microseconds : Int) ∧
      (lateMorning.microseconds : Int) ≤ afternoon.microseconds ∧
      ∃ first second rest,
        trim limits "a.rules" (.utc lateMorning) history =
          .ok (first, ["a.rules-2024-06-03T09-00-00"]) ∧
        trim limits "a.rules" (.utc afternoon) history =
          .ok (second, ["a.rules-2024-06-03T10-00-00", "a.rules-2024-06-03T09-00-00"]) ∧
        trim limits "a.rules" (.utc afternoon) first = .ok (second, rest) ∧
        trim limits "a.rules" (.utc lateMorning) first = .ok (first, []) ∧
        first.keys = mixedKeys.filter (· ≠ "a.rules-2024-06-03T09-00-00") := by
  intro limits history
  have hkeep : 0 ≤ limits.keep := by decide
  have hspan : span? limits.hours = some 7200000000 := by decide
  have hle : (lateMorning.microseconds : Int) ≤ afternoon.microseconds := by decide
  have hearlier := utcMicroseconds?_utc lateMorning
  have hlater := utcMicroseconds?_utc afternoon
  have hhistory : history.keys = mixedKeys := by decide +kernel
  have horder : order "a.rules" mixedKeys =
      ["a.rules-2024-06-03T11-00-00", "a.rules-2024-06-03T10-00-00",
        "a.rules-2024-06-03T09-00-00", "a.rules.bak", "a.rules-old-2020-01-01T00-00-00"] :=
    order_eq_of_perm (by decide) (by decide +kernel) (by decide +kernel)
  have hgone : evictions limits "a.rules" (.utc lateMorning) history.keys =
      .ok ["a.rules-2024-06-03T09-00-00"] := by
    rw [evictions, hhistory, horder]
    decide +kernel
  have hgoneLater : evictions limits "a.rules" (.utc afternoon) history.keys =
      .ok ["a.rules-2024-06-03T10-00-00", "a.rules-2024-06-03T09-00-00"] := by
    rw [evictions, hhistory, horder]
    decide +kernel
  obtain ⟨first, gone, second, goneLater, hfirst, hsecond, ⟨rest, hrest⟩, hagain, -⟩ :=
    trim_stable "a.rules" hkeep hspan hearlier hlater hle history
  rw [trim_eq_ok hgone] at hfirst
  rw [trim_eq_ok hgoneLater] at hsecond
  cases hfirst
  cases hsecond
  refine ⟨hkeep, hspan, hearlier, hlater, hle, _, _, rest, trim_eq_ok hgone,
    trim_eq_ok hgoneLater, hrest, hagain, ?_⟩
  decide +kernel

end ConfigVault.Retention
