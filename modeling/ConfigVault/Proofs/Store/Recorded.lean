import ConfigVault.Proofs.Store.Archive
import ConfigVault.Proofs.Store.Ledger

/-!
# Versions recorded in a history

A history records lists of versions, one for each of a set of names, when its entries
are exactly the versions under their keys.  As no name begins with another, the keys
of a name are those that belong to it, and their order is that of the list.  Archiving,
trimming and deleting act on the lists one by one.
-/

namespace ConfigVault

open Calendar Version Retention

/-- No name begins with another one. -/
def Apart (Held : String → Prop) : Prop :=
  ∀ name other, Held name → Held other → name.toList <+: other.toList → name = other

/-- The history holds the versions of the names and nothing else. -/
structure Recorded (Held : String → Prop) (history : Collection)
    (versions : String → List ArchivedVersion) : Prop where
  entries : ∀ key content, history.get? key = some content ↔
    ∃ name version, Held name ∧ version ∈ versions name ∧
      key = versionKey name version.moment ∧ content = version.content
  descending : ∀ name, Held name → (versions name).Pairwise fun newer older =>
    older.moment.microseconds < newer.moment.microseconds
  seconds : ∀ name version, Held name → version ∈ versions name →
    1000 ≤ version.moment.date.year ∧ version.moment.wholeSeconds = version.moment

namespace Recorded

variable {Held : String → Prop} {history : Collection}
  {versions : String → List ArchivedVersion} {name : String}

theorem nil (Held : String → Prop) : Recorded Held KeyMap.empty fun _ => [] := by
  constructor
  · simp
  · exact fun _ _ => List.Pairwise.nil
  · simp

theorem belongsTo_iff (hapart : Apart Held) (hname : Held name) {other : String}
    (hother : Held other) (moment : Reading) :
    belongsTo name (versionKey other moment) = true ↔ name = other := by
  refine belongsTo_versionKey_iff ?_ ?_
  · exact fun h => hapart name other hname hother (Version.belongsTo_iff.mp h)
  · exact fun h => hapart other name hother hname (Version.belongsTo_iff.mp h)

variable (hrecorded : Recorded Held history versions) (hapart : Apart Held)
  (hname : Held name)

include hrecorded hname

theorem decode?_eq {version : ArchivedVersion} (hmem : version ∈ versions name) :
    decode? name (versionKey name version.moment) = some version.moment := by
  obtain ⟨hyear, hwhole⟩ := hrecorded.seconds name version hname hmem
  rw [decode?_versionKey name hyear, hwhole]

theorem get?_eq {version : ArchivedVersion} (hmem : version ∈ versions name) :
    history.get? (versionKey name version.moment) = some version.content :=
  (hrecorded.entries _ _).mpr ⟨name, version, hname, hmem, rfl, rfl⟩

theorem keys_nodup :
    ((versions name).map fun version => versionKey name version.moment).Nodup := by
  rw [List.nodup_iff_pairwise_ne, List.pairwise_map]
  refine (hrecorded.descending name hname).imp_of_mem ?_
  intro newer older hnewer holder hlt heq
  have hnewer := hrecorded.decode?_eq hname hnewer
  rw [heq, hrecorded.decode?_eq hname holder] at hnewer
  rw [Option.some.inj hnewer] at hlt
  exact Nat.lt_irrefl _ hlt

include hapart

/-- The entries under keys of a name are the versions of its list. -/
theorem get?_eq_some_iff {key content : String} (hbelongs : belongsTo name key = true) :
    history.get? key = some content ↔
      ∃ version ∈ versions name,
        key = versionKey name version.moment ∧ content = version.content := by
  rw [hrecorded.entries]
  constructor
  · rintro ⟨other, version, hother, hmem, rfl, hcontent⟩
    rw [belongsTo_iff hapart hname hother] at hbelongs
    subst hbelongs
    exact ⟨version, hmem, rfl, hcontent⟩
  · rintro ⟨version, hmem, hkey, hcontent⟩
    exact ⟨name, version, hname, hmem, hkey, hcontent⟩

theorem order_eq : order name history.keys =
    (versions name).map fun version => versionKey name version.moment := by
  apply order_eq_of_pairwise (KeyMap.keys_nodup _) (hrecorded.keys_nodup hname)
  · intro key
    rw [List.mem_map, KeyMap.mem_keys_iff]
    constructor
    · rintro ⟨version, hmem, rfl⟩
      exact ⟨⟨_, hrecorded.get?_eq hname hmem⟩, belongsTo_versionKey _ _⟩
    · rintro ⟨⟨content, hcontent⟩, hbelongs⟩
      obtain ⟨version, hmem, hkey, -⟩ :=
        (hrecorded.get?_eq_some_iff hapart hname hbelongs).mp hcontent
      exact ⟨version, hmem, hkey.symm⟩
  · rw [List.pairwise_map]
    refine (hrecorded.descending name hname).imp_of_mem ?_
    intro newer older hnewer holder hlt
    simp only [ahead, rank?, precedes, hrecorded.decode?_eq hname hnewer,
      hrecorded.decode?_eq hname holder, Option.map_some, Bool.or_eq_true]
    exact .inl (decide_eq_true hlt)

theorem labelsIn_eq : Store.labelsIn name history =
    (versions name).map fun version => formatTimestamp version.moment := by
  rw [Store.labelsIn, hrecorded.order_eq hapart hname, List.map_map]
  simp only [Function.comp_def, label_versionKey]

theorem versionsIn_eq : Store.versionsIn name history = versions name := by
  rw [Store.versionsIn, hrecorded.order_eq hapart hname, List.filterMap_map]
  calc
    _ = (versions name).filterMap some := by
      apply List.filterMap_congr
      intro version hmem
      simp only [Function.comp_apply, hrecorded.decode?_eq hname hmem,
        hrecorded.get?_eq hname hmem]
    _ = versions name := List.filterMap_some

theorem get?_versionKey {moment : Reading} (hmoment : moment.wholeSeconds = moment) :
    history.get? (versionKey name moment) =
      ((versions name).find? fun version => version.moment = moment).map
        ArchivedVersion.content := by
  cases hfind : (versions name).find? fun version => version.moment = moment with
  | some version =>
      have hmem := List.mem_of_find?_eq_some hfind
      have hfound := List.find?_some hfind
      simp only [decide_eq_true_eq] at hfound
      rw [← hfound, hrecorded.get?_eq hname hmem]
      rfl
  | none =>
      rw [List.find?_eq_none] at hfind
      cases hget : history.get? (versionKey name moment) with
      | none => rfl
      | some content =>
          obtain ⟨version, hmem, hkey, -⟩ :=
            (hrecorded.get?_eq_some_iff hapart hname (belongsTo_versionKey _ _)).mp hget
          have hsame := versionKey_self_inj.mp hkey
          rw [hmoment, (hrecorded.seconds _ _ hname hmem).2] at hsame
          exact absurd (decide_eq_true hsame.symm) (hfind version hmem)

/-! ## Changes of the lists -/

/-- A history that differs in the entries of one name records another list for it. -/
theorem replace {history' : Collection} {list : List ArchivedVersion}
    (hforeign : ∀ key, belongsTo name key = false → history'.get? key = history.get? key)
    (hown : ∀ key content, belongsTo name key = true →
      (history'.get? key = some content ↔ ∃ version ∈ list,
        key = versionKey name version.moment ∧ content = version.content))
    (hdescending : list.Pairwise fun newer older =>
      older.moment.microseconds < newer.moment.microseconds)
    (hseconds : ∀ version ∈ list, 1000 ≤ version.moment.date.year ∧
      version.moment.wholeSeconds = version.moment) :
    Recorded Held history' (Function.update versions name list) := by
  constructor
  · intro key content
    -- An entry of a history is one of the name that changes or of another one, never of
    -- both, because the names stand apart.
    cases hbelongs : belongsTo name key with
    | true =>
        rw [hown key content hbelongs]
        constructor
        · rintro ⟨version, hmem, hkey, hcontent⟩
          exact ⟨name, version, hname, by simpa using hmem, hkey, hcontent⟩
        · rintro ⟨other, version, hother, hmem, rfl, hcontent⟩
          rw [belongsTo_iff hapart hname hother] at hbelongs
          subst hbelongs
          rw [Function.update_self] at hmem
          exact ⟨version, hmem, rfl, hcontent⟩
    | false =>
        have hne : ∀ {other : String} {moment : Reading},
            key = versionKey other moment → other ≠ name := by
          rintro _ moment hkey rfl
          rw [hkey, belongsTo_versionKey] at hbelongs
          cases hbelongs
        rw [hforeign key hbelongs, hrecorded.entries]
        constructor
        · rintro ⟨other, version, hother, hmem, hkey, hcontent⟩
          refine ⟨other, version, hother, ?_, hkey, hcontent⟩
          rwa [Function.update_of_ne (hne hkey)]
        · rintro ⟨other, version, hother, hmem, hkey, hcontent⟩
          rw [Function.update_of_ne (hne hkey)] at hmem
          exact ⟨other, version, hother, hmem, hkey, hcontent⟩
  · intro other hother
    by_cases hne : other = name
    · subst hne
      rwa [Function.update_self]
    · rw [Function.update_of_ne hne]
      exact hrecorded.descending other hother
  · intro other version hother hmem
    by_cases hne : other = name
    · subst hne
      rw [Function.update_self] at hmem
      exact hseconds version hmem
    · rw [Function.update_of_ne hne] at hmem
      exact hrecorded.seconds other version hother hmem

theorem delete : Recorded Held (history.filter fun key => !belongsTo name key)
    (Function.update versions name []) := by
  apply hrecorded.replace hapart hname
  · intro key hbelongs
    rw [KeyMap.get?_filter, hbelongs, if_pos (by rfl)]
  · intro key content hbelongs
    rw [KeyMap.get?_filter, hbelongs, if_neg (by simp)]
    simp
  · exact List.Pairwise.nil
  · simp

/-- A value archived in a second later than the versions of its name comes first. -/
theorem push {now : Reading} (hyear : 1000 ≤ now.date.year)
    (hlater : ∀ version ∈ versions name,
      version.moment.microseconds < now.wholeSeconds.microseconds) (previous : String) :
    Recorded Held (history.insert (versionKey name now) previous)
      (Function.update versions name (⟨now.wholeSeconds, previous⟩ :: versions name)) := by
  have hfresh : ∀ version ∈ versions name,
      versionKey name now ≠ versionKey name version.moment := by
    intro version hmem hkey
    have hsame := versionKey_self_inj.mp hkey
    rw [(hrecorded.seconds _ _ hname hmem).2] at hsame
    have hlt := hlater version hmem
    rw [hsame] at hlt
    exact Nat.lt_irrefl _ hlt
  apply hrecorded.replace hapart hname
  · intro key hbelongs
    rw [KeyMap.get?_insert, if_neg]
    rintro rfl
    rw [belongsTo_versionKey] at hbelongs
    cases hbelongs
  · intro key content hbelongs
    rw [KeyMap.get?_insert]
    by_cases hkey : versionKey name now = key
    · subst hkey
      rw [if_pos rfl]
      constructor
      · intro hcontent
        exact ⟨_, List.mem_cons_self, rfl, (Option.some.inj hcontent).symm⟩
      · rintro ⟨version, hmem, hkey, hcontent⟩
        rcases List.mem_cons.mp hmem with rfl | hmem
        · rw [hcontent]
        · exact absurd hkey (hfresh version hmem)
    · rw [if_neg hkey, hrecorded.get?_eq_some_iff hapart hname hbelongs]
      constructor
      · rintro ⟨version, hmem, hversion⟩
        exact ⟨version, List.mem_cons_of_mem _ hmem, hversion⟩
      · rintro ⟨version, hmem, hversion, hcontent⟩
        rcases List.mem_cons.mp hmem with rfl | hmem
        · exact absurd hversion.symm hkey
        · exact ⟨version, hmem, hversion, hcontent⟩
  · exact List.pairwise_cons.mpr ⟨hlater, hrecorded.descending name hname⟩
  · intro version hmem
    rcases List.mem_cons.mp hmem with rfl | hmem
    · exact ⟨hyear, rfl⟩
    · exact hrecorded.seconds name version hname hmem

/-! ## Trimming -/

/-- A version leaves when it is behind the newest ones and old enough. -/
theorem versionKey_mem_evictions_iff {limits : Retention} {now : Reading}
    {evicted : List String} (hkeep : 0 ≤ limits.keep)
    (hevicted : evictions limits name (.utc now) history.keys = .ok evicted)
    {version : ArchivedVersion} (hmem : version ∈ versions name) :
    versionKey name version.moment ∈ evicted ↔
      version ∈ (versions name).drop limits.keep.toNat ∧
        limits.hours * 3600000000 ≤
          (now.microseconds : Int) - version.moment.microseconds := by
  have hdecoded := hrecorded.decode?_eq hname hmem
  have hplace : versionKey name version.moment ∈
        (order name history.keys).drop limits.keep.toNat ↔
      version ∈ (versions name).drop limits.keep.toNat := by
    rw [hrecorded.order_eq hapart hname, ← List.map_drop, List.mem_map]
    constructor
    · rintro ⟨other, hother, hkey⟩
      rwa [List.inj_on_of_nodup_map (hrecorded.keys_nodup hname)
        (List.mem_of_mem_drop hother) hmem hkey] at hother
    · exact fun hdrop => ⟨version, hdrop, rfl⟩
  rw [mem_evictions_iff_mem_drop hkeep hevicted, ← hplace]
  constructor
  · rintro ⟨hdrop, hexpired⟩
    refine ⟨hdrop, ?_⟩
    exact (isExpired_eq_ok_true_iff hdecoded (utcMicroseconds?_utc now) hexpired).mp hexpired
  · rintro ⟨hdrop, hage⟩
    obtain ⟨passes, hpasses⟩ := exists_isExpired_of_evictions hkeep hevicted hdrop
    refine ⟨hdrop, ?_⟩
    exact (isExpired_eq_ok_true_iff hdecoded (utcMicroseconds?_utc now) hpasses).mpr hage

omit hapart in
theorem versions_nodup : (versions name).Nodup :=
  (hrecorded.keys_nodup hname).of_map _

omit hapart in
theorem mem_kept_iff (limits : Retention) (now : Reading) (version : ArchivedVersion) :
    version ∈ Ledger.kept limits now (versions name) ↔
      version ∈ versions name ∧
        ¬(version ∈ (versions name).drop limits.keep.toNat ∧
          limits.hours * 3600000000 ≤
            (now.microseconds : Int) - version.moment.microseconds) := by
  have hdisjoint := List.disjoint_take_drop (hrecorded.versions_nodup hname)
    (le_refl limits.keep.toNat)
  rw [Ledger.kept, List.mem_append, List.mem_filter, decide_eq_true_iff, ← not_le]
  constructor
  · rintro (htake | ⟨hdrop, hyoung⟩)
    · exact ⟨List.mem_of_mem_take htake, fun h => hdisjoint htake h.1⟩
    · exact ⟨List.mem_of_mem_drop hdrop, fun h => hyoung h.2⟩
  · rintro ⟨hmem, hstays⟩
    rw [← List.take_append_drop limits.keep.toNat (versions name), List.mem_append] at hmem
    rcases hmem with htake | hdrop
    · exact .inl htake
    · exact .inr ⟨hdrop, fun hage => hstays ⟨hdrop, hage⟩⟩

theorem trim {limits : Retention} {now : Reading} {evicted : List String}
    (hkeep : 0 ≤ limits.keep)
    (hevicted : evictions limits name (.utc now) history.keys = .ok evicted) :
    Recorded Held (history.filter fun key => !evicted.contains key)
      (Function.update versions name (Ledger.kept limits now (versions name))) := by
  have hsub : List.Sublist (Ledger.kept limits now (versions name)) (versions name) := by
    conv_rhs => rw [← List.take_append_drop limits.keep.toNat (versions name)]
    exact List.Sublist.append_left List.filter_sublist _
  apply hrecorded.replace hapart hname
  · intro key hbelongs
    have hstays : key ∉ evicted := by
      intro hmem
      have horder := ((mem_evictions_iff_mem_drop hkeep hevicted key).mp hmem).1
      have hown := (mem_order.mp (List.mem_of_mem_drop horder)).2
      rw [hbelongs] at hown
      cases hown
    rw [KeyMap.get?_filter, if_pos (by simpa using hstays)]
  · intro key content hbelongs
    rw [KeyMap.get?_filter]
    constructor
    · intro hget
      split at hget
      · next hstays =>
          obtain ⟨version, hmem, rfl, hcontent⟩ :=
            (hrecorded.get?_eq_some_iff hapart hname hbelongs).mp hget
          refine ⟨version, ?_, rfl, hcontent⟩
          rw [hrecorded.mem_kept_iff hname,
            ← hrecorded.versionKey_mem_evictions_iff hapart hname hkeep hevicted hmem]
          exact ⟨hmem, by simpa using hstays⟩
      · cases hget
    · rintro ⟨version, hkept, rfl, rfl⟩
      rw [hrecorded.mem_kept_iff hname] at hkept
      obtain ⟨hmem, hstays⟩ := hkept
      rw [← hrecorded.versionKey_mem_evictions_iff hapart hname hkeep hevicted hmem]
        at hstays
      rw [if_pos (by simpa using hstays)]
      exact hrecorded.get?_eq hname hmem
  · exact (hrecorded.descending name hname).sublist hsub
  · exact fun version hmem => hrecorded.seconds name version hname (hsub.subset hmem)

/-- Archiving a value in a later second pushes it onto the list of its name and trims
the list. -/
theorem archive {limits : Retention} {clock : Moment} {now : Reading} {span : Int}
    (hkeep : 0 ≤ limits.keep) (hspan : span? limits.hours = some span)
    (hnow : clock.inUtc? = some now) (hyear : 1000 ≤ now.date.year)
    (hlater : ∀ version ∈ versions name,
      version.moment.microseconds < now.wholeSeconds.microseconds) (previous : String) :
    ∃ archived, Store.archive limits name previous clock history = .ok archived ∧
      Recorded Held archived (Function.update versions name
        (Ledger.kept limits now (⟨now.wholeSeconds, previous⟩ :: versions name))) := by
  have hpushed := hrecorded.push hapart hname hyear hlater previous
  obtain ⟨evicted, hevicted⟩ : ∃ evicted, evictions limits name (.utc now)
      (history.insert (versionKey name now) previous).keys = .ok evicted :=
    exists_evictions_eq_ok hspan (utcMicroseconds?_utc now) _
  refine ⟨_, (Store.archive_eq_ok_iff hnow).mpr ⟨evicted, hevicted, rfl⟩, ?_⟩
  have htrimmed := hpushed.trim hapart hname hkeep hevicted
  rwa [Function.update_idem, Function.update_self] at htrimmed

end Recorded

end ConfigVault
