import ConfigVault.Proofs.KeyMap
import ConfigVault.Proofs.Version.Eviction

/-!
# The rule of retention

Retention puts keys in order and looks at places in it, but what it decides can be said
without an order.  A key is due when it decodes, when as many keys as are kept decode to
later moments, and when its moment lies as far back as the limits ask.  The keys that
leave a history are those that are due, so keys of other artifacts neither leave it nor
make a difference to those that do.
-/

namespace ConfigVault.Retention

open Calendar Version

variable {limits : Retention} {name : String} {now : Moment} {s t span : Int}
  {keys others : List String} {history : Collection} {key : String}

/-- Whether a key has to leave the given ones at a time on the scale of UTC. -/
def Due (limits : Retention) (name : String) (t : Int) (keys : List String)
    (key : String) : Prop :=
  ∃ made, decode? name key = some made ∧
    limits.keep ≤ ((laterKeys name made keys).length : Int) ∧
    limits.hours * 3600000000 ≤ t - made.microseconds

theorem Due.of_le (hdue : limits.Due name s keys key) (hle : s ≤ t) :
    limits.Due name t keys key := by
  obtain ⟨made, hmade, hplace, hage⟩ := hdue
  exact ⟨made, hmade, hplace, by omega⟩

theorem Due.of_length_le (hdue : limits.Due name t keys key)
    (hlength : ∀ made, decode? name key = some made →
      (laterKeys name made keys).length ≤ (laterKeys name made others).length) :
    limits.Due name t others key := by
  obtain ⟨made, hmade, hplace, hage⟩ := hdue
  have hle := hlength made hmade
  exact ⟨made, hmade, by omega, hage⟩

/-- Versions before one that is due are due as well. -/
theorem Due.of_older {other : String} {older made : Reading}
    (hdue : limits.Due name t keys key) (hmade : decode? name key = some made)
    (hother : decode? name other = some older)
    (hlt : older.microseconds < made.microseconds) : limits.Due name t keys other := by
  obtain ⟨made', hmade', hplace, hage⟩ := hdue
  obtain rfl : made = made' := Option.some.inj (hmade.symm.trans hmade')
  have hlater : (laterKeys name made keys).length ≤ (laterKeys name older keys).length := by
    unfold laterKeys
    apply List.Sublist.length_le
    apply List.monotone_filter_right
    intro key hkey
    obtain ⟨moment, hmoment, hafter⟩ := isLater_iff.mp hkey
    exact isLater_iff.mpr ⟨moment, hmoment, hlt.trans hafter⟩
  exact ⟨older, hother, by omega, by omega⟩

theorem length_laterKeys_congr (hkeys : keys.Nodup) (hothers : others.Nodup)
    (hsame : ∀ key, decode? name key ≠ none → (key ∈ others ↔ key ∈ keys))
    (made : Reading) :
    (laterKeys name made others).length = (laterKeys name made keys).length := by
  have hperm : (laterKeys name made others).Perm (laterKeys name made keys) := by
    rw [laterKeys, laterKeys,
      List.perm_ext_iff_of_nodup (hothers.filter _) (hkeys.filter _)]
    intro key
    rw [List.mem_filter, List.mem_filter]
    refine and_congr_left fun hlater => ?_
    obtain ⟨moment, hmoment, -⟩ := isLater_iff.mp hlater
    exact hsame key (by simp [hmoment])
  exact hperm.length_eq

theorem due_congr (hkeys : keys.Nodup) (hothers : others.Nodup)
    (hsame : ∀ key, decode? name key ≠ none → (key ∈ others ↔ key ∈ keys)) :
    limits.Due name t others key ↔ limits.Due name t keys key := by
  have hlength := length_laterKeys_congr hkeys hothers hsame
  constructor
  · exact fun hdue => hdue.of_length_le fun made _ => (hlength made).le
  · exact fun hdue => hdue.of_length_le fun made _ => (hlength made).ge

/-! ## What leaves -/

theorem trim_eq_ok {evicted : List String}
    (h : evictions limits name now history.keys = .ok evicted) :
    trim limits name now history =
      .ok (history.filter fun key => !evicted.contains key, evicted) := by
  simp only [trim, h, Except.map]

section

variable (hkeep : 0 ≤ limits.keep) (hspan : span? limits.hours = some span)
  (hnow : now.utcMicroseconds? = some t)

include hkeep hspan hnow

theorem exists_evictions_mem_iff_due (name : String) (hkeys : keys.Nodup) :
    ∃ evicted, evictions limits name now keys = .ok evicted ∧
      ∀ key, key ∈ evicted ↔ key ∈ keys ∧ limits.Due name t keys key := by
  obtain ⟨evicted, hevicted⟩ : ∃ evicted, evictions limits name now keys = .ok evicted :=
    exists_evictions_eq_ok hspan hnow keys
  exact ⟨evicted, hevicted, fun key => mem_evictions_iff hkeep hkeys hnow hevicted key⟩

theorem exists_trim_get?_eq (name : String) (history : Collection) :
    ∃ trimmed evicted, trim limits name now history = .ok (trimmed, evicted) ∧
      evictions limits name now history.keys = .ok evicted ∧
      (∀ key, key ∈ evicted ↔
        key ∈ history.keys ∧ limits.Due name t history.keys key) ∧
      ∀ key, trimmed.get? key = if key ∈ evicted then none else history.get? key := by
  obtain ⟨evicted, hevicted, hmem⟩ := exists_evictions_mem_iff_due hkeep hspan
    hnow name history.keys_nodup
  exact ⟨_, evicted, trim_eq_ok hevicted, hevicted, hmem,
    history.get?_filter_not_contains evicted⟩

end

/-- The keys that leave are those that are due.  None of them is made like that of a
version of another name, and keys that do not decode under the name make no difference.
Trimming a history takes out these keys and nothing else. -/
theorem evictions_exact (name : String) (hkeep : 0 ≤ limits.keep)
    (hspan : span? limits.hours = some span) (hnow : now.utcMicroseconds? = some t)
    (hkeys : keys.Nodup) :
    ∃ evicted, evictions limits name now keys = .ok evicted ∧
      (∀ key, key ∈ evicted ↔
        key ∈ keys ∧ ∃ made, decode? name key = some made ∧
          limits.keep ≤ ((laterKeys name made keys).length : Int) ∧
          limits.hours * 3600000000 ≤ t - made.microseconds) ∧
      (∀ other key, other ≠ name → VersionOf other key → key ∉ evicted) ∧
      (∀ others : List String, others.Nodup →
        (∀ key, decode? name key ≠ none → (key ∈ others ↔ key ∈ keys)) →
        ∃ evicted', evictions limits name now others = .ok evicted' ∧
          ∀ key, key ∈ evicted' ↔ key ∈ evicted) ∧
      (∀ history : Collection, (∀ key, key ∈ history.keys ↔ key ∈ keys) →
        ∃ trimmed evicted', trim limits name now history = .ok (trimmed, evicted') ∧
          (∀ key, key ∈ evicted' ↔ key ∈ evicted) ∧
          ∀ key, trimmed.get? key = if key ∈ evicted then none else history.get? key) := by
  obtain ⟨evicted, hevicted, hmem⟩ :=
    exists_evictions_mem_iff_due hkeep hspan hnow name hkeys
  refine ⟨evicted, hevicted, hmem, ?_, ?_, ?_⟩
  · intro other key hother hversion hkey
    obtain ⟨-, made, hmade, -⟩ := (hmem key).mp hkey
    exact hother (hversion.name_eq (versionOf_of_decode? hmade))
  · intro others hothers hsame
    obtain ⟨evicted', hevicted', hmem'⟩ :=
      exists_evictions_mem_iff_due hkeep hspan hnow name hothers
    refine ⟨evicted', hevicted', ?_⟩
    intro key
    rw [hmem, hmem', due_congr hkeys hothers hsame]
    refine and_congr_left fun hdue => hsame key ?_
    obtain ⟨made, hmade, -⟩ := hdue
    simp [hmade]
  · intro history hhistory
    obtain ⟨trimmed, evicted', htrim, -, hmem', hget⟩ :=
      exists_trim_get?_eq hkeep hspan hnow name history
    have hsame : ∀ key, key ∈ evicted' ↔ key ∈ evicted := by
      intro key
      rw [hmem, hmem', hhistory,
        due_congr hkeys history.keys_nodup fun key _ => hhistory key]
    refine ⟨trimmed, evicted', htrim, hsame, ?_⟩
    intro key
    rw [hget, if_congr (hsame key) rfl rfl]

def morning : Reading := ⟨⟨2024, 6, 3, by decide⟩, ⟨9, 0, 0, 0, by decide⟩⟩

def afternoon : Reading := ⟨⟨2024, 6, 3, by decide⟩, ⟨13, 0, 0, 0, by decide⟩⟩

/-- Versions of one rule among keys of others and keys without a stamp. -/
def mixedKeys : List String :=
  ["a.rules-2024-06-03T09-00-00", "a.rules-2024-06-03T10-00-00",
    "a.rules-2024-06-03T11-00-00", "a.rules-old-2020-01-01T00-00-00", "a.rules.bak",
    "b.rules-2020-01-01T00-00-00"]

theorem evictions_exact_mixed :
    let limits : Retention := ⟨1, 2⟩
    0 ≤ limits.keep ∧ span? limits.hours = some 7200000000 ∧
      (Moment.utc afternoon).utcMicroseconds? = some (afternoon.microseconds : Int) ∧
      mixedKeys.Nodup ∧
      ∃ evicted, evictions limits "a.rules" (.utc afternoon) mixedKeys = .ok evicted ∧
        (∀ key, key ∈ evicted ↔
          key ∈ mixedKeys ∧ limits.Due "a.rules" afternoon.microseconds mixedKeys key) ∧
        "a.rules-2024-06-03T09-00-00" ∈ evicted ∧
        "a.rules-old-2020-01-01T00-00-00" ∉ evicted := by
  intro limits
  have hkeep : 0 ≤ limits.keep := by decide
  have hspan : span? limits.hours = some 7200000000 := by decide
  have hnow := utcMicroseconds?_utc afternoon
  have hkeys : mixedKeys.Nodup := by decide
  have hdue : limits.Due "a.rules" afternoon.microseconds mixedKeys
      "a.rules-2024-06-03T09-00-00" :=
    ⟨morning, by decide +kernel, by decide +kernel, by decide⟩
  have hversion : VersionOf "a.rules-old" "a.rules-old-2020-01-01T00-00-00" :=
    versionOf_of_decode? (r := ⟨⟨2020, 1, 1, by decide⟩, ⟨0, 0, 0, 0, by decide⟩⟩)
      (by decide +kernel)
  obtain ⟨evicted, hevicted, hmem, hothers, -⟩ :=
    evictions_exact "a.rules" hkeep hspan hnow hkeys
  exact ⟨hkeep, hspan, hnow, hkeys, evicted, hevicted, hmem,
    (hmem _).mpr ⟨by decide, hdue⟩, hothers "a.rules-old" _ (by decide) hversion⟩

end ConfigVault.Retention
