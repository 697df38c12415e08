import ConfigVault.Proofs.KeyMap
import ConfigVault.Proofs.Version.Eviction
import ConfigVault.Store

/-!
# Archiving

A value is archived by adding it to the history under the key of a second and taking
out what retention takes.  All that is lost besides is a version with another content
under that key.  Retention may take the new entry itself, but only if it asks for no
age and the history is full of later seconds.
-/

namespace ConfigVault

open Calendar Version Retention

/-- Versions outside the given keys are still there, with the same contents. -/
def VersionsKept (evicted : List String) (before after : Collection) : Prop :=
  ∀ key value, before.get? key = some value → key ∉ evicted → after.get? key = some value

namespace Retention

theorem get?_trimmed (history : Collection) (key previous : String) (evicted : List String)
    (other : String) :
    ((history.insert key previous).filter fun key => !evicted.contains key).get? other =
      if other ∈ evicted then none
      else if key = other then some previous else history.get? other := by
  rw [KeyMap.get?_filter_not_contains, KeyMap.get?_insert]

/-! ## What archiving keeps -/

section

variable {history : Collection} {key previous : String} {evicted : List String}

/-- Archiving a value under a key keeps the versions that retention leaves exactly when
no other content lies under that key, or retention takes it. -/
theorem versionsKept_trimmed_iff :
    VersionsKept evicted history
        ((history.insert key previous).filter fun key => !evicted.contains key) ↔
      key ∈ evicted ∨ ∀ value, history.get? key = some value → value = previous := by
  constructor
  · intro hkept
    by_cases hkey : key ∈ evicted
    · exact .inl hkey
    · right
      intro value hvalue
      have hafter := hkept key value hvalue hkey
      rw [get?_trimmed, if_neg hkey, if_pos rfl] at hafter
      exact (Option.some.inj hafter).symm
  · intro hsame other value hvalue hother
    rw [get?_trimmed, if_neg hother]
    by_cases hkey : key = other
    · subst hkey
      rw [if_pos rfl, hsame.resolve_left hother value hvalue]
    · rw [if_neg hkey, hvalue]

/-- A value makes one more version exactly when nothing lies under its key. -/
theorem length_keys_insert_iff :
    (history.insert key previous).keys.length = history.keys.length + 1 ↔
      history.get? key = none := by
  cases hkey : history.get? key with
  | none =>
      have hperm := KeyMap.keys_insert_perm hkey previous
      simpa using hperm.length_eq
  | some value =>
      have hmem : key ∈ history.keys := (KeyMap.mem_keys_iff _ _).mpr ⟨value, hkey⟩
      have hperm := KeyMap.keys_insert_perm_of_mem hmem previous
      simp [hperm.length_eq]

end

/-! ## The entry that is archived -/

variable {limits : Retention} {name previous : String} {now : Reading}
  {history : Collection}

/-- The entry that archives a value is among those that leave the history. -/
def EvictsOwn (limits : Retention) (name previous : String) (now : Reading)
    (history : Collection) : Prop :=
  ∃ evicted, evictions limits name (.utc now)
      (history.insert (versionKey name now) previous).keys = .ok evicted ∧
    versionKey name now ∈ evicted

/-- The age of the entry that archives a value is less than a second. -/
theorem hours_le_own_age_iff (hhours : 0 ≤ limits.hours) (now : Reading) :
    limits.hours * 3600000000 ≤
        (now.microseconds : Int) - now.wholeSeconds.microseconds ↔
      limits.hours = 0 := by
  have hlt := now.microseconds_lt_wholeSeconds_add
  have hle := now.wholeSeconds_microseconds_le
  generalize now.microseconds = t at hlt hle ⊢
  generalize now.wholeSeconds.microseconds = second at hlt hle ⊢
  omega

theorem length_laterKeys_insert (hyear : 1000 ≤ now.date.year) (previous : String) :
    (laterKeys name now.wholeSeconds
        (history.insert (versionKey name now) previous).keys).length =
      (laterKeys name now.wholeSeconds history.keys).length := by
  apply List.Perm.length_eq
  apply KeyMap.filter_keys_insert_perm
  exact Bool.eq_false_iff.mpr (not_isLater_self (decode?_versionKey name hyear))

/-- Retention takes the entry that archives a value exactly when it asks for no age and
as many versions as it keeps are of later seconds. -/
theorem evictsOwn_iff (hkeep : 0 ≤ limits.keep) (hhours : 0 ≤ limits.hours)
    (hyear : 1000 ≤ now.date.year) :
    limits.EvictsOwn name previous now history ↔
      limits.hours = 0 ∧
        limits.keep ≤ ((laterKeys name now.wholeSeconds history.keys).length : Int) := by
  have hdecoded := decode?_versionKey name hyear
  have hmem : versionKey name now ∈ (history.insert (versionKey name now) previous).keys :=
    KeyMap.mem_keys_insert.mpr (.inl rfl)
  constructor
  · rintro ⟨evicted, hevicted, hown⟩
    rw [mem_evictions_iff hkeep (KeyMap.keys_nodup _) (utcMicroseconds?_utc now) hevicted]
      at hown
    obtain ⟨-, made, hmade, hplace, hage⟩ := hown
    rw [hdecoded] at hmade
    obtain rfl := Option.some.inj hmade
    rw [length_laterKeys_insert hyear] at hplace
    exact ⟨(hours_le_own_age_iff hhours now).mp hage, hplace⟩
  · rintro ⟨hzero, hplace⟩
    have hspan : span? limits.hours = some 0 := by
      rw [hzero]
      rfl
    obtain ⟨evicted, hevicted⟩ : ∃ evicted, evictions limits name (.utc now)
        (history.insert (versionKey name now) previous).keys = .ok evicted :=
      exists_evictions_eq_ok hspan (utcMicroseconds?_utc now) _
    refine ⟨evicted, hevicted, ?_⟩
    rw [mem_evictions_iff hkeep (KeyMap.keys_nodup _) (utcMicroseconds?_utc now) hevicted]
    refine ⟨hmem, now.wholeSeconds, hdecoded, ?_, ?_⟩
    · rw [length_laterKeys_insert hyear]
      exact hplace
    · exact (hours_le_own_age_iff hhours now).mpr hzero

end Retention

namespace Store

/-- A history with a value archived in it is the earlier one with the new entry,
without those that retention takes. -/
theorem archive_eq_ok_iff {limits : Retention} {name previous : String} {clock : Moment}
    {now : Reading} {history archived : Collection} (hnow : clock.inUtc? = some now) :
    archive limits name previous clock history = .ok archived ↔
      ∃ evicted, evictions limits name (.utc now)
          (history.insert (versionKey name now) previous).keys = .ok evicted ∧
        archived = (history.insert (versionKey name now) previous).filter
          fun key => !evicted.contains key := by
  simp only [archive, hnow, trim]
  cases evictions limits name (.utc now)
      (history.insert (versionKey name now) previous).keys with
  | error escape => simp [Except.map]
  | ok evicted => simp [Except.map, eq_comm]

/-- A value is archived only at a reading of the clock that lies in the range of UTC. -/
theorem exists_of_archive_eq_ok {limits : Retention} {name previous : String}
    {clock : Moment} {history archived : Collection}
    (h : archive limits name previous clock history = .ok archived) :
    ∃ now evicted, clock.inUtc? = some now ∧
      evictions limits name (.utc now)
        (history.insert (versionKey name now) previous).keys = .ok evicted ∧
      archived = (history.insert (versionKey name now) previous).filter
        fun key => !evicted.contains key := by
  cases hnow : clock.inUtc? with
  | none =>
      simp only [archive, hnow] at h
      cases h
  | some now =>
      obtain ⟨evicted, hevicted, harchived⟩ := (archive_eq_ok_iff hnow).mp h
      exact ⟨now, evicted, rfl, hevicted, harchived⟩

end Store

end ConfigVault
