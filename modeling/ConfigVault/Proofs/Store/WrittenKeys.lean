import ConfigVault.Proofs.Name.Grammar
import ConfigVault.Proofs.Store.Immediate
import ConfigVault.Proofs.Store.VersionsKept
import ConfigVault.Proofs.Version.Key

/-!
# The keys that updates write

An update hands over what it has read with one key more: the name of the artifact among
the current values, and the version key of the name among the versions.  For a name that
is accepted, the first is a key of collections unless a line break stands at its end.
The second is longer by the hyphen and the timestamp, which the limit for names does not
leave room for: it is a key only if the name and the digits of the year have 237
characters at most, or the name 233 in years of four digits.
-/

namespace ConfigVault

open Calendar Version

variable {σ ν τ : Type}

/-! ## Characters and lengths of version keys -/

namespace Name

theorem isKeyChar_of_isDigit {c : Char} (h : Version.isDigit c = true) : IsKeyChar c := by
  right
  left
  simpa [Version.isDigit, IsDigit] using h

end Name

namespace Version

open Name

theorem isKeyChar_of_mem_stampTail {r : Reading} {c : Char} (h : c ∈ stampTail r) :
    IsKeyChar c := by
  have hpadded : ∀ n, c ∈ padded 2 n → IsKeyChar c :=
    fun n hc => isKeyChar_of_isDigit (isDigit_of_mem_padded hc)
  have hhyphen : IsKeyChar '-' := by
    simp [IsKeyChar]
  have hmark : IsKeyChar 'T' := by
    left
    simp [IsLetter]
  simp only [stampTail, List.mem_cons, List.mem_append] at h
  rcases h with rfl | h | rfl | h | rfl | h | rfl | h | rfl | h
  · exact hhyphen
  · exact hpadded _ h
  · exact hhyphen
  · exact hpadded _ h
  · exact hmark
  · exact hpadded _ h
  · exact hhyphen
  · exact hpadded _ h
  · exact hhyphen
  · exact hpadded _ h

theorem toList_versionKey_eq (name : String) (r : Reading) :
    (versionKey name r).toList =
      name.toList ++ '-' :: (Nat.toDigits 10 r.date.year ++ stampTail r) := by
  rw [toList_versionKey, toList_formatTimestamp]
  rfl

theorem length_versionKey (name : String) (r : Reading) :
    (versionKey name r).length =
      name.length + (Nat.toDigits 10 r.date.year).length + 16 := by
  rw [← String.length_toList, toList_versionKey_eq, List.length_append, List.length_cons,
    List.length_append, length_stampTail, String.length_toList]
  omega

theorem forall_isKeyChar_versionKey_iff (name : String) (r : Reading) :
    (∀ c ∈ (versionKey name r).toList, IsKeyChar c) ↔ ∀ c ∈ name.toList, IsKeyChar c := by
  rw [toList_versionKey_eq]
  constructor
  · intro h c hc
    exact h c (List.mem_append_left _ hc)
  · intro h c hc
    rcases List.mem_append.mp hc with hc | hc
    · exact h c hc
    rcases List.mem_cons.mp hc with rfl | hc
    · simp [IsKeyChar]
    rcases List.mem_append.mp hc with hc | hc
    · apply isKeyChar_of_isDigit
      exact (isDigit_iff c).mpr (Nat.isDigit_of_mem_toDigits (by decide) (by decide) hc)
    · exact isKeyChar_of_mem_stampTail hc

end Version

/-! ## Keys of accepted names -/

namespace Name

variable {group : Group} {name : String}

theorem checkKey_of_check (h : check group name = .ok ()) : checkKey name = .ok () := by
  unfold check at h
  split at h
  · cases h
  · next hkey => exact hkey

theorem isKey_iff_of_check (h : check group name = .ok ()) :
    IsKey name ↔ ∀ body, name ≠ body ++ "\n" := by
  constructor
  · rintro hkey body rfl
    exact not_isKeyChar_break (hkey.characters _ (by simp))
  · intro hbreak
    rcases (checkKey_eq_ok_iff name).mp (checkKey_of_check h) with ⟨hkey, -⟩ | ⟨body, hname, -⟩
    · exact hkey
    · exact absurd hname (hbreak body)

theorem isKey_versionKey_iff_of_check (h : check group name = .ok ()) (r : Reading) :
    IsKey (versionKey name r) ↔ (∀ body, name ≠ body ++ "\n") ∧
      name.length + (Nat.toDigits 10 r.date.year).length ≤ 237 := by
  rw [← isKey_iff_of_check h]
  have hlength := length_versionKey name r
  constructor
  · intro hkey
    have hshort := hkey.short
    have hbounds := ((checkKey_eq_ok_iff_body name).mp (checkKey_of_check h)).1
    have hchars := (forall_isKeyChar_versionKey_iff name r).mp hkey.characters
    exact ⟨⟨hbounds.1, hbounds.2, hchars⟩, by omega⟩
  · rintro ⟨hkey, hroom⟩
    have hchars := (forall_isKeyChar_versionKey_iff name r).mpr hkey.characters
    exact ⟨by omega, by omega, hchars⟩

end Name

/-! ## What an update hands over -/

namespace Store

variable {store : Store σ ν τ} {name content : String} {clock : Moment} {s s' : σ}
  {k k' : ν} {es : List (Exchange σ)} {r : Except (Failure τ) PutOutcome}

/-- The key that an update writes to a collection. -/
inductive WritesKey (store : Store σ ν τ) (name : String) (clock : Moment) :
    String → String → Prop
  | current : WritesKey store name clock store.group.current name
  | history {now : Reading} (hnow : clock.inUtc? = some now) :
      WritesKey store name clock store.group.history (versionKey name now)

/-- What is handed over for a collection has the keys that were read from it, and the
one that is written. -/
def AddsKey (store : Store σ ν τ) (name : String) (clock : Moment)
    (current history : Option Collection) (c : String) (m : Collection) : Prop :=
  ∀ key ∈ m.keys, store.WritesKey name clock c key ∨
    ∃ observed, (c = store.group.current ∧ observed = current ∨
      c = store.group.history ∧ observed = history) ∧ key ∈ (shown observed).keys

theorem addsKey_current (current history : Option Collection) :
    store.AddsKey name clock current history store.group.current
      ((shown current).insert name content) := by
  intro key hkey
  rcases KeyMap.mem_keys_insert.mp hkey with rfl | hold
  · exact .inl .current
  · exact .inr ⟨current, .inl ⟨rfl, rfl⟩, hold⟩

theorem addsKey_history {previous : String} {archived : Collection}
    (current history : Option Collection)
    (harchive : archive store.retention name previous clock (shown history) =
      .ok archived) :
    store.AddsKey name clock current history store.group.history archived := by
  obtain ⟨now, evicted, hnow, -, rfl⟩ := exists_of_archive_eq_ok harchive
  intro key hkey
  rw [KeyMap.keys_filter] at hkey
  rcases KeyMap.mem_keys_insert.mp (List.mem_of_mem_filter hkey) with rfl | hold
  · exact .inl (.history hnow)
  · exact .inr ⟨history, .inr ⟨rfl, rfl⟩, hold⟩

/-- Every write of an update lies behind the reads of both collections and adds the key
that the update writes. -/
theorem PutCourse.exists_addsKey (hcourse : store.PutCourse name content clock s k es r s' k')
    {c : String} {m : Collection} (hmem : (c, m) ∈ writesOf es) :
    ∃ current history s₁ s₂ rest, es = store.startCalls current history s₁ s₂ ++ rest ∧
      store.AddsKey name clock current history c m := by
  have hsent {c' : String} {m' : Collection} {s₁ s₂ : σ} {es' : List (Exchange σ)}
      {r' : Except (Failure τ) Unit} (h : store.backend.CommitCourse c' m' s₁ es' r' s₂) :
      writesOf es' = [(c', m')] := by
    obtain ⟨answer, after, reads, rfl, hreads, -⟩ := h.calls
    rw [writesOf_sent, hreads]
  cases hcourse with
  | nameRefused | contentRefused | currentUnread | historyUnread => simp at hmem
  | unchanged | unarchived => simp [writesOf_startCalls] at hmem
  | @created current history s₁ s₂ _ _ _ _ _ _ hcurrent =>
      rw [writesOf_append, writesOf_startCalls, hsent hcurrent] at hmem
      obtain ⟨rfl, rfl⟩ : c = _ ∧ m = _ := by simpa using hmem
      exact ⟨current, history, s₁, s₂, _, rfl, addsKey_current current history⟩
  | @historyUnwritten current history s₁ s₂ _ _ _ _ _ _ _ _ _ harchive hhistory =>
      rw [writesOf_append, writesOf_startCalls, hsent hhistory] at hmem
      obtain ⟨rfl, rfl⟩ : c = _ ∧ m = _ := by simpa using hmem
      exact ⟨current, history, s₁, s₂, _, rfl, addsKey_history current history harchive⟩
  | @updated current history s₁ s₂ _ _ _ _ _ _ _ _ _ _ _ harchive hhistory hcurrent =>
      rw [writesOf_append, writesOf_startCalls, writesOf_append, hsent hhistory,
        hsent hcurrent] at hmem
      refine ⟨current, history, s₁, s₂, _, rfl, ?_⟩
      obtain ⟨rfl, rfl⟩ | ⟨rfl, rfl⟩ : c = _ ∧ m = _ ∨ c = _ ∧ m = _ := by
        simpa using hmem
      · exact addsKey_history current history harchive
      · exact addsKey_current current history

variable [TimeScale τ]

/-- Whatever becomes of an update of an accepted name, its writes add no other keys than
the name among the current values and the version key of the reading of the clock among
the versions.  The name is a key exactly when it does not end with a line break, and the
version key exactly when, besides, the name leaves room for the timestamp. -/
theorem written_keys_legal_iff (store : Store σ ν τ) {name : String}
    (hname : Name.check store.group name = .ok ()) (content : String) (clock : Moment)
    (w : World σ ν τ) :
    (∃ r w', (store.journaled.put name content clock).run w.journaled = (r, w') ∧
      (store.put name content clock).run w = (r, w'.unwatched) ∧
      ∀ c m, (c, m) ∈ writesOf w'.backend.exchanges → ∃ current history s₁ s₂ rest,
        w'.backend.exchanges = store.startCalls current history s₁ s₂ ++ rest ∧
        store.AddsKey name clock current history c m) ∧
    (Name.IsKey name ↔ ∀ body, name ≠ body ++ "\n") ∧
    ∀ now, Name.IsKey (versionKey name now) ↔ (∀ body, name ≠ body ++ "\n") ∧
      name.length + (Nat.toDigits 10 now.date.year).length ≤ 237 := by
  obtain ⟨r, w', hrun, hplain, hcourse⟩ := store.put_watched name content clock w
  have hwrites := fun c m hmem => hcourse.exists_addsKey (c := c) (m := m) hmem
  exact ⟨⟨r, w', hrun, hplain, hwrites⟩, Name.isKey_iff_of_check hname,
    Name.isKey_versionKey_iff_of_check hname⟩

/-- An update of a rule at noon writes the version and the rule under keys. -/
theorem written_keys_legal_iff_noon :
    let store := rulesUnder passing .standard
    let run := (store.journaled.put "a.rules" "two" (.utc noon)).run oneRule.journaled
    Name.check store.group "a.rules" = .ok () ∧
      (writesOf run.2.backend.exchanges).map (fun write => (write.1, write.2.keys)) =
        [("alertrules-versions", [versionKey "a.rules" noon]), ("alertrules", ["a.rules"])] ∧
      (∀ c m, (c, m) ∈ writesOf run.2.backend.exchanges →
        ∃ current history s₁ s₂ rest,
          run.2.backend.exchanges = store.startCalls current history s₁ s₂ ++ rest ∧
          store.AddsKey "a.rules" (.utc noon) current history c m) ∧
      Name.IsKey "a.rules" ∧ Name.IsKey (versionKey "a.rules" noon) := by
  intro store run
  have hname : Name.check store.group "a.rules" = .ok () := by decide
  obtain ⟨⟨r, w', hrun, -, hadds⟩, hkey, hversion⟩ :=
    written_keys_legal_iff store hname "two" (.utc noon) oneRule
  have hrun : run = (r, w') := hrun
  have hwrites : (writesOf run.2.backend.exchanges).map
      (fun write => (write.1, write.2.keys)) =
        [("alertrules-versions", [versionKey "a.rules" noon]), ("alertrules", ["a.rules"])] := by
    decide +kernel
  have hunbroken : ∀ body, "a.rules" ≠ body ++ "\n" := by
    intro body heq
    have hlast := congrArg (fun s => s.toList.getLast?) heq
    simp at hlast
  refine ⟨hname, hwrites, ?_, hkey.mpr hunbroken, (hversion noon).mpr ⟨hunbroken, by decide⟩⟩
  rw [hrun]
  exact hadds

/-! ## A name as long as names may be -/

omit [TimeScale τ] in
/-- Retention takes nothing from a history that is not longer than what it keeps. -/
theorem archive_of_room {limits : Retention} {previous : String} {now : Reading}
    {history : Collection} (hnow : clock.inUtc? = some now)
    (hroom : ((history.insert (versionKey name now) previous).keys.length : Int) ≤
      limits.keep) :
    ∃ archived, archive limits name previous clock history = .ok archived ∧
      archived.get? (versionKey name now) = some previous := by
  have hevictions : Retention.evictions limits name (.utc now)
      (history.insert (versionKey name now) previous).keys = .ok [] := by
    have horder := (Retention.order_perm name
      (history.insert (versionKey name now) previous).keys).length_eq
    have hfilter := List.length_filter_le (belongsTo name)
      (history.insert (versionKey name now) previous).keys
    unfold Retention.evictions
    rw [if_pos (by omega)]
  refine ⟨_, (archive_eq_ok_iff hnow).mpr ⟨[], hevictions, rfl⟩, ?_⟩
  rw [Retention.get?_trimmed]
  simp

/-- Where every call takes effect and retention takes nothing, an update leaves the value
that it found under the version key of its name. -/
theorem update_leaves_version {contents : σ → String → Collection} {Settled : σ → Prop}
    (hprompt : store.backend.Prompt contents Settled)
    (hdistinct : store.group.current ≠ store.group.history) (w : World σ ν τ)
    (hsettled : Settled w.backend) {diagnostics previous : String} {now : Reading}
    (hname : Name.check store.group name = .ok ())
    (hcontent : (store.check content w.checks).1 = .ok diagnostics)
    (hnow : clock.inUtc? = some now)
    (hvalue : (contents w.backend store.group.current).get? name = some previous)
    (hnew : previous ≠ content)
    (hroom : (((contents w.backend store.group.history).insert (versionKey name now)
      previous).keys.length : Int) ≤ store.retention.keep) :
    ∃ w', (store.put name content clock).run w = (.ok .updated, w') ∧
      (contents w'.backend store.group.history).get? (versionKey name now) =
        some previous := by
  obtain ⟨archived, harchive, hversion⟩ := archive_of_room hnow hroom
  obtain ⟨s, hrun, -, hend⟩ := put_endsAs hprompt w hsettled name content clock
  have hpassed : store.check content w.checks =
      (.ok diagnostics, (store.check content w.checks).2) := by
    rw [← hcontent]
  have hput : store.putIn ⟨contents w.backend, w.checks⟩ name content clock =
      (.ok .updated, ((⟨contents w.backend, (store.check content w.checks).2⟩ :
        Holdings ν).write store.group.history archived).write store.group.current
          ((contents w.backend store.group.current).insert name content)) := by
    unfold putIn replaceIn
    rw [hname, hpassed]
    simp [hvalue, hnew, harchive]
  rw [hput] at hrun hend
  refine ⟨_, hrun, ?_⟩
  dsimp only at hend ⊢
  rw [hend, Holdings.write_contents, Holdings.write_contents,
    Function.update_of_ne hdistinct.symm, Function.update_self]
  exact hversion

/-- The name of a rule with a stem of some length. -/
def stemmed (n : Nat) : String :=
  String.ofList (List.replicate n 'a') ++ ".rules"

theorem length_stemmed (n : Nat) : (stemmed n).length = n + 6 := by
  rw [stemmed, String.length_append, String.length_ofList, List.length_replicate]
  rfl

theorem stemmed_accepted {n : Nat} (hpos : 1 ≤ n) (hshort : n ≤ 247) (limits : Retention) :
    Name.check (rulesUnder passing limits).group (stemmed n) = .ok () := by
  have hmem (c : Char) (hc : c ∈ (stemmed n).toList) : c = 'a' ∨ c ∈ ".rules".toList := by
    rw [stemmed, String.toList_append, String.toList_ofList, List.mem_append] at hc
    exact hc.imp_left List.eq_of_mem_replicate
  have hending : ".rules".toList.all Name.isNameChar = true := by decide
  have hkey : Name.IsKey (stemmed n) := by
    refine ⟨?_, ?_, ?_⟩
    · rw [length_stemmed]
      omega
    · rw [length_stemmed]
      omega
    · intro c hc
      rw [← Name.isNameChar_iff]
      rcases hmem c hc with rfl | hc
      · decide
      · exact List.all_eq_true.mp hending c hc
  have hword : Name.HasWord (stemmed n) := by
    refine ⟨'s', ?_, ?_⟩
    · rw [stemmed, String.toList_append]
      exact List.mem_append_right _ (by decide)
    · rw [← Name.isWordChar_iff]
      decide
  have hfits : Name.FitsGroup (rulesUnder passing limits).group (stemmed n) := by
    constructor
    · intro fixed hfixed
      cases hfixed
    · intro suffix hsuffix _
      obtain rfl := Option.some.inj hsuffix
      refine ⟨⟨_, rfl⟩, ?_⟩
      intro hbare
      have hlength := congrArg String.length hbare
      rw [length_stemmed] at hlength
      have hsix : ".rules".length = 6 := rfl
      omega
  unfold Name.check
  rw [(Name.checkKey_eq_ok_iff _).mpr (.inl ⟨hkey, hword⟩)]
  exact Name.checkInGroup_eq_ok_iff.mpr hfits

def ruleNamed (name : String) : World (Disturbed (Memory Rat) Unit) Unit Rat :=
  ⟨⟨Memory.ofCollections [("alertrules", .ofList [(name, "one")])], (), []⟩, (), 0⟩

theorem get?_ruleNamed (name : String) :
    ((ruleNamed name).backend.inner.snapshot "alertrules").get? name = some "one" := by
  have hsnapshot : (ruleNamed name).backend.inner.snapshot =
      Function.update (Memory.snapshot KeyMap.empty) "alertrules"
        (KeyMap.empty.insert name "one") :=
    Memory.snapshot_insert KeyMap.empty "alertrules" _
  rw [hsnapshot, Function.update_self, KeyMap.get?_insert, if_pos rfl]

/-- An update at noon succeeds and leaves a version under a key that is none: the name is
as long as names may be. -/
theorem update_writes_overlong_key :
    Name.check (rulesUnder passing .standard).group (stemmed 247) = .ok () ∧
      (∃ w', ((rulesUnder passing .standard).put (stemmed 247) "two" (.utc noon)).run
          (ruleNamed (stemmed 247)) = (.ok .updated, w') ∧
        (w'.backend.inner.snapshot "alertrules-versions").get?
          (versionKey (stemmed 247) noon) = some "one") ∧
      ¬ Name.IsKey (versionKey (stemmed 247) noon) := by
  have hname := stemmed_accepted (n := 247) (by decide) (by decide) .standard
  have hsettled : (ruleNamed (stemmed 247)).backend.inner.Settled :=
    Memory.ofCollections_settled _
  have hdistinct : (rulesUnder passing .standard).group.current ≠
      (rulesUnder passing .standard).group.history := by decide
  have hnow : (Moment.utc noon).inUtc? = some noon := by decide
  refine ⟨hname, ?_, ?_⟩
  · exact update_leaves_version (rulesUnder_passing_prompt .standard) hdistinct
      (ruleNamed (stemmed 247)) hsettled hname rfl hnow (get?_ruleNamed _) (by decide)
      (by decide : (1 : Int) ≤ 10)
  · intro hkey
    have hshort := hkey.short
    rw [length_versionKey, length_stemmed] at hshort
    omega

end Store

end ConfigVault
