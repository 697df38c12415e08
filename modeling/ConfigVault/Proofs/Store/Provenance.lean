import ConfigVault.Proofs.Backend.Honest
import ConfigVault.Proofs.Store.Archive
import ConfigVault.Proofs.Store.DeleteCourse
import ConfigVault.Proofs.Store.PutOrder

/-!
# Where contents come from

Nothing gets into the collections of a store but through updates that pass both gates,
the one for names and the one for contents: as the current value of the name, or as a
version of it that holds what the update found.  This is so for every call of a run at
every point of it, also for writes that are under way, that were never confirmed, or
that belong to a call that failed later.
-/

namespace ConfigVault

open Calendar Version Backend

variable {σ ν τ φ α β : Type}

namespace Action

variable {Stores : σ → String → String → String → Prop}
  {P : String → String → String → Prop}

/-- At every point of the operation the backend holds only what passes. -/
def Stays (Stores : σ → String → String → String → Prop)
    (P : String → String → String → Prop) (a : Action (Journal σ) ν τ α) : Prop :=
  ∀ w, Within Stores P w.backend.state → ∃ r w' es, a.run w = (r, w') ∧
    w'.backend.exchanges = w.backend.exchanges ++ es ∧
    StaysWithin Stores P es w'.backend.state

theorem stays_ofExcept (r : Except (Failure τ) α) :
    (ofExcept r : Action (Journal σ) ν τ α).Stays Stores P := by
  intro w hw
  exact ⟨r, w, [], rfl, (List.append_nil _).symm, .nil hw⟩

theorem Stays.bind {a : Action (Journal σ) ν τ α} {f : α → Action (Journal σ) ν τ β}
    (ha : a.Stays Stores P) (hf : ∀ x, (f x).Stays Stores P) : (a >>= f).Stays Stores P := by
  intro w hw
  obtain ⟨r, w', es, hrun, hexchanges, hes⟩ := ha w hw
  cases r with
  | error failure => exact ⟨_, w', es, run_bind_of_error hrun f, hexchanges, hes⟩
  | ok x =>
      obtain ⟨r, w'', es', hrun', hexchanges', hes'⟩ := hf x w' hes.final
      refine ⟨r, w'', es ++ es', (run_bind_of_ok hrun f).trans hrun', ?_, hes.append hes'⟩
      rw [hexchanges', hexchanges, List.append_assoc]

def staying (ν τ : Type) (Stores : σ → String → String → String → Prop)
    (P : String → String → String → Prop) :
    Action.Relation (Journal σ) (Journal σ) ν τ where
  Rel a _ := a.Stays Stores P
  ofExcept := stays_ofExcept
  bind := Stays.bind

end Action

namespace Store

variable {store : Store σ ν τ} {Stores : σ → String → String → String → Prop}
  {P : String → String → String → Prop}

theorem read_stays (hhonest : store.backend.Honest Stores) :
    store.journaled.ReadRelated (Action.staying ν τ Stores P) store.journaled := by
  refine ⟨rfl, ?_⟩
  intro c _ w hw
  obtain ⟨answer, s, hget, hrun⟩ := store.backend.read_journaled (ν := ν) c w
  obtain ⟨hs, -⟩ := hhonest.get_within hget hw
  exact ⟨_, _, _, hrun, rfl, .cons hs (.nil hs)⟩

variable {name content : String} {clock : Moment} {s s' s₁ s₂ : σ} {k k' : ν}
  {es : List (Exchange σ)} {current history : Option Collection}

theorem BothRead.staysWithin (hhonest : store.backend.Honest Stores)
    (hread : store.BothRead s current history s₁ s₂) (hs : Within Stores P s) :
    StaysWithin Stores P (store.startCalls current history s₁ s₂) s₂ ∧
      Passes P store.group.current (shown current) ∧
      Passes P store.group.history (shown history) := by
  obtain ⟨⟨_, hgotCurrent⟩, ⟨_, hgotHistory⟩⟩ := hread
  obtain ⟨hs₁, hcurrent⟩ := hhonest.get_within hgotCurrent hs
  obtain ⟨hs₂, hhistory⟩ := hhonest.get_within hgotHistory hs₁
  exact ⟨.cons hs₁ (.cons hs₂ (.nil hs₂)), hcurrent _ rfl, hhistory _ rfl⟩

theorem passes_of_archive {limits : Retention} {c previous : String}
    {history archived : Collection}
    (harchive : archive limits name previous clock history = .ok archived)
    (hhistory : Passes P c history)
    (hversion : ∀ now, clock.inUtc? = some now → P c (versionKey name now) previous) :
    Passes P c archived := by
  obtain ⟨now, evicted, hnow, -, rfl⟩ := exists_of_archive_eq_ok harchive
  exact (hhistory.insert (hversion now hnow)).filter _

/-- An update brings in its content, and what it found as a version. -/
theorem PutCourse.staysWithin {r : Except (Failure τ) PutOutcome}
    (hhonest : store.backend.Honest Stores)
    (hcourse : store.PutCourse name content clock s k es r s' k') (hs : Within Stores P s)
    (hcontent : store.Accepts name content k → P store.group.current name content)
    (hversion : ∀ now observed s₁ rest previous, store.Accepts name content k →
      clock.inUtc? = some now → es = .got store.group.current (.ok observed) s₁ :: rest →
      (shown observed).get? name = some previous →
      P store.group.history (versionKey name now) previous) :
    StaysWithin Stores P es s' := by
  cases hcourse with
  | nameRefused | contentRefused => exact .nil hs
  | currentUnread _ _ hget =>
      obtain ⟨hs', -⟩ := hhonest.get_within hget hs
      exact .cons hs' (.nil hs')
  | historyUnread _ _ hcurrent hget =>
      obtain ⟨hs₁, -⟩ := hhonest.get_within hcurrent hs
      obtain ⟨hs₂, -⟩ := hhonest.get_within hget hs₁
      exact .cons hs₁ (.cons hs₂ (.nil hs₂))
  | unchanged hstart | unarchived hstart =>
      exact (hstart.bothRead.staysWithin hhonest hs).1
  | created hstart _ hcourse =>
      obtain ⟨hstay, hcurrent, -⟩ := hstart.bothRead.staysWithin hhonest hs
      have hsent := hcurrent.insert (hcontent hstart.accepts)
      exact hstay.append (hcourse.staysWithin hhonest hstay.final hsent)
  | historyUnwritten hstart hvalue _ harchive hcourse =>
      obtain ⟨hstay, -, hhistory⟩ := hstart.bothRead.staysWithin hhonest hs
      have hsent := passes_of_archive harchive hhistory fun now hnow =>
        hversion now _ _ _ _ hstart.accepts hnow rfl hvalue
      exact hstay.append (hcourse.staysWithin hhonest hstay.final hsent)
  | updated hstart hvalue _ harchive hcourse hcourse' =>
      obtain ⟨hstay, hcurrent, hhistory⟩ := hstart.bothRead.staysWithin hhonest hs
      have harchived := passes_of_archive harchive hhistory fun now hnow =>
        hversion now _ _ _ _ hstart.accepts hnow rfl hvalue
      have hstay' := hcourse.staysWithin hhonest hstay.final harchived
      have hsent := hcurrent.insert (hcontent hstart.accepts)
      exact hstay.append (hstay'.append (hcourse'.staysWithin hhonest hstay'.final hsent))

/-- A deletion brings in nothing. -/
theorem DeleteCourse.staysWithin {r : Except (Failure τ) DeleteOutcome}
    (hhonest : store.backend.Honest Stores)
    (hcourse : store.DeleteCourse name s es r s') (hs : Within Stores P s) :
    StaysWithin Stores P es s' := by
  cases hcourse with
  | nameRefused => exact .nil hs
  | currentUnread _ hget =>
      obtain ⟨hs', -⟩ := hhonest.get_within hget hs
      exact .cons hs' (.nil hs')
  | historyUnread _ hcurrent hget =>
      obtain ⟨hs₁, -⟩ := hhonest.get_within hcurrent hs
      obtain ⟨hs₂, -⟩ := hhonest.get_within hget hs₁
      exact .cons hs₁ (.cons hs₂ (.nil hs₂))
  | absent _ hread => exact (hread.staysWithin hhonest hs).1
  | currentUnwritten _ hread _ hcourse =>
      obtain ⟨hstay, hcurrent, -⟩ := hread.staysWithin hhonest hs
      exact hstay.append (hcourse.staysWithin hhonest hstay.final (hcurrent.filter _))
  | erased _ hread _ hcourse hcourse' =>
      obtain ⟨hstay, hcurrent, hhistory⟩ := hread.staysWithin hhonest hs
      have hstay' := hcourse.staysWithin hhonest hstay.final (hcurrent.filter _)
      exact hstay.append (hstay'.append
        (hcourse'.staysWithin hhonest hstay'.final (hhistory.filter _)))

/-! ## One call -/

variable [TimeScale τ] (store)

/-- The first call of an update shows a current value of the name. -/
def Finds (w : World (Journal σ) ν τ) (name content : String) (clock : Moment)
    (value : String) : Prop :=
  ∃ observed s rest, ((store.journaled.put name content clock).run w).2.backend.exchanges =
      w.backend.exchanges ++ .got store.group.current (.ok observed) s :: rest ∧
    (shown observed).get? name = some value

/-- The entries that a call can bring into the collections. -/
inductive Brings (w : World (Journal σ) ν τ) :
    Operation → String → String → String → Prop
  | content {name content : String} {clock : Moment}
      (haccepts : store.Accepts name content w.checks) :
      Brings w (.put name content clock) store.group.current name content
  | version {name content previous : String} {clock : Moment} {now : Reading}
      (haccepts : store.Accepts name content w.checks) (hnow : clock.inUtc? = some now)
      (hfinds : store.Finds w name content clock previous) :
      Brings w (.put name content clock) store.group.history (versionKey name now) previous

theorem perform_stays (hhonest : store.backend.Honest Stores) (op : Operation)
    (w : World (Journal σ) ν τ) (hw : Within Stores P w.backend.state) :
    ∃ r w' es, (store.journaled.perform op).run w = (r, w') ∧
      w'.backend.exchanges = w.backend.exchanges ++ es ∧
      StaysWithin Stores (fun c key value => P c key value ∨ store.Brings w op c key value)
        es w'.backend.state := by
  have hw' : Within Stores (fun c key value => P c key value ∨ store.Brings w op c key value)
      w.backend.state := hw.mono fun _ _ _ => .inl
  cases op with
  | put name content clock =>
      obtain ⟨r, w', es, hrun, hexchanges, hcourse⟩ := store.put_course name content clock w
      refine ⟨r.map Reply.put, w', es, ?_, hexchanges,
        hcourse.staysWithin hhonest hw' ?_ ?_⟩
      · rw [perform, Action.run_map, hrun]
      · exact fun haccepts => .inr (.content haccepts)
      · rintro now observed s₁ rest previous haccepts hnow rfl hvalue
        refine .inr (.version haccepts hnow ⟨observed, s₁, rest, ?_, hvalue⟩)
        rw [hrun]
        exact hexchanges
  | delete name =>
      obtain ⟨r, w', es, hrun, hexchanges, hcourse⟩ := store.delete_course name w
      refine ⟨r.map Reply.deleted, w', es, ?_, hexchanges,
        hcourse.staysWithin hhonest hw'⟩
      rw [perform, Action.run_map, hrun]
  | getCurrent | listNames | listVersions | listHistory | getVersion =>
      exact (read_stays hhonest).perform rfl w hw'

/-! ## Runs -/

/-- The entries that the calls of a run can bring into the collections. -/
def Brought (w : World (Journal σ) ν τ) (calls : List (τ × Operation))
    (c key value : String) : Prop :=
  ∃ pre pause op post, calls = pre ++ (pause, op) :: post ∧
    store.Brings ((store.journaled.performPaced pre w).2.later pause) op c key value

theorem performPaced_stays (hhonest : store.backend.Honest Stores)
    (calls : List (τ × Operation)) (w : World (Journal σ) ν τ)
    (hw : Within Stores P w.backend.state) :
    ∃ es, (store.journaled.performPaced calls w).2.backend.exchanges =
        w.backend.exchanges ++ es ∧
      StaysWithin Stores
        (fun c key value => P c key value ∨ store.Brought w calls c key value) es
        (store.journaled.performPaced calls w).2.backend.state := by
  induction calls generalizing w P with
  | nil => exact ⟨[], (List.append_nil _).symm, .nil (hw.mono fun _ _ _ => .inl)⟩
  | cons call calls ih =>
      obtain ⟨pause, op⟩ := call
      obtain ⟨r, w', es, hrun, hexchanges, hes⟩ :=
        store.perform_stays hhonest op (w.later pause) hw
      obtain ⟨es', hexchanges', hes'⟩ := ih w' hes.final
      have hnext : (store.journaled.performPaced ((pause, op) :: calls) w).2 =
          (store.journaled.performPaced calls w').2 := by
        simp only [performPaced, hrun]
      rw [hnext]
      refine ⟨es ++ es', ?_, .append (hes.mono ?_) (hes'.mono ?_)⟩
      · rw [hexchanges', hexchanges, List.append_assoc]
        rfl
      · rintro c key value (hold | hbrings)
        · exact .inl hold
        · exact .inr ⟨[], pause, op, calls, rfl, hbrings⟩
      · rintro c key value ((hold | hbrings) | ⟨pre, pause', op', post, rfl, hbrings⟩)
        · exact .inl hold
        · exact .inr ⟨[], pause, op, calls, rfl, hbrings⟩
        · refine .inr ⟨(pause, op) :: pre, pause', op', post, rfl, ?_⟩
          simpa only [performPaced, hrun] using hbrings

/-- The content was given for the name in a call that passed both gates. -/
def Accepted (w : World σ ν τ) (calls : List (τ × Operation)) (name content : String) :
    Prop :=
  ∃ pre pause clock post, calls = pre ++ (pause, .put name content clock) :: post ∧
    store.Accepts name content (store.performPaced pre w).2.checks

/-- The key is that of a version at the reading of the clock of a call that passed both
gates, and the value is what that call read as the current one of its name. -/
def Archived (w : World σ ν τ) (calls : List (τ × Operation)) (key value : String) :
    Prop :=
  ∃ pre pause name content clock post now,
    calls = pre ++ (pause, .put name content clock) :: post ∧
    store.Accepts name content (store.performPaced pre w).2.checks ∧
    clock.inUtc? = some now ∧ key = versionKey name now ∧
    store.Finds ((store.journaled.performPaced pre w.journaled).2.later pause)
      name content clock value

variable {store}

theorem Brought.accepted_or_archived {w : World σ ν τ} {calls : List (τ × Operation)}
    {c key value : String} (h : store.Brought w.journaled calls c key value) :
    (c = store.group.current ∧ store.Accepted w calls key value) ∨
      (c = store.group.history ∧ store.Archived w calls key value) := by
  obtain ⟨pre, pause, op, post, rfl, hbrings⟩ := h
  have hchecks : (store.performPaced pre w).2.checks =
      ((store.journaled.performPaced pre w.journaled).2.later pause).checks := by
    have hrun := store.performPaced_mirrors pre w.journaled
    change store.performPaced pre w = _ at hrun
    rw [hrun]
    rfl
  cases hbrings with
  | content haccepts =>
      rw [← hchecks] at haccepts
      exact .inl ⟨rfl, pre, pause, _, post, rfl, haccepts⟩
  | version haccepts hnow hfinds =>
      rw [← hchecks] at haccepts
      exact .inr ⟨rfl, pre, pause, _, _, _, post, _, rfl, haccepts, hnow, rfl, hfinds⟩

/-- Over a backend in memory with any delay, and under any plan that invents no data, a
run brings nothing into the two collections, to be seen or under way, but contents that
passed both gates and values that updates found.  This holds after the run and after
each call of the backend in it, and so, as the run is any, after each of its starts. -/
theorem contents_from_updates {delay : τ} {next : OutagePlan φ}
    (hplan : ∀ c p data, (next .get c p).1 ≠ some (.answers (some data)))
    {store : Store (Disturbed (Memory τ) φ) ν τ}
    (hbackend : store.backend = (Memory.backend delay).disturbed next)
    (hdistinct : store.group.current ≠ store.group.history)
    (calls : List (τ × Operation)) (w : World (Disturbed (Memory τ) φ) ν τ) :
    let run := store.journaled.performPaced calls w.journaled
    store.performPaced calls w = (run.1, run.2.unwatched) ∧
    ∀ s, (s = run.2.backend.state ∨ ∃ e ∈ run.2.backend.exchanges, s = e.after) →
      (∀ name content, s.inner.Stores store.group.current name content →
        w.backend.inner.Stores store.group.current name content ∨
          store.Accepted w calls name content) ∧
      ∀ key value, s.inner.Stores store.group.history key value →
        w.backend.inner.Stores store.group.history key value ∨
          store.Archived w calls key value := by
  intro run
  have hhonest : store.backend.Honest fun s => s.inner.Stores := by
    rw [hbackend]
    exact Memory.disturbed_honest delay hplan
  obtain ⟨es, hexchanges, hes⟩ :=
    store.performPaced_stays hhonest calls w.journaled fun _ _ _ => id
  have hexchanges : run.2.backend.exchanges = es := hexchanges
  refine ⟨store.performPaced_mirrors calls w.journaled, ?_⟩
  intro s hs
  have hwithin : Within (fun s => s.inner.Stores) (fun c key value =>
      w.backend.inner.Stores c key value ∨ store.Brought w.journaled calls c key value)
      s := by
    rcases hs with rfl | ⟨e, he, rfl⟩
    · exact hes.final
    · exact hes.calls e (hexchanges ▸ he)
  constructor
  · intro name content hstores
    refine (hwithin _ _ _ hstores).imp_right fun hbrought => ?_
    rcases hbrought.accepted_or_archived with ⟨-, haccepted⟩ | ⟨hc, -⟩
    · exact haccepted
    · exact absurd hc hdistinct
  · intro key value hstores
    refine (hwithin _ _ _ hstores).imp_right fun hbrought => ?_
    rcases hbrought.accepted_or_archived with ⟨hc, -⟩ | ⟨-, harchived⟩
    · exact absurd hc.symm hdistinct
    · exact harchived

/-- Rules of alerts in memory whose writes show after two seconds, or are lost. -/
def laggingRules : Store (Disturbed (Memory Rat) Unit) Unit Rat :=
  (rulesUnder (losing "alertrules") .standard).withBackend
    ((Memory.backend 2).disturbed (losing "alertrules"))

/-- An update that archives a rule and then loses the new one. -/
theorem contents_from_lost_update :
    let calls : List (Rat × Operation) := [(1, .put "a.rules" "two" (.utc noon))]
    let run := laggingRules.performPaced calls oneRule
    (∀ c p data, (losing "alertrules" .get c p).1 ≠ some (.answers (some data))) ∧
      laggingRules.backend = (Memory.backend 2).disturbed (losing "alertrules") ∧
      laggingRules.group.current ≠ laggingRules.group.history ∧
      ∀ key value, run.2.backend.inner.Stores "alertrules-versions" key value →
        oneRule.backend.inner.Stores "alertrules-versions" key value ∨
          laggingRules.Archived oneRule calls key value := by
  intro calls run
  have hplan : ∀ c p data,
      (losing "alertrules" .get c p).1 ≠ some (.answers (some data)) := by
    simp [losing]
  have hdistinct : laggingRules.group.current ≠ laggingRules.group.history := by decide
  obtain ⟨hrun, hcontents⟩ := contents_from_updates hplan rfl hdistinct calls oneRule
  refine ⟨hplan, rfl, hdistinct, ?_⟩
  have hrun : run = _ := hrun
  rw [hrun]
  exact (hcontents _ (.inl rfl)).2

end Store

end ConfigVault
