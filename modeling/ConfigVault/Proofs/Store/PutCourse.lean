import ConfigVault.Proofs.Store.Start

/-!
# The courses of an update

Everything that making a new value current can do, for any backend: which calls
are made with what data, what comes of them, and how it ends.  The properties of
updates are read off these courses.
-/

namespace ConfigVault

open Calendar Version

variable {σ ν τ : Type}

namespace Store

variable (store : Store σ ν τ)

/-- An update passes both gates. -/
structure Accepts (name content : String) (k : ν) : Prop where
  name_ok : Name.check store.group name = .ok ()
  content_ok : ∃ diagnostics, (store.check content k).1 = .ok diagnostics

/-- The steps before the first write: the name and the content pass, and both
collections are read. -/
structure PutStart (name content : String) (s : σ) (k : ν)
    (current history : Option Collection) (s₁ s₂ : σ) (k' : ν) : Prop where
  name_ok : Name.check store.group name = .ok ()
  content_ok : ∃ diagnostics, store.check content k = (.ok diagnostics, k')
  got_current : ∃ now, store.backend.get store.group.current now s = (.ok current, s₁)
  got_history : ∃ now, store.backend.get store.group.history now s₁ = (.ok history, s₂)

theorem PutStart.bothRead {store : Store σ ν τ} {name content : String} {s s₁ s₂ : σ}
    {k k' : ν} {current history : Option Collection}
    (hstart : store.PutStart name content s k current history s₁ s₂ k') :
    store.BothRead s current history s₁ s₂ :=
  ⟨hstart.got_current, hstart.got_history⟩

theorem PutStart.accepts {store : Store σ ν τ} {name content : String} {s s₁ s₂ : σ}
    {k k' : ν} {current history : Option Collection}
    (hstart : store.PutStart name content s k current history s₁ s₂ k') :
    store.Accepts name content k := by
  obtain ⟨diagnostics, hcontent⟩ := hstart.content_ok
  refine ⟨hstart.name_ok, diagnostics, ?_⟩
  rw [hcontent]

/-- The ways in which an update can go from a state of the backend and of the
checks: its calls, how it ends, and the states at the end. -/
inductive PutCourse (name content : String) (clock : Moment) (s : σ) (k : ν) :
    List (Exchange σ) → Except (Failure τ) PutOutcome → σ → ν → Prop
  | nameRefused {refusal : NameRefusal}
      (hname : Name.check store.group name = .error refusal) :
      PutCourse name content clock s k [] (.error (.name name refusal)) s k
  | contentRefused {failure : CheckFailure} {k' : ν}
      (hname : Name.check store.group name = .ok ())
      (hcontent : store.check content k = (.error failure, k')) :
      PutCourse name content clock s k [] (.error (.ofCheck failure)) s k'
  | currentUnread {diagnostics : String} {k' : ν} {now : τ} {fault : Fault} {s' : σ}
      (hname : Name.check store.group name = .ok ())
      (hcontent : store.check content k = (.ok diagnostics, k'))
      (hget : store.backend.get store.group.current now s = (.error fault, s')) :
      PutCourse name content clock s k [.got store.group.current (.error fault) s']
        (.error (.ofRead store.group.current fault)) s' k'
  | historyUnread {diagnostics : String} {k' : ν} {now now' : τ} {fault : Fault}
      {current : Option Collection} {s' s'' : σ}
      (hname : Name.check store.group name = .ok ())
      (hcontent : store.check content k = (.ok diagnostics, k'))
      (hcurrent : store.backend.get store.group.current now s = (.ok current, s'))
      (hget : store.backend.get store.group.history now' s' = (.error fault, s'')) :
      PutCourse name content clock s k
        [.got store.group.current (.ok current) s',
          .got store.group.history (.error fault) s'']
        (.error (.ofRead store.group.history fault)) s'' k'
  | unchanged {current history : Option Collection} {s₁ s₂ : σ} {k' : ν}
      (hstart : store.PutStart name content s k current history s₁ s₂ k')
      (hvalue : (shown current).get? name = some content) :
      PutCourse name content clock s k (store.startCalls current history s₁ s₂)
        (.ok .unchanged) s₂ k'
  | created {current history : Option Collection} {s₁ s₂ s' : σ} {k' : ν}
      {es : List (Exchange σ)} {r : Except (Failure τ) Unit}
      (hstart : store.PutStart name content s k current history s₁ s₂ k')
      (hvalue : (shown current).get? name = none)
      (hcurrent : store.backend.CommitCourse store.group.current
        ((shown current).insert name content) s₂ es r s') :
      PutCourse name content clock s k (store.startCalls current history s₁ s₂ ++ es)
        (r.map fun _ => .created) s' k'
  | unarchived {current history : Option Collection} {s₁ s₂ : σ} {k' : ν}
      {previous : String} {escape : Escape}
      (hstart : store.PutStart name content s k current history s₁ s₂ k')
      (hvalue : (shown current).get? name = some previous) (hnew : previous ≠ content)
      (harchive : archive store.retention name previous clock (shown history) =
        .error escape) :
      PutCourse name content clock s k (store.startCalls current history s₁ s₂)
        (.error (.escaped escape)) s₂ k'
  | historyUnwritten {current history : Option Collection} {s₁ s₂ s' : σ} {k' : ν}
      {previous : String} {archived : Collection} {es : List (Exchange σ)}
      {failure : Failure τ}
      (hstart : store.PutStart name content s k current history s₁ s₂ k')
      (hvalue : (shown current).get? name = some previous) (hnew : previous ≠ content)
      (harchive : archive store.retention name previous clock (shown history) =
        .ok archived)
      (hhistory : store.backend.CommitCourse store.group.history archived s₂ es
        (.error failure) s') :
      PutCourse name content clock s k (store.startCalls current history s₁ s₂ ++ es)
        (.error failure) s' k'
  | updated {current history : Option Collection} {s₁ s₂ s₃ s' : σ} {k' : ν}
      {previous : String} {archived : Collection} {es es' : List (Exchange σ)}
      {r : Except (Failure τ) Unit}
      (hstart : store.PutStart name content s k current history s₁ s₂ k')
      (hvalue : (shown current).get? name = some previous) (hnew : previous ≠ content)
      (harchive : archive store.retention name previous clock (shown history) =
        .ok archived)
      (hhistory : store.backend.CommitCourse store.group.history archived s₂ es
        (.ok ()) s₃)
      (hcurrent : store.backend.CommitCourse store.group.current
        ((shown current).insert name content) s₃ es' r s') :
      PutCourse name content clock s k
        (store.startCalls current history s₁ s₂ ++ (es ++ es'))
        (r.map fun _ => .updated) s' k'

variable [TimeScale τ]

/-- The rest of an update once both collections have been read. -/
def replace (name content : String) (clock : Moment) (current history : Collection) :
    Action σ ν τ PutOutcome :=
  match current.get? name with
  | none => do
    store.backend.commit store.confirmation store.group.current (current.insert name content)
    return .created
  | some previous => do
    if previous = content then return .unchanged
    let history ← .ofExcept
      ((archive store.retention name previous clock history).mapError .escaped)
    store.backend.commit store.confirmation store.group.history history
    store.backend.commit store.confirmation store.group.current (current.insert name content)
    return .updated

theorem put_eq (name content : String) (clock : Moment) :
    store.put name content clock = (do
      store.checkName name
      let _ ← store.checkContent content
      let current ← store.readCurrent
      let history ← store.readHistory
      store.replace name content clock current history) := rfl

theorem replace_course {name content : String} (clock : Moment) {s s₁ : σ} {k : ν}
    {current history : Option Collection} (w : World (Journal σ) ν τ)
    (hstart : store.PutStart name content s k current history s₁ w.backend.state w.checks) :
    ∃ r w' es,
      (store.journaled.replace name content clock (shown current) (shown history)).run w =
        (r, w') ∧
      w'.backend.exchanges = w.backend.exchanges ++ es ∧
      store.PutCourse name content clock s k
        (store.startCalls current history s₁ w.backend.state ++ es) r
        w'.backend.state w'.checks := by
  simp only [replace, journaled_backend, journaled_confirmation, journaled_group,
    journaled_retention]
  cases hvalue : (shown current).get? name with
  | none =>
      obtain ⟨r, w', es, hcommit, hchecks, hexchanges, hcourse⟩ :=
        store.backend.commit_course store.confirmation store.group.current
          ((shown current).insert name content) w
      rw [← hchecks] at hstart
      rw [Action.run_bind_pure, hcommit]
      exact ⟨_, w', es, rfl, hexchanges, .created hstart hvalue hcourse⟩
  | some previous =>
      dsimp only
      by_cases hsame : previous = content
      · rw [if_pos hsame]
        refine ⟨_, w, [], rfl, (List.append_nil _).symm, ?_⟩
        rw [List.append_nil]
        exact .unchanged hstart (hvalue.trans (congrArg some hsame))
      rw [if_neg hsame]
      cases harchive : archive store.retention name previous clock (shown history) with
      | error escape =>
          simp only [Except.mapError]
          rw [Action.run_bind_of_error (Action.run_ofExcept _ w)]
          refine ⟨_, w, [], rfl, (List.append_nil _).symm, ?_⟩
          rw [List.append_nil]
          exact .unarchived hstart hvalue hsame harchive
      | ok archived =>
          simp only [Except.mapError]
          rw [Action.run_bind_of_ok (Action.run_ofExcept _ w)]
          obtain ⟨r, w', es, hcommit, hchecks, hexchanges, hcourse⟩ :=
            store.backend.commit_course store.confirmation store.group.history archived w
          rw [← hchecks] at hstart
          cases r with
          | error failure =>
              rw [Action.run_bind_of_error hcommit]
              exact ⟨_, w', es, rfl, hexchanges,
                .historyUnwritten hstart hvalue hsame harchive hcourse⟩
          | ok _ =>
              rw [Action.run_bind_of_ok hcommit]
              obtain ⟨r, w'', es', hcommit', hchecks', hexchanges', hcourse'⟩ :=
                store.backend.commit_course store.confirmation store.group.current
                  ((shown current).insert name content) w'
              rw [← hchecks'] at hstart
              rw [hexchanges, List.append_assoc] at hexchanges'
              rw [Action.run_bind_pure, hcommit']
              exact ⟨_, w'', _, rfl, hexchanges',
                .updated hstart hvalue hsame harchive hcourse hcourse'⟩

theorem put_course (name content : String) (clock : Moment)
    (w : World (Journal σ) ν τ) :
    ∃ r w' es, (store.journaled.put name content clock).run w = (r, w') ∧
      w'.backend.exchanges = w.backend.exchanges ++ es ∧
      store.PutCourse name content clock w.backend.state w.checks es r
        w'.backend.state w'.checks := by
  rw [put_eq]
  cases hname : Name.check store.journaled.group name with
  | error refusal =>
      rw [Action.run_bind_of_error (checkName_run_error hname w)]
      exact ⟨_, _, [], rfl, (List.append_nil _).symm, .nameRefused hname⟩
  | ok _ =>
  rw [Action.run_bind_of_ok (checkName_run_ok hname w)]
  have hpassed := store.journaled.checkContent_run content w
  change _ = ((store.check content w.checks).1.mapError Failure.ofCheck,
    { w with checks := (store.check content w.checks).2 }) at hpassed
  rcases hcontent : store.check content w.checks with ⟨failure | diagnostics, k⟩
  · rw [hcontent] at hpassed
    rw [Action.run_bind_of_error hpassed]
    exact ⟨_, _, [], rfl, (List.append_nil _).symm, .contentRefused hname hcontent⟩
  rw [hcontent] at hpassed
  rw [Action.run_bind_of_ok hpassed]
  rcases store.readBoth_course (store.journaled.replace name content clock)
      { w with checks := k } with
    ⟨_, _, _, hget, hrun⟩ | ⟨_, _, _, _, _, _, hcurrent, hget, hrun⟩ |
      ⟨current, history, s₁, s₂, hread, hrun⟩
  · rw [hrun]
    exact ⟨_, _, _, rfl, rfl, .currentUnread hname hcontent hget⟩
  · rw [hrun]
    exact ⟨_, _, _, rfl, rfl, .historyUnread hname hcontent hcurrent hget⟩
  obtain ⟨r, w', es, hreplace, hexchanges, hcourse⟩ :=
    store.replace_course clock
      ⟨⟨s₂, w.backend.exchanges ++ store.startCalls current history s₁ s₂⟩, k, w.now⟩
      ⟨hname, ⟨diagnostics, hcontent⟩, hread.got_current, hread.got_history⟩
  rw [hrun]
  refine ⟨r, w', _, hreplace, ?_, hcourse⟩
  rw [hexchanges, List.append_assoc]

/-- An update goes as the update of the watched store, which takes one of its courses. -/
theorem put_watched (name content : String) (clock : Moment) (w : World σ ν τ) :
    ∃ r w', (store.journaled.put name content clock).run w.journaled = (r, w') ∧
      (store.put name content clock).run w = (r, w'.unwatched) ∧
      store.PutCourse name content clock w.backend w.checks w'.backend.exchanges r
        w'.backend.state w'.checks := by
  obtain ⟨r, w', es, hrun, hexchanges, hcourse⟩ :=
    store.put_course name content clock w.journaled
  have hes : w'.backend.exchanges = es := hexchanges
  have hplain := store.put_mirrors name content clock w.journaled
  rw [hrun] at hplain
  rw [← hes] at hcourse
  exact ⟨r, w', hrun, hplain, hcourse⟩

end Store

end ConfigVault
