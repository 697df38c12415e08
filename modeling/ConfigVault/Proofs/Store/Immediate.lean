import ConfigVault.Proofs.Store.Answers
import ConfigVault.Proofs.Store.DeleteCourse
import ConfigVault.Proofs.Store.PutCourse

/-!
# Calls over collections that answer at once

Over a prompt backend a call depends on two things only: what the collections hold, and
the state of the check.  Its reply and what it makes of the two are written down here as
functions, and every run over a prompt backend is shown to go as they say.
-/

namespace ConfigVault

open Calendar Version

variable {σ ν τ α β : Type}

/-- What the collections hold, with the state of a check. -/
structure Holdings (ν : Type) where
  contents : String → Collection
  checks : ν

namespace Holdings

def write (x : Holdings ν) (c : String) (m : Collection) : Holdings ν :=
  { x with contents := Function.update x.contents c m }

@[simp] theorem write_contents (x : Holdings ν) (c : String) (m : Collection) :
    (x.write c m).contents = Function.update x.contents c m := rfl

@[simp] theorem write_checks (x : Holdings ν) (c : String) (m : Collection) :
    (x.write c m).checks = x.checks := rfl

end Holdings

namespace Store

variable (store : Store σ ν τ) (x : Holdings ν)

/-- Makes a content that has passed the check the current value. -/
def replaceIn (name content : String) (clock : Moment) :
    Except (Failure τ) PutOutcome × Holdings ν :=
  match (x.contents store.group.current).get? name with
  | none =>
    (.ok .created,
      x.write store.group.current ((x.contents store.group.current).insert name content))
  | some previous =>
    if previous = content then (.ok .unchanged, x)
    else
      match archive store.retention name previous clock (x.contents store.group.history) with
      | .error escape => (.error (.escaped escape), x)
      | .ok archived =>
        (.ok .updated, (x.write store.group.history archived).write store.group.current
          ((x.contents store.group.current).insert name content))

def putIn (name content : String) (clock : Moment) :
    Except (Failure τ) PutOutcome × Holdings ν :=
  match Name.check store.group name with
  | .error refusal => (.error (.name name refusal), x)
  | .ok () =>
    match store.check content x.checks with
    | (.error failure, checks) => (.error (.ofCheck failure), { x with checks })
    | (.ok _, checks) => store.replaceIn { x with checks } name content clock

def deleteIn (name : String) : Except (Failure τ) DeleteOutcome × Holdings ν :=
  match Name.check store.group name with
  | .error refusal => (.error (.name name refusal), x)
  | .ok () =>
    if (x.contents store.group.current).contains name then
      (.ok .deleted,
        (x.write store.group.current ((x.contents store.group.current).erase name)).write
          store.group.history (cleared name (x.contents store.group.history)))
    else (.ok .notFound, x)

def about (name : String) (reply : Except (Failure τ) α) : Except (Failure τ) α :=
  match Name.check store.group name with
  | .error refusal => .error (.name name refusal)
  | .ok () => reply

def contentAt (name timestamp : String) (history : Collection) :
    Except (Failure τ) (Option String) :=
  ((parseTimestamp timestamp).mapError (.timestamp timestamp)).map fun moment =>
    history.get? (versionKey name moment)

def performIn : Operation → Except (Failure τ) Reply × Holdings ν
  | .put name content clock =>
    let (outcome, x) := store.putIn x name content clock
    (outcome.map .put, x)
  | .delete name =>
    let (outcome, x) := store.deleteIn x name
    (outcome.map .deleted, x)
  | .getCurrent name =>
    ((store.about name (.ok ((x.contents store.group.current).get? name))).map .value, x)
  | .listNames => (.ok (.texts (x.contents store.group.current).keys), x)
  | .listVersions name =>
    ((store.about name (.ok (labelsIn name (x.contents store.group.history)))).map .texts, x)
  | .listHistory name =>
    ((store.about name (.ok (versionsIn name (x.contents store.group.history)))).map
      .versions, x)
  | .getVersion name timestamp =>
    ((store.about name (contentAt name timestamp (x.contents store.group.history))).map
      .value, x)

/-! ## Runs over a prompt backend -/

/-- The operation ends as given, at the time at which it began. -/
def EndsAs (contents : σ → String → Collection) (Settled : σ → Prop)
    (a : Action σ ν τ α) (w : World σ ν τ) (out : Except (Failure τ) α × Holdings ν) :
    Prop :=
  ∃ s, a.run w = (out.1, ⟨s, out.2.checks, w.now⟩) ∧ Settled s ∧
    contents s = out.2.contents

variable {contents : σ → String → Collection} {Settled : σ → Prop}

theorem EndsAs.map {a : Action σ ν τ α} {w : World σ ν τ}
    {out : Except (Failure τ) α × Holdings ν} (h : EndsAs contents Settled a w out)
    (f : α → β) : EndsAs contents Settled (f <$> a) w (out.1.map f, out.2) := by
  obtain ⟨s, hrun, hs⟩ := h
  refine ⟨s, ?_, hs⟩
  rw [Action.run_map, hrun]

variable {store x} (hprompt : store.backend.Prompt contents Settled) (w : World σ ν τ)
  (hsettled : Settled w.backend)

include hprompt hsettled

theorem readCurrent_endsAs (f : Collection → α) :
    EndsAs contents Settled (do return f (← store.readCurrent)) w
      (.ok (f (contents w.backend store.group.current)), ⟨contents w.backend, w.checks⟩) := by
  obtain ⟨s, hrun, hs⟩ := readCurrent_answer hprompt w hsettled
  refine ⟨s, ?_, hs⟩
  rw [Action.run_bind_of_ok hrun, Action.run_pure]

theorem readHistory_endsAs (f : Collection → α) :
    EndsAs contents Settled (do return f (← store.readHistory)) w
      (.ok (f (contents w.backend store.group.history)), ⟨contents w.backend, w.checks⟩) := by
  obtain ⟨s, hrun, hs⟩ := readHistory_answer hprompt w hsettled
  refine ⟨s, ?_, hs⟩
  rw [Action.run_bind_of_ok hrun, Action.run_pure]

theorem contentAt_endsAs (name timestamp : String) :
    EndsAs contents Settled (do
        let moment ← .ofExcept ((parseTimestamp timestamp).mapError (.timestamp timestamp))
        return (← store.readHistory).get? (versionKey name moment)) w
      (contentAt name timestamp (contents w.backend store.group.history),
        ⟨contents w.backend, w.checks⟩) := by
  unfold contentAt
  cases hparse : parseTimestamp timestamp with
  | error defect =>
      refine ⟨w.backend, ?_, hsettled, rfl⟩
      simp only [Except.mapError]
      rw [Action.run_bind_of_error (Action.run_ofExcept _ w)]
      rfl
  | ok moment =>
      obtain ⟨s, hrun, hs⟩ := readHistory_endsAs hprompt w hsettled
        fun history => history.get? (versionKey name moment)
      refine ⟨s, ?_, hs⟩
      simp only [Except.mapError]
      rw [Action.run_bind_of_ok (Action.run_ofExcept _ w)]
      exact hrun

omit hprompt in
theorem about_endsAs (name : String) {rest : Action σ ν τ α} {reply : Except (Failure τ) α}
    (hrest : EndsAs contents Settled rest w (reply, ⟨contents w.backend, w.checks⟩)) :
    EndsAs contents Settled (do store.checkName name; rest) w
      (store.about name reply, ⟨contents w.backend, w.checks⟩) := by
  unfold about
  cases hname : Name.check store.group name with
  | error refusal =>
      refine ⟨w.backend, ?_, hsettled, rfl⟩
      rw [Action.run_bind_of_error (checkName_run_error hname w)]
  | ok _ =>
      obtain ⟨s, hrun, hs⟩ := hrest
      refine ⟨s, ?_, hs⟩
      rw [Action.run_bind_of_ok (checkName_run_ok hname w), hrun]

theorem readBoth_run (f : Collection → Collection → Action σ ν τ α) :
    ∃ s, (do
        let current ← store.readCurrent
        let history ← store.readHistory
        f current history).run w =
      (f (contents w.backend store.group.current)
        (contents w.backend store.group.history)).run { w with backend := s } ∧
      Settled s ∧ contents s = contents w.backend := by
  obtain ⟨s, hcurrent, hs, hcontents⟩ := readCurrent_answer hprompt w hsettled
  obtain ⟨s', hhistory, hs', hcontents'⟩ :=
    readHistory_answer hprompt { w with backend := s } hs
  refine ⟨s', ?_, hs', hcontents'.trans hcontents⟩
  rw [Action.run_bind_of_ok hcurrent, Action.run_bind_of_ok hhistory, hcontents]

variable [TimeScale τ]

theorem replace_endsAs (name content : String) (clock : Moment) :
    EndsAs contents Settled
      (store.replace name content clock (contents w.backend store.group.current)
        (contents w.backend store.group.history)) w
      (store.replaceIn ⟨contents w.backend, w.checks⟩ name content clock) := by
  unfold replace replaceIn
  dsimp only
  cases hvalue : (contents w.backend store.group.current).get? name with
  | none =>
      obtain ⟨s, hcommit, hs⟩ := hprompt.commit_run store.confirmation store.group.current
        ((contents w.backend store.group.current).insert name content) w hsettled
      refine ⟨s, ?_, hs⟩
      rw [Action.run_bind_of_ok hcommit]
      rfl
  | some previous =>
      dsimp only
      by_cases hsame : previous = content
      · rw [if_pos hsame, if_pos hsame]
        exact ⟨w.backend, rfl, hsettled, rfl⟩
      rw [if_neg hsame, if_neg hsame]
      cases harchive : archive store.retention name previous clock
          (contents w.backend store.group.history) with
      | error escape =>
          refine ⟨w.backend, ?_, hsettled, rfl⟩
          simp only [Except.mapError]
          rw [Action.run_bind_of_error (Action.run_ofExcept _ w)]
      | ok archived =>
          obtain ⟨s, hcommit, hs, hcontents⟩ := hprompt.commit_run store.confirmation
            store.group.history archived w hsettled
          obtain ⟨s', hcommit', hs', hcontents'⟩ := hprompt.commit_run store.confirmation
            store.group.current ((contents w.backend store.group.current).insert name content)
            { w with backend := s } hs
          refine ⟨s', ?_, hs', ?_⟩
          · simp only [Except.mapError]
            rw [Action.run_bind_of_ok (Action.run_ofExcept _ w),
              Action.run_bind_of_ok hcommit, Action.run_bind_of_ok hcommit']
            rfl
          · rw [hcontents', hcontents]
            rfl

theorem put_endsAs (name content : String) (clock : Moment) :
    EndsAs contents Settled (store.put name content clock) w
      (store.putIn ⟨contents w.backend, w.checks⟩ name content clock) := by
  rw [put_eq]
  unfold putIn
  cases hname : Name.check store.group name with
  | error refusal =>
      refine ⟨w.backend, ?_, hsettled, rfl⟩
      rw [Action.run_bind_of_error (checkName_run_error hname w)]
  | ok _ =>
  have hpassed := store.checkContent_run content w
  rcases hcontent : store.check content w.checks with ⟨failure | diagnostics, k⟩
  · rw [hcontent] at hpassed
    refine ⟨w.backend, ?_, hsettled, rfl⟩
    rw [Action.run_bind_of_ok (checkName_run_ok hname w), Action.run_bind_of_error hpassed]
  rw [hcontent] at hpassed
  obtain ⟨s, hread, hs, hcontents⟩ := readBoth_run hprompt { w with checks := k } hsettled
    (store.replace name content clock)
  obtain ⟨s', hreplace, hend⟩ :=
    replace_endsAs hprompt { w with checks := k, backend := s } hs name content clock
  simp only [hcontents] at hreplace hend
  refine ⟨s', ?_, hend⟩
  rw [Action.run_bind_of_ok (checkName_run_ok hname w), Action.run_bind_of_ok hpassed,
    hread, hreplace]

theorem delete_endsAs (name : String) :
    EndsAs contents Settled (store.delete name) w
      (store.deleteIn ⟨contents w.backend, w.checks⟩ name) := by
  rw [delete_eq]
  unfold deleteIn
  cases hname : Name.check store.group name with
  | error refusal =>
      refine ⟨w.backend, ?_, hsettled, rfl⟩
      rw [Action.run_bind_of_error (checkName_run_error hname w)]
  | ok _ =>
  obtain ⟨s, hread, hs, hcontents⟩ := readBoth_run hprompt w hsettled (store.remove name)
  unfold EndsAs
  rw [Action.run_bind_of_ok (checkName_run_ok hname w), hread]
  unfold remove
  dsimp only
  by_cases hcontains : (contents w.backend store.group.current).contains name = true
  · rw [if_pos hcontains, if_pos hcontains]
    obtain ⟨s₁, herase, hs₁, herased⟩ := hprompt.commit_run store.confirmation
      store.group.current ((contents w.backend store.group.current).erase name)
      { w with backend := s } hs
    obtain ⟨s₂, hclear, hs₂, hcleared⟩ := hprompt.commit_run store.confirmation
      store.group.history (cleared name (contents w.backend store.group.history))
      { w with backend := s₁ } hs₁
    refine ⟨s₂, ?_, hs₂, ?_⟩
    · rw [Action.run_bind_of_ok herase, Action.run_bind_of_ok hclear]
      rfl
    · rw [hcleared, herased, hcontents]
      rfl
  · rw [if_neg hcontains, if_neg hcontains]
    exact ⟨s, rfl, hs, hcontents⟩

/-- A call over a prompt backend ends as its description says. -/
theorem perform_endsAs (op : Operation) :
    EndsAs contents Settled (store.perform op) w
      (store.performIn ⟨contents w.backend, w.checks⟩ op) := by
  cases op with
  | put name content clock => exact (put_endsAs hprompt w hsettled name content clock).map _
  | delete name => exact (delete_endsAs hprompt w hsettled name).map _
  | getCurrent name =>
      refine EndsAs.map (about_endsAs w hsettled name ?_) _
      exact readCurrent_endsAs hprompt w hsettled fun current => current.get? name
  | listNames => exact EndsAs.map (readCurrent_endsAs hprompt w hsettled KeyMap.keys) _
  | listVersions name =>
      refine EndsAs.map (about_endsAs w hsettled name ?_) _
      exact readHistory_endsAs hprompt w hsettled (labelsIn name)
  | listHistory name =>
      refine EndsAs.map (about_endsAs w hsettled name ?_) _
      exact readHistory_endsAs hprompt w hsettled (versionsIn name)
  | getVersion name timestamp =>
      refine EndsAs.map (about_endsAs w hsettled name ?_) _
      exact contentAt_endsAs hprompt w hsettled name timestamp

end Store

end ConfigVault
