import ConfigVault.Proofs.Store.Start

/-!
# The courses of a deletion

Everything that taking an artifact away can do, for any backend: which calls are made
with what data, and how it ends.  Over an erratic backend it leaves the collections at one
of three stages: as they were, without the current value, or without the versions as
well.
-/

namespace ConfigVault

open Version

variable {σ ν τ : Type}

namespace Store

variable (store : Store σ ν τ)

def cleared (name : String) (history : Collection) : Collection :=
  history.filter fun key => !belongsTo name key

theorem get?_cleared (name key : String) (history : Collection) :
    (cleared name history).get? key =
      if belongsTo name key then none else history.get? key := by
  rw [cleared, KeyMap.get?_filter]
  cases belongsTo name key <;> rfl

/-- The ways in which a deletion can go from a state of the backend: its calls, how it
ends, and the state at the end. -/
inductive DeleteCourse (name : String) (s : σ) :
    List (Exchange σ) → Except (Failure τ) DeleteOutcome → σ → Prop
  | nameRefused {refusal : NameRefusal}
      (hname : Name.check store.group name = .error refusal) :
      DeleteCourse name s [] (.error (.name name refusal)) s
  | currentUnread {now : τ} {fault : Fault} {s' : σ}
      (hname : Name.check store.group name = .ok ())
      (hget : store.backend.get store.group.current now s = (.error fault, s')) :
      DeleteCourse name s [.got store.group.current (.error fault) s']
        (.error (.ofRead store.group.current fault)) s'
  | historyUnread {now now' : τ} {fault : Fault} {current : Option Collection} {s' s'' : σ}
      (hname : Name.check store.group name = .ok ())
      (hcurrent : store.backend.get store.group.current now s = (.ok current, s'))
      (hget : store.backend.get store.group.history now' s' = (.error fault, s'')) :
      DeleteCourse name s
        [.got store.group.current (.ok current) s',
          .got store.group.history (.error fault) s'']
        (.error (.ofRead store.group.history fault)) s''
  | absent {current history : Option Collection} {s₁ s₂ : σ}
      (hname : Name.check store.group name = .ok ())
      (hread : store.BothRead s current history s₁ s₂)
      (hvalue : (shown current).get? name = none) :
      DeleteCourse name s (store.startCalls current history s₁ s₂) (.ok .notFound) s₂
  | currentUnwritten {current history : Option Collection} {s₁ s₂ s' : σ} {value : String}
      {es : List (Exchange σ)} {failure : Failure τ}
      (hname : Name.check store.group name = .ok ())
      (hread : store.BothRead s current history s₁ s₂)
      (hvalue : (shown current).get? name = some value)
      (hcurrent : store.backend.CommitCourse store.group.current
        ((shown current).erase name) s₂ es (.error failure) s') :
      DeleteCourse name s (store.startCalls current history s₁ s₂ ++ es)
        (.error failure) s'
  | erased {current history : Option Collection} {s₁ s₂ s₃ s' : σ} {value : String}
      {es es' : List (Exchange σ)} {r : Except (Failure τ) Unit}
      (hname : Name.check store.group name = .ok ())
      (hread : store.BothRead s current history s₁ s₂)
      (hvalue : (shown current).get? name = some value)
      (hcurrent : store.backend.CommitCourse store.group.current
        ((shown current).erase name) s₂ es (.ok ()) s₃)
      (hhistory : store.backend.CommitCourse store.group.history
        (cleared name (shown history)) s₃ es' r s') :
      DeleteCourse name s (store.startCalls current history s₁ s₂ ++ (es ++ es'))
        (r.map fun _ => .deleted) s'

variable [TimeScale τ]

/-- The rest of a deletion once both collections have been read. -/
def remove (name : String) (current history : Collection) : Action σ ν τ DeleteOutcome := do
  if current.contains name then
    store.backend.commit store.confirmation store.group.current (current.erase name)
    store.backend.commit store.confirmation store.group.history (cleared name history)
    return .deleted
  else return .notFound

theorem delete_eq (name : String) :
    store.delete name = (do
      store.checkName name
      let current ← store.readCurrent
      let history ← store.readHistory
      store.remove name current history) := rfl

theorem remove_course {name : String} {s s₁ : σ} {current history : Option Collection}
    (w : World (Journal σ) ν τ) (hname : Name.check store.group name = .ok ())
    (hread : store.BothRead s current history s₁ w.backend.state) :
    ∃ r w' es,
      (store.journaled.remove name (shown current) (shown history)).run w = (r, w') ∧
      w'.backend.exchanges = w.backend.exchanges ++ es ∧
      store.DeleteCourse name s
        (store.startCalls current history s₁ w.backend.state ++ es) r w'.backend.state := by
  simp only [remove, journaled_backend, journaled_confirmation, journaled_group]
  cases hvalue : (shown current).get? name with
  | none =>
      have hcontains : (shown current).contains name = false := by
        rw [KeyMap.contains, hvalue, Option.isSome_none]
      simp only [hcontains, Bool.false_eq_true, if_false]
      refine ⟨_, w, [], rfl, (List.append_nil _).symm, ?_⟩
      rw [List.append_nil]
      exact .absent hname hread hvalue
  | some value =>
      have hcontains : (shown current).contains name = true := by
        rw [KeyMap.contains, hvalue, Option.isSome_some]
      simp only [hcontains, if_true]
      obtain ⟨r, w', es, hcommit, -, hexchanges, hcourse⟩ :=
        store.backend.commit_course store.confirmation store.group.current
          ((shown current).erase name) w
      cases r with
      | error failure =>
          rw [Action.run_bind_of_error hcommit]
          exact ⟨_, w', es, rfl, hexchanges, .currentUnwritten hname hread hvalue hcourse⟩
      | ok _ =>
          rw [Action.run_bind_of_ok hcommit]
          obtain ⟨r, w'', es', hcommit', -, hexchanges', hcourse'⟩ :=
            store.backend.commit_course store.confirmation store.group.history
              (cleared name (shown history)) w'
          rw [hexchanges, List.append_assoc] at hexchanges'
          rw [Action.run_bind_pure, hcommit']
          exact ⟨_, w'', _, rfl, hexchanges', .erased hname hread hvalue hcourse hcourse'⟩

theorem delete_course (name : String) (w : World (Journal σ) ν τ) :
    ∃ r w' es, (store.journaled.delete name).run w = (r, w') ∧
      w'.backend.exchanges = w.backend.exchanges ++ es ∧
      store.DeleteCourse name w.backend.state es r w'.backend.state := by
  rw [delete_eq]
  cases hname : Name.check store.journaled.group name with
  | error refusal =>
      rw [Action.run_bind_of_error (checkName_run_error hname w)]
      exact ⟨_, _, [], rfl, (List.append_nil _).symm, .nameRefused hname⟩
  | ok _ =>
  rw [Action.run_bind_of_ok (checkName_run_ok hname w)]
  rcases store.readBoth_course (store.journaled.remove name) w with
    ⟨_, _, _, hget, hrun⟩ | ⟨_, _, _, _, _, _, hcurrent, hget, hrun⟩ |
      ⟨current, history, s₁, s₂, hread, hrun⟩
  · rw [hrun]
    exact ⟨_, _, _, rfl, rfl, .currentUnread hname hget⟩
  · rw [hrun]
    exact ⟨_, _, _, rfl, rfl, .historyUnread hname hcurrent hget⟩
  obtain ⟨r, w', es, hremove, hexchanges, hcourse⟩ :=
    store.remove_course
      ⟨⟨s₂, w.backend.exchanges ++ store.startCalls current history s₁ s₂⟩, w.checks, w.now⟩
      hname hread
  rw [hrun]
  refine ⟨r, w', _, hremove, ?_, hcourse⟩
  rw [hexchanges, List.append_assoc]

theorem delete_watched (name : String) (w : World σ ν τ) :
    ∃ r w', (store.journaled.delete name).run w.journaled = (r, w') ∧
      (store.delete name).run w = (r, w'.unwatched) ∧
      store.DeleteCourse name w.backend w'.backend.exchanges r w'.backend.state := by
  obtain ⟨r, w', es, hrun, hexchanges, hcourse⟩ := store.delete_course name w.journaled
  have hes : w'.backend.exchanges = es := hexchanges
  have hplain := store.delete_mirrors name w.journaled
  rw [hrun] at hplain
  rw [← hes] at hcourse
  exact ⟨r, w', hrun, hplain, hcourse⟩

/-! ## Over an erratic backend -/

/-- What the collections can hold after a deletion that found them at `v`. -/
inductive DeleteStage (name : String) (v : String → Collection) :
    (String → Collection) → Prop
  | before : DeleteStage name v v
  | erased {value : String} (hvalue : (v store.group.current).get? name = some value) :
      DeleteStage name v (Function.update v store.group.current
        ((v store.group.current).erase name))
  | cleared {value : String} (hvalue : (v store.group.current).get? name = some value) :
      DeleteStage name v
        (Function.update
          (Function.update v store.group.current ((v store.group.current).erase name))
          store.group.history (cleared name (v store.group.history)))

variable {store} {name : String} {s s' : σ} {es : List (Exchange σ)}
  {r : Except (Failure τ) DeleteOutcome} {contents : σ → String → Collection}
  {Settled : σ → Prop}

omit [TimeScale τ] in
theorem DeleteCourse.stage (herratic : store.backend.Erratic contents Settled)
    (hcourse : store.DeleteCourse name s es r s') (hsettled : Settled s) :
    Settled s' ∧ store.DeleteStage name (contents s) (contents s') := by
  cases hcourse with
  | nameRefused => exact ⟨hsettled, .before⟩
  | currentUnread hname hget =>
      obtain ⟨hsettled₁, hcontents₁, -⟩ := herratic.get hsettled hget
      rw [hcontents₁]
      exact ⟨hsettled₁, .before⟩
  | historyUnread hname hcurrent hget =>
      obtain ⟨hsettled₁, hcontents₁, -⟩ := herratic.get hsettled hcurrent
      obtain ⟨hsettled₂, hcontents₂, -⟩ := herratic.get hsettled₁ hget
      rw [hcontents₂, hcontents₁]
      exact ⟨hsettled₂, .before⟩
  | absent hname hread hvalue =>
      obtain ⟨-, hsettled₂, hcontents₂, -⟩ := hread.erratic herratic hsettled
      rw [hcontents₂]
      exact ⟨hsettled₂, .before⟩
  | currentUnwritten hname hread hvalue hcourse =>
      obtain ⟨-, hsettled₂, hcontents₂, hcurrent, -⟩ := hread.erratic herratic hsettled
      obtain ⟨-, hsettled', hcontents', -⟩ := hcourse.holding herratic hsettled₂
      rw [hcurrent] at hvalue hcontents'
      rw [hcontents₂] at hcontents'
      refine ⟨hsettled', ?_⟩
      rcases hcontents' with hcontents' | hcontents' <;> rw [hcontents']
      · exact .before
      · exact .erased hvalue
  | erased hname hread hvalue hcourse hcourse' =>
      obtain ⟨-, hsettled₂, hcontents₂, hcurrent, hhistory⟩ := hread.erratic herratic hsettled
      obtain ⟨-, hsettled₃, -, hcontents₃⟩ := hcourse.holding herratic hsettled₂
      obtain ⟨-, hsettled', hcontents', -⟩ := hcourse'.holding herratic hsettled₃
      rw [hcurrent] at hvalue hcontents₃
      rw [hhistory, hcontents₃ rfl, hcontents₂] at hcontents'
      refine ⟨hsettled', ?_⟩
      rcases hcontents' with hcontents' | hcontents' <;> rw [hcontents']
      · exact .erased hvalue
      · exact .cleared hvalue

end Store

end ConfigVault
