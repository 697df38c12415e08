import ConfigVault.Proofs.Store.PutCourse

/-!
# The stages of an update

Over an erratic backend the collections are at one of four stages at any time during
an update: as they were, with a first value, with the value archived, or with the
value archived and replaced.  Whatever holds at every stage holds wherever an
update is cut off.
-/

namespace ConfigVault

open Calendar Version

variable {σ ν τ : Type}

namespace Store

variable (store : Store σ ν τ)

/-- What the collections can hold while an update is under way that found them at `v`. -/
inductive PutStage (name content : String) (clock : Moment) (v : String → Collection) :
    (String → Collection) → Prop
  | before : PutStage name content clock v v
  | created (hvalue : (v store.group.current).get? name = none) :
      PutStage name content clock v (Function.update v store.group.current
        ((v store.group.current).insert name content))
  | archived {previous : String} {archived : Collection}
      (hvalue : (v store.group.current).get? name = some previous)
      (hnew : previous ≠ content)
      (harchive : archive store.retention name previous clock (v store.group.history) =
        .ok archived) :
      PutStage name content clock v (Function.update v store.group.history archived)
  | replaced {previous : String} {archived : Collection}
      (hvalue : (v store.group.current).get? name = some previous)
      (hnew : previous ≠ content)
      (harchive : archive store.retention name previous clock (v store.group.history) =
        .ok archived) :
      PutStage name content clock v
        (Function.update (Function.update v store.group.history archived)
          store.group.current ((v store.group.current).insert name content))

variable {store} {name content : String} {clock : Moment} {s s' : σ} {k k' : ν}
  {es : List (Exchange σ)} {r : Except (Failure τ) PutOutcome}
  {contents : σ → String → Collection} {Settled : σ → Prop}

theorem PutStage.history_eq {v v' : String → Collection}
    (hstage : store.PutStage name content clock v v')
    (hdistinct : store.group.current ≠ store.group.history) :
    v' store.group.history = v store.group.history ∨
      ∃ previous, (v store.group.current).get? name = some previous ∧
        archive store.retention name previous clock (v store.group.history) =
          .ok (v' store.group.history) := by
  cases hstage with
  | before => exact .inl rfl
  | created hvalue => exact .inl (Function.update_of_ne hdistinct.symm _ _)
  | archived hvalue hnew harchive =>
      right
      rw [Function.update_self]
      exact ⟨_, hvalue, harchive⟩
  | replaced hvalue hnew harchive =>
      right
      rw [Function.update_of_ne hdistinct.symm, Function.update_self]
      exact ⟨_, hvalue, harchive⟩

theorem PutStage.of_holding {v v' : String → Collection}
    (hstage : store.PutStage name content clock v v')
    (hes : Backend.Holding contents Settled v' es) :
    ∀ e ∈ es, store.PutStage name content clock v (contents e.after) := by
  intro e he
  rw [(hes e he).2]
  exact hstage

/-- At every point of an update over an erratic backend, and at its end, the collections
are at one of its stages. -/
theorem PutCourse.stages (herratic : store.backend.Erratic contents Settled)
    (hcourse : store.PutCourse name content clock s k es r s' k') (hsettled : Settled s) :
    (∀ e ∈ es, store.PutStage name content clock (contents s) (contents e.after)) ∧
      Settled s' ∧ store.PutStage name content clock (contents s) (contents s') := by
  have hbefore : store.PutStage name content clock (contents s) (contents s) := .before
  cases hcourse with
  | nameRefused | contentRefused =>
      exact ⟨fun e he => absurd he List.not_mem_nil, hsettled, hbefore⟩
  | currentUnread hname hcontent hget =>
      obtain ⟨hsettled₁, hcontents₁, -⟩ := herratic.get hsettled hget
      refine ⟨hbefore.of_holding (.cons hsettled₁ hcontents₁ (Backend.holding_nil _)),
        hsettled₁, ?_⟩
      rw [hcontents₁]
      exact hbefore
  | historyUnread hname hcontent hcurrent hget =>
      obtain ⟨hsettled₁, hcontents₁, -⟩ := herratic.get hsettled hcurrent
      obtain ⟨hsettled₂, hcontents₂, -⟩ := herratic.get hsettled₁ hget
      rw [hcontents₁] at hcontents₂
      refine ⟨hbefore.of_holding (.cons hsettled₁ hcontents₁ (.cons hsettled₂ hcontents₂
        (Backend.holding_nil _))), hsettled₂, ?_⟩
      rw [hcontents₂]
      exact hbefore
  | unchanged hstart | unarchived hstart =>
      obtain ⟨hcalls, hsettled₂, hcontents₂, -, -⟩ := hstart.bothRead.erratic herratic hsettled
      refine ⟨hbefore.of_holding hcalls, hsettled₂, ?_⟩
      rw [hcontents₂]
      exact hbefore
  | created hstart hvalue hcourse =>
      obtain ⟨hcalls, hsettled₂, hcontents₂, hcurrent, -⟩ := hstart.bothRead.erratic herratic hsettled
      obtain ⟨hes, hsettled', hcontents', -⟩ := hcourse.holding herratic hsettled₂
      rw [hcurrent] at hvalue hcontents'
      rw [hcontents₂] at hcontents'
      have hstage : store.PutStage name content clock (contents s) (contents s') := by
        rcases hcontents' with hcontents' | hcontents' <;> rw [hcontents']
        · exact .before
        · exact .created hvalue
      refine ⟨?_, hsettled', hstage⟩
      exact List.forall_mem_append.2 ⟨hbefore.of_holding hcalls, hstage.of_holding hes⟩
  | historyUnwritten hstart hvalue hnew harchive hcourse =>
      obtain ⟨hcalls, hsettled₂, hcontents₂, hcurrent, hhistory⟩ :=
        hstart.bothRead.erratic herratic hsettled
      obtain ⟨hes, hsettled', hcontents', -⟩ := hcourse.holding herratic hsettled₂
      rw [hcurrent] at hvalue
      rw [hhistory] at harchive
      rw [hcontents₂] at hcontents'
      have hstage : store.PutStage name content clock (contents s) (contents s') := by
        rcases hcontents' with hcontents' | hcontents' <;> rw [hcontents']
        · exact .before
        · exact .archived hvalue hnew harchive
      refine ⟨?_, hsettled', hstage⟩
      exact List.forall_mem_append.2 ⟨hbefore.of_holding hcalls, hstage.of_holding hes⟩
  | updated hstart hvalue hnew harchive hcourse hcourse' =>
      obtain ⟨hcalls, hsettled₂, hcontents₂, hcurrent, hhistory⟩ :=
        hstart.bothRead.erratic herratic hsettled
      obtain ⟨hes, hsettled₃, -, hcontents₃⟩ := hcourse.holding herratic hsettled₂
      obtain ⟨hes', hsettled', hcontents', -⟩ := hcourse'.holding herratic hsettled₃
      rw [hcurrent] at hvalue hcontents'
      rw [hhistory] at harchive
      have harchived := hcontents₃ rfl
      rw [hcontents₂] at harchived
      rw [harchived] at hes hcontents'
      have hstage : store.PutStage name content clock (contents s) (contents s') := by
        rcases hcontents' with hcontents' | hcontents' <;> rw [hcontents']
        · exact .archived hvalue hnew harchive
        · exact .replaced hvalue hnew harchive
      have harchived' := (PutStage.archived hvalue hnew harchive).of_holding hes
      refine ⟨?_, hsettled', hstage⟩
      exact List.forall_mem_append.2 ⟨hbefore.of_holding hcalls,
        List.forall_mem_append.2 ⟨harchived', hstage.of_holding hes'⟩⟩

/-- An update that succeeds ends with the value archived and replaced. -/
theorem PutCourse.replaced_of_updated (herratic : store.backend.Erratic contents Settled)
    (hcourse : store.PutCourse name content clock s k es (.ok .updated) s' k')
    (hsettled : Settled s) :
    ∃ previous archived,
      (contents s store.group.current).get? name = some previous ∧ previous ≠ content ∧
      archive store.retention name previous clock (contents s store.group.history) =
        .ok archived ∧
      contents s' = Function.update
        (Function.update (contents s) store.group.history archived) store.group.current
          ((contents s store.group.current).insert name content) := by
  generalize hr : (.ok .updated : Except (Failure τ) PutOutcome) = r at hcourse
  cases hcourse with
  | nameRefused | contentRefused | currentUnread | historyUnread | unchanged | unarchived
  | historyUnwritten => cases hr
  | @created _ _ _ _ _ _ _ r => cases r <;> cases hr
  | @updated _ _ _ _ _ _ _ _ _ _ _ r hstart hvalue hnew harchive hcourse hcourse' =>
      obtain ⟨-, hsettled₂, hcontents₂, hcurrent, hhistory⟩ :=
        hstart.bothRead.erratic herratic hsettled
      obtain ⟨-, hsettled₃, -, hcontents₃⟩ := hcourse.holding herratic hsettled₂
      obtain ⟨-, -, -, hcontents'⟩ := hcourse'.holding herratic hsettled₃
      cases r with
      | error failure => cases hr
      | ok _ =>
          rw [hcurrent] at hvalue hcontents'
          rw [hhistory] at harchive
          refine ⟨_, _, hvalue, hnew, harchive, ?_⟩
          rw [hcontents' rfl, hcontents₃ rfl, hcontents₂]

end Store

end ConfigVault
