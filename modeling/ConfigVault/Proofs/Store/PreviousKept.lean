import ConfigVault.Proofs.Store.Archive
import ConfigVault.Proofs.Store.PutOrder

/-!
# The value before an update

An update never loses the value that it replaces: wherever it is cut off, and
whichever calls fail or are lost, the value is still the current one or lies in the
history under the key of the update.  There is one exception, an archive that
retention takes away at once, and it needs limits without an age and a history that
is full of versions from the future.
-/

namespace ConfigVault

open Calendar Version

variable {σ ν τ : Type}

namespace Store

open Retention

/-- A value is the current one of a name, or archived under the key of a moment. -/
def Holds (store : Store σ ν τ) (name previous : String) (now : Reading)
    (v : String → Collection) : Prop :=
  (v store.group.current).get? name = some previous ∨
    (v store.group.history).get? (versionKey name now) = some previous

variable {store : Store σ ν τ} {name content previous : String} {clock : Moment}
  {now : Reading} {v v' : String → Collection}

/-- Every stage of an update holds the value before it. -/
theorem PutStage.holds (hstage : store.PutStage name content clock v v')
    (hdistinct : store.group.current ≠ store.group.history)
    (hnow : clock.inUtc? = some now)
    (hprevious : (v store.group.current).get? name = some previous)
    (hown : ¬store.retention.EvictsOwn name previous now (v store.group.history)) :
    store.Holds name previous now v' := by
  cases hstage with
  | before => exact .inl hprevious
  | created hvalue =>
      rw [hprevious] at hvalue
      cases hvalue
  | archived hvalue hnew harchive =>
      left
      rw [Function.update_of_ne hdistinct]
      exact hprevious
  | replaced hvalue hnew harchive =>
      right
      rw [hprevious] at hvalue
      obtain rfl := Option.some.inj hvalue
      obtain ⟨evicted, hevicted, rfl⟩ := (archive_eq_ok_iff hnow).mp harchive
      have hstays : versionKey name now ∉ evicted := fun hmem =>
        hown ⟨evicted, hevicted, hmem⟩
      rw [Function.update_of_ne hdistinct.symm, Function.update_self, get?_trimmed,
        if_neg hstays, if_pos rfl]

variable [TimeScale τ]

/-- The value before an update is never lost, unless the entry that archives it is
itself evicted; then a successful update is the end of it. -/
theorem previous_kept {contents : σ → String → Collection} {Settled : σ → Prop}
    (herratic : store.backend.Erratic contents Settled)
    (hdistinct : store.group.current ≠ store.group.history)
    (hkeep : 0 ≤ store.retention.keep) (hhours : 0 ≤ store.retention.hours)
    (hnow : clock.inUtc? = some now) (hyear : 1000 ≤ now.date.year)
    (content : String) (w : World σ ν τ) (hsettled : Settled w.backend)
    (hprevious : (contents w.backend store.group.current).get? name = some previous) :
    (store.retention.EvictsOwn name previous now (contents w.backend store.group.history) ↔
      store.retention.hours = 0 ∧
        store.retention.keep ≤ ((laterKeys name now.wholeSeconds
          (contents w.backend store.group.history).keys).length : Int)) ∧
    ∃ r w', (store.journaled.put name content clock).run w.journaled = (r, w') ∧
      (store.put name content clock).run w = (r, w'.unwatched) ∧
      (¬store.retention.EvictsOwn name previous now
          (contents w.backend store.group.history) →
        store.Holds name previous now (contents w.backend) ∧
        (∀ e ∈ w'.backend.exchanges,
          store.Holds name previous now (contents e.after)) ∧
        store.Holds name previous now (contents w'.backend.state)) ∧
      (store.retention.EvictsOwn name previous now
          (contents w.backend store.group.history) → r = .ok .updated →
        ¬store.Holds name previous now (contents w'.backend.state)) := by
  refine ⟨evictsOwn_iff hkeep hhours hyear, ?_⟩
  obtain ⟨r, w', hrun, hplain, hcourse⟩ := store.put_watched name content clock w
  refine ⟨r, w', hrun, hplain, ?_, ?_⟩
  · intro hown
    obtain ⟨hcalls, -, hend⟩ := hcourse.stages herratic hsettled
    refine ⟨.inl hprevious, ?_, hend.holds hdistinct hnow hprevious hown⟩
    exact fun e he => (hcalls e he).holds hdistinct hnow hprevious hown
  · rintro ⟨evicted, hevicted, hgone⟩ rfl
    obtain ⟨value, archived, hvalue, hnew, harchive, hend⟩ :=
      hcourse.replaced_of_updated herratic hsettled
    rw [hprevious] at hvalue
    obtain rfl := Option.some.inj hvalue
    obtain ⟨evicted', hevicted', rfl⟩ := (archive_eq_ok_iff hnow).mp harchive
    rw [hevicted] at hevicted'
    obtain rfl := Except.ok.inj hevicted'
    rw [hend]
    rintro (hcurrent | hhistory)
    · rw [Function.update_self, KeyMap.get?_insert_self] at hcurrent
      exact hnew (Option.some.inj hcurrent).symm
    · rw [Function.update_of_ne hdistinct.symm, Function.update_self, get?_trimmed,
        if_pos hgone] at hhistory
      cases hhistory

theorem previous_kept_losing_archives :
    let store := rulesUnder (losing "alertrules-versions") .standard
    (Moment.utc noon).inUtc? = some noon ∧ 1000 ≤ noon.date.year ∧
      (oneRule.backend.inner.snapshot "alertrules").get? "a.rules" = some "one" ∧
      ∃ r w', (store.journaled.put "a.rules" "two" (.utc noon)).run oneRule.journaled =
          (r, w') ∧
        ∀ e ∈ w'.backend.exchanges,
          store.Holds "a.rules" "one" noon e.after.inner.snapshot := by
  intro store
  have hdistinct : store.group.current ≠ store.group.history := by decide
  have hnow : (Moment.utc noon).inUtc? = some noon := by decide
  have hyear : 1000 ≤ noon.date.year := by decide
  have hprevious : (oneRule.backend.inner.snapshot "alertrules").get? "a.rules" =
      some "one" := by decide
  obtain ⟨hiff, r, w', hrun, -, hkept, -⟩ :=
    previous_kept (rulesUnder_erratic .standard (losing_answersNoRead _)) hdistinct
      (by decide) (by decide) hnow hyear "two" oneRule oneRule_settled hprevious
  refine ⟨hnow, hyear, hprevious, r, w', hrun, (hkept ?_).2.1⟩
  intro hown
  exact absurd (hiff.mp hown).1 (by decide)

end Store

end ConfigVault
