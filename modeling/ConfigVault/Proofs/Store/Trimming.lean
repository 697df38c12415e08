import ConfigVault.Proofs.Store.Immediate
import ConfigVault.Proofs.Store.VersionsKept
import ConfigVault.Proofs.Version.Span

/-!
# Trimming under limits that are accepted

Limits are accepted with one version or more and with any age, however long, but an age
beyond the longest span of time is not one that versions can be compared with.  A history that holds
no more versions than always stay is trimmed even then.  One version more makes trimming
fail, and with it the update that archives that version, before anything is written.
-/

namespace ConfigVault

open Calendar Version Retention

variable {σ ν τ : Type}

namespace Store

variable {store : Store σ ν τ} {name content previous : String} {clock : Moment}
  {now : Reading} {limits : Retention} {current history : Collection}
  {w w' : World σ ν τ} {escape : Escape}

/-- An update comes to archive the value before it: its name and its content pass, both
collections are read, and the value there is another one. -/
structure ComesToArchive (store : Store σ ν τ) (name content previous : String)
    (current history : Collection) (w w' : World σ ν τ) : Prop where
  name_ok : Name.check store.group name = .ok ()
  read : ∃ diagnostics w₁ w₂, (store.checkContent content).run w = (.ok diagnostics, w₁) ∧
    store.readCurrent.run w₁ = (.ok current, w₂) ∧
    store.readHistory.run w₂ = (.ok history, w')
  value : current.get? name = some previous
  isNew : previous ≠ content

/-- Over a prompt backend an update comes to archive what the collections hold. -/
theorem exists_comesToArchive {contents : σ → String → Collection} {Settled : σ → Prop}
    (hprompt : store.backend.Prompt contents Settled) (w : World σ ν τ)
    (hsettled : Settled w.backend) {diagnostics : String}
    (hname : Name.check store.group name = .ok ())
    (hcontent : (store.check content w.checks).1 = .ok diagnostics)
    (hvalue : (contents w.backend store.group.current).get? name = some previous)
    (hnew : previous ≠ content) :
    ∃ w', store.ComesToArchive name content previous
        (contents w.backend store.group.current) (contents w.backend store.group.history)
        w w' ∧
      contents w'.backend = contents w.backend := by
  have hpassed := store.checkContent_run content w
  rw [hcontent] at hpassed
  obtain ⟨s, hcurrent, hs, hcontents⟩ := readCurrent_answer hprompt
    { w with checks := (store.check content w.checks).2 } hsettled
  obtain ⟨s', hhistory, -, hcontents'⟩ := readHistory_answer hprompt
    { w with backend := s, checks := (store.check content w.checks).2 } hs
  dsimp only at hcontents hhistory hcontents'
  rw [hcontents] at hhistory hcontents'
  exact ⟨_, ⟨hname, ⟨_, _, _, hpassed, hcurrent, hhistory⟩, hvalue, hnew⟩, hcontents'⟩

theorem archive_eq_error_iff (hkeep : 0 ≤ limits.keep) (hhours : 0 ≤ limits.hours)
    (hnow : clock.inUtc? = some now) :
    archive limits name previous clock history = .error escape ↔
      escape = .overflow ∧
        limits.OutOfSpan name (history.insert (versionKey name now) previous).keys := by
  rw [← trim_eq_error_iff hkeep hhours (utcMicroseconds?_utc now)]
  simp only [archive, hnow]
  cases limits.trim name (.utc now) (history.insert (versionKey name now) previous) <;>
    simp [Except.map]

variable [TimeScale τ]

def writeBoth (store : Store σ ν τ) (archived current : Collection) :
    Action σ ν τ PutOutcome := do
  store.backend.commit store.confirmation store.group.history archived
  store.backend.commit store.confirmation store.group.current current
  return .updated

section

variable (h : store.ComesToArchive name content previous current history w w')
  (hlimits : store.retention = limits)

include h hlimits

theorem ComesToArchive.put_run (clock : Moment) :
    (store.put name content clock).run w =
      match archive limits name previous clock history with
      | .error escape => (.error (.escaped escape), w')
      | .ok archived => (store.writeBoth archived (current.insert name content)).run w' := by
  obtain ⟨diagnostics, w₁, w₂, hcontent, hcurrent, hhistory⟩ := h.read
  rw [put_eq, Action.run_bind_of_ok (checkName_run_ok h.name_ok w),
    Action.run_bind_of_ok hcontent, Action.run_bind_of_ok hcurrent,
    Action.run_bind_of_ok hhistory, replace, h.value]
  dsimp only
  rw [if_neg h.isNew, hlimits]
  cases archive limits name previous clock history with
  | error escape => exact Action.run_bind_of_error (Action.run_ofExcept _ w') _
  | ok archived => exact Action.run_bind_of_ok (Action.run_ofExcept _ w') _

theorem ComesToArchive.put_fails
    (harchive : archive limits name previous clock history = .error escape) :
    (store.put name content clock).run w = (.error (.escaped escape), w') := by
  rw [h.put_run hlimits, harchive]

theorem ComesToArchive.put_writes {archived : Collection}
    (harchive : archive limits name previous clock history = .ok archived) :
    (store.put name content clock).run w =
      (store.writeBoth archived (current.insert name content)).run w' := by
  rw [h.put_run hlimits, harchive]

end

/-- Under limits that are accepted, trimming takes out the versions that are due unless
the limits are out of reach.  It fails exactly then, although no version is due, and an
update that comes to archive fails with it. -/
theorem trims_unless_outOfSpan (hpos : 1 ≤ limits.keep) (hhours : 0 ≤ limits.hours)
    (name : String) (now : Reading) :
    (∀ history, ¬limits.OutOfSpan name history.keys →
        ∃ trimmed evicted, limits.trim name (.utc now) history = .ok (trimmed, evicted) ∧
          (∀ key, key ∈ evicted ↔
            key ∈ history.keys ∧ limits.Due name now.microseconds history.keys key) ∧
          ∀ key, trimmed.get? key = if key ∈ evicted then none else history.get? key) ∧
      (∀ history, limits.OutOfSpan name history.keys →
        limits.trim name (.utc now) history = .error .overflow ∧
          ∀ key, ¬limits.Due name now.microseconds history.keys key) ∧
      ∀ (store : Store σ ν τ) (content previous : String) (clock : Moment)
        (current history : Collection) (w w' : World σ ν τ),
        store.retention = limits → clock.inUtc? = some now →
        store.ComesToArchive name content previous current history w w' →
        (limits.OutOfSpan name (history.insert (versionKey name now) previous).keys →
          (store.put name content clock).run w = (.error (.escaped .overflow), w')) ∧
        (¬limits.OutOfSpan name (history.insert (versionKey name now) previous).keys →
          ∃ archived, archive limits name previous clock history = .ok archived ∧
            (store.put name content clock).run w =
              (store.writeBoth archived (current.insert name content)).run w') := by
  have hkeep : 0 ≤ limits.keep := by omega
  have hnow := utcMicroseconds?_utc now
  refine ⟨?_, ?_, ?_⟩
  · intro history hreach
    exact exists_trim_of_reach hkeep hhours hnow hreach
  · intro history hout
    exact ⟨(trim_eq_error_iff hkeep hhours hnow).mpr ⟨rfl, hout⟩,
      fun key => hout.not_due now history.keys⟩
  · intro store content previous clock current history w w' hlimits hclock harchives
    constructor
    · intro hout
      have harchive := (archive_eq_error_iff hkeep hhours hclock).mpr ⟨rfl, hout⟩
      exact harchives.put_fails hlimits harchive
    · intro hreach
      cases harchive : archive limits name previous clock history with
      | error escape =>
          exact absurd ((archive_eq_error_iff hkeep hhours hclock).mp harchive).2 hreach
      | ok archived => exact ⟨archived, rfl, harchives.put_writes hlimits harchive⟩

/-! ## An age beyond the longest span -/

theorem archivedRule_comesToArchive (limits : Retention) :
    ∃ w', (rulesUnder passing limits).ComesToArchive "a.rules" "two" "one"
        (archivedRule.backend.inner.snapshot "alertrules")
        (archivedRule.backend.inner.snapshot "alertrules-versions") archivedRule w' ∧
      w'.backend.inner.snapshot = archivedRule.backend.inner.snapshot := by
  have hname : Name.check (rulesUnder passing limits).group "a.rules" = .ok () := rfl
  have hcontent : ((rulesUnder passing limits).check "two" ()).1 = .ok "" := rfl
  have hvalue : (archivedRule.backend.inner.snapshot "alertrules").get? "a.rules" =
      some "one" := by decide
  exact exists_comesToArchive (rulesUnder_passing_prompt limits) archivedRule
    archivedRule_settled hname hcontent hvalue (by decide)

/-- One version is kept, and others for a thousand million days. -/
theorem trims_unless_outOfSpan_longAge :
    let limits : Retention := ⟨1, 24000000000⟩
    1 ≤ limits.keep ∧ 0 ≤ limits.hours ∧
      ∃ w', ((rulesUnder passing limits).put "a.rules" "two" (.utc afternoon)).run
          archivedRule = (.error (.escaped .overflow), w') ∧
        w'.backend.inner.snapshot = archivedRule.backend.inner.snapshot := by
  intro limits
  have hpos : 1 ≤ limits.keep := by decide
  have hhours : 0 ≤ limits.hours := by decide
  obtain ⟨w', harchives, hcontents⟩ := archivedRule_comesToArchive limits
  obtain ⟨-, -, hput⟩ := trims_unless_outOfSpan (τ := Rat) hpos hhours "a.rules" afternoon
  obtain ⟨hfails, -⟩ := hput (rulesUnder passing limits) "two" "one" (.utc afternoon) _ _
    archivedRule w' rfl (Moment.inUtc?_utc afternoon) harchives
  exact ⟨hpos, hhours, w', hfails (by decide +kernel), hcontents⟩

/-- Limits that are accepted fail to trim two versions, and with them an update. -/
theorem trim_fails_under_longAge :
    let limits : Retention := ⟨1, 24000000000⟩
    let history : Collection := .ofList
      [(versionKey "a.rules" noon, "zero"), (versionKey "a.rules" afternoon, "one")]
    (1 ≤ limits.keep ∧ 0 ≤ limits.hours) ∧
      limits.trim "a.rules" (.utc afternoon) history = .error .overflow ∧
      ∃ w', ((rulesUnder passing limits).put "a.rules" "two" (.utc afternoon)).run
        archivedRule = (.error (.escaped .overflow), w') := by
  intro limits history
  have hpositive : 0 ≤ limits.keep ∧ 0 ≤ limits.hours := by decide
  have hout : limits.OutOfSpan "a.rules" history.keys := by decide +kernel
  have harchive : archive limits "a.rules" "one" (.utc afternoon)
      (archivedRule.backend.inner.snapshot "alertrules-versions") = .error .overflow := by
    rw [archive_eq_error_iff hpositive.1 hpositive.2 (Moment.inUtc?_utc afternoon)]
    exact ⟨rfl, by decide +kernel⟩
  obtain ⟨w', harchives, -⟩ := archivedRule_comesToArchive limits
  refine ⟨by decide, ?_, w', ?_⟩
  · rw [trim_eq_error_iff hpositive.1 hpositive.2 (utcMicroseconds?_utc afternoon)]
    exact ⟨rfl, hout⟩
  · exact harchives.put_fails rfl harchive

end Store

end ConfigVault
