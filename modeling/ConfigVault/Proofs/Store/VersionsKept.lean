import ConfigVault.Proofs.Backend.Prompt
import ConfigVault.Proofs.Store.Archive
import ConfigVault.Proofs.Store.PutOrder

/-!
# Archived versions under updates

An update archives the value before it under a key that names a second.  Versions
under other keys stay as they are until retention takes them.  A version that was
archived under the same key keeps its content only if the new entry has the same
content or is evicted at once, so two updates of a name within one second leave one
version.
-/

namespace ConfigVault

open Calendar Version

variable {σ ν τ : Type}

namespace Store

open Retention

variable [TimeScale τ] {store : Store σ ν τ} {name content : String} {clock : Moment}
  {now : Reading}

/-- An update that archives keeps the versions that retention leaves exactly when no
version with another content was archived under the key of its second, and adds one
exactly when there was none. -/
theorem archived_versionsKept_iff {contents : σ → String → Collection} {Settled : σ → Prop}
    (herratic : store.backend.Erratic contents Settled)
    (hdistinct : store.group.current ≠ store.group.history)
    (hnow : clock.inUtc? = some now) {w w' : World σ ν τ} (hsettled : Settled w.backend)
    {r : Except (Failure τ) PutOutcome}
    (hrun : (store.put name content clock).run w = (r, w'))
    (harchives : r = .ok .updated ∨
      contents w'.backend store.group.history ≠ contents w.backend store.group.history) :
    ∃ previous evicted,
      (contents w.backend store.group.current).get? name = some previous ∧
      evictions store.retention name (.utc now)
        ((contents w.backend store.group.history).insert (versionKey name now)
          previous).keys = .ok evicted ∧
      (VersionsKept evicted (contents w.backend store.group.history)
          (contents w'.backend store.group.history) ↔
        versionKey name now ∈ evicted ∨
          ∀ value, (contents w.backend store.group.history).get? (versionKey name now) =
            some value → value = previous) ∧
      (((contents w.backend store.group.history).insert (versionKey name now)
            previous).keys.length =
          (contents w.backend store.group.history).keys.length + 1 ↔
        (contents w.backend store.group.history).get? (versionKey name now) = none) := by
  obtain ⟨r', watched, -, hplain, hcourse⟩ := store.put_watched name content clock w
  rw [hrun] at hplain
  obtain ⟨rfl, rfl⟩ := Prod.mk.inj hplain
  -- Whether the update succeeds or fails after the archive was written, the history at
  -- its end is the archive.
  have hstored : ∃ previous, (contents w.backend store.group.current).get? name =
        some previous ∧
      archive store.retention name previous clock (contents w.backend store.group.history) =
        .ok (contents watched.backend.state store.group.history) := by
    rcases harchives with rfl | hchanged
    · obtain ⟨previous, archived, hvalue, -, harchive, hend⟩ :=
        hcourse.replaced_of_updated herratic hsettled
      refine ⟨previous, hvalue, ?_⟩
      rw [hend, Function.update_of_ne hdistinct.symm, Function.update_self, harchive]
    · obtain ⟨-, -, hend⟩ := hcourse.stages herratic hsettled
      exact (hend.history_eq hdistinct).resolve_left hchanged
  obtain ⟨previous, hvalue, harchive⟩ := hstored
  obtain ⟨evicted, hevicted, hhistory⟩ := (archive_eq_ok_iff hnow).mp harchive
  refine ⟨previous, evicted, hvalue, hevicted, ?_, length_keys_insert_iff⟩
  change VersionsKept evicted _ (contents watched.backend.state store.group.history) ↔ _
  rw [hhistory]
  exact versionsKept_trimmed_iff

/-! ## Two updates within a second -/

def passing : OutagePlan Unit := fun _ _ p => (none, p)

theorem passing_answersNoRead : passing.AnswersNoRead := by
  simp [OutagePlan.AnswersNoRead, passing]

theorem rulesUnder_passing_prompt (limits : Retention) :
    (rulesUnder passing limits).backend.Prompt (fun s => s.inner.snapshot)
      (fun s => s.inner.Settled) := by
  have hpass : ∀ kind c p, (passing kind c p).1 = none := fun _ _ _ => rfl
  exact Memory.disturbed_prompt (le_refl (0 : Rat)) hpass

/-- A world with one rule of alerts that was archived once at noon. -/
def archivedRule : World (Disturbed (Memory Rat) Unit) Unit Rat :=
  ⟨⟨Memory.ofCollections
      [("alertrules", .ofList [("a.rules", "one")]),
        ("alertrules-versions", .ofList [(versionKey "a.rules" noon, "zero")])], (), []⟩,
    (), 0⟩

theorem archivedRule_settled : archivedRule.backend.inner.Settled :=
  Memory.ofCollections_settled _

theorem archived_versionsKept_iff_second_update :
    let store := rulesUnder passing .standard
    let run := (store.put "a.rules" "two" (.utc noon)).run archivedRule
    run.2.backend.inner.snapshot "alertrules-versions" ≠
        archivedRule.backend.inner.snapshot "alertrules-versions" ∧
      ∃ previous evicted,
        (VersionsKept evicted (archivedRule.backend.inner.snapshot "alertrules-versions")
            (run.2.backend.inner.snapshot "alertrules-versions") ↔
          versionKey "a.rules" noon ∈ evicted ∨
            ∀ value, (archivedRule.backend.inner.snapshot "alertrules-versions").get?
              (versionKey "a.rules" noon) = some value → value = previous) := by
  intro store run
  have hdistinct : store.group.current ≠ store.group.history := by decide
  have hnow : (Moment.utc noon).inUtc? = some noon := by decide
  have hchanged : run.2.backend.inner.snapshot "alertrules-versions" ≠
      archivedRule.backend.inner.snapshot "alertrules-versions" := by decide +kernel
  have hrun : (store.put "a.rules" "two" (.utc noon)).run archivedRule =
      (run.1, run.2) := rfl
  obtain ⟨previous, evicted, -, -, hkept, -⟩ :=
    archived_versionsKept_iff (rulesUnder_erratic .standard passing_answersNoRead) hdistinct
      hnow archivedRule_settled hrun (.inr hchanged)
  exact ⟨hchanged, previous, evicted, hkept⟩

/-- A second update at noon succeeds, evicts nothing, and replaces the version. -/
theorem second_update_replaces_version :
    let store := rulesUnder passing .standard
    let run := (store.put "a.rules" "two" (.utc noon)).run archivedRule
    run.1.toOption = some .updated ∧
      (evictions store.retention "a.rules" (.utc noon)
        [versionKey "a.rules" noon]).toOption = some [] ∧
      (archivedRule.backend.inner.snapshot "alertrules-versions").get?
        (versionKey "a.rules" noon) = some "zero" ∧
      (run.2.backend.inner.snapshot "alertrules-versions").get?
        (versionKey "a.rules" noon) = some "one" ∧
      (run.2.backend.inner.snapshot "alertrules-versions").keys =
        (archivedRule.backend.inner.snapshot "alertrules-versions").keys := by
  decide +kernel

end Store

end ConfigVault
