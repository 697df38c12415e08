import ConfigVault.Proofs.Backend.Prompt
import ConfigVault.Proofs.Store.Start

/-!
# What a store answers

A call that only looks answers from the one collection that it reads.  Over a prompt
backend it succeeds, its answer is computed from what the collections hold, and nothing
changes.  A call with a timestamp that is none fails before the backend is asked.
-/

namespace ConfigVault

open Calendar Version

variable {σ ν τ : Type}

namespace Store

variable {store : Store σ ν τ} {contents : σ → String → Collection} {Settled : σ → Prop}
  {name : String}

theorem getVersion_run_of_error (w : World σ ν τ) {timestamp : String}
    {defect : TimestampDefect}
    (hname : Name.check store.group name = .ok ())
    (hparse : parseTimestamp timestamp = .error defect) :
    (store.getVersion name timestamp).run w =
      (.error (.timestamp timestamp defect), w) := by
  have hfails : (Action.ofExcept ((parseTimestamp timestamp).mapError
      (Failure.timestamp timestamp)) : Action σ ν τ Reading).run w =
      (.error (.timestamp timestamp defect), w) := by
    rw [hparse]
    rfl
  unfold getVersion
  rw [Action.run_bind_of_ok (checkName_run_ok hname w), Action.run_bind_of_error hfails]

/-! ## Answers from what has been read -/

section

variable {w w' : World σ ν τ} {current history : Collection}
  (hname : Name.check store.group name = .ok ())

include hname

theorem getCurrent_run (hread : store.readCurrent.run w = (.ok current, w')) :
    (store.getCurrent name).run w = (.ok (current.get? name), w') := by
  unfold getCurrent
  rw [Action.run_bind_of_ok (checkName_run_ok hname w), Action.run_bind_of_ok hread]
  rfl

variable (hread : store.readHistory.run w = (.ok history, w'))

include hread

theorem listVersions_run :
    (store.listVersions name).run w = (.ok (labelsIn name history), w') := by
  unfold listVersions
  rw [Action.run_bind_of_ok (checkName_run_ok hname w), Action.run_bind_of_ok hread]
  rfl

theorem listHistory_run :
    (store.listHistory name).run w = (.ok (versionsIn name history), w') := by
  unfold listHistory
  rw [Action.run_bind_of_ok (checkName_run_ok hname w), Action.run_bind_of_ok hread]
  rfl

theorem getVersion_run {timestamp : String} {moment : Reading}
    (hparse : parseTimestamp timestamp = .ok moment) :
    (store.getVersion name timestamp).run w =
      (.ok (history.get? (versionKey name moment)), w') := by
  have hpasses : (Action.ofExcept ((parseTimestamp timestamp).mapError
      (Failure.timestamp timestamp)) : Action σ ν τ Reading).run w = (.ok moment, w) := by
    rw [hparse]
    rfl
  unfold getVersion
  rw [Action.run_bind_of_ok (checkName_run_ok hname w), Action.run_bind_of_ok hpasses,
    Action.run_bind_of_ok hread]
  rfl

end

/-! ## Answers of a prompt backend -/

section

variable (hprompt : store.backend.Prompt contents Settled) (w : World σ ν τ)
  (hsettled : Settled w.backend)

include hprompt hsettled

theorem readCurrent_answer :
    ∃ s, store.readCurrent.run w =
        (.ok (contents w.backend store.group.current), { w with backend := s }) ∧
      Settled s ∧ contents s = contents w.backend :=
  hprompt.read_run store.group.current w hsettled

theorem readHistory_answer :
    ∃ s, store.readHistory.run w =
        (.ok (contents w.backend store.group.history), { w with backend := s }) ∧
      Settled s ∧ contents s = contents w.backend :=
  hprompt.read_run store.group.history w hsettled

variable (hname : Name.check store.group name = .ok ())

include hname

theorem getCurrent_answer :
    ∃ s, (store.getCurrent name).run w =
        (.ok ((contents w.backend store.group.current).get? name),
          { w with backend := s }) ∧
      Settled s ∧ contents s = contents w.backend := by
  obtain ⟨s, hread, hs⟩ := store.readCurrent_answer hprompt w hsettled
  exact ⟨s, getCurrent_run hname hread, hs⟩

theorem listVersions_answer :
    ∃ s, (store.listVersions name).run w =
        (.ok (labelsIn name (contents w.backend store.group.history)),
          { w with backend := s }) ∧
      Settled s ∧ contents s = contents w.backend := by
  obtain ⟨s, hread, hs⟩ := store.readHistory_answer hprompt w hsettled
  exact ⟨s, listVersions_run hname hread, hs⟩

theorem listHistory_answer :
    ∃ s, (store.listHistory name).run w =
        (.ok (versionsIn name (contents w.backend store.group.history)),
          { w with backend := s }) ∧
      Settled s ∧ contents s = contents w.backend := by
  obtain ⟨s, hread, hs⟩ := store.readHistory_answer hprompt w hsettled
  exact ⟨s, listHistory_run hname hread, hs⟩

theorem getVersion_answer {timestamp : String} {moment : Reading}
    (hparse : parseTimestamp timestamp = .ok moment) :
    ∃ s, (store.getVersion name timestamp).run w =
        (.ok ((contents w.backend store.group.history).get? (versionKey name moment)),
          { w with backend := s }) ∧
      Settled s ∧ contents s = contents w.backend := by
  obtain ⟨s, hread, hs⟩ := store.readHistory_answer hprompt w hsettled
  exact ⟨s, getVersion_run hname hread hparse, hs⟩

end

end Store

end ConfigVault
