import ConfigVault.Commit
import Mathlib.Tactic

/-!
# Runs of operations

An operation made of others runs them one after the other and stops at the first
that fails, with what was done until then.  Confirmed writes are such operations, too.
-/

namespace ConfigVault

variable {σ ν τ α β : Type}

namespace Action

@[simp] theorem run_pure (x : α) (w : World σ ν τ) :
    (pure x : Action σ ν τ α).run w = (.ok x, w) := rfl

@[simp] theorem run_ofExcept (r : Except (Failure τ) α) (w : World σ ν τ) :
    (ofExcept r : Action σ ν τ α).run w = (r, w) := rfl

@[simp] theorem run_ofRun (f : World σ ν τ → Except (Failure τ) α × World σ ν τ)
    (w : World σ ν τ) : (ofRun f).run w = f w := rfl

theorem run_bind_of_ok {a : Action σ ν τ α} {x : α} {w w' : World σ ν τ}
    (h : a.run w = (.ok x, w')) (f : α → Action σ ν τ β) :
    (a >>= f).run w = (f x).run w' := by
  change ExceptT.bindCont f (a.run w).1 (a.run w).2 = _
  rw [h]
  rfl

theorem run_bind_of_error {a : Action σ ν τ α} {e : Failure τ} {w w' : World σ ν τ}
    (h : a.run w = (.error e, w')) (f : α → Action σ ν τ β) :
    (a >>= f).run w = (.error e, w') := by
  change ExceptT.bindCont f (a.run w).1 (a.run w).2 = _
  rw [h]
  rfl

theorem run_map (f : α → β) (a : Action σ ν τ α) (w : World σ ν τ) :
    (f <$> a).run w = ((a.run w).1.map f, (a.run w).2) := by
  rcases h : a.run w with ⟨_ | _, w'⟩
  · change (a >>= fun x => pure (f x)).run w = _
    rw [run_bind_of_error h]
    rfl
  · change (a >>= fun x => pure (f x)).run w = _
    rw [run_bind_of_ok h]
    rfl

theorem run_bind_pure (f : α → β) (a : Action σ ν τ α) (w : World σ ν τ) :
    (a >>= fun x => pure (f x)).run w = ((a.run w).1.map f, (a.run w).2) :=
  run_map f a w

/-- What is known of the end of a run holds when its result is mapped. -/
theorem exists_run_map {a : Action σ ν τ α} {r : Except (Failure τ) α} {w : World σ ν τ}
    {P : World σ ν τ → Prop} (f : α → β) (h : ∃ w', a.run w = (r, w') ∧ P w') :
    ∃ w', (f <$> a).run w = (r.map f, w') ∧ P w' := by
  obtain ⟨w', hrun, hend⟩ := h
  refine ⟨w', ?_, hend⟩
  rw [run_map, hrun]

end Action

namespace Backend

variable {b : Backend σ τ} {c : String} {w : World σ ν τ} {s : σ}
  {answer : Except Fault (Option Collection)}

/-- A read ends as the backend answers, with a fault as the failure of the read. -/
theorem observe_run_of_get (hget : b.get c w.now w.backend = (answer, s)) :
    (b.observe c).run w = (answer.mapError (.ofRead c), { w with backend := s }) := by
  rw [observe, Action.run_ofRun, hget]
  cases answer <;> rfl

theorem read_run_of_get (hget : b.get c w.now w.backend = (answer, s)) :
    (b.read c).run w =
      ((answer.mapError (.ofRead c)).map shown, { w with backend := s }) := by
  rw [read, Action.run_map, observe_run_of_get hget]

end Backend

/-- Looking for a write is one read, and the same again after a sleep if there is time and
one is left. -/
theorem Backend.await_eq [TimeScale τ] (b : Backend σ τ) (conf : Confirmation τ) (c : String)
    (m : Collection) (started : τ) (sleeps : Nat) (w : World σ ν τ) :
    b.await conf c m started sleeps w =
      match (b.observe c).run w with
      | (.error failure, w) => (.error failure, w)
      | (.ok observed, w) =>
        if Shows observed m then (.ok (), w)
        else if conf.timeout < w.now - started + conf.interval ∨ sleeps = 0 then
          (.error (.unconfirmed c conf.timeout (w.now - started)), w)
        else
          b.await conf c m started (sleeps - 1) { w with now := w.now + conf.interval } := by
  cases sleeps with
  | zero =>
      unfold await
      rcases (b.observe c).run w with ⟨failure | observed, w'⟩ <;> simp
  | succ sleeps =>
      conv_lhs => unfold await
      rcases (b.observe c).run w with ⟨failure | observed, w'⟩ <;> simp

section Commit

variable [TimeScale τ] {b : Backend σ τ} {c : String} {m : Collection} {w : World σ ν τ} {s : σ}

theorem Backend.commit_of_refused {fault : Fault}
    (hput : b.put c m w.now w.backend = (.error fault, s)) (conf : Confirmation τ) :
    (b.commit conf c m).run w = (.error (.ofWrite c fault), { w with backend := s }) := by
  have hsend : (b.send c m).run w =
      (.error (.ofWrite c fault), { w with backend := s }) := by
    rw [send, Action.run_ofRun, hput]
  exact Action.run_bind_of_error hsend _

theorem Backend.commit_of_taken
    (hput : b.put c m w.now w.backend = (.ok (), s)) (conf : Confirmation τ) :
    (b.commit conf c m).run w =
      b.await conf c m w.now (TimeScale.stepsBeyond conf.interval conf.timeout)
        { w with backend := s } := by
  have hsend : (b.send c m).run w = (.ok (), { w with backend := s }) := by
    rw [send, Action.run_ofRun, hput]
  exact Action.run_bind_of_ok hsend _

end Commit

end ConfigVault
