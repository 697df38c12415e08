import ConfigVault.Proofs.Backend.Journal
import ConfigVault.Proofs.Store.Relation

/-!
# Watching changes nothing

An operation on a watched backend runs as the same operation on the backend
itself does: with the same result, time and state behind the journal.  What the
journals show therefore holds of the operations as they are.
-/

namespace ConfigVault

variable {σ ν τ α β : Type}

def World.unwatched (w : World (Journal σ) ν τ) : World σ ν τ where
  backend := w.backend.state
  checks := w.checks
  now := w.now

namespace Action

/-- The operation runs as the other one does on states without journals. -/
def Mirrors (a' : Action (Journal σ) ν τ α) (a : Action σ ν τ α) : Prop :=
  ∀ w, a.run w.unwatched = ((a'.run w).1, (a'.run w).2.unwatched)

theorem Mirrors.ofExcept (r : Except (Failure τ) α) :
    (ofExcept r : Action (Journal σ) ν τ α).Mirrors (ofExcept r) := by
  intro w
  rfl

theorem Mirrors.bind {a' : Action (Journal σ) ν τ α} {a : Action σ ν τ α}
    {f' : α → Action (Journal σ) ν τ β} {f : α → Action σ ν τ β}
    (ha : a'.Mirrors a) (hf : ∀ x, (f' x).Mirrors (f x)) :
    (a' >>= f').Mirrors (a >>= f) := by
  intro w
  have hrun := ha w
  rcases hwatched : a'.run w with ⟨failure | x, w'⟩
  · rw [hwatched] at hrun
    rw [run_bind_of_error hwatched, run_bind_of_error hrun]
  · rw [hwatched] at hrun
    rw [run_bind_of_ok hwatched, run_bind_of_ok hrun, hf x w']

def watching (σ ν τ : Type) : Action.Relation (Journal σ) σ ν τ where
  Rel := Mirrors
  ofExcept := Mirrors.ofExcept
  bind := Mirrors.bind

end Action

namespace Backend

variable (b : Backend σ τ)

theorem observe_mirrors (c : String) :
    (b.journaled.observe c).Mirrors (b.observe c : Action σ ν τ _) := by
  intro w
  rcases hget : b.get c w.now w.backend.state with ⟨_ | _, s⟩ <;>
    simp only [observe, journaled, Action.run_ofRun, World.unwatched, hget]

theorem send_mirrors (c : String) (m : Collection) :
    (b.journaled.send c m).Mirrors (b.send c m : Action σ ν τ _) := by
  intro w
  rcases hput : b.put c m w.now w.backend.state with ⟨_ | _, s⟩ <;>
    simp only [send, journaled, Action.run_ofRun, World.unwatched, hput]

variable [TimeScale τ]

theorem await_mirrors (conf : Confirmation τ) (c : String) (m : Collection) (started : τ)
    (sleeps : Nat) (w : World (Journal σ) ν τ) :
    b.await conf c m started sleeps w.unwatched =
      ((b.journaled.await conf c m started sleeps w).1,
        (b.journaled.await conf c m started sleeps w).2.unwatched) := by
  induction sleeps using Nat.strong_induction_on generalizing w with
  | _ sleeps ih =>
      rw [await_eq, await_eq, b.observe_mirrors (ν := ν) c w]
      rcases (b.journaled.observe c).run w with ⟨failure | observed, w'⟩
      · rfl
      · have hnow : w'.unwatched.now = w'.now := rfl
        simp only [hnow]
        split
        · rfl
        split
        · rfl
        · next hlast =>
            have hleft : sleeps - 1 < sleeps := by omega
            exact ih _ hleft { w' with now := w'.now + conf.interval }

theorem commit_mirrors (conf : Confirmation τ) (c : String) (m : Collection) :
    (b.journaled.commit conf c m).Mirrors (b.commit conf c m : Action σ ν τ _) := by
  apply Action.Mirrors.bind (b.send_mirrors c m)
  intro _ w
  exact b.await_mirrors conf c m w.now _ w

end Backend

namespace Store

variable (store : Store σ ν τ)

theorem checkContent_mirrors (content : String) :
    (store.journaled.checkContent content).Mirrors (store.checkContent content) := by
  intro w
  rcases hcheck : store.check content w.checks with ⟨_ | _, k⟩ <;>
    simp only [checkContent, Action.run_ofRun, World.unwatched, journaled_check, hcheck]

variable [TimeScale τ]

theorem journaled_related :
    store.journaled.Related (Action.watching σ ν τ) store where
  group := rfl
  retention := rfl
  checkContent := store.checkContent_mirrors
  read c _ := (Action.watching σ ν τ).map shown (store.backend.observe_mirrors c)
  commit c m _ := store.backend.commit_mirrors store.confirmation c m

theorem put_mirrors (name content : String) (clock : Calendar.Moment) :
    (store.journaled.put name content clock).Mirrors (store.put name content clock) :=
  store.journaled_related.put name content clock

theorem delete_mirrors (name : String) :
    (store.journaled.delete name).Mirrors (store.delete name) :=
  store.journaled_related.delete name

theorem perform_mirrors (op : Operation) :
    (store.journaled.perform op).Mirrors (store.perform op) :=
  store.journaled_related.perform op

/-- A whole run goes as the run of the watched store. -/
theorem performPaced_mirrors (calls : List (τ × Operation)) (w : World (Journal σ) ν τ) :
    store.performPaced calls w.unwatched =
      ((store.journaled.performPaced calls w).1,
        (store.journaled.performPaced calls w).2.unwatched) := by
  induction calls generalizing w with
  | nil => rfl
  | cons call calls ih =>
      obtain ⟨pause, op⟩ := call
      have hcall := store.perform_mirrors op (w.later pause)
      have hlater : (w.later pause).unwatched = w.unwatched.later pause := rfl
      rw [hlater] at hcall
      simp only [performPaced, hcall, ih]

end Store

end ConfigVault
