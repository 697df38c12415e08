import ConfigVault.Proofs.Backend.Lossy
import ConfigVault.Proofs.Store.Relation

/-!
# Backends that agree

Two backends agree on some collections when their states can be tied so that every call
is answered alike and leaves the states tied.  Reads need only show the same collection:
no data and an empty collection count as alike, because neither a read nor the look for a
write tells them apart.  Stores whose collections are among these then answer every call
alike, one after the other.
-/

namespace ConfigVault

variable {σ σ' ν τ α β : Type}

/-- Calls on the covered collections are answered alike in tied states, and leave tied
states. -/
structure Backend.Agrees (b : Backend σ τ) (b' : Backend σ' τ) (Tied : σ → σ' → Prop)
    (Covers : String → Prop) : Prop where
  get : ∀ {s : σ} {s' : σ'} {c : String} (now : τ), Covers c → Tied s s' →
    (b.get c now s).1.map shown = (b'.get c now s').1.map shown ∧
      Tied (b.get c now s).2 (b'.get c now s').2
  put : ∀ {s : σ} {s' : σ'} {c : String} (m : Collection) (now : τ), Covers c → Tied s s' →
    (b.put c m now s).1 = (b'.put c m now s').1 ∧
      Tied (b.put c m now s).2 (b'.put c m now s').2

/-- Worlds with tied backends that are alike besides. -/
structure World.Alike (Tied : σ → σ' → Prop) (w : World σ ν τ) (w' : World σ' ν τ) :
    Prop where
  backend : Tied w.backend w'.backend
  checks : w.checks = w'.checks
  now : w.now = w'.now

namespace Action

variable {Tied : σ → σ' → Prop}

/-- The operations end alike in tied worlds, and leave tied worlds. -/
def Agree (Tied : σ → σ' → Prop) (a : Action σ ν τ α) (a' : Action σ' ν τ α) : Prop :=
  ∀ w w', World.Alike Tied w w' →
    (a.run w).1 = (a'.run w').1 ∧ World.Alike Tied (a.run w).2 (a'.run w').2

theorem agree_ofExcept (r : Except (Failure τ) α) :
    Agree Tied (ofExcept r : Action σ ν τ α) (ofExcept r) :=
  fun _ _ h => ⟨rfl, h⟩

theorem Agree.bind {a : Action σ ν τ α} {a' : Action σ' ν τ α} {f : α → Action σ ν τ β}
    {f' : α → Action σ' ν τ β} (ha : Agree Tied a a') (hf : ∀ x, Agree Tied (f x) (f' x)) :
    Agree Tied (a >>= f) (a' >>= f') := by
  intro w w' h
  obtain ⟨hsame, htied⟩ := ha w w' h
  rcases hrun : a.run w with ⟨failure | x, w₁⟩ <;> rw [hrun] at hsame htied
  · have hrun' : a'.run w' = (.error failure, (a'.run w').2) := Prod.ext hsame.symm rfl
    rw [run_bind_of_error hrun, run_bind_of_error hrun']
    exact ⟨rfl, htied⟩
  · have hrun' : a'.run w' = (.ok x, (a'.run w').2) := Prod.ext hsame.symm rfl
    rw [run_bind_of_ok hrun, run_bind_of_ok hrun']
    exact hf x _ _ htied

def agreeing (ν τ : Type) (Tied : σ → σ' → Prop) : Action.Relation σ σ' ν τ where
  Rel := Agree Tied
  ofExcept := agree_ofExcept
  bind := Agree.bind

end Action

namespace Backend.Agrees

variable {b : Backend σ τ} {b' : Backend σ' τ} {Tied : σ → σ' → Prop}
  {Covers : String → Prop} (hagrees : b.Agrees b' Tied Covers) {c : String}
  (hcovers : Covers c)

include hagrees hcovers

theorem observe_agree {w : World σ ν τ} {w' : World σ' ν τ} (h : World.Alike Tied w w') :
    ((b.observe c).run w).1.map shown = ((b'.observe c).run w').1.map shown ∧
      World.Alike Tied ((b.observe c).run w).2 ((b'.observe c).run w').2 := by
  obtain ⟨hsame, htied⟩ := hagrees.get w.now hcovers h.backend
  simp only [observe, Action.run_ofRun, ← h.now]
  rcases hget : b.get c w.now w.backend with ⟨fault | observed, s⟩ <;>
    rcases hget' : b'.get c w.now w'.backend with ⟨fault' | observed', s'⟩ <;>
    rw [hget, hget'] at hsame htied
  · cases hsame
    exact ⟨rfl, htied, h.checks, rfl⟩
  · cases hsame
  · cases hsame
  · exact ⟨congrArg Except.ok (Except.ok.inj hsame), htied, h.checks, rfl⟩

theorem read_agree : Action.Agree Tied (b.read c : Action σ ν τ _) (b'.read c) := by
  intro w w' h
  rw [read, read, Action.run_map, Action.run_map]
  exact hagrees.observe_agree hcovers h

theorem send_agree (m : Collection) :
    Action.Agree Tied (b.send c m : Action σ ν τ _) (b'.send c m) := by
  intro w w' h
  obtain ⟨hsame, htied⟩ := hagrees.put m w.now hcovers h.backend
  simp only [send, Action.run_ofRun, ← h.now]
  rcases hput : b.put c m w.now w.backend with ⟨fault | _, s⟩ <;>
    rcases hput' : b'.put c m w.now w'.backend with ⟨fault' | _, s'⟩ <;>
    rw [hput, hput'] at hsame htied
  · cases hsame
    exact ⟨rfl, htied, h.checks, rfl⟩
  · cases hsame
  · cases hsame
  · exact ⟨rfl, htied, h.checks, rfl⟩

variable [TimeScale τ] (conf : Confirmation τ) (m : Collection)

/-- Looking for a write ends alike, after as many reads. -/
theorem await_agree (started : τ) (sleeps : Nat) {w : World σ ν τ} {w' : World σ' ν τ}
    (h : World.Alike Tied w w') :
    (b.await conf c m started sleeps w).1 = (b'.await conf c m started sleeps w').1 ∧
      World.Alike Tied (b.await conf c m started sleeps w).2
        (b'.await conf c m started sleeps w').2 := by
  induction sleeps using Nat.strong_induction_on generalizing w w' with
  | _ sleeps ih =>
      obtain ⟨hsame, halike⟩ := hagrees.observe_agree hcovers h
      rw [await_eq, await_eq]
      rcases hrun : (b.observe c).run w with ⟨failure | observed, w₁⟩ <;>
        rcases hrun' : (b'.observe c).run w' with ⟨failure' | observed', w₁'⟩ <;>
        rw [hrun, hrun'] at hsame halike
      · cases hsame
        exact ⟨rfl, halike⟩
      · cases hsame
      · cases hsame
      · have hshown : shown observed = shown observed' := Except.ok.inj hsame
        have hnow : w₁.now = w₁'.now := halike.now
        simp only [shows_iff_shown_eq, hshown, hnow]
        split
        · exact ⟨rfl, halike⟩
        split
        · exact ⟨rfl, halike⟩
        next hlast =>
          have hleft : sleeps - 1 < sleeps := by omega
          exact ih _ hleft ⟨halike.backend, halike.checks, rfl⟩

theorem commit_agree :
    Action.Agree Tied (b.commit conf c m : Action σ ν τ _) (b'.commit conf c m) := by
  apply Action.Agree.bind (hagrees.send_agree hcovers m)
  intro _ w w' h
  simp only [Action.run_ofRun, h.now]
  exact hagrees.await_agree hcovers conf m w'.now _ h

end Backend.Agrees

end ConfigVault
