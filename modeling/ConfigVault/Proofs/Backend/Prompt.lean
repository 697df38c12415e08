import ConfigVault.Proofs.Backend.Lossy

/-!
# Prompt backends

A backend that answers every call and shows every write at once.  Over it a read
gives what the collection holds, and a confirmed write is confirmed by its first
read.  The backend in memory without a delay is prompt.
-/

namespace ConfigVault

variable {σ ν τ φ : Type}

/-- A backend whose calls all succeed and take effect at once. -/
structure Backend.Prompt (b : Backend σ τ) (contents : σ → String → Collection)
    (Settled : σ → Prop) : Prop where
  get : ∀ {s : σ} (c : String) (now : τ), Settled s →
    ∃ observed s', b.get c now s = (.ok observed, s') ∧ Settled s' ∧
      contents s' = contents s ∧ shown observed = contents s c
  put : ∀ {s : σ} (c : String) (m : Collection) (now : τ), Settled s →
    ∃ s', b.put c m now s = (.ok (), s') ∧ Settled s' ∧
      contents s' = Function.update (contents s) c m

namespace Backend.Prompt

variable {b : Backend σ τ} {contents : σ → String → Collection} {Settled : σ → Prop}

theorem observe_run (hprompt : b.Prompt contents Settled) (c : String)
    (w : World σ ν τ) (hsettled : Settled w.backend) :
    ∃ observed s, (b.observe c).run w = (.ok observed, { w with backend := s }) ∧
      Settled s ∧ contents s = contents w.backend ∧
      shown observed = contents w.backend c := by
  obtain ⟨observed, s, hget, hs, hcontents, hshown⟩ := hprompt.get c w.now hsettled
  refine ⟨observed, s, ?_, hs, hcontents, hshown⟩
  rw [observe_run_of_get hget]
  rfl

theorem read_run (hprompt : b.Prompt contents Settled) (c : String)
    (w : World σ ν τ) (hsettled : Settled w.backend) :
    ∃ s, (b.read c).run w = (.ok (contents w.backend c), { w with backend := s }) ∧
      Settled s ∧ contents s = contents w.backend := by
  obtain ⟨observed, s, hrun, hs, hcontents, hshown⟩ := hprompt.observe_run c w hsettled
  refine ⟨s, ?_, hs, hcontents⟩
  rw [read, Action.run_map, hrun, ← hshown]
  rfl

variable [TimeScale τ]

/-- A confirmed write is confirmed by its first read. -/
theorem commit_run (hprompt : b.Prompt contents Settled) (conf : Confirmation τ)
    (c : String) (m : Collection) (w : World σ ν τ) (hsettled : Settled w.backend) :
    ∃ s, (b.commit conf c m).run w = (.ok (), { w with backend := s }) ∧
      Settled s ∧ contents s = Function.update (contents w.backend) c m := by
  obtain ⟨s, hput, hs, hcontents⟩ := hprompt.put c m w.now hsettled
  obtain ⟨observed, s', hread, hs', hcontents', hshown⟩ :=
    hprompt.observe_run c { w with backend := s } hs
  have hshows : Shows observed m := by
    rw [shows_iff_shown_eq, hshown, hcontents, Function.update_self]
  refine ⟨s', ?_, hs', hcontents'.trans hcontents⟩
  rw [commit_of_taken hput, await_eq, hread]
  exact if_pos hshows

end Backend.Prompt

namespace Memory

variable [TimeScale τ] {delay : τ} (hdelay : delay ≤ TimeScale.zero)

include hdelay

theorem prompt : (backend delay).Prompt snapshot Settled := by
  constructor
  · intro m c now hsettled
    obtain ⟨m', hget, hm', hsnapshot⟩ := backend_get hsettled delay c now
    exact ⟨_, m', hget, hm', hsnapshot, Register.shown_answer _⟩
  · intro m c data now hsettled
    exact backend_put hdelay hsettled c data now

/-- A plan that lets every call pass changes nothing. -/
theorem disturbed_prompt {next : OutagePlan φ}
    (hpass : ∀ kind c p, (next kind c p).1 = none) :
    ((backend delay).disturbed next).Prompt (fun s => s.inner.snapshot)
      (fun s => s.inner.Settled) := by
  constructor
  · intro s c now hsettled
    obtain ⟨m, hget, hm, hsnapshot⟩ := backend_get hsettled delay c now
    refine ⟨_, ⟨m, (next .get c s.plan).2, ⟨.get, c, true⟩ :: s.calls⟩, ?_, hm, hsnapshot,
      Register.shown_answer _⟩
    simp only [Backend.disturbed, Disturbed.ask, hpass, hget]
    rfl
  · intro s c m now hsettled
    obtain ⟨m', hput, hm', hsnapshot⟩ := backend_put hdelay hsettled c m now
    refine ⟨⟨m', (next .put c s.plan).2, ⟨.put, c, true⟩ :: s.calls⟩, ?_, hm', hsnapshot⟩
    simp only [Backend.disturbed, Disturbed.ask, hpass, hput]
    rfl

end Memory

end ConfigVault
