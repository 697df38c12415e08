import ConfigVault.Proofs.Backend.Lossy

/-!
# Lag and confirmation

With a delay, a write of the backend in memory waits in a queue, and a write is confirmed
by what can be seen, which need not be the write itself.  Still, once a write has been
confirmed, nothing in the queue differs from what is seen: either the write has come into
view, and then all writes before it have left the queue, or the data was there before,
and then the write changes nothing when it comes into view.
-/

namespace ConfigVault

variable {σ ν τ α : Type}

/-- The result says that a write was not confirmed in time. -/
def Unconfirmed (r : Except (Failure τ) α) : Prop :=
  ∃ c timeout elapsed, r = .error (.unconfirmed c timeout elapsed)

variable [TimeScale τ] {delay : τ}

namespace Register

variable {r : Register τ} {data sent : Collection}

/-- The register shows the data, and so will every write under way. -/
structure Steady (delay : τ) (r : Register τ) (data : Collection) : Prop where
  visible : shown r.visible = data
  pending : ∀ write ∈ r.pending, write.2 = data
  prompt : delay ≤ TimeScale.zero → r.pending = []

/-- The register shows the data until the write at the end of its queue comes into
view. -/
structure Turns (delay : τ) (r : Register τ) (data sent : Collection) : Prop where
  visible : shown r.visible = data
  pending : ∃ before due, r.pending = before ++ [(due, sent)] ∧
    ∀ write ∈ before, write.2 = data
  lagging : ¬delay ≤ TimeScale.zero

theorem steady_empty_pending {visible : Option Collection} :
    Steady delay ⟨visible, []⟩ (shown visible) :=
  ⟨rfl, fun _ h => absurd h List.not_mem_nil, fun _ => rfl⟩

/-- Time does not disturb a steady register. -/
theorem Steady.promote (h : r.Steady delay data) (now : τ) :
    (r.promote now).Steady delay data := by
  obtain ⟨visible, pending⟩ := r
  induction pending generalizing visible with
  | nil => exact h
  | cons write rest ih =>
      obtain ⟨due, written⟩ := write
      rw [promote_cons]
      split
      · refine ih (some written) ⟨h.pending _ List.mem_cons_self, ?_, ?_⟩
        · exact fun write hwrite => h.pending write (List.mem_cons_of_mem _ hwrite)
        · exact fun hprompt => absurd (h.prompt hprompt) (List.cons_ne_nil _ _)
      · exact h

/-- When the last write comes into view, the queue is empty. -/
theorem Turns.promote (h : r.Turns delay data sent) (now : τ) :
    (r.promote now).Turns delay data sent ∨ (r.promote now).Steady delay sent := by
  obtain ⟨visible, pending⟩ := r
  obtain ⟨hvisible, ⟨before, due, hpending, hbefore⟩, hlagging⟩ := h
  obtain rfl : pending = before ++ [(due, sent)] := hpending
  -- The induction is on the writes in front of the last one.
  induction before generalizing visible with
  | nil =>
      rw [List.nil_append, promote_cons]
      split
      · exact .inr steady_empty_pending
      · exact .inl ⟨hvisible, ⟨[], due, rfl, hbefore⟩, hlagging⟩
  | cons write rest ih =>
      have hrest : ∀ write ∈ rest, write.2 = data := fun write hwrite =>
        hbefore write (List.mem_cons_of_mem _ hwrite)
      have hwritten : write.2 = data := hbefore write List.mem_cons_self
      obtain ⟨due', written⟩ := write
      rw [List.cons_append, promote_cons]
      split
      · exact ih (some written) hrest hwritten
      · exact .inl ⟨hvisible, ⟨_ :: rest, due, rfl, hbefore⟩, hlagging⟩

/-- The register shows the sent data, or the data before until the sent data comes into
view. -/
def Awaits (delay : τ) (r : Register τ) (data sent : Collection) : Prop :=
  r.Turns delay data sent ∨ r.Steady delay sent

theorem Awaits.promote (h : r.Awaits delay data sent) (now : τ) :
    (r.promote now).Awaits delay data sent :=
  h.elim (fun h => h.promote now) fun h => .inr (h.promote now)

/-- A register that shows the sent data is steady, whichever write it shows. -/
theorem Awaits.steady (h : r.Awaits delay data sent) (hshown : shown r.visible = sent) :
    r.Steady delay sent := by
  rcases h with ⟨hvisible, ⟨before, due, hpending, hbefore⟩, hlagging⟩ | h
  · obtain rfl : data = sent := hvisible.symm.trans hshown
    refine ⟨hshown, ?_, fun hprompt => absurd hprompt hlagging⟩
    intro write hwrite
    rw [hpending, List.mem_append, List.mem_singleton] at hwrite
    rcases hwrite with hwrite | rfl
    · exact hbefore write hwrite
    · rfl
  · exact h

theorem Steady.write (h : r.Steady delay data) (now : τ) (sent : Collection) :
    (r.write delay now sent).Awaits delay data sent := by
  unfold Register.write
  split
  · next hprompt =>
      rw [h.prompt hprompt]
      exact .inr steady_empty_pending
  · next hlagging =>
      exact .inl ⟨h.visible, ⟨r.pending, now + delay, rfl, h.pending⟩, hlagging⟩

end Register

namespace Memory

variable {c : String} {data sent : Collection}

def SameBeside (c : String) (m m' : Memory τ) : Prop :=
  ∀ c', c ≠ c' → m'.register c' = m.register c'

omit [TimeScale τ] in
theorem sameBeside_insert (m : Memory τ) (c : String) (r : Register τ) :
    SameBeside c m (m.insert c r) := by
  intro c' hc
  rw [register_insert, if_neg hc]

omit [TimeScale τ] in
theorem SameBeside.trans {m m' m'' : Memory τ} (h : SameBeside c m m')
    (h' : SameBeside c m' m'') : SameBeside c m m'' :=
  fun c' hc => (h' c' hc).trans (h c' hc)

theorem observe_run (delay : τ) (c : String) (w : World (Memory τ) ν τ) :
    ((backend delay).observe c).run w =
      (.ok ((w.backend.register c).promote w.now).answer,
        { w with
          backend := w.backend.insert c ((w.backend.register c).promote w.now) }) := rfl

theorem send_run (delay : τ) (c : String) (m : Collection) (w : World (Memory τ) ν τ) :
    ((backend delay).send c m).run w =
      (.ok (), { w with
        backend := w.backend.insert c ((w.backend.register c).write delay w.now m) }) := rfl

theorem read_steady (w : World (Memory τ) ν τ)
    (h : (w.backend.register c).Steady delay data) :
    ∃ s, ((backend delay).read c).run w = (.ok data, { w with backend := s }) ∧
      SameBeside c w.backend s ∧ (s.register c).Steady delay data := by
  have hpromoted := h.promote w.now
  refine ⟨_, ?_, sameBeside_insert w.backend c ((w.backend.register c).promote w.now), ?_⟩
  · rw [Backend.read, Action.run_map, observe_run, ← hpromoted.visible,
      ← Register.shown_answer]
    rfl
  · rw [register_insert, if_pos rfl]
    exact hpromoted

/-- A read that shows the sent data leaves the register steady. -/
theorem observe_awaits (w : World (Memory τ) ν τ)
    (h : (w.backend.register c).Awaits delay data sent) :
    ∃ observed s, ((backend delay).observe c).run w = (.ok observed, { w with backend := s }) ∧
      SameBeside c w.backend s ∧ (s.register c).Awaits delay data sent ∧
      (Shows observed sent → (s.register c).Steady delay sent) := by
  have hpromoted := h.promote w.now
  refine ⟨_, _, observe_run delay c w, sameBeside_insert _ _ _, ?_, ?_⟩
  · rw [register_insert, if_pos rfl]
    exact hpromoted
  · intro hshows
    rw [register_insert, if_pos rfl]
    apply hpromoted.steady
    rw [← Register.shown_answer, shows_iff_shown_eq.mp hshows]

/-- Looking for a write leaves the register of its collection steady, or ends
unconfirmed. -/
theorem await_awaits (conf : Confirmation τ) (started : τ) (sleeps : Nat)
    (w : World (Memory τ) ν τ) (h : (w.backend.register c).Awaits delay data sent) :
    ∃ r w', (backend delay).await conf c sent started sleeps w = (r, w') ∧
      w'.checks = w.checks ∧ SameBeside c w.backend w'.backend ∧
      (Unconfirmed r ∨ r = .ok () ∧ (w'.backend.register c).Steady delay sent) := by
  -- The induction is on the sleeps that are left.
  induction sleeps using Nat.strong_induction_on generalizing w with
  | _ sleeps ih =>
      obtain ⟨observed, s, hrun, hbeside, hawaits, hsteady⟩ := observe_awaits w h
      rw [Backend.await_eq, hrun]
      dsimp only
      split
      · next hshows => exact ⟨_, _, rfl, rfl, hbeside, .inr ⟨rfl, hsteady hshows⟩⟩
      split
      · exact ⟨_, _, rfl, rfl, hbeside, .inl ⟨_, _, _, rfl⟩⟩
      · next hlast =>
          have hleft : sleeps - 1 < sleeps := by omega
          obtain ⟨r, w', hrun', hchecks, hbeside', hend⟩ :=
            ih _ hleft ⟨s, w.checks, w.now + conf.interval⟩ hawaits
          exact ⟨r, w', hrun', hchecks, hbeside.trans hbeside', hend⟩

/-- A confirmed write leaves its collection steady. -/
theorem commit_steady (conf : Confirmation τ) (sent : Collection)
    (w : World (Memory τ) ν τ) (h : (w.backend.register c).Steady delay data) :
    ∃ r w', ((backend delay).commit conf c sent).run w = (r, w') ∧
      w'.checks = w.checks ∧ SameBeside c w.backend w'.backend ∧
      (Unconfirmed r ∨ r = .ok () ∧ (w'.backend.register c).Steady delay sent) := by
  have hbeside := sameBeside_insert w.backend c
    ((w.backend.register c).write delay w.now sent)
  have hawaits : (register (w.backend.insert c
      ((w.backend.register c).write delay w.now sent)) c).Awaits delay data sent := by
    rw [register_insert, if_pos rfl]
    exact h.write w.now sent
  obtain ⟨r, w', hrun, hchecks, hbeside', hend⟩ :=
    await_awaits conf w.now (TimeScale.stepsBeyond conf.interval conf.timeout)
      { w with
        backend := w.backend.insert c ((w.backend.register c).write delay w.now sent) }
      hawaits
  refine ⟨r, w', ?_, hchecks, hbeside.trans hbeside', hend⟩
  unfold Backend.commit
  rw [Action.run_bind_of_ok (send_run delay c sent w), Action.run_ofRun, hrun]

end Memory

end ConfigVault
