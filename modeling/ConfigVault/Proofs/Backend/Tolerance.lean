import ConfigVault.Proofs.Backend.Lag
import ConfigVault.Proofs.Backend.Polling
import ConfigVault.Proofs.KeyMap

/-!
# The lag that a confirmed write tolerates

In memory with a delay, a write comes into view when the delay is over, and the first read
from then on shows it.  That read comes after as many intervals as reach the delay, so the
write is confirmed exactly when these intervals fit into the timeout.  A write that comes
into view behind the last read in time is not confirmed, even if the timeout is not over.
-/

namespace ConfigVault

variable {ν : Type}

def Confirmation.intervalsFor (conf : Confirmation Rat) (span : Rat) : Nat :=
  ⌈span / conf.interval⌉₊

theorem Confirmation.moment_lt_iff {conf : Confirmation Rat} (hinterval : 0 < conf.interval)
    (start span : Rat) (n : Nat) :
    conf.moment start n < start + span ↔ n < conf.intervalsFor span := by
  rw [moment, add_lt_add_iff_left, intervalsFor, Nat.lt_ceil, lt_div_iff₀ hinterval]

namespace Memory

def underWay (s : Memory Rat) (c : String) (due : Rat) (m : Collection) : Memory Rat :=
  s.insert c ⟨(s.register c).visible, [(due, m)]⟩

def inView (s : Memory Rat) (c : String) (m : Collection) : Memory Rat :=
  s.insert c ⟨some m, []⟩

theorem snapshot_underWay (s : Memory Rat) (c : String) (due : Rat) (m : Collection) :
    snapshot (s.underWay c due m) = s.snapshot := by
  rw [underWay, snapshot_insert]
  exact Function.update_eq_self c s.snapshot

theorem snapshot_inView (s : Memory Rat) (c : String) (m : Collection) :
    snapshot (s.inView c m) = Function.update s.snapshot c m :=
  snapshot_insert s c _

section Calls

variable {delay now due : Rat} {c : String} {m : Collection} (s : Memory Rat)

theorem put_idle (m : Collection) (now : Rat) (hdelay : 0 < delay)
    (hidle : (s.register c).pending = []) :
    (backend delay).put c m now s = (.ok (), s.underWay c (now + delay) m) := by
  have hlagging : ¬delay ≤ TimeScale.zero := not_le.mpr hdelay
  simp only [backend, Register.write, if_neg hlagging, hidle, List.nil_append, underWay]

theorem get_before_due (h : now < due) :
    (backend delay).get c now (s.underWay c due m) =
      (.ok (s.register c).answer, s.underWay c due m) := by
  have hpromote : Register.promote now ⟨(s.register c).visible, [(due, m)]⟩ =
      ⟨(s.register c).visible, [(due, m)]⟩ := by
    rw [Register.promote_cons, if_neg (not_le.mpr h)]
  simp only [backend, underWay, register_insert, if_true, hpromote, KeyMap.insert_insert]
  rfl

theorem get_from_due (delay : Rat) (h : due ≤ now) :
    ∃ observed, (backend delay).get c now (s.underWay c due m) =
      (.ok observed, s.inView c m) ∧ Shows observed m := by
  have hpromote : Register.promote now ⟨(s.register c).visible, [(due, m)]⟩ =
      ⟨some m, []⟩ := by
    rw [Register.promote_cons, if_pos h]
    rfl
  have hshown := Register.shown_answer (⟨some m, []⟩ : Register Rat)
  refine ⟨_, ?_, shows_iff_shown_eq.mpr hshown⟩
  simp only [backend, underWay, register_insert, if_true, hpromote, KeyMap.insert_insert,
    inView]

end Calls

section Reads

variable {delay start : Rat} {conf : Confirmation Rat} {c : String} {m : Collection}
  {s : Memory Rat} {k : Nat} (hinterval : 0 < conf.interval)

include hinterval

/-- Reads leave the write under way until the delay is over. -/
theorem polled_underWay (hk : k ≤ conf.intervalsFor delay) :
    (backend delay).polled c (conf.moment start) (s.underWay c (start + delay) m) k =
      s.underWay c (start + delay) m := by
  induction k with
  | zero => rfl
  | succ k ih =>
      have hearly := (Confirmation.moment_lt_iff hinterval start delay k).mpr hk
      rw [Backend.polled, ih (Nat.le_of_succ_le hk), get_before_due s hearly]

theorem pollAnswer_underWay (hk : k < conf.intervalsFor delay) :
    (backend delay).pollAnswer c (conf.moment start) (s.underWay c (start + delay) m) k =
      .ok (s.register c).answer := by
  have hearly := (Confirmation.moment_lt_iff hinterval start delay k).mpr hk
  rw [Backend.pollAnswer, polled_underWay hinterval hk.le, get_before_due s hearly]

/-- The first read from the end of the delay on shows the write. -/
theorem poll_due (delay start : Rat) (c : String) (m : Collection) (s : Memory Rat) :
    ∃ observed, Shows observed m ∧
      (backend delay).pollAnswer c (conf.moment start) (s.underWay c (start + delay) m)
        (conf.intervalsFor delay) = .ok observed ∧
      (backend delay).polled c (conf.moment start) (s.underWay c (start + delay) m)
        (conf.intervalsFor delay + 1) = s.inView c m := by
  have hdue : start + delay ≤ conf.moment start (conf.intervalsFor delay) := by
    rw [← not_lt, Confirmation.moment_lt_iff hinterval]
    exact lt_irrefl _
  obtain ⟨observed, hget, hshows⟩ := get_from_due (c := c) (m := m) s delay hdue
  refine ⟨observed, hshows, ?_, ?_⟩
  · rw [Backend.pollAnswer, polled_underWay hinterval le_rfl, hget]
  · rw [Backend.polled, polled_underWay hinterval le_rfl, hget]

end Reads

section Commit

variable {delay : Rat} {conf : Confirmation Rat} {c : String} {m : Collection}
  {w : World (Memory Rat) ν Rat} (hdelay : 0 < delay) (hinterval : 0 < conf.interval)
  (htimeout : 0 < conf.timeout) (hidle : (w.backend.register c).pending = [])
  (hnew : w.backend.snapshot c ≠ m)

include hinterval hnew

theorem silent_underWay {k : Nat} (hk : k < conf.intervalsFor delay) :
    Silent m ((backend delay).pollAnswer c (conf.moment w.now)
      (w.backend.underWay c (w.now + delay) m) k) := by
  refine ⟨_, pollAnswer_underWay hinterval hk, ?_⟩
  rw [shows_iff_shown_eq, Register.shown_answer]
  exact hnew

include hdelay htimeout hidle

/-- If there is time for the read that sees the write, that read confirms it. -/
theorem commit_in_time (hfits : conf.intervalsFor delay ≤ conf.lastRead) :
    (backend delay).Polled conf c m w (w.backend.underWay c (w.now + delay) m)
        (conf.intervalsFor delay) (.ok ()) ∧
      ((backend delay).commit conf c m).run w =
        (.ok (), ⟨w.backend.inView c m, w.checks,
          conf.moment w.now (conf.intervalsFor delay)⟩) := by
  obtain ⟨observed, hshows, hanswer, hend⟩ := poll_due hinterval delay w.now c m w.backend
  have hpolled := Backend.polled_of_closes (r := .ok ()) hinterval htimeout
    (put_idle w.backend m w.now hdelay hidle) hfits
    (fun k hk => silent_underWay hinterval hnew hk) (.of_shows hanswer hshows)
  refine ⟨hpolled, ?_⟩
  rw [hpolled.commits.run, hend]

/-- If the last read in time comes before, the write is left under way. -/
theorem commit_too_late (hlate : conf.lastRead < conf.intervalsFor delay) :
    (backend delay).Polled conf c m w (w.backend.underWay c (w.now + delay) m)
        conf.lastRead
        (.error (.unconfirmed c conf.timeout (conf.lastRead * conf.interval))) ∧
      ((backend delay).commit conf c m).run w =
        (.error (.unconfirmed c conf.timeout (conf.lastRead * conf.interval)),
          ⟨w.backend.underWay c (w.now + delay) m, w.checks,
            conf.moment w.now conf.lastRead⟩) := by
  have hsilent : ∀ k ≤ conf.lastRead, Silent m ((backend delay).pollAnswer c
      (conf.moment w.now) (w.backend.underWay c (w.now + delay) m) k) := fun k hk =>
    silent_underWay hinterval hnew (lt_of_le_of_lt hk hlate)
  have hpolled := Backend.polled_of_closes hinterval htimeout
    (put_idle w.backend m w.now hdelay hidle) le_rfl (fun k hk => hsilent k hk.le)
    (.of_silent rfl (hsilent _ le_rfl))
  refine ⟨hpolled, ?_⟩
  rw [hpolled.commits.run, polled_underWay hinterval hlate]

end Commit

/-- A write that changes a collection without writes under way is confirmed exactly when
the intervals that reach the delay fit into the timeout, and then by the read after them.
Else it is given up at the last read in time, and is still under way. -/
theorem commit_tolerates {delay : Rat} (hdelay : 0 < delay) {conf : Confirmation Rat}
    (hinterval : 0 < conf.interval) (htimeout : 0 < conf.timeout) {c : String}
    {m : Collection} (w : World (Memory Rat) ν Rat)
    (hidle : (w.backend.register c).pending = []) (hnew : w.backend.snapshot c ≠ m) :
    let n := conf.intervalsFor delay
    let elapsed := conf.lastRead * conf.interval
    let sent := w.backend.underWay c (w.now + delay) m
    let run := ((backend delay).commit conf c m).run w
    (run.1 = .ok () ↔ n * conf.interval ≤ conf.timeout) ∧
      if n * conf.interval ≤ conf.timeout then
        (backend delay).Polled conf c m w sent n (.ok ()) ∧
          run.2 = ⟨w.backend.inView c m, w.checks, w.now + n * conf.interval⟩ ∧
          run.2.backend.snapshot = Function.update w.backend.snapshot c m
      else
        (backend delay).Polled conf c m w sent conf.lastRead run.1 ∧
          run = (.error (.unconfirmed c conf.timeout elapsed),
            ⟨sent, w.checks, w.now + elapsed⟩) ∧
          run.2.backend.snapshot = w.backend.snapshot := by
  intro n elapsed sent run
  have htime : n ≤ conf.lastRead ↔ n * conf.interval ≤ conf.timeout :=
    Confirmation.le_lastRead_iff hinterval htimeout
  by_cases hfits : n * conf.interval ≤ conf.timeout
  · obtain ⟨hpolled, hrun⟩ :=
      commit_in_time hdelay hinterval htimeout hidle hnew (htime.mpr hfits)
    rw [if_pos hfits, show run = _ from hrun]
    exact ⟨iff_of_true rfl hfits, hpolled, rfl, snapshot_inView w.backend c m⟩
  · obtain ⟨hpolled, hrun⟩ := commit_too_late hdelay hinterval htimeout hidle hnew
      (not_le.mp fun h => hfits (htime.mp h))
    rw [if_neg hfits, show run = _ from hrun]
    exact ⟨iff_of_false nofun hfits, hpolled, rfl, snapshot_underWay w.backend c _ m⟩

/-- A lag of two intervals is tolerated, one of two timeouts is not. -/
theorem commit_tolerates_short_lag :
    0 < patience.interval ∧ 0 < patience.timeout ∧
      (alertsInView.backend.register "alertrules").pending = [] ∧
      alertsInView.backend.snapshot "alertrules" ≠ alerts "two" ∧
      (((backend (1 / 2)).commit patience "alertrules" (alerts "two")).run alertsInView).1 =
        .ok () ∧
      (((backend 2).commit patience "alertrules" (alerts "two")).run alertsInView).1 ≠
        .ok () := by
  have hinterval : 0 < patience.interval := by decide +kernel
  have htimeout : 0 < patience.timeout := by decide +kernel
  have hidle : (alertsInView.backend.register "alertrules").pending = [] := by
    decide +kernel
  have hnew : alertsInView.backend.snapshot "alertrules" ≠ alerts "two" := by
    decide +kernel
  have hhalf : (0 : Rat) < 1 / 2 := by decide +kernel
  have htwo : (0 : Rat) < 2 := by decide +kernel
  have hshort := (commit_tolerates hhalf hinterval htimeout alertsInView hidle hnew).1
  have hlong := (commit_tolerates htwo hinterval htimeout alertsInView hidle hnew).1
  refine ⟨hinterval, htimeout, hidle, hnew, hshort.mpr (by decide +kernel), fun hok => ?_⟩
  exact absurd (hlong.mp hok) (by decide +kernel)

end Memory

end ConfigVault
