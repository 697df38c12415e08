import ConfigVault.Proofs.Backend.Confirmed
import Mathlib.Data.Rat.Floor

/-!
# The reads that look for a write

On exact time, a write that was taken is read back at even intervals, the first time at
the moment of the write.  A read that fails or shows the data ends the look.  Without one
of these, the last read is the one after the last interval that fits into the timeout, and
the time said to have passed is the time of that read.
-/

namespace ConfigVault

variable {σ ν τ : Type}

/-! ## Reads one after the other -/

/-- The read answers, but does not show the data. -/
def Silent (m : Collection) (answer : Except Fault (Option Collection)) : Prop :=
  ∃ observed, answer = .ok observed ∧ ¬Shows observed m

namespace Backend

theorem journaled_put {b : Backend σ τ} {c : String} {m : Collection} {now : τ}
    {state s : σ} {answer : Except Fault Unit} (hput : b.put c m now state = (answer, s)) :
    b.journaled.put c m now ⟨state, []⟩ = (answer, ⟨s, [.sent c m answer s]⟩) := by
  simp only [journaled, hput]
  rfl

section Polls

variable (b : Backend σ τ) (c : String) (moment : Nat → τ)

/-- The state after a number of reads, each at its moment. -/
def polled (s : σ) : Nat → σ
  | 0 => s
  | n + 1 => (b.get c (moment n) (polled s n)).2

def pollAnswer (s : σ) (n : Nat) : Except Fault (Option Collection) :=
  (b.get c (moment n) (b.polled c moment s n)).1

/-- A number of reads as calls. -/
def polls (s : σ) (n : Nat) : List (Exchange σ) :=
  (List.range n).map fun k =>
    .got c (b.pollAnswer c moment s k) (b.polled c moment s (k + 1))

theorem polls_succ (s : σ) (n : Nat) :
    b.polls c moment s (n + 1) =
      b.polls c moment s n ++
        [.got c (b.pollAnswer c moment s n) (b.polled c moment s (n + 1))] := by
  simp [polls, List.range_succ]

theorem journaled_polled (j : Journal σ) (n : Nat) :
    b.journaled.polled c moment j n =
      ⟨b.polled c moment j.state n, j.exchanges ++ b.polls c moment j.state n⟩ := by
  induction n with
  | zero => simp [polled, polls]
  | succ n ih =>
      rw [polled, ih, polls_succ, ← List.append_assoc]
      rfl

theorem journaled_pollAnswer (j : Journal σ) (n : Nat) :
    b.journaled.pollAnswer c moment j n = b.pollAnswer c moment j.state n := by
  rw [pollAnswer, journaled_polled]
  rfl

theorem observe_polled (s : σ) (checks : ν) (n : Nat) :
    (b.observe c).run ⟨b.polled c moment s n, checks, moment n⟩ =
      ((b.pollAnswer c moment s n).mapError (.ofRead c),
        ⟨b.polled c moment s (n + 1), checks, moment n⟩) :=
  observe_run_of_get rfl

end Polls

/-- The rounds of looking for a write, without a bound on their number: how often it
sleeps, how it ends, and the world at the end. -/
inductive Search [TimeScale τ] (b : Backend σ τ) (conf : Confirmation τ) (c : String)
    (m : Collection) (started : τ) :
    World σ ν τ → Nat → Except (Failure τ) Unit → World σ ν τ → Prop
  | failed {w w' : World σ ν τ} {failure : Failure τ}
      (hread : (b.observe c).run w = (.error failure, w')) :
      Search b conf c m started w 0 (.error failure) w'
  | shown {w w' : World σ ν τ} {observed : Option Collection}
      (hread : (b.observe c).run w = (.ok observed, w')) (hshows : Shows observed m) :
      Search b conf c m started w 0 (.ok ()) w'
  | late {w w' : World σ ν τ} {observed : Option Collection}
      (hread : (b.observe c).run w = (.ok observed, w')) (hshows : ¬Shows observed m)
      (hlate : conf.timeout < w'.now - started + conf.interval) :
      Search b conf c m started w 0
        (.error (.unconfirmed c conf.timeout (w'.now - started))) w'
  | again {w w' w'' : World σ ν τ} {observed : Option Collection} {sleeps : Nat}
      {r : Except (Failure τ) Unit}
      (hread : (b.observe c).run w = (.ok observed, w')) (hshows : ¬Shows observed m)
      (htime : ¬conf.timeout < w'.now - started + conf.interval)
      (hrest : Search b conf c m started { w' with now := w'.now + conf.interval }
        sleeps r w'') :
      Search b conf c m started w (sleeps + 1) r w''

/-- The look for a write goes its rounds to their end when it may sleep often enough. -/
theorem Search.await_eq [TimeScale τ] {b : Backend σ τ} {conf : Confirmation τ} {c : String}
    {m : Collection} {started : τ} {w w' : World σ ν τ} {n : Nat}
    {r : Except (Failure τ) Unit} (hsearch : b.Search conf c m started w n r w')
    {sleeps : Nat} (hsleeps : n ≤ sleeps) :
    b.await conf c m started sleeps w = (r, w') := by
  induction hsearch generalizing sleeps with
  | failed hread => rw [Backend.await_eq, hread]
  | shown hread hshows =>
      rw [Backend.await_eq, hread]
      exact if_pos hshows
  | late hread hshows hlate =>
      rw [Backend.await_eq, hread]
      simp only [if_neg hshows, if_pos (Or.inl hlate)]
  | again hread hshows htime _ ih =>
      have hleft : ¬sleeps = 0 := by omega
      rw [Backend.await_eq, hread]
      simp only [if_neg hshows, if_neg (not_or.mpr ⟨htime, hleft⟩)]
      exact ih (by omega)

end Backend

/-! ## Even reads on exact time -/

namespace Confirmation

variable (conf : Confirmation Rat)

/-- The moment of a read, the reads counted from zero. -/
def moment (start : Rat) (n : Nat) : Rat :=
  start + n * conf.interval

def lastRead : Nat :=
  ⌊conf.timeout / conf.interval⌋₊

/-- How the answer to a read ends the look for a write. -/
inductive Closes (c : String) (m : Collection) (n : Nat) :
    Except Fault (Option Collection) → Except (Failure Rat) Unit → Prop
  | trouble (trouble : Trouble) :
      Closes c m n (.error (.trouble trouble)) (.error (.read c trouble))
  | incident (incident : Incident) :
      Closes c m n (.error (.incident incident)) (.error (.reported incident))
  | shown {observed : Option Collection} (hshows : Shows observed m) :
      Closes c m n (.ok observed) (.ok ())
  | late {observed : Option Collection} (hlast : n = conf.lastRead)
      (hshows : ¬Shows observed m) :
      Closes c m n (.ok observed)
        (.error (.unconfirmed c conf.timeout (conf.lastRead * conf.interval)))

variable {conf}

theorem Closes.of_shows {c : String} {m : Collection} {n : Nat}
    {answer : Except Fault (Option Collection)} {observed : Option Collection}
    (hanswer : answer = .ok observed) (hshows : Shows observed m) :
    conf.Closes c m n answer (.ok ()) := by
  rw [hanswer]
  exact .shown hshows

theorem Closes.of_silent {c : String} {m : Collection} {n : Nat}
    {answer : Except Fault (Option Collection)} (hlast : n = conf.lastRead)
    (hsilent : Silent m answer) :
    conf.Closes c m n answer
      (.error (.unconfirmed c conf.timeout (conf.lastRead * conf.interval))) := by
  obtain ⟨observed, rfl, hshows⟩ := hsilent
  exact .late hlast hshows

theorem stepsBeyond_eq :
    TimeScale.stepsBeyond conf.interval conf.timeout = conf.lastRead + 1 :=
  rfl

theorem moment_zero (start : Rat) : conf.moment start 0 = start := by
  simp [moment]

theorem moment_succ (start : Rat) (n : Nat) :
    conf.moment start (n + 1) = conf.moment start n + conf.interval := by
  simp only [moment]
  push_cast
  ring

theorem moment_sub (start : Rat) (n : Nat) :
    conf.moment start n - start = n * conf.interval := by
  simp [moment]

variable (hinterval : 0 < conf.interval) (htimeout : 0 < conf.timeout)

include hinterval htimeout

theorem le_lastRead_iff {n : Nat} :
    n ≤ conf.lastRead ↔ n * conf.interval ≤ conf.timeout := by
  have hquotient : 0 ≤ conf.timeout / conf.interval := (div_pos htimeout hinterval).le
  rw [lastRead, Nat.le_floor_iff hquotient, le_div_iff₀ hinterval]

theorem lastRead_mul_le : conf.lastRead * conf.interval ≤ conf.timeout :=
  (le_lastRead_iff hinterval htimeout).mp le_rfl

/-- After a read there is time for another exactly when it is not the last one. -/
theorem timeout_lt_iff (start : Rat) (n : Nat) :
    conf.timeout < conf.moment start n - start + conf.interval ↔ conf.lastRead ≤ n := by
  have hnext : conf.moment start n - start + conf.interval = (n + 1 : Nat) * conf.interval := by
    rw [moment_sub]
    push_cast
    ring
  rw [hnext, ← not_lt, ← Nat.succ_le_iff, le_lastRead_iff hinterval htimeout, not_le]

end Confirmation

namespace Backend

variable {b : Backend σ Rat} {conf : Confirmation Rat} {c : String} {m : Collection}
  {start : Rat} {s : σ} {n : Nat} {r : Except (Failure Rat) Unit}

/-- Every answer closes the look, unless it is silent and there is time for another read. -/
theorem exists_closes (conf : Confirmation Rat) (c : String) {n : Nat}
    {answer : Except Fault (Option Collection)}
    (hfinal : n = conf.lastRead ∨ ¬Silent m answer) : ∃ r, conf.Closes c m n answer r := by
  rcases answer with (incident | trouble) | observed
  · exact ⟨_, .incident incident⟩
  · exact ⟨_, .trouble trouble⟩
  · by_cases hshows : Shows observed m
    · exact ⟨_, .shown hshows⟩
    · have hsilent : Silent m (.ok observed) := ⟨observed, rfl, hshows⟩
      exact ⟨_, .of_silent (hfinal.resolve_right (not_not.mpr hsilent)) hsilent⟩

/-- Some read is the first that closes the look, at the latest the last one in time. -/
theorem exists_closing_read (conf : Confirmation Rat) (c : String) (m : Collection)
    (answer : Nat → Except Fault (Option Collection)) :
    ∃ n r, n ≤ conf.lastRead ∧ (∀ k < n, Silent m (answer k)) ∧
      conf.Closes c m n (answer n) r := by
  classical
  have hexists : ∃ k, k = conf.lastRead ∨ ¬Silent m (answer k) := ⟨_, .inl rfl⟩
  obtain ⟨r, hcloses⟩ := exists_closes conf c (Nat.find_spec hexists)
  refine ⟨Nat.find hexists, r, Nat.find_min' hexists (.inl rfl), ?_, hcloses⟩
  intro k hk
  exact not_not.mp (not_or.mp (Nat.find_min hexists hk)).2

section Exact

variable (hinterval : 0 < conf.interval) (htimeout : 0 < conf.timeout)
  (hn : n ≤ conf.lastRead)
  (hsilent : ∀ k < n, Silent m (b.pollAnswer c (conf.moment start) s k))
  (hcloses : conf.Closes c m n (b.pollAnswer c (conf.moment start) s n) r)

include hinterval htimeout hcloses

/-- A read that closes the look ends its rounds. -/
theorem search_closes (checks : ν) :
    b.Search conf c m start
      ⟨b.polled c (conf.moment start) s n, checks, conf.moment start n⟩ 0 r
      ⟨b.polled c (conf.moment start) s (n + 1), checks, conf.moment start n⟩ := by
  have hread := b.observe_polled c (conf.moment start) s checks n
  generalize b.pollAnswer c (conf.moment start) s n = answer at hcloses hread
  cases hcloses with
  | trouble trouble => exact .failed hread
  | incident incident => exact .failed hread
  | shown hshows => exact .shown hread hshows
  | late hlast hshows =>
      have hlate := (Confirmation.timeout_lt_iff hinterval htimeout start n).mpr hlast.ge
      rw [← hlast, ← Confirmation.moment_sub start n]
      exact .late hread hshows hlate

include hn hsilent

/-- The rounds go on to the first read that closes the look. -/
theorem search_of_polls (checks : ν) :
    b.Search conf c m start ⟨s, checks, start⟩ n r
      ⟨b.polled c (conf.moment start) s (n + 1), checks, conf.moment start n⟩ := by
  -- The induction is on the reads that are still to come before the closing one.
  have hfrom : ∀ left k, k + left = n →
      b.Search conf c m start
        ⟨b.polled c (conf.moment start) s k, checks, conf.moment start k⟩ left r
        ⟨b.polled c (conf.moment start) s (n + 1), checks, conf.moment start n⟩ := by
    intro left
    induction left with
    | zero =>
        rintro k rfl
        exact search_closes hinterval htimeout hcloses checks
    | succ left ih =>
        intro k hk
        obtain ⟨observed, hanswer, hshows⟩ := hsilent k (by omega)
        have hread := b.observe_polled c (conf.moment start) s checks k
        rw [hanswer] at hread
        have htime : ¬conf.timeout < conf.moment start k - start + conf.interval := by
          rw [Confirmation.timeout_lt_iff hinterval htimeout]
          omega
        refine .again hread hshows htime ?_
        have hrest := ih (k + 1) (by omega)
        rwa [Confirmation.moment_succ] at hrest
  have hsearch := hfrom n 0 (Nat.zero_add n)
  rwa [polled, Confirmation.moment_zero] at hsearch

/-- A write that is taken goes as its reads do. -/
theorem commit_of_polls {state : σ} (checks : ν)
    (hput : b.put c m start state = (.ok (), s)) :
    (b.commit conf c m).run ⟨state, checks, start⟩ =
      (r, ⟨b.polled c (conf.moment start) s (n + 1), checks, conf.moment start n⟩) := by
  have hsleeps : n ≤ TimeScale.stepsBeyond conf.interval conf.timeout := by
    rw [Confirmation.stepsBeyond_eq]
    omega
  rw [commit_of_taken hput]
  exact (search_of_polls hinterval htimeout hn hsilent hcloses checks).await_eq hsleeps

/-- Under watch, a write that is taken goes the same way, and its calls are those reads. -/
theorem journaled_commit_of_polls {state : σ} (checks : ν)
    (hput : b.put c m start state = (.ok (), s)) :
    (b.journaled.commit conf c m).run ⟨⟨state, []⟩, checks, start⟩ =
      (r, ⟨⟨b.polled c (conf.moment start) s (n + 1),
        .sent c m (.ok ()) s :: b.polls c (conf.moment start) s (n + 1)⟩,
        checks, conf.moment start n⟩) := by
  -- The watched backend gives the same answers, so the same read closes the look.
  have hanswer := b.journaled_pollAnswer c (conf.moment start) ⟨s, [.sent c m (.ok ()) s]⟩
  simp only [← hanswer] at hsilent hcloses
  rw [commit_of_polls hinterval htimeout hn hsilent hcloses checks
    (journaled_put hput), journaled_polled]
  rfl

end Exact

/-- How a confirmed write ends, and the calls of the backend that it made. -/
structure Commits (b : Backend σ Rat) (conf : Confirmation Rat) (c : String) (m : Collection)
    (w : World σ ν Rat) (es : List (Exchange σ)) (r : Except (Failure Rat) Unit)
    (w' : World σ ν Rat) : Prop where
  run : (b.commit conf c m).run w = (r, w')
  calls : (b.journaled.commit conf c m).run w.journaled =
    (r, ⟨⟨w'.backend, es⟩, w'.checks, w'.now⟩)

/-- A write that was taken is read back at even moments up to the first read that closes
the look, which is the read after `n` sleeps. -/
structure Polled (b : Backend σ Rat) (conf : Confirmation Rat) (c : String) (m : Collection)
    (w : World σ ν Rat) (s : σ) (n : Nat) (r : Except (Failure Rat) Unit) : Prop where
  inTime : n ≤ conf.lastRead
  silent : ∀ k < n, Silent m (b.pollAnswer c (conf.moment w.now) s k)
  closes : conf.Closes c m n (b.pollAnswer c (conf.moment w.now) s n) r
  rounds : b.Search conf c m w.now ⟨s, w.checks, w.now⟩ n r
    ⟨b.polled c (conf.moment w.now) s (n + 1), w.checks, conf.moment w.now n⟩
  commits : b.Commits conf c m w
    (.sent c m (.ok ()) s :: b.polls c (conf.moment w.now) s (n + 1)) r
    ⟨b.polled c (conf.moment w.now) s (n + 1), w.checks, conf.moment w.now n⟩

theorem commits_of_refused {fault : Fault} {w : World σ ν Rat}
    (hput : b.put c m w.now w.backend = (.error fault, s)) :
    b.Commits conf c m w [.sent c m (.error fault) s] (.error (.ofWrite c fault))
      { w with backend := s } :=
  ⟨commit_of_refused hput conf, commit_of_refused (journaled_put hput) conf⟩

theorem polled_of_closes {w : World σ ν Rat} (hinterval : 0 < conf.interval)
    (htimeout : 0 < conf.timeout) (hput : b.put c m w.now w.backend = (.ok (), s))
    (hn : n ≤ conf.lastRead)
    (hsilent : ∀ k < n, Silent m (b.pollAnswer c (conf.moment w.now) s k))
    (hcloses : conf.Closes c m n (b.pollAnswer c (conf.moment w.now) s n) r) :
    b.Polled conf c m w s n r where
  inTime := hn
  silent := hsilent
  closes := hcloses
  rounds := search_of_polls hinterval htimeout hn hsilent hcloses w.checks
  commits := ⟨commit_of_polls hinterval htimeout hn hsilent hcloses w.checks hput,
    journaled_commit_of_polls hinterval htimeout hn hsilent hcloses w.checks hput⟩

/-- A confirmed write hands its data over once.  If the backend refuses it, nothing is
read; else it is read at even moments up to the first read that fails or shows the data,
and at the latest up to the last one in time. -/
theorem commit_reads_evenly (b : Backend σ Rat) {conf : Confirmation Rat}
    (hinterval : 0 < conf.interval) (htimeout : 0 < conf.timeout) (c : String)
    (m : Collection) (w : World σ ν Rat) :
    conf.lastRead * conf.interval ≤ conf.timeout ∧
      match b.put c m w.now w.backend with
      | (.error (.trouble trouble), s) =>
          b.Commits conf c m w [.sent c m (.error (.trouble trouble)) s]
            (.error (.write c trouble)) { w with backend := s }
      | (.error (.incident incident), s) =>
          b.Commits conf c m w [.sent c m (.error (.incident incident)) s]
            (.error (.reported incident)) { w with backend := s }
      | (.ok (), s) => ∃ n r, b.Polled conf c m w s n r := by
  refine ⟨Confirmation.lastRead_mul_le hinterval htimeout, ?_⟩
  rcases hput : b.put c m w.now w.backend with ⟨(incident | trouble) | _, s⟩
  · exact commits_of_refused hput
  · exact commits_of_refused hput
  · obtain ⟨n, r, hn, hsilent, hcloses⟩ :=
      exists_closing_read conf c m (b.pollAnswer c (conf.moment w.now) s)
    exact ⟨n, r, polled_of_closes hinterval htimeout hput hn hsilent hcloses⟩

/-- A write behind a lag of two intervals is confirmed after two sleeps. -/
theorem commit_reads_evenly_lagging :
    0 < Memory.patience.interval ∧ 0 < Memory.patience.timeout ∧
      ∃ s r, (Memory.backend (1 / 2 : Rat)).Polled Memory.patience "alertrules"
        (Memory.alerts "two") Memory.alertsInView s 2 r := by
  have hinterval : 0 < Memory.patience.interval := by decide +kernel
  have htimeout : 0 < Memory.patience.timeout := by decide +kernel
  obtain ⟨n, r, hpolled⟩ := (commit_reads_evenly (Memory.backend (1 / 2 : Rat)) hinterval
    htimeout "alertrules" (Memory.alerts "two") Memory.alertsInView).2
  have hend : (((Memory.backend (1 / 2 : Rat)).commit Memory.patience "alertrules"
      (Memory.alerts "two")).run Memory.alertsInView).2.now = 1 / 2 := by
    decide +kernel
  rw [hpolled.commits.run] at hend
  have hmoment : (0 : Rat) + n * (1 / 4) = 1 / 2 := hend
  have hn : n = 2 := by
    have hcast : (n : Rat) = 2 := by linarith
    exact_mod_cast hcast
  subst hn
  exact ⟨hinterval, htimeout, _, r, hpolled⟩

end Backend

end ConfigVault
