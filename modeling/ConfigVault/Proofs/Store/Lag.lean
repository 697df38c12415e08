import ConfigVault.Proofs.Backend.Lag
import ConfigVault.Proofs.Store.VersionsKept

/-!
# Stores over a backend with lag

As long as all its writes are confirmed, a store over the backend in memory with a delay
cannot be told from one without: every call ends alike, and every collection reads alike
after it.  The two runs are tied by a relation between their worlds, in which all that
waits in a queue is what the other run holds in that collection; each call keeps it or
ends unconfirmed.
-/

namespace ConfigVault

variable {σ ν τ α β : Type} [TimeScale τ]

/-- The data of all collections is that of another world, and so is every write that is
under way. -/
structure World.Follows (delay : τ) (contents : σ → String → Collection)
    (Settled : σ → Prop) (w : World (Memory τ) ν τ) (w' : World σ ν τ) : Prop where
  checks : w.checks = w'.checks
  settled : Settled w'.backend
  steady : ∀ c, (w.backend.register c).Steady delay (contents w'.backend c)

namespace Action

variable {delay : τ} {contents : σ → String → Collection} {Settled : σ → Prop}

/-- Beginning where one world follows the other, the operations end alike in worlds of
which one follows the other, unless the first ends unconfirmed. -/
def Tracks (delay : τ) (contents : σ → String → Collection) (Settled : σ → Prop)
    (a : Action (Memory τ) ν τ α) (a' : Action σ ν τ α) : Prop :=
  ∀ w w', w.Follows delay contents Settled w' → Unconfirmed (a.run w).1 ∨
    ((a.run w).1 = (a'.run w').1 ∧
      (a.run w).2.Follows delay contents Settled (a'.run w').2)

theorem tracks_ofExcept (r : Except (Failure τ) α) :
    (ofExcept r : Action (Memory τ) ν τ α).Tracks delay contents Settled
      (ofExcept r : Action σ ν τ α) :=
  fun _ _ h => .inr ⟨rfl, h⟩

theorem Tracks.bind {a : Action (Memory τ) ν τ α} {a' : Action σ ν τ α}
    {f : α → Action (Memory τ) ν τ β} {f' : α → Action σ ν τ β}
    (ha : a.Tracks delay contents Settled a')
    (hf : ∀ x, (f x).Tracks delay contents Settled (f' x)) :
    (a >>= f).Tracks delay contents Settled (a' >>= f') := by
  intro w w' h
  have hstep := ha w w' h
  rcases hrun : a.run w with ⟨failure | x, w₁⟩ <;> rw [hrun] at hstep
  · rw [run_bind_of_error hrun]
    rcases hstep with ⟨c, timeout, elapsed, hfailure⟩ | ⟨hsame, hnext⟩
    · cases hfailure
      exact .inl ⟨c, timeout, elapsed, rfl⟩
    · have hrun' : a'.run w' = (.error failure, (a'.run w').2) := Prod.ext hsame.symm rfl
      rw [run_bind_of_error hrun']
      exact .inr ⟨rfl, hnext⟩
  · rw [run_bind_of_ok hrun]
    rcases hstep with ⟨c, timeout, elapsed, hfailure⟩ | ⟨hsame, hnext⟩
    · cases hfailure
    · have hrun' : a'.run w' = (.ok x, (a'.run w').2) := Prod.ext hsame.symm rfl
      rw [run_bind_of_ok hrun']
      exact hf x _ _ hnext

def tracking (σ ν : Type) (delay : τ) (contents : σ → String → Collection)
    (Settled : σ → Prop) : Action.Relation (Memory τ) σ ν τ where
  Rel := Tracks delay contents Settled
  ofExcept := tracks_ofExcept
  bind := Tracks.bind

end Action

namespace Memory

variable {b : Backend σ τ} {delay : τ} {contents : σ → String → Collection}
  {Settled : σ → Prop}

/-- Steady registers stay when only one collection changes, and its register is steady
again. -/
theorem steady_update {m m' : Memory τ} {v : String → Collection} {c : String}
    {data : Collection} (h : ∀ c, (m.register c).Steady delay (v c))
    (hbeside : SameBeside c m m') (hc : (m'.register c).Steady delay data) (c' : String) :
    (m'.register c').Steady delay (Function.update v c data c') := by
  by_cases heq : c = c'
  · subst heq
    rw [Function.update_self]
    exact hc
  · rw [Function.update_of_ne (Ne.symm heq), hbeside c' heq]
    exact h c'

theorem read_tracks (hprompt : b.Prompt contents Settled) (c : String) :
    ((backend delay).read c : Action (Memory τ) ν τ _).Tracks delay contents Settled
      (b.read c) := by
  intro w w' h
  obtain ⟨m, hrun, hbeside, hsteady⟩ := read_steady w (h.steady c)
  obtain ⟨s, hrun', hsettled, hcontents⟩ := hprompt.read_run c w' h.settled
  rw [hrun, hrun']
  refine .inr ⟨rfl, h.checks, hsettled, ?_⟩
  have hupdate := steady_update h.steady hbeside hsteady
  rwa [Function.update_eq_self, ← hcontents] at hupdate

theorem commit_tracks (hprompt : b.Prompt contents Settled) (conf : Confirmation τ)
    (c : String) (m : Collection) :
    ((backend delay).commit conf c m : Action (Memory τ) ν τ _).Tracks delay contents
      Settled (b.commit conf c m) := by
  intro w w' h
  obtain ⟨r, w₁, hrun, hchecks, hbeside, hend⟩ :=
    commit_steady conf m w (h.steady c)
  obtain ⟨s, hrun', hsettled, hcontents⟩ := hprompt.commit_run conf c m w' h.settled
  rw [hrun, hrun']
  rcases hend with hunconfirmed | ⟨rfl, hsteady⟩
  · exact .inl hunconfirmed
  · refine .inr ⟨rfl, hchecks.trans h.checks, hsettled, ?_⟩
    rw [hcontents]
    exact steady_update h.steady hbeside hsteady

end Memory

namespace Store

variable {store : Store (Memory τ) ν τ} {b : Backend σ τ} {delay : τ}
  {contents : σ → String → Collection} {Settled : σ → Prop}

theorem checkContent_tracks (content : String) :
    (store.checkContent content).Tracks delay contents Settled
      ((store.withBackend b).checkContent content) := by
  intro w w' h
  rw [checkContent_run, checkContent_run, ← h.checks]
  exact .inr ⟨rfl, rfl, h.settled, h.steady⟩

theorem withBackend_related (hbackend : store.backend = Memory.backend delay)
    (hprompt : b.Prompt contents Settled) :
    store.Related (Action.tracking σ ν delay contents Settled) (store.withBackend b) where
  group := rfl
  retention := rfl
  checkContent := checkContent_tracks
  read c _ := by
    rw [hbackend]
    exact Memory.read_tracks hprompt c
  commit c m _ := by
    rw [hbackend]
    exact Memory.commit_tracks hprompt store.confirmation c m

/-- As long as no call of a run over a backend with lag ends unconfirmed, its answers are
those of the run over the other backend, and its world follows that of the other run. -/
theorem performPaced_tracks (hbackend : store.backend = Memory.backend delay)
    (hprompt : b.Prompt contents Settled) (calls : List (τ × Operation)) (n : Nat)
    {w : World (Memory τ) ν τ} {w' : World σ ν τ}
    (h : w.Follows delay contents Settled w')
    (hconfirmed : ∀ answer ∈ (store.performPaced calls w).1.take n, ¬Unconfirmed answer) :
    (store.performPaced calls w).1.take n =
        ((store.withBackend b).performPaced calls w').1.take n ∧
      (store.performPaced (calls.take n) w).2.Follows delay contents Settled
        ((store.withBackend b).performPaced (calls.take n) w').2 := by
  induction calls generalizing n w w' with
  | nil =>
      simp only [List.take_nil, performPaced]
      exact ⟨trivial, h⟩
  | cons call calls ih =>
      obtain ⟨pause, op⟩ := call
      cases n with
      | zero => exact ⟨rfl, h⟩
      | succ n =>
          have hlater : (w.later pause).Follows delay contents Settled (w'.later pause) :=
            ⟨h.checks, h.settled, h.steady⟩
          simp only [performPaced, List.take_succ_cons, List.mem_cons, forall_eq_or_imp]
            at hconfirmed ⊢
          have hstep := (withBackend_related hbackend hprompt).perform op _ _ hlater
          obtain ⟨hsame, hnext⟩ := hstep.resolve_left hconfirmed.1
          obtain ⟨hanswers, hend⟩ := ih n hnext hconfirmed.2
          exact ⟨by rw [hsame, hanswers], hend⟩

/-- A run over a backend in memory with a delay, from any data, answers every call as the
run without a delay does until a call ends unconfirmed, and after each call until then
the collections read alike, at whatever time. -/
theorem lag_invisible {delay immediate : τ} (himmediate : immediate ≤ TimeScale.zero)
    {store : Store (Memory τ) ν τ} (hbackend : store.backend = Memory.backend delay)
    (initial : List (String × Collection)) (checks : ν) (now : τ)
    (calls : List (τ × Operation)) (n : Nat) :
    let prompt := store.withBackend (Memory.backend immediate)
    let w : World (Memory τ) ν τ := ⟨Memory.ofCollections initial, checks, now⟩
    (∀ answer ∈ (store.performPaced calls w).1.take n, ¬Unconfirmed answer) →
      (store.performPaced calls w).1.take n = (prompt.performPaced calls w).1.take n ∧
      ∀ c time time',
        ((store.backend.read c).run
          { (store.performPaced (calls.take n) w).2 with now := time }).1 =
        ((prompt.backend.read c).run
          { (prompt.performPaced (calls.take n) w).2 with now := time' }).1 := by
  intro prompt w hconfirmed
  have hsettled := Memory.ofCollections_settled (τ := τ) initial
  have hprompt := Memory.prompt himmediate
  have hfollows : w.Follows delay Memory.snapshot Memory.Settled w := by
    refine ⟨rfl, hsettled, ?_⟩
    intro c
    refine ⟨rfl, ?_, fun _ => hsettled c⟩
    intro write hwrite
    rw [hsettled c] at hwrite
    cases hwrite
  obtain ⟨hanswers, hend⟩ :=
    performPaced_tracks hbackend hprompt calls n hfollows hconfirmed
  refine ⟨hanswers, ?_⟩
  intro c time time'
  obtain ⟨m, hread, -⟩ := Memory.read_steady
    { (store.performPaced (calls.take n) w).2 with now := time } (hend.steady c)
  obtain ⟨m', hread', -⟩ := hprompt.read_run c
    { (prompt.performPaced (calls.take n) w).2 with now := time' } hend.settled
  rw [hbackend, hread]
  exact (congrArg Prod.fst hread').symm

/-- Rules of alerts in memory whose writes show after two seconds. -/
def slowRules : Store (Memory Rat) Unit Rat :=
  (rulesUnder passing .standard).withBackend (Memory.backend 2)

theorem lag_invisible_update :
    let calls : List (Rat × Operation) :=
      [(5, .put "a.rules" "two" (.utc noon)), (0, .listVersions "a.rules")]
    let initial := [("alertrules", KeyMap.ofList [("a.rules", "one")])]
    let w : World (Memory Rat) Unit Rat := ⟨Memory.ofCollections initial, (), 0⟩
    let prompt := slowRules.withBackend (Memory.backend 0)
    (0 : Rat) ≤ TimeScale.zero ∧ slowRules.backend = Memory.backend 2 ∧
      (∀ answer ∈ (slowRules.performPaced calls w).1.take 2, ¬Unconfirmed answer) ∧
      (slowRules.performPaced calls w).1.take 2 = (prompt.performPaced calls w).1.take 2 := by
  intro calls initial w prompt
  have hzero : (0 : Rat) ≤ TimeScale.zero := le_refl _
  have hanswered : ((slowRules.performPaced calls w).1.take 2).all
      (fun answer => answer.toOption.isSome) = true := by
    decide +kernel
  have hconfirmed : ∀ answer ∈ (slowRules.performPaced calls w).1.take 2,
      ¬Unconfirmed answer := by
    rintro answer hanswer ⟨c, timeout, elapsed, rfl⟩
    cases List.all_eq_true.mp hanswered _ hanswer
  obtain ⟨hsame, -⟩ := lag_invisible hzero rfl initial () 0 calls 2 hconfirmed
  exact ⟨hzero, rfl, hconfirmed, hsame⟩

end Store

end ConfigVault
