import ConfigVault.Proofs.Action
import ConfigVault.Store

/-!
# Journals of calls

A backend can be watched: every call goes through as before, and what went over
it is written into a journal together with the state that the call left.  The
states of the journal are those between two calls, so what holds at each of them
holds wherever an operation is cut off.
-/

namespace ConfigVault

variable {σ ν τ : Type}

/-- A call of a backend: what it carried, what was answered, and the state after it. -/
inductive Exchange (σ : Type) where
  | got (collection : String) (answer : Except Fault (Option Collection)) (after : σ)
  | sent (collection : String) (m : Collection) (answer : Except Fault Unit) (after : σ)

namespace Exchange

def after : Exchange σ → σ
  | got _ _ s => s
  | sent _ _ _ s => s

/-- The collection and the data of a call that hands data to the backend. -/
def sent? : Exchange σ → Option (String × Collection)
  | got _ _ _ => none
  | sent c m _ _ => some (c, m)

def answer? (collection : String) : Exchange σ → Option (Except Fault (Option Collection))
  | got c answer _ => if c = collection then some answer else none
  | sent _ _ _ _ => none

/-- The call reads a collection and shows the data. -/
def Confirms (collection : String) (m : Collection) (e : Exchange σ) : Prop :=
  ∃ observed, e.answer? collection = some (.ok observed) ∧ Shows observed m

end Exchange

/-- What was handed to the backend, call by call. -/
def writesOf (es : List (Exchange σ)) : List (String × Collection) :=
  es.filterMap Exchange.sent?

def readsOf (collection : String) (es : List (Exchange σ)) :
    List (Except Fault (Option Collection)) :=
  es.filterMap (Exchange.answer? collection)

@[simp] theorem writesOf_nil : writesOf ([] : List (Exchange σ)) = [] := rfl

@[simp] theorem writesOf_got (c : String) (answer : Except Fault (Option Collection))
    (s : σ) (es : List (Exchange σ)) : writesOf (.got c answer s :: es) = writesOf es := rfl

@[simp] theorem writesOf_sent (c : String) (m : Collection) (answer : Except Fault Unit)
    (s : σ) (es : List (Exchange σ)) :
    writesOf (.sent c m answer s :: es) = (c, m) :: writesOf es := rfl

@[simp] theorem writesOf_append (es es' : List (Exchange σ)) :
    writesOf (es ++ es') = writesOf es ++ writesOf es' :=
  List.filterMap_append

@[simp] theorem readsOf_append (c : String) (es es' : List (Exchange σ)) :
    readsOf c (es ++ es') = readsOf c es ++ readsOf c es' :=
  List.filterMap_append

/-- A write lies behind calls that write nothing. -/
theorem append_eq_append_sent {es es' pre post : List (Exchange σ)} {c : String}
    {m : Collection} {answer : Except Fault Unit} {s : σ} (hes : writesOf es = [])
    (heq : es ++ es' = pre ++ .sent c m answer s :: post) :
    ∃ pre', pre = es ++ pre' ∧ es' = pre' ++ .sent c m answer s :: post := by
  induction es generalizing pre with
  | nil => exact ⟨pre, rfl, heq⟩
  | cons e es ih =>
      cases e with
      | sent c' m' answer' s' => simp at hes
      | got c' answer' s' =>
          cases pre with
          | nil => simp at heq
          | cons e' pre =>
              simp only [List.cons_append, List.cons.injEq] at heq
              obtain ⟨rfl, heq⟩ := heq
              obtain ⟨pre', rfl, hpost⟩ := ih hes heq
              exact ⟨pre', rfl, hpost⟩

theorem not_eq_append_sent {es pre post : List (Exchange σ)} {c : String}
    {m : Collection} {answer : Except Fault Unit} {s : σ} (hes : writesOf es = []) :
    es ≠ pre ++ .sent c m answer s :: post := by
  rintro rfl
  simp at hes

/-- A write behind calls up to a write is that write, or lies behind it. -/
theorem append_sent_eq_append_sent {es rest pre post : List (Exchange σ)} {c c' : String}
    {m m' : Collection} {answer answer' : Except Fault Unit} {s s' : σ}
    (hes : writesOf es = [])
    (heq : es ++ .sent c m answer s :: rest = pre ++ .sent c' m' answer' s' :: post) :
    (pre = es ∧ c' = c ∧ m' = m ∧ answer' = answer ∧ post = rest) ∨
      ∃ pre', pre = es ++ .sent c m answer s :: pre' ∧
        rest = pre' ++ .sent c' m' answer' s' :: post := by
  obtain ⟨pre', rfl, hpre⟩ := append_eq_append_sent hes heq
  cases pre' with
  | nil =>
      simp only [List.nil_append, List.cons.injEq, Exchange.sent.injEq] at hpre
      obtain ⟨⟨rfl, rfl, rfl, -⟩, rfl⟩ := hpre
      exact .inl ⟨List.append_nil _, rfl, rfl, rfl, rfl⟩
  | cons e pre' =>
      simp only [List.cons_append, List.cons.injEq] at hpre
      obtain ⟨rfl, rfl⟩ := hpre
      exact .inr ⟨pre', rfl, rfl⟩

/-- Among calls with one write, a write is that one. -/
theorem append_sent_unique {es rest pre post : List (Exchange σ)} {c c' : String}
    {m m' : Collection} {answer answer' : Except Fault Unit} {s s' : σ}
    (hes : writesOf es = []) (hrest : writesOf rest = [])
    (heq : es ++ .sent c m answer s :: rest = pre ++ .sent c' m' answer' s' :: post) :
    pre = es ∧ c' = c ∧ m' = m ∧ answer' = answer ∧ post = rest := by
  rcases append_sent_eq_append_sent hes heq with hfirst | ⟨pre', -, hlater⟩
  · exact hfirst
  · exact absurd hlater (not_eq_append_sent hrest)

/-- Among calls with two writes, a write is the first or the second. -/
theorem append_sent_append_sent_cases {es mid rest pre post : List (Exchange σ)}
    {c₁ c₂ c : String} {m₁ m₂ m : Collection} {answer₁ answer₂ answer : Except Fault Unit}
    {s₁ s₂ s : σ} (hes : writesOf es = []) (hmid : writesOf mid = [])
    (hrest : writesOf rest = [])
    (heq : es ++ (.sent c₁ m₁ answer₁ s₁ :: mid ++ .sent c₂ m₂ answer₂ s₂ :: rest) =
      pre ++ .sent c m answer s :: post) :
    (c = c₁ ∧ m = m₁ ∧ post = mid ++ .sent c₂ m₂ answer₂ s₂ :: rest) ∨
      (c = c₂ ∧ pre = es ++ .sent c₁ m₁ answer₁ s₁ :: mid ∧ m = m₂ ∧ answer = answer₂ ∧
        post = rest) := by
  rcases append_sent_eq_append_sent hes heq with
    ⟨-, hc, hm, -, hpost⟩ | ⟨pre', rfl, hlater⟩
  · exact .inl ⟨hc, hm, hpost⟩
  · obtain ⟨rfl, hc, hm, hanswer, hpost⟩ := append_sent_unique hmid hrest hlater
    exact .inr ⟨hc, rfl, hm, hanswer, hpost⟩

/-- A state of a watched backend, with its calls so far, the earliest first. -/
structure Journal (σ : Type) where
  state : σ
  exchanges : List (Exchange σ)

def Backend.journaled (b : Backend σ τ) : Backend (Journal σ) τ where
  get collection now j :=
    let (answer, s) := b.get collection now j.state
    (answer, ⟨s, j.exchanges ++ [.got collection answer s]⟩)
  put collection m now j :=
    let (answer, s) := b.put collection m now j.state
    (answer, ⟨s, j.exchanges ++ [.sent collection m answer s]⟩)
  connect j := (b.connect j.state).map fun s => { j with state := s }

def Store.journaled (store : Store σ ν τ) : Store (Journal σ) ν τ where
  backend := store.backend.journaled
  confirmation := store.confirmation
  group := store.group
  check := store.check
  retention := store.retention

namespace Store

variable (store : Store σ ν τ)

@[simp] theorem journaled_backend : store.journaled.backend = store.backend.journaled := rfl

@[simp] theorem journaled_confirmation :
    store.journaled.confirmation = store.confirmation := rfl

@[simp] theorem journaled_group : store.journaled.group = store.group := rfl

@[simp] theorem journaled_check : store.journaled.check = store.check := rfl

@[simp] theorem journaled_retention : store.journaled.retention = store.retention := rfl

end Store

def World.journaled (w : World σ ν τ) : World (Journal σ) ν τ where
  backend := ⟨w.backend, []⟩
  checks := w.checks
  now := w.now

namespace Backend

variable (b : Backend σ τ)

/-! ## The course of a confirmed write -/

/-- The ways in which a write can be looked for from a state on: the calls, how it
ends, and the state at the end. -/
inductive AwaitCourse (c : String) (m : Collection) :
    σ → List (Exchange σ) → Except (Failure τ) Unit → σ → Prop
  | failed {s s' : σ} {now : τ} {fault : Fault}
      (hget : b.get c now s = (.error fault, s')) :
      AwaitCourse c m s [.got c (.error fault) s'] (.error (.ofRead c fault)) s'
  | shown {s s' : σ} {now : τ} {observed : Option Collection}
      (hget : b.get c now s = (.ok observed, s')) (hshows : Shows observed m) :
      AwaitCourse c m s [.got c (.ok observed) s'] (.ok ()) s'
  | late {s s' : σ} {now timeout elapsed : τ} {observed : Option Collection}
      (hget : b.get c now s = (.ok observed, s')) (hshows : ¬Shows observed m) :
      AwaitCourse c m s [.got c (.ok observed) s']
        (.error (.unconfirmed c timeout elapsed)) s'
  | again {s s' s'' : σ} {now : τ} {observed : Option Collection}
      {es : List (Exchange σ)} {r : Except (Failure τ) Unit}
      (hget : b.get c now s = (.ok observed, s')) (hshows : ¬Shows observed m)
      (hrest : AwaitCourse c m s' es r s'') :
      AwaitCourse c m s (.got c (.ok observed) s' :: es) r s''

/-- The ways in which a confirmed write can go. -/
inductive CommitCourse (c : String) (m : Collection) :
    σ → List (Exchange σ) → Except (Failure τ) Unit → σ → Prop
  | refused {s s' : σ} {now : τ} {fault : Fault}
      (hput : b.put c m now s = (.error fault, s')) :
      CommitCourse c m s [.sent c m (.error fault) s'] (.error (.ofWrite c fault)) s'
  | taken {s s' s'' : σ} {now : τ} {es : List (Exchange σ)}
      {r : Except (Failure τ) Unit} (hput : b.put c m now s = (.ok (), s'))
      (hawait : b.AwaitCourse c m s' es r s'') :
      CommitCourse c m s (.sent c m (.ok ()) s' :: es) r s''

theorem AwaitCourse.writesOf_eq {b : Backend σ τ} {c : String} {m : Collection} {s s' : σ}
    {es : List (Exchange σ)} {r : Except (Failure τ) Unit}
    (hcourse : b.AwaitCourse c m s es r s') : writesOf es = [] := by
  induction hcourse with
  | failed | shown | late => rfl
  | again _ _ _ ih => exact ih

theorem AwaitCourse.readsOf_eq {b : Backend σ τ} {c c' : String} (hc : c ≠ c')
    {m : Collection} {s s' : σ} {es : List (Exchange σ)} {r : Except (Failure τ) Unit}
    (hcourse : b.AwaitCourse c m s es r s') : readsOf c' es = [] := by
  induction hcourse with
  | failed | shown | late => simp [readsOf, Exchange.answer?, hc]
  | again _ _ _ ih => simpa [readsOf, Exchange.answer?, hc] using ih

theorem CommitCourse.readsOf_eq {b : Backend σ τ} {c c' : String} (hc : c ≠ c')
    {m : Collection} {s s' : σ} {es : List (Exchange σ)} {r : Except (Failure τ) Unit}
    (hcourse : b.CommitCourse c m s es r s') : readsOf c' es = [] := by
  cases hcourse with
  | refused => rfl
  | taken _ hawait => exact hawait.readsOf_eq hc

/-- The last read of a write that was found shows the data. -/
theorem AwaitCourse.confirmed {b : Backend σ τ} {c : String} {m : Collection} {s s' : σ}
    {es : List (Exchange σ)} (hcourse : b.AwaitCourse c m s es (.ok ()) s') :
    ∃ es' observed, es = es' ++ [.got c (.ok observed) s'] ∧ Shows observed m := by
  generalize hr : (.ok () : Except (Failure τ) Unit) = r at hcourse
  induction hcourse with
  | failed | late => cases hr
  | @shown _ _ _ observed _ hshows => exact ⟨[], observed, rfl, hshows⟩
  | again _ _ _ ih =>
      obtain ⟨es', observed, rfl, hshows⟩ := ih hr
      exact ⟨_ :: es', observed, rfl, hshows⟩

/-- No read of a write that was not found shows the data. -/
theorem AwaitCourse.unconfirmed {b : Backend σ τ} {c : String} {m : Collection}
    {s s' : σ} {es : List (Exchange σ)} {failure : Failure τ}
    (hcourse : b.AwaitCourse c m s es (.error failure) s') :
    ∀ e ∈ es, ¬e.Confirms c m := by
  generalize hr : (.error failure : Except (Failure τ) Unit) = r at hcourse
  induction hcourse with
  | failed => simp [Exchange.Confirms, Exchange.answer?]
  | shown => cases hr
  | late _ hshows => simpa [Exchange.Confirms, Exchange.answer?] using hshows
  | again _ hshows _ ih =>
      intro e he
      rcases List.mem_cons.1 he with rfl | he
      · simpa [Exchange.Confirms, Exchange.answer?] using hshows
      · exact ih hr e he

/-- A confirmed write hands its data over once and first; if it is refused, that is
all, and else reads follow up to one that shows the data. -/
theorem CommitCourse.calls {b : Backend σ τ} {c : String} {m : Collection} {s s' : σ}
    {es : List (Exchange σ)} {r : Except (Failure τ) Unit}
    (hcourse : b.CommitCourse c m s es r s') :
    ∃ answer s₁ reads, es = .sent c m answer s₁ :: reads ∧ writesOf reads = [] ∧
      (∀ fault, answer = .error fault → reads = [] ∧ r = .error (.ofWrite c fault)) ∧
      (r = .ok () → ∃ reads' observed,
        reads = reads' ++ [.got c (.ok observed) s'] ∧ Shows observed m) ∧
      (∀ failure, r = .error failure → ∀ e ∈ reads, ¬e.Confirms c m) := by
  cases hcourse with
  | refused =>
      refine ⟨_, _, [], rfl, rfl, ?_, nofun, fun _ _ => by simp⟩
      rintro fault ⟨rfl⟩
      exact ⟨rfl, rfl⟩
  | taken _ hawait =>
      refine ⟨_, _, _, rfl, hawait.writesOf_eq, nofun, ?_, ?_⟩
      · rintro rfl
        exact hawait.confirmed
      · rintro failure rfl
        exact hawait.unconfirmed

/-- A write is confirmed exactly when a read behind it shows the data. -/
theorem CommitCourse.ok_iff {b : Backend σ τ} {c : String} {m : Collection} {s s₁ s' : σ}
    {answer : Except Fault Unit} {reads : List (Exchange σ)} {r : Except (Failure τ) Unit}
    (hcourse : b.CommitCourse c m s (.sent c m answer s₁ :: reads) r s') :
    r = .ok () ↔ ∃ e ∈ reads, e.Confirms c m := by
  obtain ⟨_, _, _, heq, -, -, hconfirmed, hunconfirmed⟩ := hcourse.calls
  obtain ⟨-, rfl⟩ := List.cons.inj heq
  constructor
  · intro hr
    obtain ⟨found, observed, rfl, hshows⟩ := hconfirmed hr
    refine ⟨.got c (.ok observed) s', ?_, observed, ?_, hshows⟩
    · exact List.mem_append_right found List.mem_cons_self
    · simp [Exchange.answer?]
  · rintro ⟨e, he, hconfirms⟩
    cases r with
    | error failure => exact absurd hconfirms (hunconfirmed failure rfl e he)
    | ok _ => rfl

theorem observe_journaled (c : String) (w : World (Journal σ) ν τ) :
    ∃ answer s, b.get c w.now w.backend.state = (answer, s) ∧
      (b.journaled.observe c).run w =
        (answer.mapError (.ofRead c),
          { w with backend := ⟨s, w.backend.exchanges ++ [.got c answer s]⟩ }) := by
  rcases hget : b.get c w.now w.backend.state with ⟨_ | observed, s⟩
  all_goals
    refine ⟨_, s, rfl, ?_⟩
    simp only [observe, journaled, Action.run_ofRun, hget]
    rfl

theorem read_journaled (c : String) (w : World (Journal σ) ν τ) :
    ∃ answer s, b.get c w.now w.backend.state = (answer, s) ∧
      (b.journaled.read c).run w =
        ((answer.mapError (.ofRead c)).map shown,
          { w with backend := ⟨s, w.backend.exchanges ++ [.got c answer s]⟩ }) := by
  obtain ⟨answer, s, hget, hrun⟩ := b.observe_journaled (ν := ν) c w
  refine ⟨answer, s, hget, ?_⟩
  rw [read, Action.run_map, hrun]

theorem send_journaled (c : String) (m : Collection) (w : World (Journal σ) ν τ) :
    ∃ answer s, b.put c m w.now w.backend.state = (answer, s) ∧
      (b.journaled.send c m).run w =
        (answer.mapError (.ofWrite c),
          { w with backend := ⟨s, w.backend.exchanges ++ [.sent c m answer s]⟩ }) := by
  rcases hput : b.put c m w.now w.backend.state with ⟨_ | _, s⟩
  all_goals
    refine ⟨_, s, rfl, ?_⟩
    simp only [send, journaled, Action.run_ofRun, hput]
    rfl

variable [TimeScale τ]

theorem await_course (conf : Confirmation τ) (c : String) (m : Collection)
    (started : τ) (sleeps : Nat) (w : World (Journal σ) ν τ) :
    ∃ r w' es, b.journaled.await conf c m started sleeps w = (r, w') ∧
      w'.checks = w.checks ∧ w'.backend.exchanges = w.backend.exchanges ++ es ∧
      b.AwaitCourse c m w.backend.state es r w'.backend.state := by
  -- The induction is on the sleeps that are left; the reads so far stay in the journal
  -- of the world it starts from.
  induction sleeps using Nat.strong_induction_on generalizing w with
  | _ sleeps ih =>
      obtain ⟨answer, s, hget, hrun⟩ := b.observe_journaled (ν := ν) c w
      rw [await_eq, hrun]
      cases answer with
      | error fault => exact ⟨_, _, _, rfl, rfl, rfl, .failed hget⟩
      | ok observed =>
          simp only [Except.mapError]
          split
          · next hshows => exact ⟨_, _, _, rfl, rfl, rfl, .shown hget hshows⟩
          next hshows =>
            split
            · exact ⟨_, _, _, rfl, rfl, rfl, .late hget hshows⟩
            · next hlast =>
                have hleft : sleeps - 1 < sleeps := by omega
                obtain ⟨r, w', es, hawait, hchecks, hexchanges, hcourse⟩ :=
                  ih _ hleft { w with
                    backend := ⟨s, w.backend.exchanges ++ [.got c (.ok observed) s]⟩
                    now := w.now + conf.interval }
                refine ⟨r, w', _, hawait, hchecks, ?_, .again hget hshows hcourse⟩
                rw [hexchanges, List.append_assoc]
                rfl

theorem commit_course (conf : Confirmation τ) (c : String) (m : Collection)
    (w : World (Journal σ) ν τ) :
    ∃ r w' es, (b.journaled.commit conf c m).run w = (r, w') ∧
      w'.checks = w.checks ∧ w'.backend.exchanges = w.backend.exchanges ++ es ∧
      b.CommitCourse c m w.backend.state es r w'.backend.state := by
  obtain ⟨answer, s, hput, hrun⟩ := b.send_journaled (ν := ν) c m w
  unfold commit
  cases answer with
  | error fault =>
      rw [Action.run_bind_of_error hrun]
      exact ⟨_, _, _, rfl, rfl, rfl, .refused hput⟩
  | ok _ =>
      rw [Action.run_bind_of_ok hrun, Action.run_ofRun]
      obtain ⟨r, w', es, hawait, hchecks, hexchanges, hcourse⟩ :=
        b.await_course conf c m w.now (TimeScale.stepsBeyond conf.interval conf.timeout)
          { w with backend := ⟨s, w.backend.exchanges ++ [.sent c m (.ok ()) s]⟩ }
      refine ⟨r, w', _, hawait, hchecks, ?_, .taken hput hcourse⟩
      rw [hexchanges, List.append_assoc]
      rfl

end Backend

end ConfigVault
