import ConfigVault.Backend.Memory
import ConfigVault.Backend.Outage
import ConfigVault.Proofs.Backend.Journal

/-!
# Erratic and lossy backends

A backend without lag whose writes take effect or do not, whatever they answer.  Every
state that operations meet is settled: reads show what the collections hold, and a write
changes one collection or none.  The backend in memory is of this kind under every plan
that answers no read itself.  It is lossy if a write that fails has no effect.
-/

namespace ConfigVault

variable {σ τ φ : Type}

/-- A backend whose reads are right or fail, and whose writes take effect or do not,
whatever they answer.  `contents` is what the collections hold in a settled state. -/
structure Backend.Erratic (b : Backend σ τ) (contents : σ → String → Collection)
    (Settled : σ → Prop) : Prop where
  get : ∀ {s s' : σ} {c : String} {now : τ} {answer : Except Fault (Option Collection)},
    Settled s → b.get c now s = (answer, s') →
      Settled s' ∧ contents s' = contents s ∧
        ∀ observed, answer = .ok observed → shown observed = contents s c
  put : ∀ {s s' : σ} {c : String} {m : Collection} {now : τ} {answer : Except Fault Unit},
    Settled s → b.put c m now s = (answer, s') →
      Settled s' ∧
        (contents s' = contents s ∨ contents s' = Function.update (contents s) c m)

/-- An erratic backend whose failed writes have no effect. -/
structure Backend.Lossy (b : Backend σ τ) (contents : σ → String → Collection)
    (Settled : σ → Prop) : Prop extends b.Erratic contents Settled where
  refused : ∀ {s s' : σ} {c : String} {m : Collection} {now : τ} {fault : Fault},
    Settled s → b.put c m now s = (.error fault, s') → contents s' = contents s

theorem shows_iff_shown_eq {observed : Option Collection} {m : Collection} :
    Shows observed m ↔ shown observed = m := by
  cases observed with
  | none => simp [Shows, shown, eq_comm]
  | some data => simp [Shows, shown]

namespace Backend

variable {b : Backend σ τ} {contents : σ → String → Collection} {Settled : σ → Prop}

/-- Every state of a stretch of calls is settled and holds the given contents. -/
def Holding (contents : σ → String → Collection) (Settled : σ → Prop)
    (v : String → Collection) (es : List (Exchange σ)) : Prop :=
  ∀ e ∈ es, Settled e.after ∧ contents e.after = v

theorem Holding.cons {v : String → Collection} {e : Exchange σ} {es : List (Exchange σ)}
    (hsettled : Settled e.after) (hcontents : contents e.after = v)
    (hes : Holding contents Settled v es) : Holding contents Settled v (e :: es) := by
  intro e' he'
  rcases List.mem_cons.1 he' with rfl | he'
  · exact ⟨hsettled, hcontents⟩
  · exact hes e' he'

theorem holding_nil (v : String → Collection) :
    Holding contents Settled v ([] : List (Exchange σ)) := by
  intro e he
  exact absurd he List.not_mem_nil

/-- Looking for a write changes no contents, and finds it only where it is. -/
theorem AwaitCourse.holding (herratic : b.Erratic contents Settled) {c : String}
    {m : Collection} {s s' : σ} {es : List (Exchange σ)} {r : Except (Failure τ) Unit}
    (hcourse : b.AwaitCourse c m s es r s') (hsettled : Settled s) :
    Holding contents Settled (contents s) es ∧ Settled s' ∧ contents s' = contents s ∧
      (r = .ok () → contents s c = m) := by
  induction hcourse with
  | failed hget =>
      obtain ⟨hafter, hkept, -⟩ := herratic.get hsettled hget
      exact ⟨.cons hafter hkept (holding_nil _), hafter, hkept, nofun⟩
  | shown hget hshows =>
      obtain ⟨hafter, hkept, hvalue⟩ := herratic.get hsettled hget
      refine ⟨.cons hafter hkept (holding_nil _), hafter, hkept, fun _ => ?_⟩
      rw [← hvalue _ rfl, shows_iff_shown_eq.mp hshows]
  | late hget =>
      obtain ⟨hafter, hkept, -⟩ := herratic.get hsettled hget
      exact ⟨.cons hafter hkept (holding_nil _), hafter, hkept, nofun⟩
  | again hget _ _ ih =>
      obtain ⟨hafter, hkept, -⟩ := herratic.get hsettled hget
      obtain ⟨hes, hsettled', hcontents, hok⟩ := ih hafter
      rw [hkept] at hes hcontents hok
      exact ⟨.cons hafter hkept hes, hsettled', hcontents, hok⟩

/-- After each call of a confirmed write the collections hold the same contents: the
earlier ones, or those with the new data.  A confirmed write is sure to have taken
effect. -/
theorem CommitCourse.holding (herratic : b.Erratic contents Settled) {c : String}
    {m : Collection} {s s' : σ} {es : List (Exchange σ)} {r : Except (Failure τ) Unit}
    (hcourse : b.CommitCourse c m s es r s') (hsettled : Settled s) :
    Holding contents Settled (contents s') es ∧ Settled s' ∧
      (contents s' = contents s ∨ contents s' = Function.update (contents s) c m) ∧
      (r = .ok () → contents s' = Function.update (contents s) c m) := by
  cases hcourse with
  | refused hput =>
      obtain ⟨hafter, htaken⟩ := herratic.put hsettled hput
      exact ⟨.cons hafter rfl (holding_nil _), hafter, htaken, nofun⟩
  | taken hput hawait =>
      obtain ⟨hafter, htaken⟩ := herratic.put hsettled hput
      obtain ⟨hes, hsettled', hcontents, hok⟩ := hawait.holding herratic hafter
      rw [← hcontents] at hes htaken
      refine ⟨.cons hafter hcontents.symm hes, hsettled', htaken, ?_⟩
      intro hr
      have hvalue := hok hr
      rw [← hcontents] at hvalue
      rcases htaken with hkept | hnew
      · rw [hkept] at hvalue ⊢
        rw [← hvalue, Function.update_eq_self]
      · exact hnew

/-- A write that is refused by a lossy backend has had no effect. -/
theorem CommitCourse.refused_kept (hlossy : b.Lossy contents Settled) {c : String}
    {m : Collection} {s s' : σ} {es : List (Exchange σ)} {r : Except (Failure τ) Unit}
    (hcourse : b.CommitCourse c m s es r s') (hsettled : Settled s) {fault : Fault}
    {after : σ} (hes : es = [.sent c m (.error fault) after]) :
    contents s' = contents s := by
  cases hcourse with
  | refused hput => exact hlossy.refused hsettled hput
  | taken hput hawait => simp at hes

end Backend

/-! ## The backend in memory -/

/-- The plan lets reads fail, before or after they reach the other end, and answers none. -/
def OutagePlan.AnswersNoRead (next : OutagePlan φ) : Prop :=
  ∀ c p d, (next .get c p).1 = some d → ∃ fault, d = .fails fault ∨ d = .breaksOff fault

theorem Register.shown_answer (r : Register τ) : shown r.answer = shown r.visible := by
  unfold Register.answer
  cases hvisible : r.visible with
  | none => rfl
  | some data =>
      cases hempty : data.isEmpty with
      | false => simp [Option.filter, hempty]
      | true =>
          rw [(KeyMap.isEmpty_iff_eq_empty data).1 hempty]
          rfl

theorem Register.promote_of_settled [TimeScale τ] {r : Register τ} (hr : r.pending = [])
    (now : τ) : r.promote now = r := by
  obtain ⟨visible, pending⟩ := r
  subst hr
  rfl

/-- The write in front comes into view when it is due. -/
theorem Register.promote_cons [TimeScale τ] (visible : Option Collection) (due : τ)
    (data : Collection) (rest : List (τ × Collection)) (now : τ) :
    promote now ⟨visible, (due, data) :: rest⟩ =
      if due ≤ now then promote now ⟨some data, rest⟩ else ⟨visible, (due, data) :: rest⟩ :=
  rfl

namespace Memory

def Settled (m : Memory τ) : Prop :=
  ∀ c, (m.register c).pending = []

theorem register_insert (m : Memory τ) (c c' : String) (r : Register τ) :
    register (m.insert c r) c' = if c = c' then r else m.register c' := by
  unfold register
  rw [KeyMap.get?_insert]
  split <;> rfl

theorem snapshot_insert (m : Memory τ) (c : String) (r : Register τ) :
    snapshot (m.insert c r) = Function.update m.snapshot c (shown r.visible) := by
  funext c'
  unfold snapshot
  rw [register_insert]
  by_cases hc : c = c'
  · subst hc
    simp
  · simp [hc, Function.update_of_ne (Ne.symm hc)]

theorem settled_insert {m : Memory τ} (hsettled : m.Settled) (c : String)
    {r : Register τ} (hr : r.pending = []) : Settled (m.insert c r) := by
  intro c'
  rw [register_insert]
  split
  · exact hr
  · exact hsettled c'

theorem settled_foldl_insert {entries : List (String × Register τ)} {m : Memory τ}
    (hentries : ∀ e ∈ entries, e.2.pending = []) (hm : m.Settled) :
    Settled (entries.foldl (fun m e => m.insert e.1 e.2) m) := by
  induction entries generalizing m with
  | nil => exact hm
  | cons e entries ih =>
      apply ih
      · exact fun e he => hentries e (List.mem_cons_of_mem _ he)
      · exact settled_insert hm _ (hentries e List.mem_cons_self)

/-- Nothing is under way in collections that are visible from the start. -/
theorem ofCollections_settled (initial : List (String × Collection)) :
    (ofCollections initial : Memory τ).Settled := by
  have hempty : Settled (KeyMap.empty : Memory τ) := fun _ => rfl
  refine settled_foldl_insert ?_ hempty
  intro e he
  obtain ⟨entry, -, rfl⟩ := List.mem_map.mp he
  rfl

variable [TimeScale τ]

theorem backend_get {m : Memory τ} (hsettled : m.Settled) (delay : τ) (c : String)
    (now : τ) : ∃ m', (backend delay).get c now m = (.ok (m.register c).answer, m') ∧
      m'.Settled ∧ m'.snapshot = m.snapshot := by
  refine ⟨m.insert c (m.register c), ?_, settled_insert hsettled c (hsettled c), ?_⟩
  · simp only [backend, Register.promote_of_settled (hsettled c)]
  · rw [snapshot_insert]
    exact Function.update_eq_self c m.snapshot

theorem backend_put {delay : τ} (hdelay : delay ≤ TimeScale.zero) {m : Memory τ}
    (hsettled : m.Settled) (c : String) (data : Collection) (now : τ) :
    ∃ m', (backend delay).put c data now m = (.ok (), m') ∧
      m'.Settled ∧ m'.snapshot = Function.update m.snapshot c data := by
  refine ⟨m.insert c ⟨some data, (m.register c).pending⟩, ?_,
    settled_insert hsettled c (hsettled c), snapshot_insert m c _⟩
  simp only [backend, Register.write, if_pos hdelay]

/-- Under a plan that fails reads and answers none, the backend in memory is erratic. -/
theorem disturbed_erratic {delay : τ} (hdelay : delay ≤ TimeScale.zero)
    {next : OutagePlan φ} (hplan : next.AnswersNoRead) :
    ((backend delay).disturbed next).Erratic (fun s => s.inner.snapshot)
      (fun s => s.inner.Settled) := by
  constructor
  · intro s s' c now answer hsettled hget
    obtain ⟨m, hread, hm, hsnapshot⟩ := backend_get hsettled delay c now
    unfold Backend.disturbed Disturbed.ask at hget
    rcases hnext : next .get c s.plan with ⟨_ | d, p⟩
    · simp only [hnext, hread, Prod.mk.injEq] at hget
      obtain ⟨rfl, rfl⟩ := hget
      refine ⟨hm, hsnapshot, ?_⟩
      rintro observed ⟨rfl⟩
      exact Register.shown_answer _
    · obtain ⟨fault, rfl | rfl⟩ := hplan c s.plan d (by rw [hnext]) <;>
        simp only [hnext, hread, Prod.mk.injEq] at hget <;> obtain ⟨rfl, rfl⟩ := hget
      · exact ⟨hsettled, rfl, nofun⟩
      · exact ⟨hm, hsnapshot, nofun⟩
  · intro s s' c data now answer hsettled hput
    obtain ⟨m, hwrite, hm, hsnapshot⟩ := backend_put hdelay hsettled c data now
    unfold Backend.disturbed Disturbed.ask at hput
    rcases hnext : next .put c s.plan with ⟨_ | _ | _ | _ | _, p⟩ <;>
      simp only [hnext, hwrite, Prod.mk.injEq] at hput <;> obtain ⟨rfl, rfl⟩ := hput
    case none | some.breaksOff => exact ⟨hm, .inr hsnapshot⟩
    all_goals exact ⟨hsettled, .inl rfl⟩

/-- It is lossy if no write takes effect and fails. -/
theorem disturbed_lossy {delay : τ} (hdelay : delay ≤ TimeScale.zero)
    {next : OutagePlan φ} (hplan : next.AnswersNoRead)
    (hwhole : ∀ c p fault, (next .put c p).1 ≠ some (.breaksOff fault)) :
    ((backend delay).disturbed next).Lossy (fun s => s.inner.snapshot)
      (fun s => s.inner.Settled) := by
  refine ⟨disturbed_erratic hdelay hplan, ?_⟩
  intro s s' c data now fault hsettled hput
  obtain ⟨m, hwrite, -, -⟩ := backend_put hdelay hsettled c data now
  unfold Backend.disturbed Disturbed.ask at hput
  rcases hnext : next .put c s.plan with ⟨_ | _ | fault' | _ | _, p⟩ <;>
    simp only [hnext, hwrite, Prod.mk.injEq] at hput
  case some.breaksOff => exact absurd (by rw [hnext]) (hwhole c s.plan fault')
  case some.fails => rw [← hput.2]
  all_goals exact nomatch hput.1

end Memory

end ConfigVault
