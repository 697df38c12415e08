import ConfigVault.Proofs.Backend.Lossy

/-!
# Honest backends

A backend that makes nothing up: it shows only what it holds, and it holds only what it
held before or was sent, whether this can be seen yet or not.  A restriction on entries
that the data of a write obeys is therefore obeyed at every point of the write, however
long it takes and however it ends.  The backend in memory is honest with every delay and
under every plan that invents no data.
-/

namespace ConfigVault

variable {σ τ φ : Type}

/-- A backend that shows what it holds and holds what it was sent.  `Stores` tells the
entries that a state holds in a collection, to be seen or under way. -/
structure Backend.Honest (b : Backend σ τ)
    (Stores : σ → String → String → String → Prop) : Prop where
  get : ∀ {s s' : σ} {c : String} {now : τ} {answer : Except Fault (Option Collection)},
    b.get c now s = (answer, s') →
      (∀ c' key value, Stores s' c' key value → Stores s c' key value) ∧
      ∀ observed, answer = .ok observed → ∀ key value,
        (shown observed).get? key = some value → Stores s c key value
  put : ∀ {s s' : σ} {c : String} {m : Collection} {now : τ} {answer : Except Fault Unit},
    b.put c m now s = (answer, s') → ∀ c' key value, Stores s' c' key value →
      Stores s c' key value ∨ (c' = c ∧ m.get? key = some value)

namespace Backend

variable {b : Backend σ τ} {Stores : σ → String → String → String → Prop}
  {P Q : String → String → String → Prop}

/-- All that a state holds passes a test. -/
def Within (Stores : σ → String → String → String → Prop)
    (P : String → String → String → Prop) (s : σ) : Prop :=
  ∀ c key value, Stores s c key value → P c key value

theorem Within.mono {s : σ} (hs : Within Stores P s)
    (hPQ : ∀ c key value, P c key value → Q c key value) : Within Stores Q s :=
  fun c key value h => hPQ c key value (hs c key value h)

/-- All that a map holds passes the test for a collection. -/
def Passes (P : String → String → String → Prop) (c : String) (m : Collection) : Prop :=
  ∀ key value, m.get? key = some value → P c key value

theorem Passes.insert {c key value : String} {m : Collection} (hm : Passes P c m)
    (hvalue : P c key value) : Passes P c (m.insert key value) := by
  intro key' value' hget
  rw [KeyMap.get?_insert] at hget
  split at hget
  · next hkey =>
      cases hget
      rwa [← hkey]
  · exact hm key' value' hget

theorem Passes.filter {c : String} {m : Collection} (hm : Passes P c m)
    (p : String → Bool) : Passes P c (m.filter p) := by
  intro key value hget
  rw [KeyMap.get?_filter] at hget
  split at hget
  · exact hm key value hget
  · cases hget

namespace Honest

theorem get_within (hhonest : b.Honest Stores) {s s' : σ} {c : String} {now : τ}
    {answer : Except Fault (Option Collection)} (hget : b.get c now s = (answer, s'))
    (hs : Within Stores P s) :
    Within Stores P s' ∧
      ∀ observed, answer = .ok observed → Passes P c (shown observed) := by
  obtain ⟨hkept, hshown⟩ := hhonest.get hget
  constructor
  · exact fun c' key value h => hs c' key value (hkept c' key value h)
  · exact fun observed hok key value h => hs c key value (hshown observed hok key value h)

theorem put_within (hhonest : b.Honest Stores) {s s' : σ} {c : String} {m : Collection}
    {now : τ} {answer : Except Fault Unit} (hput : b.put c m now s = (answer, s'))
    (hs : Within Stores P s) (hm : Passes P c m) : Within Stores P s' := by
  intro c' key value h
  rcases hhonest.put hput c' key value h with hold | ⟨rfl, hnew⟩
  · exact hs c' key value hold
  · exact hm key value hnew

end Honest

/-- Every state of a stretch of calls, and the one at its end, holds only what passes. -/
structure StaysWithin (Stores : σ → String → String → String → Prop)
    (P : String → String → String → Prop) (es : List (Exchange σ)) (s' : σ) : Prop where
  calls : ∀ e ∈ es, Within Stores P e.after
  final : Within Stores P s'

theorem StaysWithin.nil {s' : σ} (hs' : Within Stores P s') : StaysWithin Stores P [] s' :=
  ⟨fun _ he => absurd he List.not_mem_nil, hs'⟩

theorem StaysWithin.cons {e : Exchange σ} {es : List (Exchange σ)} {s' : σ}
    (he : Within Stores P e.after) (hes : StaysWithin Stores P es s') :
    StaysWithin Stores P (e :: es) s' := by
  refine ⟨?_, hes.final⟩
  intro e' he'
  rcases List.mem_cons.mp he' with rfl | he'
  · exact he
  · exact hes.calls e' he'

theorem StaysWithin.append {es es' : List (Exchange σ)} {s s' : σ}
    (hes : StaysWithin Stores P es s) (hes' : StaysWithin Stores P es' s') :
    StaysWithin Stores P (es ++ es') s' := by
  refine ⟨?_, hes'.final⟩
  intro e he
  rcases List.mem_append.mp he with he | he
  · exact hes.calls e he
  · exact hes'.calls e he

theorem StaysWithin.mono {es : List (Exchange σ)} {s' : σ} (hes : StaysWithin Stores P es s')
    (hPQ : ∀ c key value, P c key value → Q c key value) : StaysWithin Stores Q es s' :=
  ⟨fun e he => (hes.calls e he).mono hPQ, hes.final.mono hPQ⟩

theorem AwaitCourse.staysWithin (hhonest : b.Honest Stores) {c : String} {m : Collection}
    {s s' : σ} {es : List (Exchange σ)} {r : Except (Failure τ) Unit}
    (hcourse : b.AwaitCourse c m s es r s') (hs : Within Stores P s) :
    StaysWithin Stores P es s' := by
  induction hcourse with
  | failed hget | shown hget | late hget =>
      obtain ⟨hs', -⟩ := hhonest.get_within hget hs
      exact .cons hs' (.nil hs')
  | again hget _ _ ih =>
      obtain ⟨hs', -⟩ := hhonest.get_within hget hs
      exact .cons hs' (ih hs')

theorem CommitCourse.staysWithin (hhonest : b.Honest Stores) {c : String} {m : Collection}
    {s s' : σ} {es : List (Exchange σ)} {r : Except (Failure τ) Unit}
    (hcourse : b.CommitCourse c m s es r s') (hs : Within Stores P s) (hm : Passes P c m) :
    StaysWithin Stores P es s' := by
  cases hcourse with
  | refused hput =>
      have hs' := hhonest.put_within hput hs hm
      exact .cons hs' (.nil hs')
  | taken hput hawait =>
      have hs' := hhonest.put_within hput hs hm
      exact .cons hs' (hawait.staysWithin hhonest hs')

end Backend

/-! ## The backend in memory -/

namespace Register

/-- The data is to be seen, or waits to become visible. -/
def Has (r : Register τ) (data : Collection) : Prop :=
  r.visible = some data ∨ ∃ due, (due, data) ∈ r.pending

variable [TimeScale τ]

theorem has_of_promote {now : τ} {r : Register τ} {data : Collection}
    (h : (r.promote now).Has data) : r.Has data := by
  obtain ⟨visible, pending⟩ := r
  -- The writes that are due come into view one after the other.
  induction pending generalizing visible with
  | nil => exact h
  | cons write rest ih =>
      obtain ⟨due, written⟩ := write
      rw [promote_cons] at h
      split at h
      · rcases ih (some written) h with hvisible | ⟨due', hpending⟩
        · cases hvisible
          exact .inr ⟨due, List.mem_cons_self⟩
        · exact .inr ⟨due', List.mem_cons_of_mem _ hpending⟩
      · exact h

theorem has_of_write {delay now : τ} {r : Register τ} {data sent : Collection}
    (h : (r.write delay now sent).Has data) : r.Has data ∨ data = sent := by
  unfold write at h
  split at h
  · rcases h with hvisible | hpending
    · exact .inr (Option.some.inj hvisible).symm
    · exact .inl (.inr hpending)
  · rcases h with hvisible | ⟨due, hpending⟩
    · exact .inl (.inl hvisible)
    · rcases List.mem_append.mp hpending with hpending | hnew
      · exact .inl (.inr ⟨due, hpending⟩)
      · obtain ⟨-, rfl⟩ := Prod.mk.inj (List.mem_singleton.mp hnew)
        exact .inr rfl

end Register

namespace Memory

/-- The entry is in data of the collection that is to be seen or waits for it. -/
def Stores (m : Memory τ) (c key value : String) : Prop :=
  ∃ data, (m.register c).Has data ∧ data.get? key = some value

theorem stores_insert_iff {m : Memory τ} {c c' key value : String} {r : Register τ} :
    Stores (m.insert c r) c' key value ↔
      if c = c' then ∃ data, r.Has data ∧ data.get? key = some value
      else m.Stores c' key value := by
  unfold Stores
  rw [register_insert]
  split <;> rfl

variable [TimeScale τ]

theorem backend_honest (delay : τ) : (backend delay).Honest Stores := by
  constructor
  · intro m m' c now answer hget
    simp only [backend, Prod.mk.injEq] at hget
    obtain ⟨rfl, rfl⟩ := hget
    constructor
    · intro c' key value hstores
      rw [stores_insert_iff] at hstores
      split at hstores
      · next hc =>
          obtain ⟨data, hdata, hvalue⟩ := hstores
          exact hc ▸ ⟨data, Register.has_of_promote hdata, hvalue⟩
      · exact hstores
    · rintro observed ⟨rfl⟩ key value hvalue
      rcases hvisible : ((m.register c).promote now).visible with _ | data
      · simp [Register.answer, hvisible, shown] at hvalue
      · have hdata : ((m.register c).promote now).Has data := .inl hvisible
        refine ⟨data, Register.has_of_promote hdata, ?_⟩
        rw [Register.shown_answer, hvisible] at hvalue
        exact hvalue
  · intro m m' c data now answer hput c' key value hstores
    simp only [backend, Prod.mk.injEq] at hput
    obtain ⟨rfl, rfl⟩ := hput
    rw [stores_insert_iff] at hstores
    split at hstores
    · next hc =>
        obtain ⟨held, hheld, hvalue⟩ := hstores
        rcases Register.has_of_write hheld with hold | rfl
        · exact .inl (hc ▸ ⟨held, hold, hvalue⟩)
        · exact .inr ⟨hc.symm, hvalue⟩
    · exact .inl hstores

/-- Calls that fail, before or after they take effect, or are lost, and reads that show
nothing, make nothing up. -/
theorem disturbed_honest (delay : τ) {next : OutagePlan φ}
    (hplan : ∀ c p data, (next .get c p).1 ≠ some (.answers (some data))) :
    ((backend delay).disturbed next).Honest fun s => s.inner.Stores := by
  have hhonest := backend_honest (τ := τ) delay
  constructor
  · intro s s' c now answer hget
    unfold Backend.disturbed Disturbed.ask at hget
    rcases hnext : next .get c s.plan with ⟨_ | _ | _ | data | _, p⟩ <;>
      simp only [hnext, Prod.mk.injEq] at hget <;> obtain ⟨rfl, rfl⟩ := hget
    case none => exact hhonest.get rfl
    case some.fails => exact ⟨fun _ _ _ h => h, nofun⟩
    case some.breaksOff => exact ⟨(hhonest.get rfl).1, nofun⟩
    case some.answers =>
      refine ⟨fun _ _ _ h => h, ?_⟩
      rintro observed ⟨rfl⟩ key value hvalue
      cases data with
      | none => cases hvalue
      | some data => exact absurd (by rw [hnext]) (hplan c s.plan data)
    case some.lost =>
      refine ⟨fun _ _ _ h => h, ?_⟩
      rintro observed ⟨rfl⟩ key value hvalue
      cases hvalue
  · intro s s' c m now answer hput c' key value hstores
    unfold Backend.disturbed Disturbed.ask at hput
    rcases hnext : next .put c s.plan with ⟨_ | _ | _ | _ | _, p⟩ <;>
      simp only [hnext, Prod.mk.injEq] at hput <;> obtain ⟨rfl, rfl⟩ := hput
    case none | some.breaksOff => exact hhonest.put rfl c' key value hstores
    all_goals exact .inl hstores

end Memory

end ConfigVault
