import ConfigVault.Proofs.Action
import ConfigVault.Proofs.Backend.Lossy

/-!
# What a confirmation is worth

A write is confirmed by the data that is read back, which need not be the write itself.
In memory with a delay, an older write that was given up on can still be under way when a
later one is confirmed by data that was in view before, and it comes into view afterwards.
The confirmed data stays exactly when every write under way that will be seen holds the
same data.
-/

namespace ConfigVault

variable {σ ν τ φ : Type}

/-- A scale on which moments are ordered in a row, sums keep the order, and spans lead
forward. -/
class LawfulTimeScale (τ : Type) [TimeScale τ] : Prop where
  le_refl : ∀ t : τ, t ≤ t
  le_trans : ∀ {s t u : τ}, s ≤ t → t ≤ u → s ≤ u
  le_total : ∀ s t : τ, s ≤ t ∨ t ≤ s
  add_le_add_right : ∀ {s t : τ} (span : τ), s ≤ t → s + span ≤ t + span
  le_add : ∀ (t : τ) {span : τ}, TimeScale.zero ≤ span → t ≤ t + span

instance : LawfulTimeScale Rat where
  le_refl _ := Rat.le_refl
  le_trans := Rat.le_trans
  le_total _ _ := Rat.le_total
  add_le_add_right span h := Rat.add_le_add_right.mpr h
  le_add t span h := by
    have hsum : t + 0 ≤ t + span := Rat.add_le_add_left.mpr h
    rwa [Rat.add_zero] at hsum

/-! ## Runs of calls -/

namespace Backend

theorem disturbed_get_inner (b : Backend σ τ) (next : OutagePlan φ) (c : String) (now : τ)
    (s : Disturbed σ φ) :
    ((b.disturbed next).get c now s).2.inner = s.inner ∨
      ((b.disturbed next).get c now s).2.inner = (b.get c now s.inner).2 := by
  simp only [disturbed, Disturbed.ask]
  rcases next .get c s.plan with ⟨_ | _ | _ | _, plan⟩ <;> simp

theorem disturbed_put_inner (b : Backend σ τ) (next : OutagePlan φ) (c : String)
    (m : Collection) (now : τ) (s : Disturbed σ φ) :
    ((b.disturbed next).put c m now s).2.inner = s.inner ∨
      ((b.disturbed next).put c m now s).2.inner = (b.put c m now s.inner).2 := by
  simp only [disturbed, Disturbed.ask]
  rcases next .put c s.plan with ⟨_ | _ | _ | _, plan⟩ <;> simp

variable [TimeScale τ] {b : Backend σ τ} {conf : Confirmation τ} {c : String}
  {m : Collection} {P : σ → τ → Prop}

/-- What reads and sleeps preserve holds when the look for a write ends; if it found the
write, then by a last read that showed the data. -/
theorem await_invariant (hget : ∀ s now, P s now → P (b.get c now s).2 now)
    (hsleep : ∀ s now, P s now → P s (now + conf.interval)) (started : τ) (sleeps : Nat)
    {w w' : World σ ν τ} {r : Except (Failure τ) Unit} (h : P w.backend w.now)
    (hrun : b.await conf c m started sleeps w = (r, w')) :
    P w'.backend w'.now ∧
      (r = .ok () → ∃ s observed, P s w'.now ∧
        b.get c w'.now s = (.ok observed, w'.backend) ∧ Shows observed m) := by
  -- The induction is on the sleeps that are left.
  induction sleeps using Nat.strong_induction_on generalizing w with
  | _ sleeps ih =>
      rw [await_eq, observe, Action.run_ofRun] at hrun
      have hread := hget _ _ h
      rcases hanswer : b.get c w.now w.backend with ⟨fault | observed, s⟩ <;>
        simp only [hanswer] at hrun hread
      · cases hrun
        exact ⟨hread, fun hok => by cases hok⟩
      · split at hrun
        · next hshows =>
            cases hrun
            exact ⟨hread, fun _ => ⟨w.backend, observed, h, hanswer, hshows⟩⟩
        split at hrun
        · cases hrun
          exact ⟨hread, fun hok => by cases hok⟩
        · next hlast =>
            have hleft : sleeps - 1 < sleeps := by omega
            exact ih _ hleft (hsleep _ _ hread) hrun

theorem commit_invariant (hput : ∀ s now, P s now → P (b.put c m now s).2 now)
    (hget : ∀ s now, P s now → P (b.get c now s).2 now)
    (hsleep : ∀ s now, P s now → P s (now + conf.interval)) {w w' : World σ ν τ}
    {r : Except (Failure τ) Unit} (h : P w.backend w.now)
    (hrun : (b.commit conf c m).run w = (r, w')) :
    P w'.backend w'.now ∧
      (r = .ok () → ∃ s observed, P s w'.now ∧
        b.get c w'.now s = (.ok observed, w'.backend) ∧ Shows observed m) := by
  have hwritten := hput _ _ h
  rcases hanswer : b.put c m w.now w.backend with ⟨fault | _, s⟩ <;>
    rw [hanswer] at hwritten
  · rw [commit_of_refused hanswer] at hrun
    cases hrun
    exact ⟨hwritten, fun hok => by cases hok⟩
  · rw [commit_of_taken hanswer] at hrun
    exact await_invariant hget hsleep _ _ hwritten hrun

end Backend

/-! ## The queue of a register -/

namespace Register

section Queue

variable [TimeScale τ] {delay now : τ} {r : Register τ}

theorem promote_of_not_due (h : ∀ write ∈ r.pending, ¬write.1 ≤ now) :
    r.promote now = r := by
  obtain ⟨visible, _ | ⟨⟨due, data⟩, rest⟩⟩ := r
  · rfl
  · rw [promote_cons, if_neg (h _ List.mem_cons_self)]

/-- The writes under way come into view in the order in which they were made, none later
than a write that is made now. -/
structure Queued (delay now : τ) (r : Register τ) : Prop where
  sorted : r.pending.Pairwise fun a b => a.1 ≤ b.1
  bounded : ∀ write ∈ r.pending, write.1 ≤ now + delay

/-- A write under way will be seen when it is due: none behind it is due as early. -/
def Emerges (r : Register τ) (due : τ) (data : Collection) : Prop :=
  ∃ before after, r.pending = before ++ (due, data) :: after ∧
    ∀ write ∈ after, ¬write.1 ≤ due

theorem queued_of_settled (h : r.pending = []) : r.Queued delay now := by
  refine ⟨?_, ?_⟩ <;> rw [h]
  · exact List.Pairwise.nil
  · exact fun _ hmem => absurd hmem List.not_mem_nil

theorem promote_pending_suffix (r : Register τ) (now : τ) :
    (r.promote now).pending <:+ r.pending := by
  obtain ⟨visible, pending⟩ := r
  induction pending generalizing visible with
  | nil => exact List.suffix_refl _
  | cons write rest ih =>
      obtain ⟨due, data⟩ := write
      rw [promote_cons]
      split
      · exact (ih (some data)).trans (List.suffix_cons _ _)
      · exact List.suffix_refl _

theorem Queued.promote (h : r.Queued delay now) (t : τ) :
    (r.promote t).Queued delay now := by
  have hsuffix := promote_pending_suffix r t
  exact ⟨h.sorted.sublist hsuffix.sublist,
    fun write hwrite => h.bounded write (hsuffix.subset hwrite)⟩

variable [LawfulTimeScale τ]

theorem Queued.later (h : r.Queued delay now) {now' : τ} (hnow : now ≤ now') :
    r.Queued delay now' :=
  ⟨h.sorted, fun write hwrite =>
    LawfulTimeScale.le_trans (h.bounded write hwrite)
      (LawfulTimeScale.add_le_add_right delay hnow)⟩

theorem Queued.write (h : r.Queued delay now) (data : Collection) :
    (r.write delay now data).Queued delay now := by
  unfold Register.write
  split
  · exact ⟨h.sorted, h.bounded⟩
  · refine ⟨?_, ?_⟩
    · refine List.pairwise_append.mpr ⟨h.sorted, List.pairwise_singleton _ _, ?_⟩
      intro a ha b hb
      rw [List.mem_singleton.mp hb]
      exact h.bounded a ha
    · intro write hwrite
      rcases List.mem_append.mp hwrite with hold | hnew
      · exact h.bounded write hold
      · rw [List.mem_singleton.mp hnew]
        exact LawfulTimeScale.le_refl _

theorem promote_promote (r : Register τ) {s t : τ} (h : s ≤ t) :
    (r.promote s).promote t = r.promote t := by
  obtain ⟨visible, pending⟩ := r
  induction pending generalizing visible with
  | nil => rfl
  | cons write rest ih =>
      obtain ⟨due, data⟩ := write
      by_cases hdue : due ≤ s
      · rw [promote_cons, promote_cons, if_pos hdue,
          if_pos (LawfulTimeScale.le_trans hdue h)]
        exact ih (some data)
      · rw [promote_cons _ _ _ _ s, if_neg hdue]

/-- In a queue in order, the writes that are due stand in front of those that are not. -/
theorem exists_last_due {pending : List (τ × Collection)}
    (h : pending.Pairwise fun a b => a.1 ≤ b.1) (now : τ) :
    (∀ write ∈ pending, ¬write.1 ≤ now) ∨
      ∃ before due data after, pending = before ++ (due, data) :: after ∧
        (∀ write ∈ before, write.1 ≤ now) ∧ due ≤ now ∧ ∀ write ∈ after, ¬write.1 ≤ now := by
  induction pending with
  | nil => exact .inl fun _ hmem => absurd hmem List.not_mem_nil
  | cons write rest ih =>
      obtain ⟨due, data⟩ := write
      obtain ⟨hfirst, hrest⟩ := List.pairwise_cons.mp h
      by_cases hdue : due ≤ now
      · rcases ih hrest with hnone | ⟨before, due', data', after, rfl, hbefore, hlast⟩
        · exact .inr ⟨[], due, data, rest, rfl, fun _ hmem => absurd hmem List.not_mem_nil,
            hdue, hnone⟩
        · refine .inr ⟨(due, data) :: before, due', data', after, rfl, ?_, hlast⟩
          exact List.forall_mem_cons.mpr ⟨hdue, hbefore⟩
      · refine .inl (List.forall_mem_cons.mpr ⟨hdue, fun write hwrite hlate => ?_⟩)
        exact hdue (LawfulTimeScale.le_trans (hfirst write hwrite) hlate)

omit [LawfulTimeScale τ] in
theorem promote_append {visible : Option Collection} {before after : List (τ × Collection)}
    {due : τ} {data : Collection} (hbefore : ∀ write ∈ before, write.1 ≤ now)
    (hdue : due ≤ now) (hafter : ∀ write ∈ after, ¬write.1 ≤ now) :
    promote now ⟨visible, before ++ (due, data) :: after⟩ = ⟨some data, after⟩ := by
  induction before generalizing visible with
  | nil =>
      rw [List.nil_append, promote_cons, if_pos hdue]
      exact promote_of_not_due hafter
  | cons write before ih =>
      obtain ⟨hwrite, hrest⟩ := List.forall_mem_cons.mp hbefore
      rw [List.cons_append, promote_cons, if_pos hwrite]
      exact ih hrest

theorem Queued.not_due (h : r.Queued delay now) (t : τ) :
    ∀ write ∈ (r.promote t).pending, ¬write.1 ≤ t := by
  obtain ⟨visible, pending⟩ := r
  rcases exists_last_due h.sorted t with hnone | ⟨before, due, data, after, heq, hbefore, hdue,
    hafter⟩
  · rwa [promote_of_not_due hnone]
  · obtain rfl : pending = before ++ (due, data) :: after := heq
    rwa [promote_append hbefore hdue hafter]

/-- From a moment at which no write is due, reads go on to see the same data exactly when
every write that will be seen holds it. -/
theorem Queued.lasts_iff (h : r.Queued delay now) {t : τ}
    (hnone : ∀ write ∈ r.pending, ¬write.1 ≤ t) {data : Collection}
    (hshown : shown r.visible = data) :
    (∀ later, t ≤ later → shown (r.promote later).visible = data) ↔
      ∀ due sent, r.Emerges due sent → sent = data := by
  obtain ⟨visible, pending⟩ := r
  constructor
  · rintro hlasts due sent ⟨before, after, heq, hafter⟩
    obtain rfl : pending = before ++ (due, sent) :: after := heq
    have hahead : ∀ write ∈ before, write.1 ≤ due := fun write hwrite =>
      (List.pairwise_append.mp h.sorted).2.2 write hwrite _ List.mem_cons_self
    have hfuture : t ≤ due :=
      (LawfulTimeScale.le_total t due).resolve_right
        (hnone _ (List.mem_append_right _ List.mem_cons_self))
    have hsees := hlasts due hfuture
    rwa [promote_append hahead (LawfulTimeScale.le_refl due) hafter] at hsees
  · intro hsame later _
    rcases exists_last_due h.sorted later with hwaits | ⟨before, due, sent, after, heq,
      hbefore, hdue, hafter⟩
    · rwa [promote_of_not_due hwaits]
    · obtain rfl : pending = before ++ (due, sent) :: after := heq
      rw [promote_append hbefore hdue hafter]
      refine hsame due sent ⟨before, after, rfl, fun write hwrite hearly => ?_⟩
      exact hafter write hwrite (LawfulTimeScale.le_trans hearly hdue)

end Queue

/-- What a read answers for data: nothing for empty data. -/
def reading (data : Collection) : Option Collection :=
  if data.isEmpty then none else some data

theorem answer_eq_reading_iff {r : Register τ} {data : Collection} :
    r.answer = reading data ↔ shown r.visible = data := by
  constructor
  · intro h
    rw [← shown_answer, h]
    unfold reading
    split
    · next hempty => exact ((KeyMap.isEmpty_iff_eq_empty data).mp hempty).symm
    · rfl
  · rintro rfl
    unfold answer reading
    rcases r.visible with _ | data
    · rfl
    · cases hempty : data.isEmpty <;> simp [shown, hempty]

end Register

/-! ## Runs of the backend in memory -/

namespace Memory

variable [TimeScale τ]

/-- The states and moments to which reads, writes of some of the collections, and the
passing of time lead. -/
inductive Course (delay : τ) (Written : String → Prop) (m : Memory τ) (now : τ) :
    Memory τ → τ → Prop where
  | start : Course delay Written m now m now
  | read {m' : Memory τ} {now' : τ} (c : String) :
      Course delay Written m now m' now' →
        Course delay Written m now ((backend delay).get c now' m').2 now'
  | write {m' : Memory τ} {now' : τ} (c : String) (data : Collection) :
      Written c → Course delay Written m now m' now' →
        Course delay Written m now ((backend delay).put c data now' m').2 now'
  | later {m' : Memory τ} {now' now'' : τ} :
      Course delay Written m now m' now' → now' ≤ now'' →
        Course delay Written m now m' now''

namespace Course

variable {delay now now' : τ} {Written : String → Prop} {m m' : Memory τ} {c : String}
  {conf : Confirmation τ}

variable [LawfulTimeScale τ]

theorem queued (hcourse : Course delay Written m now m' now')
    (h : ∀ c, (m.register c).Queued delay now) (c : String) :
    (m'.register c).Queued delay now' := by
  induction hcourse with
  | start => exact h c
  | read c' _ ih =>
      rw [backend, register_insert]
      split
      · next heq => exact heq ▸ ih.promote _
      · exact ih
  | write c' data _ _ ih =>
      rw [backend, register_insert]
      split
      · next heq => exact heq ▸ ih.write data
      · exact ih
  | later _ hnow ih => exact ih.later hnow

/-- A collection that is not written shows what the passing of time brings into view. -/
theorem promote_unwritten (hcourse : Course delay Written m now m' now')
    (hc : ¬Written c) :
    now ≤ now' ∧ (m'.register c).promote now' = (m.register c).promote now' := by
  induction hcourse with
  | start => exact ⟨LawfulTimeScale.le_refl _, rfl⟩
  | read c' _ ih =>
      rw [backend, register_insert]
      split
      · next heq =>
          subst heq
          exact ⟨ih.1, (Register.promote_promote _ (LawfulTimeScale.le_refl _)).trans ih.2⟩
      · exact ih
  | write c' data hwritten _ ih =>
      have hne : c' ≠ c := fun heq => hc (heq ▸ hwritten)
      rw [backend, register_insert, if_neg hne]
      exact ih
  | later _ hnow ih =>
      refine ⟨LawfulTimeScale.le_trans ih.1 hnow, ?_⟩
      rw [← Register.promote_promote _ hnow, ih.2, Register.promote_promote _ hnow]

variable (hinterval : TimeScale.zero ≤ conf.interval)

include hinterval

theorem commit {data : Collection} {w w' : World (Memory τ) ν τ}
    {r : Except (Failure τ) Unit} (hc : Written c)
    (hcourse : Course delay Written m now w.backend w.now)
    (hrun : ((backend delay).commit conf c data).run w = (r, w')) :
    Course delay Written m now w'.backend w'.now ∧
      (r = .ok () → ∃ s observed, Course delay Written m now s w'.now ∧
        (backend delay).get c w'.now s = (.ok observed, w'.backend) ∧
        Shows observed data) :=
  Backend.commit_invariant (P := Course delay Written m now)
    (fun _ _ h => h.write c data hc) (fun _ _ h => h.read c)
    (fun _ t h => h.later (LawfulTimeScale.le_add t hinterval)) hcourse hrun

theorem disturbed_commit {next : OutagePlan φ} {data : Collection}
    {w w' : World (Disturbed (Memory τ) φ) ν τ} {r : Except (Failure τ) Unit}
    (hc : Written c) (hcourse : Course delay Written m now w.backend.inner w.now)
    (hrun : (((backend delay).disturbed next).commit conf c data).run w = (r, w')) :
    Course delay Written m now w'.backend.inner w'.now := by
  refine (Backend.commit_invariant (P := fun s t => Course delay Written m now s.inner t)
    (fun s t h => ?_) (fun s t h => ?_) ?_ hcourse hrun).1
  · rcases Backend.disturbed_put_inner (backend delay) next c data t s with hkept | htaken
    · rwa [hkept]
    · rw [htaken]
      exact h.write c data hc
  · rcases Backend.disturbed_get_inner (backend delay) next c t s with hkept | hread
    · rwa [hkept]
    · rw [hread]
      exact h.read c
  · exact fun _ t h => h.later (LawfulTimeScale.le_add t hinterval)

end Course

/-- A confirmed write is read until the collection is written again exactly when every
write under way that will be seen holds the same data. -/
theorem confirmed_lasts_iff [LawfulTimeScale τ] {delay now : τ}
    {initial : List (String × Collection)} {conf : Confirmation τ}
    (hinterval : TimeScale.zero ≤ conf.interval) {c : String} {data : Collection}
    {w w' : World (Memory τ) ν τ}
    (hcourse : Course delay (fun _ => True) (ofCollections initial) now w.backend w.now)
    (hrun : ((backend delay).commit conf c data).run w = (.ok (), w')) :
    (∀ later : World (Memory τ) ν τ,
        Course delay (· ≠ c) w'.backend w'.now later.backend later.now →
          (((backend delay).observe c).run later).1 = .ok (Register.reading data)) ↔
      ∀ due sent, (w'.backend.register c).Emerges due sent → sent = data := by
  -- The write was confirmed by a read, after which no write is due.
  obtain ⟨s, observed, hbefore, hget, hshows⟩ := (hcourse.commit hinterval trivial hrun).2 rfl
  have hqueued : (s.register c).Queued delay w'.now :=
    hbefore.queued (fun c => Register.queued_of_settled (ofCollections_settled initial c)) c
  simp only [backend, Prod.mk.injEq, Except.ok.injEq] at hget
  obtain ⟨rfl, hend⟩ := hget
  have hregister : w'.backend.register c = (s.register c).promote w'.now := by
    rw [← hend, register_insert, if_pos rfl]
  have hshown : shown (w'.backend.register c).visible = data := by
    rw [hregister, ← Register.shown_answer, shows_iff_shown_eq.mp hshows]
  have hnone : ∀ write ∈ (w'.backend.register c).pending, ¬write.1 ≤ w'.now := by
    rw [hregister]
    exact hqueued.not_due w'.now
  have hanswer : ∀ later : World (Memory τ) ν τ,
      (((backend delay).observe c).run later).1 = .ok (Register.reading data) ↔
        shown ((later.backend.register c).promote later.now).visible = data := by
    intro later
    rw [← Register.answer_eq_reading_iff, Backend.observe, Action.run_ofRun, backend,
      Except.ok.injEq]
  have hpromoted : (w'.backend.register c).Queued delay w'.now := by
    rw [hregister]
    exact hqueued.promote w'.now
  rw [← hpromoted.lasts_iff hnone hshown]
  -- Reads before the last one of a run only move writes that it would move itself.
  constructor
  · intro hlasts t ht
    exact (hanswer ⟨w'.backend, w'.checks, t⟩).mp (hlasts _ (.later .start ht))
  · intro hlasts later hlater
    obtain ⟨hnow, hsame⟩ := hlater.promote_unwritten (fun hne => hne rfl)
    rw [hanswer, hsame]
    exact hlasts later.now hnow

/-! ## Two writes of one collection -/

def alerts (content : String) : Collection :=
  .ofList [("a.rules", content)]

def alertsInView : World (Memory Rat) Unit Rat :=
  ⟨ofCollections [("alertrules", alerts "one")], (), 0⟩

def patience : Confirmation Rat := ⟨1 / 4, 1⟩

theorem confirmed_lasts_iff_two_writes :
    let b := backend (1 / 2 : Rat)
    let first := ((b.send "alertrules" (alerts "two")).run alertsInView).2
    let second := (b.commit patience "alertrules" (alerts "three")).run first
    second.1.toOption = some () ∧
      ∀ later : World (Memory Rat) Unit Rat,
        Course (1 / 2) (· ≠ "alertrules") second.2.backend second.2.now
            later.backend later.now →
          ((b.observe "alertrules").run later).1 = .ok (some (alerts "three")) := by
  intro b first second
  have hconfirmed : second.1.toOption = some () := by decide +kernel
  have hqueue : (second.2.backend.register "alertrules").pending = [] := by decide +kernel
  have hcourse : Course (1 / 2) (fun _ => True)
      (ofCollections [("alertrules", alerts "one")]) 0 first.backend first.now :=
    Course.start.write "alertrules" (alerts "two") trivial
  have hrun : second = (.ok (), second.2) := by
    rcases hsecond : second.1 with failure | _
    · rw [hsecond] at hconfirmed
      cases hconfirmed
    · exact Prod.ext hsecond rfl
  refine ⟨hconfirmed, (confirmed_lasts_iff (by decide +kernel) hcourse hrun).mpr ?_⟩
  rintro due sent ⟨before, after, heq, -⟩
  rw [hqueue] at heq
  simp at heq

/-- A write that was given up on comes into view after the data before it was confirmed
anew. -/
theorem confirmed_gives_way :
    let b := backend (5 : Rat)
    let first := (b.commit patience "alertrules" (alerts "two")).run alertsInView
    let second := (b.commit patience "alertrules" (alerts "one")).run first.2
    let later := { second.2 with now := second.2.now + 9 / 2 }
    first.1.toOption = none ∧ second.1.toOption = some () ∧
      ((b.observe "alertrules").run later).1.toOption = some (some (alerts "two")) := by
  decide +kernel

end Memory

end ConfigVault
