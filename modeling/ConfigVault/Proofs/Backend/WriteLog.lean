import ConfigVault.Proofs.Backend.Confirmed

/-!
# Memory as a log of writes

A collection in memory is a register with a queue, and only its own reads move writes out
of the queue.  From outside it is a log: a read answers with the latest write that was made
at least the delay ago.  When the collection was read before, and what became of other
collections, makes no difference.
-/

namespace ConfigVault

namespace Register

variable {delay now : Rat} {r : Register Rat} {log : Rat → Option Collection}

/-- From a moment on, reads of the register see what a log says. -/
structure Logs (delay now : Rat) (r : Register Rat) (log : Rat → Option Collection) :
    Prop where
  queued : r.Queued delay now
  prompt : delay ≤ 0 → r.pending = []
  visible : ∀ t, now ≤ t → (r.promote t).visible = log t

theorem logs_of_visible (visible : Option Collection) :
    Logs delay now ⟨visible, []⟩ fun _ => visible :=
  ⟨queued_of_settled rfl, fun _ => rfl, fun _ _ => rfl⟩

theorem Logs.later (h : r.Logs delay now log) {now' : Rat} (hnow : now ≤ now') :
    r.Logs delay now' log :=
  ⟨h.queued.later hnow, h.prompt, fun t ht => h.visible t (hnow.trans ht)⟩

/-- A read takes nothing from the log. -/
theorem Logs.promote (h : r.Logs delay now log) : (r.promote now).Logs delay now log := by
  refine ⟨h.queued.promote now, ?_, ?_⟩
  · intro hprompt
    have hsuffix := promote_pending_suffix r now
    rw [h.prompt hprompt] at hsuffix
    exact List.suffix_nil.mp hsuffix
  · intro t ht
    rw [promote_promote r ht]
    exact h.visible t ht

theorem visible_promote_append {due t : Rat} (hlate : ¬due ≤ t) (data : Collection)
    (visible : Option Collection) (pending : List (Rat × Collection)) :
    (promote t ⟨visible, pending ++ [(due, data)]⟩).visible =
      (promote t ⟨visible, pending⟩).visible := by
  induction pending generalizing visible with
  | nil =>
      rw [List.nil_append, promote_cons, if_neg hlate]
      rfl
  | cons write rest ih =>
      obtain ⟨due', data'⟩ := write
      rw [List.cons_append, promote_cons, promote_cons]
      split
      · exact ih (some data')
      · rfl

theorem Logs.write (h : r.Logs delay now log) (data : Collection) :
    (r.write delay now data).Logs delay now fun t =>
      if now + delay ≤ t then some data else log t := by
  obtain ⟨visible, pending⟩ := r
  have hqueued := h.queued.write data
  by_cases hprompt : delay ≤ 0
  · obtain rfl : pending = [] := h.prompt hprompt
    have hwrite : Register.write delay now data ⟨visible, []⟩ = ⟨some data, []⟩ :=
      if_pos hprompt
    rw [hwrite] at hqueued ⊢
    refine ⟨hqueued, fun _ => rfl, ?_⟩
    intro t ht
    have hdue : now + delay ≤ t := by linarith
    rw [if_pos hdue]
    rfl
  · have hwrite : Register.write delay now data ⟨visible, pending⟩ =
        ⟨visible, pending ++ [(now + delay, data)]⟩ := if_neg hprompt
    rw [hwrite] at hqueued ⊢
    refine ⟨hqueued, fun hzero => absurd hzero hprompt, ?_⟩
    intro t ht
    by_cases hdue : now + delay ≤ t
    · -- Nothing in front of the write is due later than it.
      have hbefore : ∀ write ∈ pending, write.1 ≤ t := fun write hwrite =>
        (h.queued.bounded write hwrite).trans hdue
      rw [if_pos hdue,
        promote_append hbefore hdue fun write hwrite => absurd hwrite List.not_mem_nil]
    · rw [if_neg hdue, visible_promote_append hdue]
      exact h.visible t ht

end Register

namespace Memory

/-! ## Calls and the log that they leave -/

/-- A call of the backend at a moment. -/
inductive TimedCall where
  | get (c : String) (moment : Rat)
  | put (c : String) (data : Collection) (moment : Rat)

namespace TimedCall

def moment : TimedCall → Rat
  | get _ t => t
  | put _ _ t => t

def run (delay : Rat) (m : Memory Rat) : TimedCall → Memory Rat
  | get c t => ((backend delay).get c t m).2
  | put c data t => ((backend delay).put c data t m).2

def Writes (c : String) : TimedCall → Prop
  | get _ _ => False
  | put c' _ _ => c' = c

instance (c : String) : DecidablePred (Writes c) := fun call => by
  cases call <;> unfold Writes <;> infer_instance

/-- The data that a call writes to a collection a delay or more before a moment. -/
def sentBy? (delay : Rat) (c : String) (t : Rat) : TimedCall → Option Collection
  | get _ _ => none
  | put c' data s => if c' = c ∧ s + delay ≤ t then some data else none

end TimedCall

def InOrder (calls : List TimedCall) : Prop :=
  calls.Pairwise fun a b => a.moment ≤ b.moment

def runAll (delay : Rat) (calls : List TimedCall) (m : Memory Rat) : Memory Rat :=
  calls.foldl (TimedCall.run delay) m

/-- The data of the latest write of a collection that was made a delay or more before a
moment. -/
def latest? (delay : Rat) (c : String) (t : Rat) (calls : List TimedCall) :
    Option Collection :=
  (calls.filterMap (TimedCall.sentBy? delay c t)).getLast?

variable {delay now t : Rat} {c : String} {calls : List TimedCall}

theorem latest?_append_singleton (calls : List TimedCall) (call : TimedCall) :
    latest? delay c t (calls ++ [call]) =
      (call.sentBy? delay c t).or (latest? delay c t calls) := by
  unfold latest?
  rw [List.filterMap_append, List.getLast?_append]
  cases hsent : call.sentBy? delay c t <;> simp [hsent]

/-- Only the writes of the collection itself have a part in it. -/
theorem latest?_filter (calls : List TimedCall) :
    latest? delay c t (calls.filter fun call => call.Writes c) = latest? delay c t calls := by
  unfold latest?
  rw [List.filterMap_filter]
  congr 1
  apply List.filterMap_congr
  intro call _
  cases call with
  | get c' s => simp [TimedCall.Writes, TimedCall.sentBy?]
  | put c' data s => by_cases hc : c' = c <;> simp [TimedCall.Writes, TimedCall.sentBy?, hc]

theorem register_ofCollections (initial : List (String × Collection)) (c : String) :
    (ofCollections initial : Memory Rat).register c =
      ⟨(KeyMap.ofList initial).get? c, []⟩ := by
  have hentries : ∀ (entries : List (String × Collection)) (m : Memory Rat)
      (given : KeyMap Collection), m.register c = ⟨given.get? c, []⟩ →
        (entries.foldl (fun m e => m.insert e.1 ⟨some e.2, []⟩) m).register c =
          ⟨(entries.foldl (fun m e => m.insert e.1 e.2) given).get? c, []⟩ := by
    intro entries
    induction entries with
    | nil => exact fun m given h => h
    | cons e rest ih =>
        intro m given h
        apply ih
        rw [register_insert, KeyMap.get?_insert]
        by_cases hc : e.1 = c
        · simp [hc]
        · simp [hc, h]
  unfold ofCollections KeyMap.ofList
  rw [List.foldl_map]
  exact hentries initial KeyMap.empty KeyMap.empty rfl

/-- One call keeps a log of every collection. -/
theorem TimedCall.logs_run {m : Memory Rat} {call : TimedCall} {log : Rat → Option Collection}
    (h : (m.register c).Logs delay call.moment log) :
    ((call.run delay m).register c).Logs delay call.moment fun t =>
      (call.sentBy? delay c t).or (log t) := by
  cases call with
  | get c' s =>
      rw [run, backend, register_insert]
      by_cases hc : c' = c
      · subst hc
        rw [if_pos rfl]
        exact h.promote
      · rw [if_neg hc]
        exact h
  | put c' data s =>
      rw [run, backend, register_insert]
      by_cases hc : c' = c
      · subst hc
        rw [if_pos rfl]
        have hlog (t : Rat) : (sentBy? delay c' t (put c' data s)).or (log t) =
            if s + delay ≤ t then some data else log t := by
          by_cases hdue : s + delay ≤ t <;> simp [sentBy?, hdue]
        simp only [hlog]
        exact h.write data
      · rw [if_neg hc]
        simpa [sentBy?, hc] using h

theorem logs_runAll (delay : Rat) (initial : List (String × Collection)) (c : String)
    (hordered : InOrder calls) (hnow : ∀ call ∈ calls, call.moment ≤ now) :
    ((runAll delay calls (ofCollections initial)).register c).Logs delay now fun t =>
      (latest? delay c t calls).or ((KeyMap.ofList initial).get? c) := by
  -- The log grows at its end, so the induction is on the last call.
  induction calls using List.reverseRecOn generalizing now with
  | nil =>
      rw [runAll, List.foldl_nil, register_ofCollections]
      exact Register.logs_of_visible _
  | append_singleton calls call ih =>
      obtain ⟨hbefore, -, hlast⟩ := List.pairwise_append.mp hordered
      have hmoment : ∀ other ∈ calls, other.moment ≤ call.moment := fun other hother =>
        hlast other hother call List.mem_cons_self
      have hstep := TimedCall.logs_run (ih hbefore hmoment)
      have hrun : runAll delay (calls ++ [call]) (ofCollections initial) =
          call.run delay (runAll delay calls (ofCollections initial)) := by
        rw [runAll, List.foldl_append]
        rfl
      rw [hrun]
      simp only [latest?_append_singleton, Option.or_assoc]
      exact hstep.later (hnow call (by simp))

theorem get_eq_latest? (delay : Rat) (initial : List (String × Collection))
    (hordered : InOrder (calls ++ [.get c t])) :
    ((backend delay).get c t (runAll delay calls (ofCollections initial))).1 =
      .ok (((latest? delay c t calls).or ((KeyMap.ofList initial).get? c)).filter
        fun data => !data.isEmpty) := by
  obtain ⟨hcalls, -, hlast⟩ := List.pairwise_append.mp hordered
  have hmoment : ∀ call ∈ calls, call.moment ≤ t := fun call hcall =>
    hlast call hcall _ List.mem_cons_self
  have hlogs := logs_runAll delay initial c hcalls hmoment
  rw [backend, ← hlogs.visible t le_rfl]
  rfl

/-- A read after any calls in order answers with the latest write of its collection that
was made a delay or more ago, or else with what the collection held at first, and with
nothing where this is empty or absent.  Calls with the same writes of the collection lead
to the same answer. -/
theorem get_answers_latest (delay : Rat) (initial : List (String × Collection))
    (hordered : InOrder (calls ++ [.get c t])) :
    ((backend delay).get c t (runAll delay calls (ofCollections initial))).1 =
        .ok (((latest? delay c t calls).or ((KeyMap.ofList initial).get? c)).filter
          fun data => !data.isEmpty) ∧
      ∀ (initial' : List (String × Collection)) (calls' : List TimedCall),
        InOrder (calls' ++ [.get c t]) →
        (KeyMap.ofList initial').get? c = (KeyMap.ofList initial).get? c →
        (calls'.filter fun call => call.Writes c) = calls.filter (fun call => call.Writes c) →
          ((backend delay).get c t (runAll delay calls' (ofCollections initial'))).1 =
            ((backend delay).get c t (runAll delay calls (ofCollections initial))).1 := by
  have hanswer := get_eq_latest? delay initial hordered
  refine ⟨hanswer, ?_⟩
  intro initial' calls' hordered' hinitial hwrites
  have hlatest : latest? delay c t calls' = latest? delay c t calls := by
    rw [← latest?_filter calls', hwrites, latest?_filter]
  rw [hanswer, get_eq_latest? delay initial' hordered', hlatest, hinitial]

/-- Two writes of alerts, of which the second is not yet to be seen, with other calls in
between. -/
theorem get_answers_latest_two_writes :
    let initial := [("alertrules", alerts "one")]
    let writes : List TimedCall :=
      [.put "alertrules" (alerts "two") 0, .put "alertrules" (alerts "three") (1 / 4)]
    let calls : List TimedCall :=
      [.put "alertrules" (alerts "two") 0, .get "alertrules" (1 / 8),
        .put "recordingrules" (alerts "zero") (1 / 8), .put "alertrules" (alerts "three") (1 / 4),
        .get "recordingrules" (3 / 8)]
    let read (calls : List TimedCall) :=
      ((backend (1 / 2)).get "alertrules" (1 / 2)
        (runAll (1 / 2) calls (ofCollections initial))).1
    InOrder (calls ++ [.get "alertrules" (1 / 2)]) ∧
      InOrder (writes ++ [.get "alertrules" (1 / 2)]) ∧
      read calls = .ok (some (alerts "two")) ∧ read writes = read calls := by
  intro initial writes calls read
  have hcalls : InOrder (calls ++ [.get "alertrules" (1 / 2)]) := by
    unfold InOrder
    decide +kernel
  have hwrites : InOrder (writes ++ [.get "alertrules" (1 / 2)]) := by
    unfold InOrder
    decide +kernel
  obtain ⟨hanswer, hsame⟩ := get_answers_latest (1 / 2) initial hcalls
  refine ⟨hcalls, hwrites, ?_, hsame initial writes hwrites rfl rfl⟩
  exact hanswer.trans (congrArg Except.ok (by decide +kernel))

end Memory

end ConfigVault
