import ConfigVault.Proofs.Store.PutStage

/-!
# The order of the calls of an update

An update over a lossy backend reads both collections before it writes any,
writes each at most once, and writes the new value only when the archive of the
value before it has been read back.  Whatever fails on the way, it stops there,
and what it has written so far is known.
-/

namespace ConfigVault

open Calendar Version

variable {σ ν τ : Type}

namespace Store

variable (store : Store σ ν τ)

/-- How an update starts: nothing is called for a name or a content that is refused.
Otherwise both collections are read unless a read fails, and nothing is written unless
both have been read and the value is new. -/
structure PutStarts (name content : String) (v : String → Collection) (k : ν)
    (es : List (Exchange σ)) (r : Except (Failure τ) PutOutcome) (k' : ν) : Prop where
  nameRefused : ∀ refusal, Name.check store.group name = .error refusal →
    r = .error (.name name refusal) ∧ es = [] ∧ k' = k
  contentRefused : ∀ failure, Name.check store.group name = .ok () →
    (store.check content k).1 = .error failure → r = .error (.ofCheck failure) ∧ es = []
  started : store.Accepts name content k →
    (∃ c fault s, .got c (.error fault) s ∈ es.take 2) ∨
      ∃ current history, store.ReadAs es current history
  currentFirst : ∀ e, es[0]? = some e → ∃ answer s, e = .got store.group.current answer s
  historySecond : ∀ e, es[1]? = some e → ∃ answer s, e = .got store.group.history answer s
  unread : ∀ i c fault s, i < 2 → es[i]? = some (.got c (.error fault) s) →
    r = .error (.ofRead c fault) ∧ writesOf es = []
  unchanged_iff : r = .ok .unchanged ↔ ∃ current history,
    store.ReadAs es current history ∧ (shown current).get? name = some content
  unchanged : (v store.group.current).get? name = some content → writesOf es = []

/-- What an update writes, from contents `v` to contents `v'`. -/
structure PutWrites (name content : String) (clock : Moment)
    (v v' : String → Collection) (es : List (Exchange σ))
    (r : Except (Failure τ) PutOutcome) : Prop where
  once : ((writesOf es).map Prod.fst).Nodup
  sent : ∀ c m, (c, m) ∈ writesOf es →
    c = store.group.current ∧ m = (v store.group.current).insert name content ∨
      c = store.group.history ∧ ∃ previous,
        (v store.group.current).get? name = some previous ∧ previous ≠ content ∧
        archive store.retention name previous clock (v store.group.history) = .ok m
  archivedFirst : ∀ previous pre m answer s post,
    (v store.group.current).get? name = some previous →
    es = pre ++ .sent store.group.current m answer s :: post →
      ∃ pre' archived observed s', writesOf pre' = [(store.group.history, archived)] ∧
        pre = pre' ++ [.got store.group.history (.ok observed) s'] ∧
        Shows observed archived
  historyFailed : ∀ pre archived answer s post,
    es = pre ++ .sent store.group.history archived answer s :: post →
    (∀ e ∈ post, ¬e.Confirms store.group.history archived) →
      (∃ failure, r = .error failure) ∧ ∀ m, (store.group.current, m) ∉ writesOf es
  currentRefused : ∀ pre m fault s post,
    es = pre ++ .sent store.group.current m (.error fault) s :: post →
      r = .error (.ofWrite store.group.current fault) ∧ post = [] ∧
      v' store.group.current = v store.group.current ∧
      ∀ previous, (v store.group.current).get? name = some previous →
        ∃ archived, writesOf pre = [(store.group.history, archived)] ∧
          v' store.group.history = archived
  confirmed : (r = .ok .created ∨ r = .ok .updated) → ∀ c m, (c, m) ∈ writesOf es →
    ∃ observed, (readsOf c es).getLast? = some (.ok observed) ∧ Shows observed m
  created : r = .ok .created → (v store.group.current).get? name = none ∧
    writesOf es = [(store.group.current, (v store.group.current).insert name content)]
  updated : r = .ok .updated → ∃ previous archived,
    (v store.group.current).get? name = some previous ∧
    writesOf es = [(store.group.history, archived),
      (store.group.current, (v store.group.current).insert name content)]

variable {store} {name content : String} {clock : Moment} {v v' : String → Collection}
  {s s' : σ} {k k' : ν} {es : List (Exchange σ)} {r : Except (Failure τ) PutOutcome}

theorem PutWrites.of_writesOf_eq_nil (hwrites : writesOf es = [])
    (hcreated : r ≠ .ok .created) (hupdated : r ≠ .ok .updated) :
    store.PutWrites name content clock v v' es r := by
  constructor
  · rw [hwrites]
    exact List.nodup_nil
  · simp [hwrites]
  · exact fun _ _ _ _ _ _ _ heq => absurd heq (not_eq_append_sent hwrites)
  · exact fun _ _ _ _ _ heq => absurd heq (not_eq_append_sent hwrites)
  · exact fun _ _ _ _ _ heq => absurd heq (not_eq_append_sent hwrites)
  · simp [hwrites]
  · exact fun hr => absurd hr hcreated
  · exact fun hr => absurd hr hupdated

section

variable {current history : Option Collection} {s₁ s₂ s₃ : σ} {es' : List (Exchange σ)}
  {previous : String} {archived : Collection}

theorem PutWrites.of_created {r : Except (Failure τ) Unit}
    (hvalue : (v store.group.current).get? name = none)
    (hcourse : store.backend.CommitCourse store.group.current
      ((v store.group.current).insert name content) s₂ es r s')
    (hdistinct : store.group.current ≠ store.group.history)
    (hkept : ∀ fault after,
      es = [.sent store.group.current ((v store.group.current).insert name content)
        (.error fault) after] → v' = v) :
    store.PutWrites name content clock v v' (store.startCalls current history s₁ s₂ ++ es)
      (r.map fun _ => .created) := by
  obtain ⟨answer, s₃, reads, rfl, hreads, hrefused, hconfirmed, -⟩ := hcourse.calls
  have hwrites : writesOf (store.startCalls current history s₁ s₂ ++
      .sent store.group.current ((v store.group.current).insert name content) answer s₃ ::
        reads) =
      [(store.group.current, (v store.group.current).insert name content)] := by
    simp [writesOf_startCalls, hreads]
  constructor
  · simp [hwrites]
  · intro c m hmem
    rw [hwrites, List.mem_singleton, Prod.mk.injEq] at hmem
    exact .inl hmem
  · intro previous pre m answer s post hprevious
    rw [hvalue] at hprevious
    cases hprevious
  · intro pre archived answer s post heq
    obtain ⟨-, hhistory, -⟩ := append_sent_unique (writesOf_startCalls ..) hreads heq
    exact absurd hhistory.symm hdistinct
  · intro pre m fault s post heq
    obtain ⟨rfl, -, rfl, hanswer, rfl⟩ :=
      append_sent_unique (writesOf_startCalls ..) hreads heq
    obtain ⟨rfl, rfl⟩ := hrefused fault hanswer.symm
    subst hanswer
    have hv := hkept _ _ rfl
    refine ⟨rfl, rfl, congrFun hv _, ?_⟩
    intro previous hprevious
    rw [hvalue] at hprevious
    cases hprevious
  · intro hr c m hmem
    rw [hwrites, List.mem_singleton, Prod.mk.injEq] at hmem
    obtain ⟨rfl, rfl⟩ := hmem
    obtain _ | _ := r
    · simp [Except.map] at hr
    obtain ⟨reads', observed, rfl, hshows⟩ := hconfirmed rfl
    refine ⟨observed, ?_, hshows⟩
    simp [readsOf, Exchange.answer?]
  · exact fun _ => ⟨hvalue, hwrites⟩
  · intro hr
    obtain _ | _ := r <;> simp [Except.map] at hr

theorem PutWrites.of_historyUnwritten {failure : Failure τ}
    (hvalue : (v store.group.current).get? name = some previous)
    (hnew : previous ≠ content)
    (harchive : archive store.retention name previous clock (v store.group.history) =
      .ok archived)
    (hcourse : store.backend.CommitCourse store.group.history archived s₂ es
      (.error failure) s')
    (hdistinct : store.group.current ≠ store.group.history) :
    store.PutWrites name content clock v v' (store.startCalls current history s₁ s₂ ++ es)
      (.error failure) := by
  obtain ⟨answer, s₃, reads, rfl, hreads, -⟩ := hcourse.calls
  have hwrites : writesOf (store.startCalls current history s₁ s₂ ++
      .sent store.group.history archived answer s₃ :: reads) =
      [(store.group.history, archived)] := by
    simp [writesOf_startCalls, hreads]
  have hcurrent : ∀ {pre m answer' s₄ post},
      store.startCalls current history s₁ s₂ ++
          .sent store.group.history archived answer s₃ :: reads ≠
        pre ++ .sent store.group.current m answer' s₄ :: post := by
    intro pre m answer' s₄ post heq
    obtain ⟨-, hcurrent, -⟩ := append_sent_unique (writesOf_startCalls ..) hreads heq
    exact hdistinct hcurrent
  constructor
  · simp [hwrites]
  · intro c m hmem
    rw [hwrites, List.mem_singleton, Prod.mk.injEq] at hmem
    obtain ⟨rfl, rfl⟩ := hmem
    exact .inr ⟨rfl, previous, hvalue, hnew, harchive⟩
  · exact fun _ _ _ _ _ _ _ heq => absurd heq hcurrent
  · intro pre archived' answer' s₄ post heq hunconfirmed
    refine ⟨⟨failure, rfl⟩, ?_⟩
    simp [hwrites, hdistinct]
  · exact fun _ _ _ _ _ heq => absurd heq hcurrent
  · rintro (hr | hr) <;> simp at hr
  · intro hr
    simp at hr
  · intro hr
    simp at hr

theorem PutWrites.of_updated {r : Except (Failure τ) Unit}
    (hvalue : (v store.group.current).get? name = some previous)
    (hnew : previous ≠ content)
    (harchive : archive store.retention name previous clock (v store.group.history) =
      .ok archived)
    (hhistory : store.backend.CommitCourse store.group.history archived s₂ es (.ok ()) s₃)
    (hcurrent : store.backend.CommitCourse store.group.current
      ((v store.group.current).insert name content) s₃ es' r s')
    (hdistinct : store.group.current ≠ store.group.history)
    (hkept : ∀ fault after,
      es' = [.sent store.group.current ((v store.group.current).insert name content)
        (.error fault) after] → v' = Function.update v store.group.history archived) :
    store.PutWrites name content clock v v'
      (store.startCalls current history s₁ s₂ ++ (es ++ es'))
      (r.map fun _ => .updated) := by
  have hother := hcurrent.readsOf_eq hdistinct
  obtain ⟨answer, s₄, reads, rfl, hreads, -, hconfirmed, -⟩ := hhistory.calls
  obtain ⟨answer', s₅, reads', rfl, hreads', hrefused', hconfirmed', -⟩ := hcurrent.calls
  obtain ⟨found, observed, rfl, hshows⟩ := hconfirmed rfl
  have hfound : writesOf found = [] := by
    rw [writesOf_append, List.append_eq_nil_iff] at hreads
    exact hreads.1
  have hwrites : writesOf (store.startCalls current history s₁ s₂ ++
      (.sent store.group.history archived answer s₄ ::
          (found ++ [.got store.group.history (.ok observed) s₃]) ++
        .sent store.group.current ((v store.group.current).insert name content) answer' s₅
          :: reads')) =
      [(store.group.history, archived),
        (store.group.current, (v store.group.current).insert name content)] := by
    simp [writesOf_startCalls, hfound, hreads']
  constructor
  · rw [hwrites]
    simp [hdistinct.symm]
  · intro c m hmem
    simp only [hwrites, List.mem_cons, List.not_mem_nil, or_false, Prod.mk.injEq] at hmem
    rcases hmem with ⟨rfl, rfl⟩ | hmem
    · exact .inr ⟨rfl, previous, hvalue, hnew, harchive⟩
    · exact .inl hmem
  · intro previous' pre m answer'' s₆ post hprevious heq
    obtain ⟨hc, -⟩ | ⟨-, rfl, -⟩ :=
      append_sent_append_sent_cases (writesOf_startCalls ..) hreads hreads' heq
    · exact absurd hc hdistinct
    refine ⟨store.startCalls current history s₁ s₂ ++
      .sent store.group.history archived answer s₄ :: found, archived, observed, s₃, ?_,
      by simp, hshows⟩
    simp [writesOf_startCalls, hfound]
  · intro pre archived' answer'' s₆ post heq hunconfirmed
    exfalso
    obtain ⟨-, rfl, rfl⟩ | ⟨hc, -⟩ :=
      append_sent_append_sent_cases (writesOf_startCalls ..) hreads hreads' heq
    · refine hunconfirmed (.got store.group.history (.ok observed) s₃) (by simp) ?_
      exact ⟨observed, by simp [Exchange.answer?], hshows⟩
    · exact hdistinct hc.symm
  · intro pre m fault s₆ post heq
    obtain ⟨hc, -⟩ | ⟨-, rfl, -, rfl, rfl⟩ :=
      append_sent_append_sent_cases (writesOf_startCalls ..) hreads hreads' heq
    · exact absurd hc hdistinct
    obtain ⟨rfl, rfl⟩ := hrefused' fault rfl
    have hv := hkept _ _ rfl
    refine ⟨rfl, rfl, ?_, ?_⟩
    · rw [hv, Function.update_of_ne hdistinct]
    · intro previous' hprevious
      refine ⟨archived, ?_, ?_⟩
      · simp [writesOf_startCalls, hfound]
      · rw [hv, Function.update_self]
  · intro hr c m hmem
    obtain _ | _ := r
    · simp [Except.map] at hr
    obtain ⟨found', observed', rfl, hshows'⟩ := hconfirmed' rfl
    simp only [hwrites, List.mem_cons, List.not_mem_nil, or_false, Prod.mk.injEq] at hmem
    rcases hmem with ⟨rfl, rfl⟩ | ⟨rfl, rfl⟩
    · refine ⟨observed, ?_, hshows⟩
      rw [readsOf_append, readsOf_append, hother, List.append_nil]
      simp [readsOf, Exchange.answer?]
    · refine ⟨observed', ?_, hshows'⟩
      simp [readsOf, Exchange.answer?]
  · intro hr
    obtain _ | _ := r <;> simp [Except.map] at hr
  · exact fun _ => ⟨previous, archived, hvalue, hwrites⟩

end

theorem PutCourse.putWrites {contents : σ → String → Collection} {Settled : σ → Prop}
    (hlossy : store.backend.Lossy contents Settled)
    (hdistinct : store.group.current ≠ store.group.history)
    (hcourse : store.PutCourse name content clock s k es r s' k') (hsettled : Settled s) :
    store.PutWrites name content clock (contents s) (contents s') es r := by
  have herratic := hlossy.toErratic
  cases hcourse with
  | nameRefused | contentRefused | currentUnread | historyUnread | unchanged
  | unarchived => exact .of_writesOf_eq_nil rfl nofun nofun
  | created hstart hvalue hcourse =>
      obtain ⟨-, hsettled₂, hcontents₂, hcurrent, -⟩ :=
        hstart.bothRead.erratic herratic hsettled
      rw [hcurrent] at hvalue hcourse
      refine .of_created hvalue hcourse hdistinct fun fault after hes => ?_
      rw [hcourse.refused_kept hlossy hsettled₂ hes, hcontents₂]
  | historyUnwritten hstart hvalue hnew harchive hcourse =>
      obtain ⟨-, -, -, hcurrent, hhistory⟩ := hstart.bothRead.erratic herratic hsettled
      rw [hcurrent] at hvalue
      rw [hhistory] at harchive
      exact .of_historyUnwritten hvalue hnew harchive hcourse hdistinct
  | updated hstart hvalue hnew harchive hcourse hcourse' =>
      obtain ⟨-, hsettled₂, hcontents₂, hcurrent, hhistory⟩ :=
        hstart.bothRead.erratic herratic hsettled
      obtain ⟨-, hsettled₃, -, hcontents₃⟩ := hcourse.holding herratic hsettled₂
      rw [hcurrent] at hvalue hcourse'
      rw [hhistory] at harchive
      refine .of_updated hvalue hnew harchive hcourse hcourse' hdistinct fun fault after hes => ?_
      rw [hcourse'.refused_kept hlossy hsettled₃ hes, hcontents₃ rfl, hcontents₂]

/-- Once the name and the content have passed, only the calls matter. -/
theorem PutStarts.of_accepts (haccepts : store.Accepts name content k)
    (hstarted : (∃ c fault s, .got c (.error fault) s ∈ es.take 2) ∨
      ∃ current history, store.ReadAs es current history)
    (hcurrent : ∀ e, es[0]? = some e → ∃ answer s, e = .got store.group.current answer s)
    (hhistory : ∀ e, es[1]? = some e → ∃ answer s, e = .got store.group.history answer s)
    (hunread : ∀ i c fault s, i < 2 → es[i]? = some (.got c (.error fault) s) →
      r = .error (.ofRead c fault) ∧ writesOf es = [])
    (hunchanged_iff : r = .ok .unchanged ↔ ∃ current history,
      store.ReadAs es current history ∧ (shown current).get? name = some content)
    (hunchanged : (v store.group.current).get? name = some content → writesOf es = []) :
    store.PutStarts name content v k es r k' := by
  obtain ⟨hname, diagnostics, hcontent⟩ := haccepts
  refine ⟨?_, ?_, fun _ => hstarted, hcurrent, hhistory, hunread, hunchanged_iff, hunchanged⟩
  · intro refusal hrefused
    rw [hname] at hrefused
    cases hrefused
  · intro failure _ hfailed
    rw [hcontent] at hfailed
    cases hfailed

/-- An update that calls nothing was refused. -/
theorem PutStarts.of_refused {failure : Failure τ}
    (hname : ∀ refusal, Name.check store.group name = .error refusal →
      failure = .name name refusal ∧ k' = k)
    (hcontent : ∀ refusal, Name.check store.group name = .ok () →
      (store.check content k).1 = .error refusal → failure = .ofCheck refusal)
    (hrefused : ¬store.Accepts name content k) :
    store.PutStarts name content v k [] (.error failure) k' := by
  refine ⟨?_, ?_, fun haccepts => absurd haccepts hrefused, by simp, by simp, by simp, ?_,
    fun _ => rfl⟩
  · intro refusal hrefusal
    obtain ⟨rfl, rfl⟩ := hname refusal hrefusal
    exact ⟨rfl, rfl, rfl⟩
  · intro refusal hok hrefusal
    exact ⟨congrArg _ (hcontent refusal hok hrefusal), rfl⟩
  · refine iff_of_false nofun ?_
    rintro ⟨_, _, hread, -⟩
    exact not_readAs_of_nil hread

theorem PutStarts.of_nameRefused {refusal : NameRefusal}
    (hname : Name.check store.group name = .error refusal) :
    store.PutStarts name content v k [] (.error (.name name refusal)) k := by
  apply PutStarts.of_refused
  · intro other hrefused
    rw [hname] at hrefused
    cases hrefused
    exact ⟨rfl, rfl⟩
  · intro other hpassed
    rw [hname] at hpassed
    cases hpassed
  · rintro ⟨hpassed, -⟩
    rw [hname] at hpassed
    cases hpassed

theorem PutStarts.of_contentRefused {failure : CheckFailure}
    (hname : Name.check store.group name = .ok ())
    (hcontent : store.check content k = (.error failure, k')) :
    store.PutStarts name content v k [] (.error (.ofCheck failure)) k' := by
  apply PutStarts.of_refused
  · intro refusal hrefused
    rw [hname] at hrefused
    cases hrefused
  · intro refusal _ hfailed
    rw [hcontent] at hfailed
    cases hfailed
    rfl
  · rintro ⟨-, diagnostics, hpassed⟩
    rw [hcontent] at hpassed
    cases hpassed

/-- An update that could not read writes nothing. -/
theorem PutStarts.of_unread {c : String} {fault : Fault} {after : σ}
    (haccepts : store.Accepts name content k)
    (hmem : .got c (.error fault) after ∈ es.take 2)
    (hcurrent : ∀ e, es[0]? = some e → ∃ answer s, e = .got store.group.current answer s)
    (hhistory : ∀ e, es[1]? = some e → ∃ answer s, e = .got store.group.history answer s)
    (hunread : ∀ i c' fault' s, i < 2 → es[i]? = some (.got c' (.error fault') s) →
      c' = c ∧ fault' = fault) (hwrites : writesOf es = []) :
    store.PutStarts name content v k es (.error (.ofRead c fault)) k' := by
  refine .of_accepts haccepts (.inl ⟨c, fault, after, hmem⟩) hcurrent hhistory ?_ ?_
    fun _ => hwrites
  · intro i c' fault' s hi hread
    obtain ⟨rfl, rfl⟩ := hunread i c' fault' s hi hread
    exact ⟨rfl, hwrites⟩
  · refine iff_of_false nofun ?_
    rintro ⟨_, _, hread, -⟩
    exact not_readAs_of_unread hmem hread

theorem PutStarts.of_start {current history : Option Collection} {s₁ s₂ : σ}
    (hstart : store.PutStart name content s k current history s₁ s₂ k')
    (hunchanged_iff : r = .ok .unchanged ↔ (shown current).get? name = some content)
    (hunchanged : (v store.group.current).get? name = some content → writesOf es = []) :
    store.PutStarts name content v k (store.startCalls current history s₁ s₂ ++ es) r k' := by
  apply PutStarts.of_accepts hstart.accepts
  · exact .inr ⟨current, history, readAs_iff.mpr ⟨rfl, rfl⟩⟩
  · simp [startCalls]
  · simp [startCalls]
  · intro i c fault after hi hread
    have hi : i = 0 ∨ i = 1 := by omega
    rcases hi with rfl | rfl <;> simp [startCalls] at hread
  · rw [hunchanged_iff]
    constructor
    · exact fun hvalue => ⟨_, _, readAs_iff.mpr ⟨rfl, rfl⟩, hvalue⟩
    · rintro ⟨current', history', hread, hvalue⟩
      obtain ⟨rfl, rfl⟩ := readAs_iff.mp hread
      exact hvalue
  · intro hvalue
    rw [writesOf_append, hunchanged hvalue]
    rfl

/-- Once both collections have been read, a content that is not the value read is new. -/
theorem PutStarts.of_new {contents : σ → String → Collection} {Settled : σ → Prop}
    (herratic : store.backend.Erratic contents Settled) {current history : Option Collection}
    {s₁ s₂ : σ} (hstart : store.PutStart name content s k current history s₁ s₂ k')
    (hsettled : Settled s) (hnew : (shown current).get? name ≠ some content)
    (hr : r ≠ .ok .unchanged) :
    store.PutStarts name content (contents s) k
      (store.startCalls current history s₁ s₂ ++ es) r k' := by
  refine .of_start hstart (iff_of_false hr hnew) fun hsame => ?_
  obtain ⟨-, -, -, hcurrent, -⟩ := hstart.bothRead.erratic herratic hsettled
  rw [hcurrent] at hnew
  exact absurd hsame hnew

theorem PutCourse.putStarts {contents : σ → String → Collection} {Settled : σ → Prop}
    (herratic : store.backend.Erratic contents Settled)
    (hcourse : store.PutCourse name content clock s k es r s' k') (hsettled : Settled s) :
    store.PutStarts name content (contents s) k es r k' := by
  cases hcourse with
  | nameRefused hname => exact .of_nameRefused hname
  | contentRefused hname hcontent => exact .of_contentRefused hname hcontent
  | @currentUnread diagnostics _ _ _ _ hname hcontent hget =>
      have haccepts : store.Accepts name content k := ⟨hname, diagnostics, by rw [hcontent]⟩
      refine .of_unread haccepts List.mem_cons_self (by simp) (by simp) ?_ rfl
      intro i c' fault' s hi hread
      have hi : i = 0 ∨ i = 1 := by omega
      rcases hi with rfl | rfl <;> simp at hread
      exact ⟨hread.1.symm, hread.2.1.symm⟩
  | @historyUnread diagnostics _ _ _ _ _ _ _ hname hcontent hcurrent hget =>
      have haccepts : store.Accepts name content k := ⟨hname, diagnostics, by rw [hcontent]⟩
      refine .of_unread haccepts (List.mem_cons_of_mem _ List.mem_cons_self) (by simp)
        (by simp) ?_ rfl
      intro i c' fault' s hi hread
      have hi : i = 0 ∨ i = 1 := by omega
      rcases hi with rfl | rfl <;> simp at hread
      exact ⟨hread.1.symm, hread.2.1.symm⟩
  | unchanged hstart hvalue =>
      rw [← List.append_nil (startCalls ..)]
      exact .of_start hstart (iff_of_true rfl hvalue) fun _ => rfl
  | unarchived hstart hvalue hnew =>
      rw [← List.append_nil (startCalls ..)]
      refine .of_new herratic hstart hsettled ?_ nofun
      rw [hvalue]
      exact fun hsame => hnew (Option.some.inj hsame)
  | @created _ _ _ _ _ _ _ r hstart hvalue =>
      refine .of_new herratic hstart hsettled ?_ (by cases r <;> simp [Except.map])
      rw [hvalue]
      nofun
  | historyUnwritten hstart hvalue hnew =>
      refine .of_new herratic hstart hsettled ?_ nofun
      rw [hvalue]
      exact fun hsame => hnew (Option.some.inj hsame)
  | @updated _ _ _ _ _ _ _ _ _ _ _ r hstart hvalue hnew =>
      refine .of_new herratic hstart hsettled ?_ (by cases r <;> simp [Except.map])
      rw [hvalue]
      exact fun hsame => hnew (Option.some.inj hsame)

variable [TimeScale τ]

/-- An update over a lossy backend calls it in order and stops at what fails.  A
refused name is refused with any check, and the calls of the watched update are those
of the update itself. -/
theorem put_ordered {contents : σ → String → Collection} {Settled : σ → Prop}
    (hlossy : store.backend.Lossy contents Settled)
    (hdistinct : store.group.current ≠ store.group.history)
    (name content : String) (clock : Moment) (w : World σ ν τ)
    (hsettled : Settled w.backend) :
    (∀ refusal, Name.check store.group name = .error refusal → ∀ check' : Check ν,
      ({ store with check := check' }.put name content clock).run w =
        (.error (.name name refusal), w)) ∧
    ∃ r w', (store.journaled.put name content clock).run w.journaled = (r, w') ∧
      (store.put name content clock).run w = (r, w'.unwatched) ∧
      store.PutStarts name content (contents w.backend) w.checks w'.backend.exchanges r
        w'.checks ∧
      store.PutWrites name content clock (contents w.backend) (contents w'.backend.state)
        w'.backend.exchanges r := by
  constructor
  · intro refusal hrefused check'
    exact Action.run_bind_of_error (checkName_run_error hrefused w) _
  · obtain ⟨r, w', hrun, hplain, hcourse⟩ := store.put_watched name content clock w
    exact ⟨r, w', hrun, hplain, hcourse.putStarts hlossy.toErratic hsettled,
      hcourse.putWrites hlossy hdistinct hsettled⟩

/-! ## A store whose archives are lost -/

def losing (collection : String) : OutagePlan Unit := fun kind c p =>
  (if kind = .put ∧ c = collection then some .lost else none, p)

/-- Rules of alerts in memory under a plan, with every content accepted. -/
def rulesUnder (next : OutagePlan Unit) (limits : Retention) :
    Store (Disturbed (Memory Rat) Unit) Unit Rat where
  backend := (Memory.backend 0).disturbed next
  confirmation := ⟨1, 3⟩
  group := ⟨"alertrules", "alertrules", "alertrules-versions", some ".rules", none, .none⟩
  check := fun _ k => (.ok "", k)
  retention := limits

def oneRule : World (Disturbed (Memory Rat) Unit) Unit Rat :=
  ⟨⟨Memory.ofCollections [("alertrules", .ofList [("a.rules", "one")])], (), []⟩, (), 0⟩

def noon : Reading := ⟨⟨2024, 3, 1, by decide⟩, ⟨12, 0, 0, 0, by decide⟩⟩

theorem rulesUnder_erratic {next : OutagePlan Unit} (limits : Retention)
    (hplan : next.AnswersNoRead) :
    (rulesUnder next limits).backend.Erratic (fun s => s.inner.snapshot)
      (fun s => s.inner.Settled) :=
  Memory.disturbed_erratic (le_refl (0 : Rat)) hplan

theorem rulesUnder_lossy {next : OutagePlan Unit} (limits : Retention)
    (hplan : next.AnswersNoRead)
    (hwhole : ∀ c p fault, (next .put c p).1 ≠ some (.breaksOff fault)) :
    (rulesUnder next limits).backend.Lossy (fun s => s.inner.snapshot)
      (fun s => s.inner.Settled) :=
  Memory.disturbed_lossy (le_refl (0 : Rat)) hplan hwhole

theorem losing_answersNoRead (collection : String) : (losing collection).AnswersNoRead := by
  simp [OutagePlan.AnswersNoRead, losing]

theorem losing_whole (collection c : String) (p : Unit) (fault : Fault) :
    (losing collection .put c p).1 ≠ some (.breaksOff fault) := by
  unfold losing
  split <;> simp

theorem oneRule_settled : oneRule.backend.inner.Settled :=
  Memory.ofCollections_settled _

/-- When archives are lost, an update sends the archive alone and fails unconfirmed. -/
theorem put_ordered_losing_archives :
    let store := rulesUnder (losing "alertrules-versions") .standard
    let run := (store.journaled.put "a.rules" "two" (.utc noon)).run oneRule.journaled
    store.group.current ≠ store.group.history ∧ oneRule.backend.inner.Settled ∧
      store.PutStarts "a.rules" "two" oneRule.backend.inner.snapshot ()
        run.2.backend.exchanges run.1 () ∧
      store.PutWrites "a.rules" "two" (.utc noon) oneRule.backend.inner.snapshot
        run.2.backend.state.inner.snapshot run.2.backend.exchanges run.1 ∧
      writesOf run.2.backend.exchanges =
        [("alertrules-versions", .ofList [(versionKey "a.rules" noon, "one")])] ∧
      run.1.mapError Failure.message? =
        .error (some "verification of the updated configuration timed out after 3s") := by
  intro store run
  have hdistinct : store.group.current ≠ store.group.history := by decide
  obtain ⟨-, r, w', hrun, -, hstarts, hwrites⟩ :=
    put_ordered (rulesUnder_lossy _ (losing_answersNoRead _) (losing_whole _)) hdistinct
      "a.rules" "two" (.utc noon) oneRule oneRule_settled
  have hrun : run = (r, w') := hrun
  have hsent : writesOf run.2.backend.exchanges =
      [("alertrules-versions", .ofList [(versionKey "a.rules" noon, "one")])] := by
    decide +kernel
  have hfailed : run.1.mapError Failure.message? =
      .error (some "verification of the updated configuration timed out after 3s") := by
    decide +kernel
  rw [hrun] at hsent hfailed ⊢
  exact ⟨hdistinct, oneRule_settled, hstarts, hwrites, hsent, hfailed⟩

end Store

end ConfigVault
