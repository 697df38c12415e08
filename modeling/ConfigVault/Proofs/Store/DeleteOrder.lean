import ConfigVault.Proofs.Store.Answers
import ConfigVault.Proofs.Store.DeleteCourse
import ConfigVault.Proofs.Store.PutOrder

/-!
# The order of the calls of a deletion

A deletion over a lossy backend reads both collections, takes the current value away,
and takes the versions away only when it has read that back.  Whatever fails on the way,
it stops there.  A deletion that succeeds leaves nothing of the artifact for any read,
and one that is refused the second write leaves the versions behind, where deleting
again finds nothing to do.
-/

namespace ConfigVault

open Version

variable {σ ν τ : Type}

namespace Store

variable (store : Store σ ν τ)

/-- How a deletion starts: it writes nothing unless both collections have been read and
hold a current value, and then it writes that collection first. -/
structure DeleteStarts (name : String) (es : List (Exchange σ))
    (r : Except (Failure τ) DeleteOutcome) : Prop where
  started : (∃ c fault s, .got c (.error fault) s ∈ es.take 2) ∨
    ∃ current history, store.ReadAs es current history
  unread : ∀ c fault s, .got c (.error fault) s ∈ es.take 2 →
    r = .error (.ofRead c fault) ∧ writesOf es = []
  notFound_iff : r = .ok .notFound ↔
    ∃ current history, store.ReadAs es current history ∧ (shown current).get? name = none
  notFound : r = .ok .notFound → writesOf es = []
  currentFirst : ∀ current history value, store.ReadAs es current history →
    (shown current).get? name = some value →
      ∃ answer s, es[2]? =
        some (.sent store.group.current ((shown current).erase name) answer s)
  writes : ∀ current history, store.ReadAs es current history →
    writesOf es <+: [(store.group.current, (shown current).erase name),
      (store.group.history, cleared name (shown history))]

/-- What comes of the writes of a deletion, from contents `v` to contents `v'`. -/
structure DeleteWrites (name : String) (v v' : String → Collection)
    (es : List (Exchange σ)) (r : Except (Failure τ) DeleteOutcome) : Prop where
  historyLast : ∀ pre m answer s post,
    es = pre ++ .sent store.group.history m answer s :: post →
      ∃ pre' erased observed s', writesOf pre' = [(store.group.current, erased)] ∧
        pre = pre' ++ [.got store.group.current (.ok observed) s'] ∧
        Shows observed erased
  historyFollows : ∀ pre m answer s post,
    es = pre ++ .sent store.group.current m answer s :: post →
      ((∃ e ∈ post, e.Confirms store.group.current m) ↔
        ∃ m', (store.group.history, m') ∈ writesOf es)
  currentFailed : ∀ pre m answer s post,
    es = pre ++ .sent store.group.current m answer s :: post →
    (∀ e ∈ post, ¬e.Confirms store.group.current m) → ∃ failure, r = .error failure
  historyRefused : ∀ pre m fault s post,
    es = pre ++ .sent store.group.history m (.error fault) s :: post →
      r = .error (.ofWrite store.group.history fault) ∧ post = [] ∧
      v' store.group.history = v store.group.history ∧
      v' store.group.current = (v store.group.current).erase name
  deleted_iff : r = .ok .deleted ↔
    ∃ pre m answer s post, es = pre ++ .sent store.group.history m answer s :: post ∧
      ∃ e ∈ post, e.Confirms store.group.history m
  deleted : r = .ok .deleted →
    v' = Function.update
      (Function.update v store.group.current ((v store.group.current).erase name))
      store.group.history (cleared name (v store.group.history))

variable {store} {name : String} {v v' : String → Collection} {s s' s₁ s₂ s₃ : σ}
  {es es' : List (Exchange σ)} {r : Except (Failure τ) DeleteOutcome}
  {current history : Option Collection} {value : String}

/-! ## How it starts -/

/-- A deletion that could not read writes nothing. -/
theorem DeleteStarts.of_unread {c : String} {fault : Fault}
    (hmem : .got c (.error fault) s ∈ es.take 2)
    (hunread : ∀ c' fault' s', .got c' (.error fault') s' ∈ es.take 2 →
      c' = c ∧ fault' = fault) (hwrites : writesOf es = []) :
    store.DeleteStarts name es (.error (.ofRead c fault)) := by
  have hread : ∀ {current history}, ¬store.ReadAs es current history :=
    not_readAs_of_unread hmem
  constructor
  · exact .inl ⟨c, fault, s, hmem⟩
  · intro c' fault' s' hmem'
    obtain ⟨rfl, rfl⟩ := hunread c' fault' s' hmem'
    exact ⟨rfl, hwrites⟩
  · refine iff_of_false nofun ?_
    rintro ⟨_, _, hboth, -⟩
    exact hread hboth
  · exact fun _ => hwrites
  · exact fun _ _ _ hboth => absurd hboth hread
  · exact fun _ _ hboth => absurd hboth hread

/-- Once both collections have been read, the current value decides. -/
theorem DeleteStarts.of_read
    (habsent : (shown current).get? name = none → r = .ok .notFound ∧ writesOf es = [])
    (hpresent : ∀ value, (shown current).get? name = some value → r ≠ .ok .notFound ∧
      ∃ answer s rest,
        es = .sent store.group.current ((shown current).erase name) answer s :: rest)
    (hwrites : writesOf es <+: [(store.group.current, (shown current).erase name),
      (store.group.history, cleared name (shown history))]) :
    store.DeleteStarts name (store.startCalls current history s₁ s₂ ++ es) r := by
  have hread : ∀ {current' history'},
      store.ReadAs (store.startCalls current history s₁ s₂ ++ es) current' history' ↔
        current' = current ∧ history' = history := readAs_iff
  have hnone : r = .ok .notFound → (shown current).get? name = none := by
    intro hr
    cases hvalue : (shown current).get? name with
    | none => rfl
    | some value => exact absurd hr (hpresent value hvalue).1
  constructor
  · exact .inr ⟨_, _, hread.mpr ⟨rfl, rfl⟩⟩
  · intro c fault s hmem
    simp [startCalls] at hmem
  · constructor
    · exact fun hr => ⟨_, _, hread.mpr ⟨rfl, rfl⟩, hnone hr⟩
    · rintro ⟨current', history', hboth, hvalue⟩
      obtain ⟨rfl, rfl⟩ := hread.mp hboth
      exact (habsent hvalue).1
  · intro hr
    rw [writesOf_append, (habsent (hnone hr)).2]
    rfl
  · intro current' history' value hboth hvalue
    obtain ⟨rfl, rfl⟩ := hread.mp hboth
    obtain ⟨-, answer, s, rest, rfl⟩ := hpresent value hvalue
    exact ⟨answer, s, rfl⟩
  · intro current' history' hboth
    obtain ⟨rfl, rfl⟩ := hread.mp hboth
    rw [writesOf_append]
    exact hwrites

theorem DeleteCourse.deleteStarts (hcourse : store.DeleteCourse name s es r s')
    (hname : Name.check store.group name = .ok ()) : store.DeleteStarts name es r := by
  cases hcourse with
  | nameRefused hrefused =>
      rw [hname] at hrefused
      cases hrefused
  | currentUnread _ hget =>
      refine .of_unread (s := s') List.mem_cons_self ?_ rfl
      intro c' fault' s₂ hmem
      simp only [List.take_succ_cons, List.take_nil, List.mem_singleton, Exchange.got.injEq,
        Except.error.injEq] at hmem
      exact ⟨hmem.1, hmem.2.1⟩
  | historyUnread _ hcurrent hget =>
      refine .of_unread (s := s') (List.mem_cons_of_mem _ List.mem_cons_self) ?_ rfl
      intro c' fault' s₃ hmem
      simp only [List.take_succ_cons, List.take_zero, List.mem_cons, Exchange.got.injEq,
        Except.error.injEq, reduceCtorEq, false_and, and_false, false_or, List.not_mem_nil,
        or_false] at hmem
      exact ⟨hmem.1, hmem.2.1⟩
  | absent _ hread hvalue =>
      rw [← List.append_nil (startCalls ..)]
      refine .of_read (fun _ => ⟨rfl, rfl⟩) ?_ List.nil_prefix
      intro value hsome
      rw [hvalue] at hsome
      cases hsome
  | currentUnwritten _ hread hvalue hcourse =>
      obtain ⟨answer, s₃, reads, rfl, hreads, -⟩ := hcourse.calls
      apply DeleteStarts.of_read
      · intro hnone
        rw [hvalue] at hnone
        cases hnone
      · exact fun _ _ => ⟨nofun, answer, s₃, reads, rfl⟩
      · rw [writesOf_sent, hreads]
        exact ⟨_, rfl⟩
  | @erased _ _ _ _ _ _ _ _ _ r _ hread hvalue hcourse hcourse' =>
      obtain ⟨answer, s₄, reads, rfl, hreads, -⟩ := hcourse.calls
      obtain ⟨answer', s₅, reads', rfl, hreads', -⟩ := hcourse'.calls
      apply DeleteStarts.of_read
      · intro hnone
        rw [hvalue] at hnone
        cases hnone
      · refine fun _ _ => ⟨?_, answer, s₄, _, rfl⟩
        cases r <;> simp [Except.map]
      · simp [hreads, hreads']

/-! ## What it writes -/

theorem DeleteWrites.of_writesOf_eq_nil (hwrites : writesOf es = [])
    (hr : r ≠ .ok .deleted) : store.DeleteWrites name v v' es r := by
  constructor
  · exact fun _ _ _ _ _ heq => absurd heq (not_eq_append_sent hwrites)
  · exact fun _ _ _ _ _ heq => absurd heq (not_eq_append_sent hwrites)
  · exact fun _ _ _ _ _ heq => absurd heq (not_eq_append_sent hwrites)
  · exact fun _ _ _ _ _ heq => absurd heq (not_eq_append_sent hwrites)
  · refine iff_of_false hr ?_
    rintro ⟨_, _, _, _, _, heq, -⟩
    exact not_eq_append_sent hwrites heq
  · exact fun h => absurd h hr

theorem DeleteWrites.of_currentUnwritten {failure : Failure τ} {erased : Collection}
    (hcourse : store.backend.CommitCourse store.group.current erased s₂ es
      (.error failure) s')
    (hdistinct : store.group.current ≠ store.group.history) :
    store.DeleteWrites name v v' (store.startCalls current history s₁ s₂ ++ es)
      (.error failure) := by
  obtain ⟨answer, s₃, reads, rfl, hreads, -, -, hunconfirmed⟩ := hcourse.calls
  have hstart : writesOf (store.startCalls current history s₁ s₂) = [] :=
    writesOf_startCalls ..
  have hhistory : ∀ {pre m answer' s₄ post},
      store.startCalls current history s₁ s₂ ++
          .sent store.group.current erased answer s₃ :: reads ≠
        pre ++ .sent store.group.history m answer' s₄ :: post := by
    intro pre m answer' s₄ post heq
    obtain ⟨-, hcurrent, -⟩ := append_sent_unique hstart hreads heq
    exact hdistinct hcurrent.symm
  constructor
  · exact fun _ _ _ _ _ heq => absurd heq hhistory
  · intro pre m answer' s₄ post heq
    obtain ⟨-, -, rfl, -, rfl⟩ := append_sent_unique hstart hreads heq
    refine iff_of_false ?_ ?_
    · rintro ⟨e, he, hconfirms⟩
      exact hunconfirmed failure rfl e he hconfirms
    · simp [hstart, hreads, hdistinct.symm]
  · exact fun _ _ _ _ _ _ _ => ⟨failure, rfl⟩
  · exact fun _ _ _ _ _ heq => absurd heq hhistory
  · refine iff_of_false nofun ?_
    rintro ⟨_, _, _, _, _, heq, -⟩
    exact hhistory heq
  · nofun

theorem DeleteWrites.of_erased {r : Except (Failure τ) Unit} {erased rest : Collection}
    (hcurrent : store.backend.CommitCourse store.group.current erased s₂ es (.ok ()) s₃)
    (hhistory : store.backend.CommitCourse store.group.history rest s₃ es' r s')
    (hdistinct : store.group.current ≠ store.group.history)
    (hkept : ∀ fault after, es' = [.sent store.group.history rest (.error fault) after] →
      v' = Function.update v store.group.current ((v store.group.current).erase name))
    (hcleared : r = .ok () → v' = Function.update
      (Function.update v store.group.current ((v store.group.current).erase name))
      store.group.history (cleared name (v store.group.history))) :
    store.DeleteWrites name v v' (store.startCalls current history s₁ s₂ ++ (es ++ es'))
      (r.map fun _ => .deleted) := by
  have hok : (r.map fun _ => DeleteOutcome.deleted) = .ok .deleted ↔ r = .ok () := by
    cases r <;> simp [Except.map]
  obtain ⟨answer, s₄, reads, rfl, hreads, -, hconfirmed, -⟩ := hcurrent.calls
  obtain ⟨answer', s₅, reads', rfl, hreads', hrefused', -⟩ := hhistory.calls
  obtain ⟨found, observed, rfl, hshows⟩ := hconfirmed rfl
  have hstart : writesOf (store.startCalls current history s₁ s₂) = [] :=
    writesOf_startCalls ..
  have hfound : writesOf found = [] := by
    rw [writesOf_append, List.append_eq_nil_iff] at hreads
    exact hreads.1
  have hfinds : (Exchange.got store.group.current (.ok observed) s₃).Confirms
      store.group.current erased :=
    ⟨observed, by simp [Exchange.answer?], hshows⟩
  constructor
  · intro pre m answer'' s₆ post heq
    obtain ⟨hc, -⟩ | ⟨-, rfl, -⟩ := append_sent_append_sent_cases hstart hreads hreads' heq
    · exact absurd hc.symm hdistinct
    refine ⟨store.startCalls current history s₁ s₂ ++
      .sent store.group.current erased answer s₄ :: found,
      erased, observed, s₃, ?_, by simp, hshows⟩
    simp [hstart, hfound]
  · intro pre m answer'' s₆ post heq
    obtain ⟨-, rfl, rfl⟩ | ⟨hc, -⟩ :=
      append_sent_append_sent_cases hstart hreads hreads' heq
    · exact iff_of_true ⟨_, by simp, hfinds⟩ ⟨rest, by simp⟩
    · exact absurd hc hdistinct
  · intro pre m answer'' s₆ post heq hunconfirmed
    exfalso
    obtain ⟨-, rfl, rfl⟩ | ⟨hc, -⟩ :=
      append_sent_append_sent_cases hstart hreads hreads' heq
    · exact hunconfirmed _ (by simp) hfinds
    · exact hdistinct hc
  · intro pre m fault s₆ post heq
    obtain ⟨hc, -⟩ | ⟨-, -, -, rfl, rfl⟩ :=
      append_sent_append_sent_cases hstart hreads hreads' heq
    · exact absurd hc.symm hdistinct
    obtain ⟨rfl, rfl⟩ := hrefused' fault rfl
    have hv := hkept _ _ rfl
    refine ⟨rfl, rfl, ?_, ?_⟩
    · rw [hv, Function.update_of_ne hdistinct.symm]
    · rw [hv, Function.update_self]
  · rw [hok]
    constructor
    · intro hr
      refine ⟨store.startCalls current history s₁ s₂ ++
        .sent store.group.current erased answer s₄ ::
          (found ++ [.got store.group.current (.ok observed) s₃]),
        rest, answer', s₅, reads', by simp, hhistory.ok_iff.mp hr⟩
    · rintro ⟨pre, m, answer'', s₆, post, heq, hconfirmed'⟩
      obtain ⟨hc, -⟩ | ⟨-, rfl, rfl, -, rfl⟩ :=
        append_sent_append_sent_cases hstart hreads hreads' heq
      · exact absurd hc.symm hdistinct
      · exact hhistory.ok_iff.mpr hconfirmed'
  · exact fun hr => hcleared (hok.mp hr)

theorem DeleteCourse.deleteWrites {contents : σ → String → Collection} {Settled : σ → Prop}
    (hlossy : store.backend.Lossy contents Settled)
    (hdistinct : store.group.current ≠ store.group.history)
    (hcourse : store.DeleteCourse name s es r s') (hsettled : Settled s) :
    store.DeleteWrites name (contents s) (contents s') es r := by
  cases hcourse with
  | nameRefused | currentUnread | historyUnread | absent =>
      exact .of_writesOf_eq_nil rfl nofun
  | currentUnwritten hname hread hvalue hcourse =>
      exact .of_currentUnwritten hcourse hdistinct
  | erased hname hread hvalue hcourse hcourse' =>
      have herratic := hlossy.toErratic
      obtain ⟨-, hsettled₂, hcontents₂, hcurrent, hhistory⟩ := hread.erratic herratic hsettled
      obtain ⟨-, hsettled₃, -, hcontents₃⟩ := hcourse.holding herratic hsettled₂
      obtain ⟨-, -, -, htaken⟩ := hcourse'.holding herratic hsettled₃
      rw [hcurrent] at hcontents₃
      rw [hcontents₃ rfl, hcontents₂, hhistory] at htaken
      refine .of_erased hcourse hcourse' hdistinct (fun fault after hes => ?_) htaken
      rw [hcourse'.refused_kept hlossy hsettled₃ hes, hcontents₃ rfl, hcontents₂]

end Store

end ConfigVault
