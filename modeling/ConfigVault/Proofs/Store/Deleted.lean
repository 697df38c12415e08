import ConfigVault.Proofs.Store.DeleteOrder
import ConfigVault.Proofs.Store.VersionsKept

/-!
# What a deletion leaves

A history without the versions of a name has nothing of the name for any read, whether
the read goes by the start of the key, by the decoded second or by the exact key.  A
deletion that was refused its second write leaves all versions behind, and deleting
again does not take them away, since the current value is what it looks for.
-/

namespace ConfigVault

open Version

variable {σ ν τ : Type}

namespace Store

theorem order_cleared (name : String) (history : Collection) :
    Retention.order name (cleared name history).keys = [] := by
  apply List.eq_nil_iff_forall_not_mem.mpr
  intro key hkey
  obtain ⟨hmem, hbelongs⟩ := Retention.mem_order.mp hkey
  obtain ⟨value, hvalue⟩ := (KeyMap.mem_keys_iff _ _).mp hmem
  rw [get?_cleared, if_pos hbelongs] at hvalue
  cases hvalue

theorem labelsIn_cleared (name : String) (history : Collection) :
    labelsIn name (cleared name history) = [] := by
  rw [labelsIn, order_cleared, List.map_nil]

theorem versionsIn_cleared (name : String) (history : Collection) :
    versionsIn name (cleared name history) = [] := by
  rw [versionsIn, order_cleared, List.filterMap_nil]

theorem get?_cleared_versionKey (name : String) (moment : Calendar.Reading)
    (history : Collection) : (cleared name history).get? (versionKey name moment) = none := by
  rw [get?_cleared, if_pos (belongsTo_versionKey name moment)]

variable (store : Store σ ν τ)

/-- No read finds anything of an artifact. -/
structure Forgets (name : String) (w : World σ ν τ) : Prop where
  getCurrent : ((store.getCurrent name).run w).1 = .ok none
  listVersions : ((store.listVersions name).run w).1 = .ok []
  listHistory : ((store.listHistory name).run w).1 = .ok []
  getVersion : ∀ timestamp moment, parseTimestamp timestamp = .ok moment →
    ((store.getVersion name timestamp).run w).1 = .ok none

variable {store} {contents : σ → String → Collection} {Settled : σ → Prop} {name : String}

theorem forgets_of_cleared (hprompt : store.backend.Prompt contents Settled)
    (w : World σ ν τ) (hsettled : Settled w.backend)
    (hname : Name.check store.group name = .ok ())
    (hcurrent : (contents w.backend store.group.current).get? name = none)
    (history : Collection)
    (hhistory : contents w.backend store.group.history = cleared name history) :
    store.Forgets name w := by
  constructor
  · obtain ⟨s, hrun, -⟩ := getCurrent_answer hprompt w hsettled hname
    rw [hrun, hcurrent]
  · obtain ⟨s, hrun, -⟩ := listVersions_answer hprompt w hsettled hname
    rw [hrun, hhistory, labelsIn_cleared]
  · obtain ⟨s, hrun, -⟩ := listHistory_answer hprompt w hsettled hname
    rw [hrun, hhistory, versionsIn_cleared]
  · intro timestamp moment hparse
    obtain ⟨s, hrun, -⟩ := getVersion_answer hprompt w hsettled hname hparse
    rw [hrun, hhistory, get?_cleared_versionKey]

variable [TimeScale τ]

/-- Deleting what is not there changes nothing. -/
theorem delete_absent (hprompt : store.backend.Prompt contents Settled)
    (w : World σ ν τ) (hsettled : Settled w.backend)
    (hname : Name.check store.group name = .ok ())
    (hcurrent : (contents w.backend store.group.current).get? name = none) :
    ∃ s, (store.delete name).run w = (.ok .notFound, { w with backend := s }) ∧
      contents s = contents w.backend := by
  obtain ⟨s, hreadCurrent, hs, hcontents⟩ := store.readCurrent_answer hprompt w hsettled
  obtain ⟨s', hreadHistory, -, hcontents'⟩ :=
    store.readHistory_answer hprompt { w with backend := s } hs
  refine ⟨s', ?_, hcontents'.trans hcontents⟩
  have habsent : (contents w.backend store.group.current).contains name = false := by
    rw [KeyMap.contains, hcurrent, Option.isSome_none]
  rw [delete_eq, Action.run_bind_of_ok (checkName_run_ok hname w),
    Action.run_bind_of_ok hreadCurrent, Action.run_bind_of_ok hreadHistory, remove, habsent]
  rfl

/-- A deletion over a lossy backend takes the current value away first and the versions
after that was read back, and stops at what fails.  When it succeeds, a reader whom no
call fails finds nothing of the artifact; when the versions could not be written, deleting
again finds nothing to do and leaves them in place. -/
theorem delete_ordered (hlossy : store.backend.Lossy contents Settled)
    (hdistinct : store.group.current ≠ store.group.history)
    (hname : Name.check store.group name = .ok ()) (w : World σ ν τ)
    (hsettled : Settled w.backend) :
    ∃ r w', (store.journaled.delete name).run w.journaled = (r, w') ∧
      (store.delete name).run w = (r, w'.unwatched) ∧
      store.DeleteStarts name w'.backend.exchanges r ∧
      store.DeleteWrites name (contents w.backend) (contents w'.backend.state)
        w'.backend.exchanges r ∧
      ∀ calm : Backend σ τ, calm.Prompt contents Settled →
        (r = .ok .deleted →
          (store.withBackend calm).Forgets name w'.unwatched) ∧
        ∀ pre m fault s post,
          w'.backend.exchanges =
            pre ++ .sent store.group.history m (.error fault) s :: post →
          ∃ s', ((store.withBackend calm).delete name).run w'.unwatched =
              (.ok .notFound, { w'.unwatched with backend := s' }) ∧
            contents s' = contents w'.backend.state := by
  obtain ⟨r, w', hrun, hplain, hcourse⟩ := store.delete_watched name w
  have hwrites := hcourse.deleteWrites hlossy hdistinct hsettled
  obtain ⟨hsettled', -⟩ := hcourse.stage hlossy.toErratic hsettled
  refine ⟨r, w', hrun, hplain, hcourse.deleteStarts hname, hwrites, ?_⟩
  intro calm hcalm
  constructor
  · intro hdeleted
    have hcontents := hwrites.deleted hdeleted
    have hcurrent : (contents w'.backend.state store.group.current).get? name = none := by
      rw [hcontents, Function.update_of_ne hdistinct, Function.update_self,
        KeyMap.get?_erase, if_pos rfl]
    have hhistory : contents w'.backend.state store.group.history =
        cleared name (contents w.backend store.group.history) := by
      rw [hcontents, Function.update_self]
    exact forgets_of_cleared hcalm w'.unwatched hsettled' hname hcurrent _ hhistory
  · intro pre m fault s post heq
    obtain ⟨-, -, -, herased⟩ := hwrites.historyRefused pre m fault s post heq
    have hcurrent : (contents w'.backend.state store.group.current).get? name = none := by
      rw [herased, KeyMap.get?_erase, if_pos rfl]
    exact delete_absent hcalm w'.unwatched hsettled' hname hcurrent

/-- Deleting a rule that was archived once leaves neither the rule nor its version. -/
theorem delete_ordered_archived_rule :
    let store := rulesUnder passing .standard
    let run := (store.delete "a.rules").run archivedRule
    store.group.current ≠ store.group.history ∧
      Name.check store.group "a.rules" = .ok () ∧ archivedRule.backend.inner.Settled ∧
      run.1.toOption = some .deleted ∧ store.Forgets "a.rules" run.2 := by
  intro store run
  have hdistinct : store.group.current ≠ store.group.history := by decide
  have hname : Name.check store.group "a.rules" = .ok () := by decide
  have hdeleted : run.1.toOption = some .deleted := by decide +kernel
  obtain ⟨r, w', -, hrun, -, -, hafter⟩ :=
    delete_ordered (rulesUnder_lossy .standard passing_answersNoRead (by simp [passing]))
      hdistinct hname archivedRule archivedRule_settled
  obtain ⟨hforgets, -⟩ := hafter store.backend (rulesUnder_passing_prompt .standard)
  have hrun : run = (r, w'.unwatched) := hrun
  rw [hrun] at hdeleted ⊢
  refine ⟨hdistinct, hname, archivedRule_settled, hdeleted, hforgets ?_⟩
  obtain _ | _ := r
  · cases hdeleted
  · cases hdeleted
    rfl

end Store

end ConfigVault
