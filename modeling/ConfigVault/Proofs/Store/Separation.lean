import ConfigVault.Proofs.Store.Answers
import ConfigVault.Proofs.Store.DeleteCourse
import ConfigVault.Proofs.Store.VersionsKept

/-!
# The artifacts of a group

The artifacts of a group share one history, in which only the keys tell them apart.
Every answer about a name looks at few keys: its current value, the keys made like those
of its versions, or all that begin with it.  An update changes none that another name
looks at, except that a list of labels takes in the keys of longer names; a deletion
leaves those alone that do not begin with its name.
-/

namespace ConfigVault

open Calendar Version Retention

variable {σ ν τ : Type}

namespace Store

/-! ## The keys that answers look at -/

section

variable {name : String} {history history' : Collection}

theorem order_congr
    (hsame : ∀ key, belongsTo name key = true → history'.get? key = history.get? key) :
    order name history'.keys = order name history.keys := by
  apply order_eq_of_pairwise (KeyMap.keys_nodup _) (order_nodup (KeyMap.keys_nodup _))
  · intro key
    rw [mem_order, KeyMap.mem_keys_iff, KeyMap.mem_keys_iff]
    refine and_congr_left fun hbelongs => ?_
    rw [hsame key hbelongs]
  · exact order_pairwise name _

theorem labelsIn_congr
    (hsame : ∀ key, belongsTo name key = true → history'.get? key = history.get? key) :
    labelsIn name history' = labelsIn name history := by
  rw [labelsIn, order_congr hsame, labelsIn]

def decodedIn (name : String) (history : Collection) : List String :=
  (order name history.keys).filter fun key => (decode? name key).isSome

theorem mem_decodedIn {key : String} :
    key ∈ decodedIn name history ↔
      (∃ value, history.get? key = some value) ∧ ∃ moment, decode? name key = some moment := by
  rw [decodedIn, List.mem_filter, mem_order, KeyMap.mem_keys_iff, Option.isSome_iff_exists]
  constructor
  · rintro ⟨⟨hvalue, -⟩, hdecoded⟩
    exact ⟨hvalue, hdecoded⟩
  · rintro ⟨hvalue, moment, hmoment⟩
    exact ⟨⟨hvalue, belongsTo_of_decode? hmoment⟩, moment, hmoment⟩

theorem decodedIn_nodup (name : String) (history : Collection) :
    (decodedIn name history).Nodup :=
  (order_nodup (KeyMap.keys_nodup _)).filter _

theorem versionsIn_eq :
    versionsIn name history = (decodedIn name history).filterMap fun key =>
      match decode? name key, history.get? key with
      | some moment, some content => some ⟨moment, content⟩
      | _, _ => none := by
  rw [versionsIn, decodedIn, List.filterMap_filter]
  apply List.filterMap_congr
  intro key _
  cases decode? name key <;> cases history.get? key <;> rfl

theorem versionsIn_congr
    (hsame : ∀ key, VersionOf name key → history'.get? key = history.get? key) :
    versionsIn name history' = versionsIn name history := by
  have hdecoded : decodedIn name history' = decodedIn name history := by
    have hperm : (decodedIn name history').Perm (decodedIn name history) := by
      rw [List.perm_ext_iff_of_nodup (decodedIn_nodup _ _) (decodedIn_nodup _ _)]
      intro key
      rw [mem_decodedIn, mem_decodedIn]
      refine and_congr_left ?_
      rintro ⟨moment, hmoment⟩
      rw [hsame key (versionOf_of_decode? hmoment)]
    exact hperm.eq_of_pairwise (fun a b _ _ => ahead_antisymm)
      ((order_pairwise name _).filter _) ((order_pairwise name _).filter _)
  rw [versionsIn_eq, versionsIn_eq, hdecoded]
  apply List.filterMap_congr
  intro key hkey
  obtain ⟨-, moment, hmoment⟩ := mem_decodedIn.mp hkey
  rw [hsame key (versionOf_of_decode? hmoment)]

end

/-! ## What a call leaves of another name -/

/-- The current value of a name is the same, and so is what lies under some keys. -/
structure Untouched (group : Group) (name : String) (keys : String → Prop)
    (v v' : String → Collection) : Prop where
  current : (v' group.current).get? name = (v group.current).get? name
  history : ∀ key, keys key → (v' group.history).get? key = (v group.history).get? key

variable {store : Store σ ν τ} {name other content : String} {clock : Moment}
  {keys : String → Prop} {v v' : String → Collection}

/-- Archiving a value changes nothing under keys that are not made like those of the
name, in every year and with any limits. -/
theorem get?_of_archive {limits : Retention} {previous : String}
    {history archived : Collection}
    (harchive : archive limits name previous clock history = .ok archived)
    {key : String} (hkey : ¬VersionOf name key) : archived.get? key = history.get? key := by
  obtain ⟨now, evicted, -, hevicted, rfl⟩ := exists_of_archive_eq_ok harchive
  have hstays : key ∉ evicted := by
    intro hmem
    obtain ⟨made, hmade⟩ := exists_decode?_of_mem_evictions hevicted hmem
    exact hkey (versionOf_of_decode? hmade)
  have hother : versionKey name now ≠ key := by
    rintro rfl
    exact hkey (versionOf_versionKey name now)
  rw [get?_trimmed, if_neg hstays, if_neg hother]

theorem PutStage.untouched (hstage : store.PutStage name content clock v v')
    (hdistinct : store.group.current ≠ store.group.history) (hne : name ≠ other)
    (hkeys : ∀ key, keys key → ¬VersionOf name key) :
    Untouched store.group other keys v v' := by
  cases hstage with
  | before => exact ⟨rfl, fun _ _ => rfl⟩
  | created hvalue =>
      constructor
      · rw [Function.update_self, KeyMap.get?_insert, if_neg hne]
      · intro key _
        rw [Function.update_of_ne hdistinct.symm]
  | archived hvalue hnew harchive =>
      constructor
      · rw [Function.update_of_ne hdistinct]
      · intro key hkey
        rw [Function.update_self, get?_of_archive harchive (hkeys key hkey)]
  | replaced hvalue hnew harchive =>
      constructor
      · rw [Function.update_self, KeyMap.get?_insert, if_neg hne]
      · intro key hkey
        rw [Function.update_of_ne hdistinct.symm, Function.update_self,
          get?_of_archive harchive (hkeys key hkey)]

theorem DeleteStage.untouched (hstage : store.DeleteStage name v v')
    (hdistinct : store.group.current ≠ store.group.history) (hne : name ≠ other)
    (hkeys : ∀ key, keys key → belongsTo name key = false) :
    Untouched store.group other keys v v' := by
  have herased : ((v store.group.current).erase name).get? other =
      (v store.group.current).get? other := by
    rw [KeyMap.get?_erase, if_neg hne.symm]
  cases hstage with
  | before => exact ⟨rfl, fun _ _ => rfl⟩
  | erased hvalue =>
      constructor
      · rw [Function.update_self, herased]
      · intro key _
        rw [Function.update_of_ne hdistinct.symm]
  | cleared hvalue =>
      constructor
      · rw [Function.update_of_ne hdistinct, Function.update_self, herased]
      · intro key hkey
        rw [Function.update_self, get?_cleared, hkeys key hkey]
        rfl

/-! ## Answers about another name -/

variable (store)

/-- The current value and the versions of a name, as they are read, are the same in two
worlds. -/
structure SameAnswers (name : String) (w w' : World σ ν τ) : Prop where
  getCurrent : ((store.getCurrent name).run w').1 = ((store.getCurrent name).run w).1
  listHistory : ((store.listHistory name).run w').1 = ((store.listHistory name).run w).1
  getVersion : ∀ timestamp,
    ((store.getVersion name timestamp).run w').1 =
      ((store.getVersion name timestamp).run w).1

def SameLabels (name : String) (w w' : World σ ν τ) : Prop :=
  ((store.listVersions name).run w').1 = ((store.listVersions name).run w).1

variable {store} {contents : σ → String → Collection} {Settled : σ → Prop}
  {w w' : World σ ν τ}

theorem Untouched.sameAnswers (hprompt : store.backend.Prompt contents Settled)
    (hsettled : Settled w.backend) (hsettled' : Settled w'.backend)
    (huntouched : Untouched store.group name (VersionOf name) (contents w.backend)
      (contents w'.backend)) : store.SameAnswers name w w' := by
  cases hname : Name.check store.group name with
  | error refusal =>
      constructor
      · rw [getCurrent, Action.run_bind_of_error (checkName_run_error hname w),
          Action.run_bind_of_error (checkName_run_error hname w')]
      · rw [listHistory, Action.run_bind_of_error (checkName_run_error hname w),
          Action.run_bind_of_error (checkName_run_error hname w')]
      · intro timestamp
        rw [getVersion, Action.run_bind_of_error (checkName_run_error hname w),
          Action.run_bind_of_error (checkName_run_error hname w')]
  | ok _ =>
      constructor
      · obtain ⟨s, hrun, -⟩ := getCurrent_answer hprompt w hsettled hname
        obtain ⟨s', hrun', -⟩ := getCurrent_answer hprompt w' hsettled' hname
        rw [hrun, hrun', huntouched.current]
      · obtain ⟨s, hrun, -⟩ := listHistory_answer hprompt w hsettled hname
        obtain ⟨s', hrun', -⟩ := listHistory_answer hprompt w' hsettled' hname
        rw [hrun, hrun', versionsIn_congr huntouched.history]
      · intro timestamp
        cases hparse : parseTimestamp timestamp with
        | error defect =>
            rw [getVersion_run_of_error w hname hparse,
              getVersion_run_of_error w' hname hparse]
        | ok moment =>
            obtain ⟨s, hrun, -⟩ := getVersion_answer hprompt w hsettled hname hparse
            obtain ⟨s', hrun', -⟩ := getVersion_answer hprompt w' hsettled' hname hparse
            rw [hrun, hrun', huntouched.history _ (versionOf_versionKey name moment)]

theorem Untouched.sameLabels (hprompt : store.backend.Prompt contents Settled)
    (hsettled : Settled w.backend) (hsettled' : Settled w'.backend)
    (huntouched : Untouched store.group name (belongsTo name · = true)
      (contents w.backend) (contents w'.backend)) : store.SameLabels name w w' := by
  unfold SameLabels
  cases hname : Name.check store.group name with
  | error refusal =>
      rw [listVersions, Action.run_bind_of_error (checkName_run_error hname w),
        Action.run_bind_of_error (checkName_run_error hname w')]
  | ok _ =>
      obtain ⟨s, hrun, -⟩ := listVersions_answer hprompt w hsettled hname
      obtain ⟨s', hrun', -⟩ := listVersions_answer hprompt w' hsettled' hname
      rw [hrun, hrun', labelsIn_congr huntouched.history]

variable [TimeScale τ]

/-- An update over an erratic backend changes nothing under keys that are not made like
those of its name. -/
theorem put_untouched (herratic : store.backend.Erratic contents Settled)
    (hdistinct : store.group.current ≠ store.group.history) (hne : name ≠ other)
    (hkeys : ∀ key, keys key → ¬VersionOf name key) (content : String) (clock : Moment)
    (hsettled : Settled w.backend) :
    let s := ((store.put name content clock).run w).2.backend
    Settled s ∧ Untouched store.group other keys (contents w.backend) (contents s) := by
  obtain ⟨r, w', -, hrun, hcourse⟩ := store.put_watched name content clock w
  obtain ⟨-, hsettled', hstage⟩ := hcourse.stages herratic hsettled
  rw [hrun]
  exact ⟨hsettled', hstage.untouched hdistinct hne hkeys⟩

/-- A deletion over an erratic backend changes nothing under keys that do not begin with
its name. -/
theorem delete_untouched (herratic : store.backend.Erratic contents Settled)
    (hdistinct : store.group.current ≠ store.group.history) (hne : name ≠ other)
    (hkeys : ∀ key, keys key → belongsTo name key = false) (hsettled : Settled w.backend) :
    let s := ((store.delete name).run w).2.backend
    Settled s ∧ Untouched store.group other keys (contents w.backend) (contents s) := by
  obtain ⟨r, w', -, hrun, hcourse⟩ := store.delete_watched name w
  obtain ⟨hsettled', hstage⟩ := hcourse.stage herratic hsettled
  rw [hrun]
  exact ⟨hsettled', hstage.untouched hdistinct hne hkeys⟩

/-- Updates over an erratic backend, however they end, change no answer about another name,
whether one begins with the other or not.  When neither does, the labels stay the same as
well, and a deletion changes nothing either. -/
theorem others_undisturbed (herratic : store.backend.Erratic contents Settled)
    (hdistinct : store.group.current ≠ store.group.history)
    (hne : name ≠ other) (w : World σ ν τ) (hsettled : Settled w.backend)
    {calm : Backend σ τ} (hcalm : calm.Prompt contents Settled) :
    let reader := store.withBackend calm
    (∀ content clock,
      reader.SameAnswers other w ((store.put name content clock).run w).2) ∧
    (belongsTo name other = false → belongsTo other name = false →
      (∀ content clock,
        reader.SameLabels other w ((store.put name content clock).run w).2) ∧
      reader.SameAnswers other w ((store.delete name).run w).2 ∧
      reader.SameLabels other w ((store.delete name).run w).2) := by
  intro reader
  have hversions : ∀ key, VersionOf other key → ¬VersionOf name key := fun key hkey hname =>
    hne (hname.name_eq hkey)
  constructor
  · intro content clock
    obtain ⟨hsettled', huntouched⟩ :=
      put_untouched herratic hdistinct hne hversions content clock hsettled
    exact Untouched.sameAnswers hcalm hsettled hsettled' huntouched
  · intro hapart hapart'
    have hbelongs : ∀ key, belongsTo other key = true → belongsTo name key = false :=
      fun key => belongsTo_eq_false_of_apart hapart hapart'
    have hmade : ∀ key, belongsTo other key = true → ¬VersionOf name key := by
      intro key hkey hversion
      have hname := hversion.belongsTo
      rw [hbelongs key hkey] at hname
      cases hname
    have hversionsApart : ∀ key, VersionOf other key → belongsTo name key = false :=
      fun key hkey => hbelongs key hkey.belongsTo
    refine ⟨?_, ?_, ?_⟩
    · intro content clock
      obtain ⟨hsettled', huntouched⟩ :=
        put_untouched herratic hdistinct hne hmade content clock hsettled
      exact Untouched.sameLabels hcalm hsettled hsettled' huntouched
    · obtain ⟨hsettled', huntouched⟩ :=
        delete_untouched herratic hdistinct hne hversionsApart hsettled
      exact Untouched.sameAnswers hcalm hsettled hsettled' huntouched
    · obtain ⟨hsettled', huntouched⟩ :=
        delete_untouched herratic hdistinct hne hbelongs hsettled
      exact Untouched.sameLabels hcalm hsettled hsettled' huntouched

/-- Writes of a collection take effect and fail. -/
def breakingOff (collection : String) : OutagePlan Unit := fun kind c p =>
  (if kind = .put ∧ c = collection then some (.breaksOff (.trouble (.failed "reset")))
    else none, p)

theorem breakingOff_answersNoRead (collection : String) :
    (breakingOff collection).AnswersNoRead := by
  simp [OutagePlan.AnswersNoRead, breakingOff]

/-- A second rule that comes in by a write that is reported to have failed, beside a rule
that was archived once. -/
theorem others_undisturbed_second_rule :
    let store := rulesUnder (breakingOff "alertrules") .standard
    let reader := rulesUnder passing .standard
    let put := (store.put "b.rules" "one" (.utc noon)).run archivedRule
    let delete := (store.delete "b.rules").run archivedRule
    store.group.current ≠ store.group.history ∧ "b.rules" ≠ "a.rules" ∧
      archivedRule.backend.inner.Settled ∧
      belongsTo "b.rules" "a.rules" = false ∧ belongsTo "a.rules" "b.rules" = false ∧
      put.1.toOption = none ∧
      (put.2.backend.inner.snapshot "alertrules").get? "b.rules" = some "one" ∧
      reader.SameAnswers "a.rules" archivedRule put.2 ∧
      reader.SameLabels "a.rules" archivedRule put.2 ∧
      reader.SameAnswers "a.rules" archivedRule delete.2 ∧
      reader.SameLabels "a.rules" archivedRule delete.2 := by
  intro store reader put delete
  have hdistinct : store.group.current ≠ store.group.history := by decide
  have hne : "b.rules" ≠ "a.rules" := by decide
  have hapart : belongsTo "b.rules" "a.rules" = false := by decide
  have hapart' : belongsTo "a.rules" "b.rules" = false := by decide
  have hfailed : put.1.toOption = none := by decide +kernel
  have hwritten : (put.2.backend.inner.snapshot "alertrules").get? "b.rules" =
      some "one" := by decide +kernel
  obtain ⟨hput, hrest⟩ :=
    others_undisturbed (rulesUnder_erratic .standard (breakingOff_answersNoRead _)) hdistinct
      hne archivedRule archivedRule_settled (rulesUnder_passing_prompt .standard)
  obtain ⟨hlabels, hdelete⟩ := hrest hapart hapart'
  exact ⟨hdistinct, hne, archivedRule_settled, hapart, hapart', hfailed, hwritten,
    hput "one" (.utc noon), hlabels "one" (.utc noon), hdelete⟩

end Store

end ConfigVault
