import ConfigVault.Proofs.Store.Answers
import ConfigVault.Proofs.Store.PutCourse
import ConfigVault.Proofs.Store.Recorded

/-!
# Stores refine ledgers

A store over a prompt backend answers every call as a ledger does.  Its two
collections represent the ledger: the one holds the values, the other records the
versions.  Every call keeps this, so whole runs give the same answers, as long as the
names are accepted, none begins with another, and the clock moves on by whole seconds
between updates.
-/

namespace ConfigVault

open Calendar Version Retention

variable {σ ν τ : Type}

/-- The clock is read in a later second of UTC than it was before. -/
def LaterSecond (earlier later : Moment) : Prop :=
  ∀ r s, earlier.inUtc? = some r → later.inUtc? = some s →
    r.wholeSeconds.microseconds < s.wholeSeconds.microseconds

/-- The clock is read in seconds that follow one another, in years of four digits. -/
def Ticking (clocks : List Moment) : Prop :=
  (∀ clock ∈ clocks, ∃ now, clock.inUtc? = some now ∧ 1000 ≤ now.date.year) ∧
    clocks.Pairwise LaterSecond

theorem ticking_utc {readings : List Reading}
    (hyears : ∀ r ∈ readings, 1000 ≤ r.date.year)
    (hseconds : readings.Pairwise fun r s =>
      r.wholeSeconds.microseconds < s.wholeSeconds.microseconds) :
    Ticking (readings.map Moment.utc) := by
  constructor
  · intro clock hclock
    obtain ⟨r, hr, rfl⟩ := List.mem_map.mp hclock
    exact ⟨r, Moment.inUtc?_utc r, hyears r hr⟩
  · rw [List.pairwise_map]
    refine hseconds.imp ?_
    intro earlier later hlt r s hr hs
    rw [Moment.inUtc?_utc, Option.some.injEq] at hr hs
    rwa [← hr, ← hs]

namespace Ledger

variable {limits : Retention} {check : Check ν} {l : Ledger ν} {name content : String}
  {clock : Moment}

/-- The clock is read in a later second than all versions of the names that are held. -/
def Precedes (Held : String → Prop) (l : Ledger ν) (clock : Moment) : Prop :=
  ∃ now, clock.inUtc? = some now ∧ 1000 ≤ now.date.year ∧
    ∀ name version, Held name → version ∈ l.versions name →
      version.moment.microseconds < now.wholeSeconds.microseconds

theorem mem_of_mem_kept {now : Reading} {versions : List ArchivedVersion}
    {version : ArchivedVersion} (hmem : version ∈ kept limits now versions) :
    version ∈ versions := by
  rcases List.mem_append.mp hmem with htake | hdrop
  · exact List.mem_of_mem_take htake
  · exact List.mem_of_mem_drop (List.mem_filter.mp hdrop).1

theorem mem_versions_replace {other : String} {version : ArchivedVersion}
    (hmem : version ∈ (l.replace (τ := τ) limits name content clock).2.versions other) :
    version ∈ l.versions other ∨
      ∃ now, clock.inUtc? = some now ∧ version.moment = now.wholeSeconds := by
  unfold replace at hmem
  split at hmem
  · exact .inl hmem
  split at hmem
  · exact .inl hmem
  split at hmem
  · exact .inl hmem
  · next now hnow =>
      by_cases hother : other = name
      · subst hother
        simp only [Function.update_self] at hmem
        rcases List.mem_cons.mp (mem_of_mem_kept hmem) with rfl | hmem
        · exact .inr ⟨now, hnow, rfl⟩
        · exact .inl hmem
      · simp only [Function.update_of_ne hother] at hmem
        exact .inl hmem

/-- A call leaves the versions that there were, and one of its second at most. -/
theorem mem_versions_perform {op : Operation} {version : ArchivedVersion}
    (hmem : version ∈ (perform (τ := τ) limits check op l).2.versions name) :
    version ∈ l.versions name ∨ ∃ clock now, op.clock? = some clock ∧
      clock.inUtc? = some now ∧ version.moment = now.wholeSeconds := by
  cases op with
  | put other content clock =>
      simp only [perform, put] at hmem
      split at hmem
      · exact .inl hmem
      · exact (mem_versions_replace hmem).imp_right fun ⟨now, hnow, hmoment⟩ =>
          ⟨clock, now, rfl, hnow, hmoment⟩
  | delete other =>
      simp only [perform, delete] at hmem
      split at hmem
      · by_cases hother : name = other
        · subst hother
          simp at hmem
        · simp only [Function.update_of_ne hother] at hmem
          exact .inl hmem
      · exact .inl hmem
  | getCurrent | listNames | listVersions | listHistory => exact .inl hmem
  | getVersion other timestamp =>
      simp only [perform] at hmem
      split at hmem <;> exact .inl hmem

/-- Reading the clock in a later second than that of a call stays so after it. -/
theorem Precedes.perform {Held : String → Prop} (hprecedes : l.Precedes Held clock)
    {op : Operation}
    (hlater : ∀ earlier, op.clock? = some earlier → LaterSecond earlier clock) :
    (Ledger.perform (τ := τ) limits check op l).2.Precedes Held clock := by
  obtain ⟨now, hnow, hyear, hversions⟩ := hprecedes
  refine ⟨now, hnow, hyear, ?_⟩
  intro name version hheld hmem
  rcases mem_versions_perform hmem with hmem | ⟨earlier, second, hclock, hsecond, hmoment⟩
  · exact hversions name version hheld hmem
  · rw [hmoment]
    exact hlater earlier hclock second now hsecond hnow

end Ledger

namespace Store

/-- The world of a store represents a ledger of the names that are held. -/
structure Represents (store : Store σ ν τ) (contents : σ → String → Collection)
    (Settled : σ → Prop) (Held : String → Prop) (w : World σ ν τ) (l : Ledger ν) :
    Prop where
  settled : Settled w.backend
  values : contents w.backend store.group.current = l.values
  recorded : Recorded Held (contents w.backend store.group.history) l.versions
  checks : w.checks = l.checks

variable {store : Store σ ν τ} {contents : σ → String → Collection} {Settled : σ → Prop}
  {Held : String → Prop} {w : World σ ν τ} {l : Ledger ν} {name content : String}

namespace Represents

variable (hrep : store.Represents contents Settled Held w l)

include hrep

theorem of_contents_eq {s : σ} (hsettled : Settled s)
    (hcontents : contents s = contents w.backend) :
    store.Represents contents Settled Held { w with backend := s } l := by
  refine ⟨hsettled, ?_, ?_, hrep.checks⟩
  · rw [hcontents]
    exact hrep.values
  · rw [hcontents]
    exact hrep.recorded

theorem with_checks (checks : ν) :
    store.Represents contents Settled Held { w with checks } { l with checks } :=
  ⟨hrep.settled, hrep.values, hrep.recorded, rfl⟩

variable [TimeScale τ] (hprompt : store.backend.Prompt contents Settled)

include hprompt

/-! ## Calls that read -/

omit [TimeScale τ] in
theorem readCurrent_run :
    ∃ w', store.readCurrent.run w = (.ok l.values, w') ∧
      store.Represents contents Settled Held w' l := by
  obtain ⟨s, hrun, hsettled, hcontents⟩ := readCurrent_answer hprompt w hrep.settled
  rw [hrep.values] at hrun
  exact ⟨_, hrun, hrep.of_contents_eq hsettled hcontents⟩

omit [TimeScale τ] in
theorem readHistory_run :
    ∃ history w', store.readHistory.run w = (.ok history, w') ∧
      Recorded Held history l.versions ∧ store.Represents contents Settled Held w' l := by
  obtain ⟨s, hrun, hsettled, hcontents⟩ := readHistory_answer hprompt w hrep.settled
  exact ⟨_, _, hrun, hrep.recorded, hrep.of_contents_eq hsettled hcontents⟩

omit [TimeScale τ] in
theorem listNames_run :
    ∃ w', store.listNames.run w = (.ok l.values.keys, w') ∧
      store.Represents contents Settled Held w' l := by
  obtain ⟨w', hread, hrep'⟩ := hrep.readCurrent_run hprompt
  refine ⟨w', ?_, hrep'⟩
  rw [listNames, Action.run_map, hread]
  rfl

omit [TimeScale τ] in
theorem getCurrent_run (hname : Name.check store.group name = .ok ()) :
    ∃ w', (store.getCurrent name).run w = (.ok (l.values.get? name), w') ∧
      store.Represents contents Settled Held w' l := by
  obtain ⟨s, hrun, hsettled, hcontents⟩ := getCurrent_answer hprompt w hrep.settled hname
  rw [hrep.values] at hrun
  exact ⟨_, hrun, hrep.of_contents_eq hsettled hcontents⟩

section

variable (hapart : Apart Held) (hheld : Held name)
  (hname : Name.check store.group name = .ok ())

include hapart hheld hname

omit [TimeScale τ] in
theorem listVersions_run :
    ∃ w', (store.listVersions name).run w =
        (.ok ((l.versions name).map fun version => formatTimestamp version.moment), w') ∧
      store.Represents contents Settled Held w' l := by
  obtain ⟨s, hrun, hsettled, hcontents⟩ := listVersions_answer hprompt w hrep.settled hname
  rw [hrep.recorded.labelsIn_eq hapart hheld] at hrun
  exact ⟨_, hrun, hrep.of_contents_eq hsettled hcontents⟩

omit [TimeScale τ] in
theorem listHistory_run :
    ∃ w', (store.listHistory name).run w = (.ok (l.versions name), w') ∧
      store.Represents contents Settled Held w' l := by
  obtain ⟨s, hrun, hsettled, hcontents⟩ := listHistory_answer hprompt w hrep.settled hname
  rw [hrep.recorded.versionsIn_eq hapart hheld] at hrun
  exact ⟨_, hrun, hrep.of_contents_eq hsettled hcontents⟩

omit [TimeScale τ] in
theorem getVersion_run_of_ok {timestamp : String} {moment : Reading}
    (hparse : parseTimestamp timestamp = .ok moment) :
    ∃ w', (store.getVersion name timestamp).run w =
        (.ok (l.contentAt name moment), w') ∧
      store.Represents contents Settled Held w' l := by
  have hwhole : moment.wholeSeconds = moment :=
    Reading.wholeSeconds_eq_self (parseTimestamp_eq_ok_iff.mp hparse).2
  obtain ⟨s, hrun, hsettled, hcontents⟩ :=
    getVersion_answer hprompt w hrep.settled hname hparse
  rw [hrep.recorded.get?_versionKey hapart hheld hwhole] at hrun
  exact ⟨_, hrun, hrep.of_contents_eq hsettled hcontents⟩

theorem perform_getVersion_run (timestamp : String) :
    let answered := Ledger.perform (τ := τ) store.retention store.check
      (.getVersion name timestamp) l
    ∃ w', (store.perform (.getVersion name timestamp)).run w = (answered.1, w') ∧
      store.Represents contents Settled Held w' answered.2 := by
  intro answered
  rw [perform, Action.run_map]
  cases hparse : parseTimestamp timestamp with
  | error defect =>
      rw [getVersion_run_of_error w hname hparse]
      simp only [answered, Ledger.perform, hparse]
      exact ⟨w, rfl, hrep⟩
  | ok moment =>
      obtain ⟨w', hrun, hrep'⟩ :=
        hrep.getVersion_run_of_ok hprompt hapart hheld hname hparse
      rw [hrun]
      simp only [answered, Ledger.perform, hparse]
      exact ⟨w', rfl, hrep'⟩

end

/-! ## Calls that write -/

variable (hdistinct : store.group.current ≠ store.group.history)

include hdistinct

theorem commitCurrent_run (values : Collection) :
    ∃ w', (store.backend.commit store.confirmation store.group.current values).run w =
        (.ok (), w') ∧
      store.Represents contents Settled Held w' { l with values } := by
  obtain ⟨s, hrun, hsettled, hcontents⟩ :=
    hprompt.commit_run store.confirmation store.group.current values w hrep.settled
  refine ⟨_, hrun, hsettled, ?_, ?_, hrep.checks⟩
  · rw [hcontents, Function.update_self]
  · rw [hcontents, Function.update_of_ne hdistinct.symm]
    exact hrep.recorded

theorem commitHistory_run {history : Collection}
    {versions : String → List ArchivedVersion} (hrecorded : Recorded Held history versions) :
    ∃ w', (store.backend.commit store.confirmation store.group.history history).run w =
        (.ok (), w') ∧
      store.Represents contents Settled Held w' { l with versions } := by
  obtain ⟨s, hrun, hsettled, hcontents⟩ :=
    hprompt.commit_run store.confirmation store.group.history history w hrep.settled
  refine ⟨_, hrun, hsettled, ?_, ?_, hrep.checks⟩
  · rw [hcontents, Function.update_of_ne hdistinct]
    exact hrep.values
  · rw [hcontents, Function.update_self]
    exact hrecorded

variable (hapart : Apart Held)

include hapart

theorem delete_run (hheld : Held name) (hname : Name.check store.group name = .ok ()) :
    ∃ w', (store.delete name).run w = (.ok (l.delete name).1, w') ∧
      store.Represents contents Settled Held w' (l.delete name).2 := by
  obtain ⟨w₁, hread₁, hrep₁⟩ := hrep.readCurrent_run hprompt
  obtain ⟨history, w₂, hread₂, hrecorded, hrep₂⟩ := hrep₁.readHistory_run hprompt
  unfold delete
  rw [Action.run_bind_of_ok (checkName_run_ok hname w), Action.run_bind_of_ok hread₁,
    Action.run_bind_of_ok hread₂]
  cases hcontains : l.values.contains name with
  | false =>
      simp only [Ledger.delete, hcontains, Bool.false_eq_true, if_false]
      exact ⟨w₂, rfl, hrep₂⟩
  | true =>
      obtain ⟨w₃, hrun₃, hrep₃⟩ :=
        hrep₂.commitCurrent_run hprompt hdistinct (l.values.erase name)
      obtain ⟨w₄, hrun₄, hrep₄⟩ :=
        hrep₃.commitHistory_run hprompt hdistinct (hrecorded.delete hapart hheld)
      simp only [Ledger.delete, hcontains, if_true]
      rw [Action.run_bind_of_ok hrun₃, Action.run_bind_of_ok hrun₄]
      exact ⟨w₄, rfl, hrep₄⟩

variable (hkeep : 0 ≤ store.retention.keep) {span : Int}
  (hspan : span? store.retention.hours = some span)

include hkeep hspan

/-- An update, once both collections have been read. -/
theorem replace_run (hheld : Held name) {clock : Moment} {now : Reading}
    (hnow : clock.inUtc? = some now) (hyear : 1000 ≤ now.date.year)
    (hlater : ∀ version ∈ l.versions name,
      version.moment.microseconds < now.wholeSeconds.microseconds)
    {history : Collection} (hrecorded : Recorded Held history l.versions) :
    ∃ w', (store.replace name content clock l.values history).run w =
        ((l.replace store.retention name content clock).1, w') ∧
      store.Represents contents Settled Held w'
        (l.replace (τ := τ) store.retention name content clock).2 := by
  unfold replace Ledger.replace
  simp only [hnow]
  cases hvalue : l.values.get? name with
  | none =>
      obtain ⟨w', hrun, hrep'⟩ :=
        hrep.commitCurrent_run hprompt hdistinct (l.values.insert name content)
      dsimp only
      rw [Action.run_bind_of_ok hrun]
      exact ⟨w', rfl, hrep'⟩
  | some previous =>
      dsimp only
      by_cases hsame : previous = content
      · rw [if_pos hsame, if_pos hsame]
        exact ⟨w, rfl, hrep⟩
      rw [if_neg hsame, if_neg hsame]
      obtain ⟨archived, harchive, hrecorded'⟩ :=
        hrecorded.archive hapart hheld hkeep hspan hnow hyear hlater previous
      have hpasses : (Action.ofExcept ((Store.archive store.retention name previous clock
          history).mapError .escaped) : Action σ ν τ Collection).run w =
          (.ok archived, w) := by
        rw [harchive]
        rfl
      obtain ⟨w₁, hrun₁, hrep₁⟩ := hrep.commitHistory_run hprompt hdistinct hrecorded'
      obtain ⟨w₂, hrun₂, hrep₂⟩ :=
        hrep₁.commitCurrent_run hprompt hdistinct (l.values.insert name content)
      rw [Action.run_bind_of_ok hpasses, Action.run_bind_of_ok hrun₁,
        Action.run_bind_of_ok hrun₂]
      exact ⟨w₂, rfl, hrep₂⟩

theorem put_run (hheld : Held name) (hname : Name.check store.group name = .ok ())
    {clock : Moment} (hprecedes : l.Precedes Held clock) (content : String) :
    ∃ w', (store.put name content clock).run w =
        ((l.put store.retention store.check name content clock).1, w') ∧
      store.Represents contents Settled Held w'
        (l.put (τ := τ) store.retention store.check name content clock).2 := by
  obtain ⟨now, hnow, hyear, hlater⟩ := hprecedes
  rw [put_eq, Action.run_bind_of_ok (checkName_run_ok hname w)]
  have hcheck := store.checkContent_run content w
  rw [hrep.checks] at hcheck
  unfold Ledger.put
  rcases hresult : store.check content l.checks with ⟨failure | diagnostics, checks⟩ <;>
    rw [hresult] at hcheck
  · rw [Action.run_bind_of_error hcheck]
    exact ⟨_, rfl, hrep.with_checks checks⟩
  · rw [Action.run_bind_of_ok hcheck]
    obtain ⟨w₁, hread₁, hrep₁⟩ := (hrep.with_checks checks).readCurrent_run hprompt
    obtain ⟨history, w₂, hread₂, hrecorded, hrep₂⟩ := hrep₁.readHistory_run hprompt
    rw [Action.run_bind_of_ok hread₁, Action.run_bind_of_ok hread₂]
    exact hrep₂.replace_run hprompt hdistinct hapart hkeep hspan hheld hnow hyear
      (fun version => hlater name version hheld) hrecorded

/-! ## Runs -/

/-- Every call of the store is answered as from the ledger, and keeps what is
represented. -/
theorem perform_run {op : Operation}
    (hheld : ∀ name, op.name? = some name →
      Held name ∧ Name.check store.group name = .ok ())
    (hclock : ∀ clock, op.clock? = some clock → l.Precedes Held clock) :
    ∃ w', (store.perform op).run w =
        ((Ledger.perform store.retention store.check op l).1, w') ∧
      store.Represents contents Settled Held w'
        (Ledger.perform (τ := τ) store.retention store.check op l).2 := by
  cases op with
  | put name content clock =>
      obtain ⟨hheld, hname⟩ := hheld name rfl
      exact Action.exists_run_map Reply.put
        (hrep.put_run hprompt hdistinct hapart hkeep hspan hheld hname (hclock clock rfl)
          content)
  | delete name =>
      obtain ⟨hheld, hname⟩ := hheld name rfl
      exact Action.exists_run_map Reply.deleted
        (hrep.delete_run hprompt hdistinct hapart hheld hname)
  | getCurrent name =>
      exact Action.exists_run_map Reply.value (hrep.getCurrent_run hprompt (hheld name rfl).2)
  | listNames => exact Action.exists_run_map Reply.texts (hrep.listNames_run hprompt)
  | listVersions name =>
      obtain ⟨hheld, hname⟩ := hheld name rfl
      exact Action.exists_run_map Reply.texts
        (hrep.listVersions_run hprompt hapart hheld hname)
  | listHistory name =>
      obtain ⟨hheld, hname⟩ := hheld name rfl
      exact Action.exists_run_map Reply.versions
        (hrep.listHistory_run hprompt hapart hheld hname)
  | getVersion name timestamp =>
      obtain ⟨hheld, hname⟩ := hheld name rfl
      exact hrep.perform_getVersion_run hprompt hapart hheld hname timestamp

/-- A run of the store gives the answers of the ledger that it represents. -/
theorem performAll_eq (ops : List Operation)
    (hheld : ∀ op ∈ ops, ∀ name, op.name? = some name →
      Held name ∧ Name.check store.group name = .ok ())
    (hticks : (ops.filterMap Operation.clock?).Pairwise LaterSecond)
    (hprecedes : ∀ clock ∈ ops.filterMap Operation.clock?, l.Precedes Held clock) :
    (store.performAll ops w).1 =
      (Ledger.performAll store.retention store.check ops l).1 := by
  -- The first call leaves a version of its own second at most, so that every clock to
  -- come still reads later than all versions.
  induction ops generalizing w l with
  | nil => rfl
  | cons op ops ih =>
      have hclock : ∀ clock, op.clock? = some clock → l.Precedes Held clock := by
        intro clock hclock
        exact hprecedes clock (List.mem_filterMap.mpr ⟨op, List.mem_cons_self, hclock⟩)
      obtain ⟨w', hrun, hrep'⟩ := hrep.perform_run hprompt hdistinct hapart hkeep hspan
        (hheld op List.mem_cons_self) hclock
      have hrest : ∀ earlier, op.clock? = some earlier →
          ∀ later ∈ ops.filterMap Operation.clock?, LaterSecond earlier later := by
        intro earlier hearlier later hlater
        rw [List.filterMap_cons_some hearlier] at hticks
        exact (List.pairwise_cons.mp hticks).1 later hlater
      have hticks' : (ops.filterMap Operation.clock?).Pairwise LaterSecond :=
        hticks.sublist ((List.sublist_cons_self op ops).filterMap _)
      have hprecedes' : ∀ clock ∈ ops.filterMap Operation.clock?,
          (Ledger.perform (τ := τ) store.retention store.check op l).2.Precedes Held
            clock := by
        intro clock hmem
        have hmem' := ((List.sublist_cons_self op ops).filterMap Operation.clock?).subset hmem
        exact (hprecedes clock hmem').perform fun earlier hearlier =>
          hrest earlier hearlier clock hmem
      have hanswers := ih hrep' (fun op hop => hheld op (List.mem_cons_of_mem _ hop))
        hticks' hprecedes'
      simp only [performAll, Ledger.performAll, hrun, hanswers]

end Represents

/-- A store over memory without a delay, both collections empty, answers every sequence
of calls as an empty ledger does. -/
theorem performAll_eq_ledger [TimeScale τ] {store : Store (Memory τ) ν τ} {delay : τ}
    (hbackend : store.backend = Memory.backend delay) (hdelay : delay ≤ TimeScale.zero)
    (hdistinct : store.group.current ≠ store.group.history)
    (hkeep : 0 ≤ store.retention.keep) {span : Int}
    (hspan : span? store.retention.hours = some span) {ops : List Operation}
    (haccepted : ∀ op ∈ ops, ∀ name, op.name? = some name →
      Name.check store.group name = .ok ())
    (hapart : Apart fun name => ∃ op ∈ ops, op.name? = some name)
    (hticking : Ticking (ops.filterMap Operation.clock?))
    {w : World (Memory τ) ν τ} (hsettled : w.backend.Settled)
    (hcurrent : w.backend.snapshot store.group.current = KeyMap.empty)
    (hhistory : w.backend.snapshot store.group.history = KeyMap.empty) :
    (store.performAll ops w).1 =
      (Ledger.performAll store.retention store.check ops
        ⟨KeyMap.empty, fun _ => [], w.checks⟩).1 := by
  have hprompt : store.backend.Prompt Memory.snapshot Memory.Settled := by
    rw [hbackend]
    exact Memory.prompt hdelay
  have hrep : store.Represents Memory.snapshot Memory.Settled
      (fun name => ∃ op ∈ ops, op.name? = some name) w
      ⟨KeyMap.empty, fun _ => [], w.checks⟩ := by
    refine ⟨hsettled, hcurrent, ?_, rfl⟩
    rw [hhistory]
    exact .nil _
  apply hrep.performAll_eq hprompt hdistinct hapart hkeep hspan ops ?_ hticking.2
  · intro clock hclock
    obtain ⟨now, hnow, hyear⟩ := hticking.1 clock hclock
    exact ⟨now, hnow, hyear, fun _ _ _ hmem => absurd hmem List.not_mem_nil⟩
  · intro op hop name hname
    exact ⟨⟨op, hop, hname⟩, haccepted op hop name hname⟩

/-! ## Two rules of alerts -/

/-- Rules of alerts in memory, with every content accepted. -/
def rules : Store (Memory Rat) Unit Rat where
  backend := Memory.backend 0
  confirmation := ⟨1, 3⟩
  group := ⟨"alertrules", "alertrules", "alertrules-versions", some ".rules", none, .none⟩
  check := fun _ k => (.ok "", k)
  retention := .standard

def ticks : List Reading :=
  [⟨⟨2024, 5, 6, by decide⟩, ⟨9, 30, 0, 0, by decide⟩⟩,
    ⟨⟨2024, 5, 6, by decide⟩, ⟨9, 30, 1, 0, by decide⟩⟩,
    ⟨⟨2024, 5, 6, by decide⟩, ⟨9, 30, 2, 0, by decide⟩⟩]

/-- Two rules, of which one is updated and then taken away. -/
def session : List Operation :=
  [.put "a.rules" "one" (.utc ticks[0]), .put "b.rules" "two" (.utc ticks[1]),
    .put "a.rules" "three" (.utc ticks[2]), .listHistory "a.rules", .delete "a.rules",
    .listNames]

theorem name_of_mem_session {op : Operation} (hop : op ∈ session) {name : String}
    (hname : op.name? = some name) : name = "a.rules" ∨ name = "b.rules" := by
  simp only [session, List.mem_cons, List.not_mem_nil, or_false] at hop
  rcases hop with rfl | rfl | rfl | rfl | rfl | rfl <;>
    simp_all [Operation.name?]

theorem performAll_eq_ledger_session :
    Ticking (session.filterMap Operation.clock?) ∧
      (rules.performAll session ⟨KeyMap.empty, (), 0⟩).1 =
        (Ledger.performAll rules.retention rules.check session
          ⟨KeyMap.empty, fun _ => [], ()⟩).1 := by
  have hticking : Ticking (session.filterMap Operation.clock?) :=
    ticking_utc (show ∀ r ∈ ticks, 1000 ≤ r.date.year by decide) (by decide)
  refine ⟨hticking, ?_⟩
  have hspan : span? rules.retention.hours = some (48 * 3600000000) := by decide
  refine performAll_eq_ledger rfl (le_refl (0 : Rat)) (by decide) (by decide) hspan ?_ ?_
    hticking (fun _ => rfl) rfl rfl
  · intro op hop name hname
    rcases name_of_mem_session hop hname with rfl | rfl <;> decide
  · rintro name other ⟨op, hop, hname⟩ ⟨op', hop', hother⟩ hle
    rcases name_of_mem_session hop hname with rfl | rfl <;>
      rcases name_of_mem_session hop' hother with rfl | rfl
    · rfl
    · exact absurd hle (by decide)
    · exact absurd hle (by decide)
    · rfl

end Store

end ConfigVault
