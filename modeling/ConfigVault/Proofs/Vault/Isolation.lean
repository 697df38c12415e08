import ConfigVault.Assembly
import ConfigVault.Proofs.Store.Footprint

/-!
# Groups of one vault

The groups of a vault share its backend.  Over collections in memory without a delay a
group cannot tell whether another one was in use exactly when none of the keys that the
calls of the other one touch is one that it sees.  Collections that are all different make
sure of that.  A vault asks for less: it refuses groups of one name only.
-/

namespace ConfigVault

variable {σ ν τ : Type}

/-! ## Names of groups -/

theorem duplicateName?_eq_none_iff {seen : List String} {groups : List Group} :
    duplicateName? seen groups = none ↔
      (∀ group ∈ groups, group.name ∉ seen) ∧ (groups.map Group.name).Nodup := by
  induction groups generalizing seen with
  | nil => simp [duplicateName?]
  | cons group rest ih =>
      unfold duplicateName?
      by_cases hseen : group.name ∈ seen
      · simp [hseen]
      · rw [if_neg (by simpa using hseen), ih]
        simp only [List.mem_cons, not_or, List.map_cons, List.nodup_cons, List.mem_map,
          forall_eq_or_imp]
        constructor
        · rintro ⟨hfresh, hnodup⟩
          refine ⟨⟨hseen, fun other hother => (hfresh other hother).2⟩, ?_, hnodup⟩
          rintro ⟨other, hother, heq⟩
          exact (hfresh other hother).1 heq
        · rintro ⟨⟨-, hrest⟩, hfresh, hnodup⟩
          refine ⟨fun other hother => ⟨?_, hrest other hother⟩, hnodup⟩
          exact fun heq => hfresh ⟨other, hother, heq⟩

theorem Vault.checkGroups_eq_ok_iff {groups : List Group} :
    checkGroups groups = .ok () ↔ (groups.map Group.name).Nodup := by
  unfold checkGroups
  cases hname : duplicateName? [] groups with
  | some name =>
      have hnone : ¬duplicateName? [] groups = none := by simp [hname]
      rw [duplicateName?_eq_none_iff] at hnone
      simpa using hnone
  | none =>
      obtain ⟨-, hnodup⟩ := duplicateName?_eq_none_iff.mp hname
      simpa using hnodup

/-! ## Checkers of groups -/

namespace Configuration

variable {runs : CheckerRun} {name other : String}

theorem checkUnder_congr (content : String) {k k' : KeyMap Checker}
    (h : k.get? name = k'.get? name) :
    (checkUnder runs name content k).1 = (checkUnder runs name content k').1 ∧
      (checkUnder runs name content k).2.get? name =
        (checkUnder runs name content k').2.get? name := by
  unfold checkUnder
  rw [h]
  cases hchecker : k'.get? name with
  | none => exact ⟨rfl, h⟩
  | some checker => simp

theorem get?_checkUnder_of_ne (hne : name ≠ other) (content : String) (k : KeyMap Checker) :
    (checkUnder runs name content k).2.get? other = k.get? other := by
  unfold checkUnder
  cases k.get? name with
  | none => rfl
  | some checker => simp [KeyMap.get?_insert, hne]

def vaultOn (c : Configuration) (runs : CheckerRun) (backend : Backend σ τ)
    (confirmation : Confirmation τ) : Vault σ (KeyMap Checker) τ where
  backend := backend
  confirmation := confirmation
  retention := c.retention
  logLevel := c.logLevel
  groups := c.groups
  check := checkUnder runs

/-- A configuration has its vault exactly when its groups have different names. -/
theorem vault_eq (c : Configuration) (runs : CheckerRun) (backend : Backend σ Float) :
    c.vault runs backend =
      (Vault.checkGroups c.groups).map fun _ =>
        c.vaultOn runs backend c.confirmation := by
  unfold vault
  cases Vault.checkGroups c.groups <;> rfl

end Configuration

theorem Memory.snapshot_ofCollections_pair (a b : String) (d : Collection) :
    (ofCollections [(a, d), (b, d)] : Memory τ).snapshot a = d ∧
      (ofCollections [(a, d), (b, d)] : Memory τ).snapshot b = d := by
  have hmemory : (ofCollections [(a, d), (b, d)] : Memory τ) =
      (KeyMap.empty.insert a ⟨some d, []⟩).insert b ⟨some d, []⟩ := rfl
  rw [hmemory, snapshot_insert, snapshot_insert]
  constructor
  · by_cases hab : a = b
    · rw [hab, Function.update_self]
      rfl
    · rw [Function.update_of_ne hab, Function.update_self]
      rfl
  · rw [Function.update_self]
    rfl

/-! ## Runs -/

namespace Vault

variable [TimeScale τ]

def performAll (vault : Vault σ ν τ) :
    List (Group × Operation) → World σ ν τ → List (Group × Except (Failure τ) Reply)
  | [], _ => []
  | (group, op) :: calls, w =>
    let (reply, w) := ((vault.storeOf group).perform op).run w
    (group, reply) :: performAll vault calls w

end Vault

namespace Configuration

variable [TimeScale τ] (c : Configuration) (runs : CheckerRun) (delay : τ)
  (confirmation : Confirmation τ) (g h : Group)

def firstWorld (initial : List (String × Collection)) (given : List (String × Checker))
    (now : τ) : World (Memory τ) (KeyMap Checker) τ :=
  ⟨Memory.ofCollections initial, c.checkers given, now⟩

/-- No call for the first group shows in a reply to the second one. -/
def Isolates : Prop :=
  ∀ initial given (now : τ) (calls : List (Group × Operation)),
    (∀ call ∈ calls, call.1 = g ∨ call.1 = h) →
      let vault := c.vaultOn runs (Memory.backend delay) confirmation
      let w := c.firstWorld initial given now
      (vault.performAll calls w).filter (fun reply => reply.1 = h) =
        vault.performAll (calls.filter fun call => call.1 ≠ g) w

variable {c runs delay confirmation g h}

theorem storeOf_prompt (hdelay : delay ≤ TimeScale.zero) :
    ((c.vaultOn runs (Memory.backend delay) confirmation).storeOf g).backend.Prompt
      Memory.snapshot Memory.Settled :=
  Memory.prompt hdelay

/-- Two worlds that are one to the group. -/
structure Unnoticed (c : Configuration) (runs : CheckerRun) (delay : τ)
    (confirmation : Confirmation τ) (h : Group)
    (w w' : World (Memory τ) (KeyMap Checker) τ) : Prop where
  settled : w.backend.Settled
  settled' : w'.backend.Settled
  alike : ((c.vaultOn runs (Memory.backend delay) confirmation).storeOf h).Alike
    (fun k k' => k.get? h.name = k'.get? h.name)
    ⟨w.backend.snapshot, w.checks⟩ ⟨w'.backend.snapshot, w'.checks⟩

theorem unnoticed_refl {w : World (Memory τ) (KeyMap Checker) τ}
    (hsettled : w.backend.Settled) : Unnoticed c runs delay confirmation h w w :=
  ⟨hsettled, hsettled, fun _ _ _ => rfl, rfl⟩

namespace Unnoticed

variable {w w' : World (Memory τ) (KeyMap Checker) τ} (hdelay : delay ≤ TimeScale.zero)
  (hunnoticed : Unnoticed c runs delay confirmation h w w')

include hdelay hunnoticed

/-- A call of the group itself replies the same in both worlds. -/
theorem own_call (op : Operation) :
    let store := (c.vaultOn runs (Memory.backend delay) confirmation).storeOf h
    ((store.perform op).run w).1 = ((store.perform op).run w').1 ∧
      Unnoticed c runs delay confirmation h ((store.perform op).run w).2
        ((store.perform op).run w').2 := by
  intro store
  have hprompt : store.backend.Prompt Memory.snapshot Memory.Settled := storeOf_prompt hdelay
  obtain ⟨s, hrun, hsettled, hcontents⟩ :=
    Store.perform_endsAs hprompt w hunnoticed.settled op
  obtain ⟨s', hrun', hsettled', hcontents'⟩ :=
    Store.perform_endsAs hprompt w' hunnoticed.settled' op
  have hcheck : ∀ content (k k' : KeyMap Checker), k.get? h.name = k'.get? h.name →
      (store.check content k).1 = (store.check content k').1 ∧
        (store.check content k).2.get? h.name = (store.check content k').2.get? h.name :=
    fun content _ _ hsame => checkUnder_congr content hsame
  obtain ⟨hreply, halike⟩ := Store.performIn_alike hcheck hunnoticed.alike op
  rw [hrun, hrun']
  refine ⟨hreply, hsettled, hsettled', ?_, halike.checks⟩
  rw [hcontents, hcontents']
  exact halike.contents

/-- A call of another group that is apart makes no difference. -/
theorem other_call (hname : g.name ≠ h.name)
    (hapart : ∀ col key, ¬(g.Touches col key ∧ h.Sees col key)) (op : Operation) :
    let store := (c.vaultOn runs (Memory.backend delay) confirmation).storeOf g
    Unnoticed c runs delay confirmation h ((store.perform op).run w).2 w' := by
  intro store
  have hprompt : store.backend.Prompt Memory.snapshot Memory.Settled := storeOf_prompt hdelay
  obtain ⟨s, hrun, hsettled, hcontents⟩ :=
    Store.perform_endsAs hprompt w hunnoticed.settled op
  let x : Holdings (KeyMap Checker) := ⟨w.backend.snapshot, w.checks⟩
  have hspares : store.group.Spares x.contents (store.performIn x op).2.contents :=
    Store.performIn_spares op
  have hchecked : (store.performIn x op).2.checks = w.checks ∨
      ∃ content, (store.performIn x op).2.checks = (store.check content w.checks).2 :=
    Store.performIn_checks x op
  rw [hrun]
  refine ⟨hsettled, hunnoticed.settled', ?_, ?_⟩
  · intro col key hsees
    have htouches : ¬g.Touches col key := fun htouches => hapart col key ⟨htouches, hsees⟩
    rw [hcontents, hspares col key htouches]
    exact hunnoticed.alike.contents col key hsees
  · have hchecks := hunnoticed.alike.checks
    rcases hchecked with hsame | ⟨content, hchecked⟩
    · rw [hsame]
      exact hchecks
    · rw [hchecked]
      exact (get?_checkUnder_of_ne hname content w.checks).trans hchecks

/-- Whole runs show the group the same with and without the calls of another one that is
apart. -/
theorem performAll (hne : g ≠ h) (hname : g.name ≠ h.name)
    (hapart : ∀ col key, ¬(g.Touches col key ∧ h.Sees col key))
    (calls : List (Group × Operation)) (hcalls : ∀ call ∈ calls, call.1 = g ∨ call.1 = h) :
    let vault := c.vaultOn runs (Memory.backend delay) confirmation
    (vault.performAll calls w).filter (fun reply => reply.1 = h) =
      vault.performAll (calls.filter fun call => call.1 ≠ g) w' := by
  intro vault
  induction calls generalizing w w' with
  | nil => rfl
  | cons call calls ih =>
      obtain ⟨group, op⟩ := call
      have hrest : ∀ call ∈ calls, call.1 = g ∨ call.1 = h :=
        fun call hcall => hcalls call (List.mem_cons_of_mem _ hcall)
      rcases hcalls (group, op) List.mem_cons_self with rfl | rfl
      · have hstep := hunnoticed.other_call hdelay hname hapart op
        simp only [Vault.performAll]
        rw [List.filter_cons_of_neg (by simpa using hne),
          List.filter_cons_of_neg (by simp)]
        exact ih hstep hrest
      · obtain ⟨hreply, hstep⟩ := hunnoticed.own_call hdelay op
        rw [List.filter_cons_of_pos (by simpa using hne.symm)]
        simp only [Vault.performAll]
        rw [List.filter_cons_of_pos (by simp), ih hstep hrest]
        exact congrArg (fun reply => (group, reply) :: _) hreply

end Unnoticed

theorem Isolates.reply_eq (hisolates : c.Isolates runs delay confirmation g h)
    (hne : g ≠ h) (initial : List (String × Collection)) (now : τ) (op question : Operation) :
    let vault := c.vaultOn runs (Memory.backend delay) confirmation
    let w := c.firstWorld initial [] now
    (((vault.storeOf h).perform question).run (((vault.storeOf g).perform op).run w).2).1 =
      (((vault.storeOf h).perform question).run w).1 := by
  intro vault w
  have hsame := hisolates initial [] now [(g, op), (h, question)] (by simp)
  simpa [Vault.performAll, hne, hne.symm] using hsame

variable (hdelay : delay ≤ TimeScale.zero)

include hdelay

theorem isolates_of_apart (hne : g ≠ h) (hname : g.name ≠ h.name)
    (hapart : ∀ col key, ¬(g.Touches col key ∧ h.Sees col key)) :
    c.Isolates runs delay confirmation g h := by
  intro initial given now calls hcalls
  have hsame : Unnoticed c runs delay confirmation h (c.firstWorld initial given now)
      (c.firstWorld initial given now) :=
    unnoticed_refl (Memory.ofCollections_settled initial)
  exact hsame.performAll hdelay hne hname hapart calls hcalls

/-- Groups that share no collection are isolated. -/
theorem isolates_of_collections_ne (hne : g ≠ h) (hname : g.name ≠ h.name)
    (hcurrent : ¬h.Uses g.current) (hhistory : ¬h.Uses g.history) :
    c.Isolates runs delay confirmation g h := by
  apply isolates_of_apart hdelay hne hname
  rintro col key ⟨⟨name, -, hplace⟩, hsees⟩
  have huses : h.Uses col := by
    rcases hsees with hhere | ⟨hhere, -⟩
    · exact .inl hhere
    · exact .inr hhere
  rcases hplace with ⟨rfl, -⟩ | ⟨rfl, -⟩
  · exact hcurrent huses
  · exact hhistory huses

example : Group.standard.Pairwise fun g h =>
    g.name ≠ h.name ∧ ¬(g.current = h.current ∨ g.current = h.history) ∧
      ¬(g.history = h.current ∨ g.history = h.history) := by
  decide

/-- A deletion of the one group shows in a reply to the other one. -/
theorem not_isolates_of_touches {col key : String} (hne : g ≠ h)
    (htouches : g.Touches col key) (hsees : h.Sees col key) :
    ¬c.Isolates runs delay confirmation g h := by
  intro hisolates
  let vault := c.vaultOn runs (Memory.backend delay) confirmation
  have hprompt : ∀ group, (vault.storeOf group).backend.Prompt Memory.snapshot
      Memory.Settled := fun _ => storeOf_prompt hdelay
  have htouches' : (vault.storeOf g).group.Touches col key := htouches
  have hsees' : (vault.storeOf h).group.Sees col key := hsees
  obtain ⟨d, hd, hempties⟩ := Store.exists_performIn_eq_empty htouches'
  let initial := [(g.current, d), (g.history, d)]
  let w : World (Memory τ) (KeyMap Checker) τ := c.firstWorld initial [] TimeScale.zero
  have hsettled : w.backend.Settled := Memory.ofCollections_settled _
  obtain ⟨hcurrent, hhistory⟩ :
      w.backend.snapshot g.current = d ∧ w.backend.snapshot g.history = d :=
    Memory.snapshot_ofCollections_pair g.current g.history d
  have hheld : (w.backend.snapshot col).contains key = true := by
    obtain ⟨name, -, ⟨rfl, -⟩ | ⟨rfl, -⟩⟩ := htouches
    · rw [hcurrent, hd]
    · rw [hhistory, hd]
  -- the deletion leaves nothing where the other group sees the key
  let x : Holdings (KeyMap Checker) := ⟨w.backend.snapshot, w.checks⟩
  obtain ⟨op, hempty⟩ := hempties x hcurrent hhistory
  obtain ⟨s, hrun, hs, hcontents⟩ := Store.perform_endsAs (hprompt g) w hsettled op
  let w' : World (Memory τ) (KeyMap Checker) τ :=
    ⟨s, ((vault.storeOf g).performIn x op).2.checks, w.now⟩
  let x' : Holdings (KeyMap Checker) := ⟨s.snapshot, w'.checks⟩
  have hgone : x'.contents col = KeyMap.empty := by
    rw [← hempty]
    exact congrFun hcontents col
  obtain ⟨question, hshows⟩ : ∃ question,
      ((vault.storeOf h).performIn x question).1 ≠
        ((vault.storeOf h).performIn x' question).1 :=
    Store.exists_performIn_ne hsees' hheld hgone
  obtain ⟨s₁, hwith, -⟩ := Store.perform_endsAs (hprompt h) w' hs question
  obtain ⟨s₂, hwithout, -⟩ := Store.perform_endsAs (hprompt h) w hsettled question
  have hsame := hisolates.reply_eq hne initial TimeScale.zero op question
  change (((vault.storeOf h).perform question).run
      (((vault.storeOf g).perform op).run w).2).1 =
    (((vault.storeOf h).perform question).run w).1 at hsame
  rw [hrun, hwith, hwithout] at hsame
  exact hshows hsame.symm

/-- In the vault of a configuration that is accepted, the calls of one group show in no
reply to another one exactly when none of the keys that they touch is one that the other
group sees. -/
theorem groups_isolated_iff (hgroups : Vault.checkGroups c.groups = .ok ())
    (hg : g ∈ c.groups) (hh : h ∈ c.groups) (hne : g ≠ h) (runs : CheckerRun)
    (confirmation : Confirmation τ) :
    c.Isolates runs delay confirmation g h ↔
      ∀ col key, ¬(g.Touches col key ∧ h.Sees col key) := by
  have hnames := Vault.checkGroups_eq_ok_iff.mp hgroups
  have hname : g.name ≠ h.name :=
    fun heq => hne (List.inj_on_of_nodup_map hnames hg hh heq)
  constructor
  · rintro hisolates col key ⟨htouches, hsees⟩
    exact not_isolates_of_touches hdelay hne htouches hsees hisolates
  · exact isolates_of_apart hdelay hne hname

end Configuration

/-! ## Two groups over one collection -/

def alertRules : Group :=
  ⟨"alertrules", "rules", "alertrules-versions", some ".rules", none, .none⟩

def recordingRules : Group :=
  ⟨"recordingrules", "rules", "recordingrules-versions", some ".rules", none, .none⟩

/-- A configuration with two groups that keep their current values in one collection. -/
def ruleGroups : Configuration where
  stage := .dev
  logLevel := "INFO"
  backend := .memory
  retention := .standard
  confirmation := .standard
  tools := .standard
  cluster := .standard
  groups := [alertRules, recordingRules]

/-- Lets every content pass. -/
def idle : Configuration.CheckerRun := fun checker _ => (.ok "", checker)

namespace Configuration

theorem groups_isolated_iff_rules :
    (0 : Rat) ≤ TimeScale.zero ∧ Vault.checkGroups ruleGroups.groups = .ok () ∧
      alertRules ∈ ruleGroups.groups ∧ recordingRules ∈ ruleGroups.groups ∧
      alertRules ≠ recordingRules ∧
      alertRules.Touches "rules" "a.rules" ∧ recordingRules.Sees "rules" "a.rules" ∧
      ¬ruleGroups.Isolates idle (0 : Rat) ⟨1, 3⟩ alertRules recordingRules := by
  have hzero : (0 : Rat) ≤ TimeScale.zero := le_refl _
  have hgroups : Vault.checkGroups ruleGroups.groups = .ok () :=
    Vault.checkGroups_eq_ok_iff.mpr (by decide)
  have hfirst : alertRules ∈ ruleGroups.groups := by decide
  have hsecond : recordingRules ∈ ruleGroups.groups := by decide
  have hne : alertRules ≠ recordingRules := by decide
  have htouches : alertRules.Touches "rules" "a.rules" :=
    ⟨"a.rules", by decide +kernel, .inl ⟨rfl, rfl⟩⟩
  have hsees : recordingRules.Sees "rules" "a.rules" := .inl rfl
  refine ⟨hzero, hgroups, hfirst, hsecond, hne, htouches, hsees, ?_⟩
  rw [groups_isolated_iff hzero hgroups hfirst hsecond hne]
  exact fun hapart => hapart "rules" "a.rules" ⟨htouches, hsees⟩

/-- The accepted configuration lets the one group list what the other one has stored. -/
theorem shared_collection_shows :
    let vault := ruleGroups.vaultOn idle (Memory.backend (0 : Rat)) ⟨1, 3⟩
    let w := ruleGroups.firstWorld [] [] (0 : Rat)
    let calls : List (Group × Operation) :=
      [(alertRules, .put "a.rules" "groups: []" (.utc Store.noon)),
        (recordingRules, .listNames)]
    (ruleGroups.vault idle (Memory.backend 0)).toOption.isSome ∧
      ((vault.performAll calls w).filter fun reply => reply.1 = recordingRules).map
          (fun reply => reply.2.toOption) = [some (.texts ["a.rules"])] ∧
      (vault.performAll (calls.filter fun call => call.1 ≠ alertRules) w).map
          (fun reply => reply.2.toOption) = [some (.texts [])] := by
  intro vault w calls
  refine ⟨?_, ?_, ?_⟩
  · have hgroups : Vault.checkGroups ruleGroups.groups = .ok () :=
      Vault.checkGroups_eq_ok_iff.mpr (by decide)
    rw [vault_eq, hgroups]
    rfl
  · decide +kernel
  · decide +kernel

end Configuration

end ConfigVault
