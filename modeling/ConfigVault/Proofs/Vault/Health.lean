import ConfigVault.Proofs.Vault.Isolation

/-!
# Reports on the health of a vault

A report tells of each group whether its current values could be read.  It can tell of
trouble and of incidents of the backend branch.  An incident of another branch ends it at
the group that met the incident, and then nothing is told of any group.
-/

namespace ConfigVault

variable {σ ν τ : Type}

/-! ## What can be told of a read -/

/-- A group with the answer to a read of its current values. -/
abbrev GroupReading := Group × Except Fault (Option Collection)

/-- A report can tell of every answer but an incident of another branch. -/
def Tellable (answer : Except Fault (Option Collection)) : Prop :=
  ∀ i, answer = .error (.incident i) → i.kind.isBackend = true

/-- What a report says of a group after a read of its current values. -/
inductive Tells : GroupReading → GroupHealth → Prop
  | well (group : Group) (observed : Option Collection) :
      Tells (group, .ok observed) (group.name, none)
  | trouble (group : Group) (t : Trouble) :
      Tells (group, .error (.trouble t))
        (group.name, some ("Unable to read " ++ group.current ++ ": " ++ t.message))
  | incident (group : Group) (i : Incident) (hkind : i.kind.isBackend = true) :
      Tells (group, .error (.incident i)) (group.name, some i.message)

theorem exists_tells_or_other (group : Group) (answer : Except Fault (Option Collection)) :
    (∃ entry, Tells (group, answer) entry) ∨
      ∃ i, answer = .error (.incident i) ∧ i.kind.isBackend = false := by
  rcases answer with (i | t) | observed
  · cases hkind : i.kind.isBackend with
    | true => exact .inl ⟨_, .incident group i hkind⟩
    | false => exact .inr ⟨i, rfl, hkind⟩
  · exact .inl ⟨_, .trouble group t⟩
  · exact .inl ⟨_, .well group observed⟩

namespace Tells

variable {reading : GroupReading} {entry : GroupHealth}

theorem tellable (h : Tells reading entry) : Tellable reading.2 := by
  intro i hincident
  cases h with
  | well group observed => cases hincident
  | trouble group t => cases hincident
  | incident group i hkind =>
      cases hincident
      exact hkind

theorem name_eq (h : Tells reading entry) : entry.1 = reading.1.name := by
  cases h <;> rfl

/-- The word for a group that can be read comes up for another one only if it is the
message of an incident. -/
theorem word_eq_wellWord_iff (h : Tells reading entry) :
    entry.word = wellWord ↔
      (∃ observed, reading.2 = .ok observed) ∨
        ∃ i, reading.2 = .error (.incident i) ∧ i.message = wellWord := by
  cases h with
  | well group observed => simp [GroupHealth.word]
  | trouble group t =>
      have hword :
          "Unable to read " ++ group.current ++ ": " ++ t.message ≠ wellWord := by
        intro heq
        have hlength := congrArg String.length heq
        simp only [String.length_append] at hlength
        have hstart : "Unable to read ".length = 15 := rfl
        have hwell : wellWord.length = 2 := rfl
        omega
      simpa [GroupHealth.word] using hword
  | incident group i hkind => simp [GroupHealth.word]

end Tells

theorem tellable_of_told {readings : List GroupReading} {entries : List GroupHealth}
    (h : List.Forall₂ Tells readings entries) : ∀ reading ∈ readings, Tellable reading.2 := by
  induction h with
  | nil => exact List.forall_mem_nil _
  | cons htells _ ih => exact List.forall_mem_cons.mpr ⟨htells.tellable, ih⟩

theorem exists_reading_of_told {readings : List GroupReading} {entries : List GroupHealth}
    (h : List.Forall₂ Tells readings entries) :
    ∀ entry ∈ entries, ∃ reading ∈ readings, Tells reading entry := by
  induction h with
  | nil => exact List.forall_mem_nil _
  | @cons reading _ readings _ htells _ ih =>
      refine List.forall_mem_cons.mpr ⟨⟨reading, List.mem_cons_self, htells⟩, ?_⟩
      intro entry hentry
      obtain ⟨other, hother, hothertells⟩ := ih entry hentry
      exact ⟨other, List.mem_cons_of_mem _ hother, hothertells⟩

theorem HealthReport.word_eq_wellWord_iff (report : HealthReport) :
    report.word = wellWord ↔ ∀ entry ∈ report.groups, entry.word = wellWord := by
  have hother : "degraded" ≠ wellWord := by decide
  have hok : report.isOk = true ↔ ∀ entry ∈ report.groups, entry.word = wellWord := by
    simp [isOk]
  rw [← hok, word]
  by_cases h : report.isOk = true
  · simp [h]
  · simp [h, hother]

/-- A report covers groups after reads of their current values: it has one entry for each,
in their order, with the word for groups that can be read or else the message of the read,
and it says that all is well when every entry does. -/
structure HealthReport.Covers (report : HealthReport) (groups : List Group)
    (readings : List GroupReading) : Prop where
  names : report.groups.map Prod.fst = groups.map Group.name
  once : (report.groups.map Prod.fst).Nodup
  told : List.Forall₂ Tells readings report.groups
  well : List.Forall₂
    (fun reading entry => entry.word = wellWord ↔
      (∃ observed, reading.2 = .ok observed) ∨
        ∃ i, reading.2 = .error (.incident i) ∧ i.message = wellWord)
    readings report.groups
  whole : report.word = wellWord ↔ ∀ entry ∈ report.groups, entry.word = wellWord

/-! ## One group after the other -/

namespace Vault

variable (vault : Vault σ ν τ)

/-- Reads of the current values of groups one after the other, whatever they answer. -/
def readings (now : τ) : List Group → σ → List GroupReading
  | [], _ => []
  | group :: rest, s =>
    (group, (vault.backend.get group.current now s).1) ::
      readings now rest (vault.backend.get group.current now s).2

theorem map_fst_readings (now : τ) (groups : List Group) (s : σ) :
    (vault.readings now groups s).map Prod.fst = groups := by
  induction groups generalizing s with
  | nil => rfl
  | cons group rest ih => simp [readings, ih]

/-- What reads keep true of the state, they answer accordingly. -/
theorem forall_readings {P : Except Fault (Option Collection) → Prop} {I : σ → Prop}
    {now : τ}
    (h : ∀ c s, I s → P (vault.backend.get c now s).1 ∧ I (vault.backend.get c now s).2)
    (groups : List Group) {s : σ} (hs : I s) :
    ∀ reading ∈ vault.readings now groups s, P reading.2 := by
  induction groups generalizing s with
  | nil => exact List.forall_mem_nil _
  | cons group rest ih =>
      obtain ⟨hanswer, hnext⟩ := h group.current s hs
      exact List.forall_mem_cons.mpr ⟨hanswer, ih hnext⟩

variable {vault}

theorem covers_of_told {groups : List Group} {now : τ} {s : σ} {entries : List GroupHealth}
    (hgroups : checkGroups groups = .ok ())
    (htold : List.Forall₂ Tells (vault.readings now groups s) entries) :
    HealthReport.Covers ⟨entries⟩ groups (vault.readings now groups s) := by
  have hnames : entries.map Prod.fst = groups.map Group.name := by
    rw [← vault.map_fst_readings now groups s, List.map_map]
    generalize vault.readings now groups s = readings at htold
    induction htold with
    | nil => rfl
    | cons htells _ ih => simp [htells.name_eq, ih]
  refine ⟨hnames, ?_, htold, htold.imp fun _ _ htells => htells.word_eq_wellWord_iff, ?_⟩
  · rw [hnames]
    exact checkGroups_eq_ok_iff.mp hgroups
  · exact HealthReport.word_eq_wellWord_iff _

variable [TimeScale τ] {group : Group} {rest : List Group} {w : World σ ν τ} {s : σ}
  {answer : Except Fault (Option Collection)}

theorem healthOf_cons_of_tells {entry : GroupHealth}
    (hget : vault.backend.get group.current w.now w.backend = (answer, s))
    (htells : Tells (group, answer) entry) :
    (vault.healthOf (group :: rest)).run w =
      (((vault.healthOf rest).run { w with backend := s }).1.map (entry :: ·),
        ((vault.healthOf rest).run { w with backend := s }).2) := by
  have hread := Backend.read_run_of_get hget
  calc (vault.healthOf (group :: rest)).run w
      = (vault.healthOf rest >>= fun entries => pure (entry :: entries)).run
          { w with backend := s } := by
        apply Action.run_bind_of_ok
        rw [Action.run_ofRun, hread]
        cases htells with
        | well group observed => rfl
        | trouble group t => rfl
        | incident group i hkind => exact if_pos hkind
    _ = _ := Action.run_bind_pure (entry :: ·) (vault.healthOf rest) { w with backend := s }

theorem healthOf_cons_of_other {i : Incident}
    (hget : vault.backend.get group.current w.now w.backend = (.error (.incident i), s))
    (hkind : i.kind.isBackend = false) :
    (vault.healthOf (group :: rest)).run w =
      (.error (.reported i), { w with backend := s }) := by
  have hread := Backend.read_run_of_get hget
  have hfailure : (Failure.reported i : Failure τ).isBackend ≠ true := by
    simp [Failure.isBackend, hkind]
  apply Action.run_bind_of_error
  rw [Action.run_ofRun, hread]
  exact if_neg hfailure

/-- Either every read can be told of and there is an entry for each, or the first read that
cannot be told of ends the report with the incident that it met. -/
theorem healthOf_course (vault : Vault σ ν τ) (groups : List Group) (w : World σ ν τ) :
    (∃ entries, ((vault.healthOf groups).run w).1 = .ok entries ∧
        List.Forall₂ Tells (vault.readings w.now groups w.backend) entries) ∨
      ∃ before group i after,
        vault.readings w.now groups w.backend =
            before ++ (group, .error (.incident i)) :: after ∧
          (∀ reading ∈ before, Tellable reading.2) ∧ i.kind.isBackend = false ∧
          ((vault.healthOf groups).run w).1 = .error (.reported i) := by
  -- The induction is on the groups; each is read in the state that the reads before it left.
  induction groups generalizing w with
  | nil => exact .inl ⟨[], rfl, .nil⟩
  | cons group rest ih =>
      rcases hget : vault.backend.get group.current w.now w.backend with ⟨answer, s⟩
      have hreadings : vault.readings w.now (group :: rest) w.backend =
          (group, answer) :: vault.readings w.now rest s := by
        rw [readings, hget]
      rw [hreadings]
      rcases exists_tells_or_other group answer with ⟨entry, htells⟩ | ⟨i, rfl, hkind⟩
      · rw [healthOf_cons_of_tells hget htells]
        rcases ih { w with backend := s } with
          ⟨entries, hrun, htold⟩ | ⟨before, other, i, after, heq, hbefore, hkind, hrun⟩
        · refine .inl ⟨entry :: entries, ?_, .cons htells htold⟩
          rw [hrun]
          rfl
        · refine .inr ⟨(group, answer) :: before, other, i, after, ?_, ?_, hkind, ?_⟩
          · rw [heq]
            rfl
          · exact List.forall_mem_cons.mpr ⟨htells.tellable, hbefore⟩
          · rw [hrun]
            rfl
      · rw [healthOf_cons_of_other hget hkind]
        exact .inr ⟨[], group, i, _, rfl, List.forall_mem_nil _, hkind, rfl⟩

theorem health_run (w : World σ ν τ) :
    (vault.health.run w).1 = ((vault.healthOf vault.groups).run w).1.map HealthReport.mk := by
  rw [health, Action.run_map]

theorem exists_report_iff (w : World σ ν τ) :
    (∃ report, (vault.health.run w).1 = .ok report) ↔
      ∀ reading ∈ vault.readings w.now vault.groups w.backend, Tellable reading.2 := by
  rw [health_run]
  rcases healthOf_course vault vault.groups w with
    ⟨entries, hrun, htold⟩ | ⟨before, group, i, after, heq, -, hkind, hrun⟩
  · rw [hrun]
    exact iff_of_true ⟨_, rfl⟩ (tellable_of_told htold)
  · rw [hrun, heq]
    refine iff_of_false (by rintro ⟨report, ⟨⟩⟩) ?_
    intro htellable
    have hother := htellable (group, .error (.incident i)) (by simp) i rfl
    rw [hkind] at hother
    cases hother

/-! ## Reports over the backends of the library -/

/-- A configuration with the standard groups, which are kept in config maps. -/
def clusterGroups : Configuration :=
  { ruleGroups with backend := .configmap, groups := Group.standard }

/-- Over collections in memory every group is well. -/
theorem health_of_memory {vault : Vault (Memory τ) ν τ} {delay : τ}
    (hbackend : vault.backend = Memory.backend delay) (w : World (Memory τ) ν τ) :
    ∃ report, (vault.health.run w).1 = .ok report ∧ report.word = wellWord := by
  have hanswers : ∀ reading ∈ vault.readings w.now vault.groups w.backend,
      ∃ observed, reading.2 = .ok observed := by
    refine vault.forall_readings (P := fun answer => ∃ observed, answer = .ok observed)
      (I := fun _ => True) ?_ _ trivial
    rw [hbackend]
    exact fun c s _ => ⟨⟨_, rfl⟩, trivial⟩
  rw [health_run]
  rcases healthOf_course vault vault.groups w with
    ⟨entries, hrun, htold⟩ | ⟨before, group, i, after, heq, -⟩
  · rw [hrun]
    refine ⟨_, rfl, (HealthReport.word_eq_wellWord_iff _).mpr ?_⟩
    intro entry hentry
    obtain ⟨reading, hreading, htells⟩ := exists_reading_of_told htold entry hentry
    exact htells.word_eq_wellWord_iff.mpr (.inl (hanswers reading hreading))
  · obtain ⟨observed, hok⟩ := hanswers (group, .error (.incident i)) (by simp [heq])
    cases hok

omit [TimeScale τ] in
theorem tellable_get_of_server {server : ConfigMapServer σ}
    (hserver : ∀ name s i, (server.read name s).1 ≠ .error (.incident i)) (c : String)
    (now : τ) (s : σ) : Tellable ((server.backend : Backend σ τ).get c now s).1 := by
  intro i hincident
  simp only [ConfigMapServer.backend] at hincident
  rcases hread : server.read c s with ⟨fault | object, s'⟩
  · rw [hread] at hincident
    cases hincident
    exact absurd (congrArg Prod.fst hread) (hserver c s i)
  · rw [hread] at hincident
    cases hincident

/-- Over a server of config maps that only fails with trouble there is a report. -/
theorem health_of_configMaps {vault : Vault σ ν τ} {server : ConfigMapServer σ}
    (hbackend : vault.backend = server.backend)
    (hserver : ∀ name s i, (server.read name s).1 ≠ .error (.incident i))
    (w : World σ ν τ) : ∃ report, (vault.health.run w).1 = .ok report := by
  rw [exists_report_iff]
  refine vault.forall_readings (P := Tellable) (I := fun _ => True) ?_ _ trivial
  rw [hbackend]
  exact fun c s _ => ⟨tellable_get_of_server hserver c w.now s, trivial⟩

/-- Over a cluster that has to be found first, and whose server only fails with trouble,
there is a report only when it was found. -/
theorem health_of_client_iff {κ : Type} {vault : Vault (Option κ) ν τ}
    {client : ClusterClient κ} {namespaceName : String} {access : ClusterAccess}
    (hbackend : vault.backend = client.backend namespaceName access)
    (hserver : ∀ name s i,
      ((client.server namespaceName).read name s).1 ≠ .error (.incident i))
    (w : World (Option κ) ν τ) :
    (∃ report, (vault.health.run w).1 = .ok report) ↔
      (∃ found, w.backend = some found) ∨ vault.groups = [] := by
  rw [exists_report_iff]
  cases hfound : w.backend with
  | some found =>
      refine iff_of_true ?_ (.inl ⟨found, rfl⟩)
      refine vault.forall_readings (P := Tellable) (I := fun s => ∃ found, s = some found)
        ?_ _ ⟨found, rfl⟩
      rintro c _ ⟨s, rfl⟩
      rw [hbackend]
      exact ⟨tellable_get_of_server hserver c w.now s, _, rfl⟩
  | none =>
      cases vault.groups with
      | nil => simp [readings]
      | cons group rest =>
          refine iff_of_false ?_ (by simp)
          intro htellable
          have hanswer : (vault.backend.get group.current w.now none).1 =
              .error notConnected := by
            rw [hbackend]
            rfl
          have hother := List.forall_mem_cons.mp htellable
          cases hother.1 _ hanswer

/-- In a vault whose groups are accepted, the report on health is given exactly when every
read of current values can be told of, and then it covers the groups.  It fails with the
incident of the first read that cannot be told of. -/
theorem health_reports_iff (hgroups : checkGroups vault.groups = .ok ())
    (w : World σ ν τ) :
    let readings := vault.readings w.now vault.groups w.backend
    ((∃ report, (vault.health.run w).1 = .ok report) ↔
        ∀ reading ∈ readings, Tellable reading.2) ∧
      (∀ report, (vault.health.run w).1 = .ok report →
        report.Covers vault.groups readings) ∧
      ∀ failure, (vault.health.run w).1 = .error failure →
        ∃ before group i after,
          readings = before ++ (group, .error (.incident i)) :: after ∧
            (∀ reading ∈ before, Tellable reading.2) ∧ i.kind.isBackend = false ∧
            failure = .reported i := by
  intro readings
  refine ⟨exists_report_iff w, ?_⟩
  rw [health_run]
  rcases healthOf_course vault vault.groups w with
    ⟨entries, hrun, htold⟩ | ⟨before, group, i, after, heq, hbefore, hkind, hrun⟩
  · rw [hrun]
    constructor
    · rintro report ⟨⟩
      exact covers_of_told hgroups htold
    · rintro failure ⟨⟩
  · rw [hrun]
    constructor
    · rintro report ⟨⟩
    · rintro failure ⟨⟩
      exact ⟨before, group, i, after, heq, hbefore, hkind, rfl⟩

/-- Groups of a server of config maps, of which one lacks its map and one meets a gateway
that is gone. -/
theorem health_reports_iff_gateway_gone :
    let gone : Incident := .make .backendRead "the gateway is gone"
      IncidentKind.backendRead.code [("collection_id", .text "alertmanager-config")] []
    let plan : OutagePlan Unit := fun _ c _ =>
      (if c = "alertmanager-config" then some (.fails (.incident gone)) else none, ())
    let backend : Backend (Disturbed Cluster Unit) Rat :=
      Cluster.server.backend.disturbed plan
    let vault := clusterGroups.vaultOn idle backend ⟨1 / 4, 1⟩
    let w : World (Disturbed Cluster Unit) (KeyMap Checker) Rat :=
      ⟨⟨.ofList [("alertrules", ⟨none, ∅⟩)], (), []⟩, clusterGroups.checkers [], 0⟩
    let readings := vault.readings w.now vault.groups w.backend
    checkGroups vault.groups = .ok () ∧ (∀ reading ∈ readings, Tellable reading.2) ∧
      ∃ report, (vault.health.run w).1 = .ok report ∧ report.Covers vault.groups readings ∧
        report.groups.map GroupHealth.word =
          ["Unable to read prometheus-config: (404)\nReason: Not Found\n", "ok",
            "the gateway is gone"] ∧
        report.word = "degraded" := by
  intro gone plan backend vault w readings
  have hgroups : checkGroups vault.groups = .ok () :=
    checkGroups_eq_ok_iff.mpr (by decide)
  have hwords : (vault.health.run w).1.toOption.map
      (fun report => (report.groups.map GroupHealth.word, report.word)) =
        some (["Unable to read prometheus-config: (404)\nReason: Not Found\n", "ok",
          "the gateway is gone"], "degraded") := by
    decide +kernel
  obtain ⟨htellable, hcovers, -⟩ := health_reports_iff hgroups w
  rcases hrun : (vault.health.run w).1 with failure | report
  · rw [hrun] at hwords
    cases hwords
  · rw [hrun] at hwords
    have htold : some (report.groups.map GroupHealth.word, report.word) = some _ := hwords
    obtain ⟨hentries, hword⟩ := Prod.mk.inj (Option.some.inj htold)
    exact ⟨hgroups, htellable.mp ⟨report, hrun⟩, report, rfl, hcovers report hrun, hentries,
      hword⟩

/-- An accepted configuration whose vault fails to tell of its health before the cluster
was looked for. -/
theorem unconnected_health_fails :
    let client : ClusterClient Cluster := ⟨fun _ => .ok .empty, fun _ => Cluster.server⟩
    let cluster := clusterGroups.cluster
    let backend : Backend (Option Cluster) Float :=
      client.backend cluster.namespaceName cluster.access
    let vault := clusterGroups.vaultOn idle backend clusterGroups.confirmation
    let w : World (Option Cluster) (KeyMap Checker) Float :=
      ⟨none, clusterGroups.checkers [], 0⟩
    clusterGroups.createBackend client = .configMaps backend none ∧
      clusterGroups.vault idle backend = .ok vault ∧
      (vault.health.run w).1 = .error (.reported (.configuration
        "ConfigMapBackend used before connect()" "BACKEND_NOT_CONNECTED" [])) ∧
      ¬∃ report, (vault.health.run w).1 = .ok report := by
  intro client cluster backend vault w
  have hgroups : checkGroups clusterGroups.groups = .ok () :=
    checkGroups_eq_ok_iff.mpr (by decide)
  have hfails : (vault.health.run w).1 = .error (.reported (.configuration
      "ConfigMapBackend used before connect()" "BACKEND_NOT_CONNECTED" [])) := rfl
  refine ⟨rfl, ?_, hfails, ?_⟩
  · rw [Configuration.vault_eq, hgroups]
    rfl
  · rintro ⟨report, hreport⟩
    rw [hfails] at hreport
    cases hreport

end Vault

end ConfigVault
