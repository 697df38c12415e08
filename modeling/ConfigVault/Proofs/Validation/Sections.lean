import ConfigVault.Proofs.Validation.Contract
import ConfigVault.Proofs.Validation.Demand

/-!
# Sections of monitoring files

The two checks of monitoring files make their demands in an order, and a document that is
refused is refused for the first one that it does not meet.  Of the jobs the first one with
another name is told.  More keys and more jobs do no harm.
-/

namespace ConfigVault

/-! ## Demands -/

def NamesJob (jobs : List Value) (index : Nat) (name : String) : Prop :=
  ∃ job, jobs[index]? = some job ∧ job.Has "job_name" (.text name)

def configDemands : List Demand :=
  [⟨"CONFIG_EMPTY", fun doc => doc ≠ .null⟩,
    ⟨"CONFIG_NOT_MAPPING", fun doc => ∃ entries, doc = .map entries⟩,
    ⟨"SCRAPE_INTERVAL_NOT_DEFINED", fun doc =>
      ∃ settings, doc.Has "global" settings ∧ ∃ v, settings.Has "scrape_interval" v⟩,
    ⟨"RULE_FILES_NOT_DEFINED", fun doc => ∃ v, doc.Has "rule_files" v⟩,
    ⟨"SCRAPE_JOBS_NOT_DEFINED", fun doc =>
      ∃ jobs, doc.Has "scrape_configs" (.list jobs) ∧ 3 ≤ jobs.length⟩,
    ⟨"RESERVED_JOB_NOT_DEFINED", fun doc =>
      ∃ jobs, doc.Has "scrape_configs" (.list jobs) ∧ NamesJob jobs 0 "prometheus" ∧
        NamesJob jobs 1 "PushGateway" ∧ NamesJob jobs 2 "kubernetes-pods"⟩]

def rulesDemands : List Demand :=
  [⟨"RULE_EMPTY", fun doc => ¬ doc.Falsy⟩,
    ⟨"RULE_GROUPS_NOT_DEFINED", fun doc => ∃ v, doc.Has "groups" v⟩,
    ⟨"RULE_NO_GROUP", fun doc => ∃ groups, doc.Has "groups" (.list groups)⟩]

/-- At the index stands the first job that has another name than the one given for it; `found`
is the name that it has, and null for a job without a name. -/
structure FirstOtherJob (names : List String) (jobs : List Value) (index : Nat)
    (expected : String) (found : Value) : Prop where
  given : names[index]? = some expected
  other : ¬ NamesJob jobs index expected
  before : ∀ i < index, ∀ name, names[i]? = some name → NamesJob jobs i name
  found : ∃ job, jobs[index]? = some job ∧
    (job.Has "job_name" found ∨ (∀ v, ¬ job.Has "job_name" v) ∧ found = .null)

/-- The second document has the keys of the first one, with their values but for the jobs, and
its jobs begin with those of the first one. -/
structure Extends (doc extended : Value) : Prop where
  kept : ∀ name v, name ≠ "scrape_configs" → doc.Has name v → extended.Has name v
  appended : ∀ jobs, doc.Has "scrape_configs" (.list jobs) →
    ∃ more, extended.Has "scrape_configs" (.list (jobs ++ more))

/-! ## Rules -/

theorem checkRules_agrees (doc : Value) :
    Agrees RulesDefect.code (checkRules doc) rulesDemands doc := by
  unfold checkRules rulesDemands
  by_cases hfalsy : doc.Falsy
  · rw [Value.falsy_iff] at hfalsy
    rw [hfalsy]
    exact agrees_of_not_met _ (not_not_intro (Value.falsy_iff.mpr hfalsy)) rfl
  rw [if_neg (by simpa [Value.falsy_iff] using hfalsy)]
  refine .met ?_ hfalsy
  cases hgroups : doc.field? "groups" with
  | none =>
      refine agrees_of_not_met _ ?_ rfl
      rintro ⟨v, hv⟩
      rw [Value.has_iff, hgroups] at hv
      cases hv
  | some groups =>
      refine .met ?_ ⟨groups, Value.has_iff.mpr hgroups⟩
      dsimp only
      cases hitems : groups.items? with
      | none =>
          refine agrees_of_not_met _ ?_ rfl
          rintro ⟨items, hhas⟩
          rw [Value.has_iff, hgroups] at hhas
          cases hhas
          cases hitems
      | some items =>
          refine agrees_nil.met ⟨items, ?_⟩
          rw [Value.has_iff, hgroups, Value.items?_eq_some_iff.mp hitems]

/-! ## Jobs -/

theorem jobName_isText_iff {job : Value} {name : String} :
    (jobName job).isText name = true ↔ job.Has "job_name" (.text name) := by
  rw [Value.has_iff, jobName]
  cases hfield : job.field? "job_name" with
  | none => simp [Value.isText]
  | some v => cases v <;> simp [Value.isText]

theorem jobName_found (job : Value) :
    job.Has "job_name" (jobName job) ∨
      (∀ v, ¬ job.Has "job_name" v) ∧ jobName job = .null := by
  simp only [Value.has_iff, jobName]
  cases hfield : job.field? "job_name" with
  | none => simp
  | some v => simp

theorem namesJob_zero_iff {job : Value} {jobs : List Value} {name : String} :
    NamesJob (job :: jobs) 0 name ↔ (jobName job).isText name = true := by
  rw [jobName_isText_iff]
  simp [NamesJob]

theorem namesJob_succ_iff {job : Value} {jobs : List Value} {i : Nat} {name : String} :
    NamesJob (job :: jobs) (i + 1) name ↔ NamesJob jobs i name := by
  simp [NamesJob]

theorem checkJobs_eq_ok_iff {names : List String} {jobs : List Value} (index : Nat)
    (hlength : names.length ≤ jobs.length) :
    checkJobs index names jobs = .ok () ↔
      ∀ i name, names[i]? = some name → NamesJob jobs i name := by
  induction names generalizing jobs index with
  | nil => simp [checkJobs]
  | cons name names ih =>
      cases jobs with
      | nil => simp at hlength
      | cons job jobs =>
          have hrest : names.length ≤ jobs.length := by simpa using hlength
          unfold checkJobs
          by_cases hname : (jobName job).isText name = true
          · rw [if_pos hname, ih _ hrest]
            constructor
            · intro hall i other hother
              cases i with
              | zero =>
                  cases hother
                  exact namesJob_zero_iff.mpr hname
              | succ i => exact namesJob_succ_iff.mpr (hall i other hother)
            · intro hall i other hother
              exact namesJob_succ_iff.mp (hall (i + 1) other hother)
          · rw [if_neg hname]
            constructor
            · intro h
              cases h
            · intro hall
              exact absurd (namesJob_zero_iff.mp (hall 0 name rfl)) hname

/-- A job is refused where the first other name stands. -/
theorem firstOtherJob_of_checkJobs {names : List String} {jobs : List Value} {index : Nat}
    {defect : ConfigDefect} (hlength : names.length ≤ jobs.length)
    (h : checkJobs index names jobs = .error defect) :
    ∃ i expected found, FirstOtherJob names jobs i expected found ∧
      defect = .otherJob (index + i) expected found := by
  induction names generalizing jobs index with
  | nil => cases h
  | cons name names ih =>
      cases jobs with
      | nil => simp at hlength
      | cons job jobs =>
          have hrest : names.length ≤ jobs.length := by simpa using hlength
          unfold checkJobs at h
          by_cases hname : (jobName job).isText name = true
          · rw [if_pos hname] at h
            obtain ⟨i, expected, found, hfirst, rfl⟩ := ih hrest h
            refine ⟨i + 1, expected, found, ?_, by rw [Nat.add_right_comm, Nat.add_assoc]⟩
            refine ⟨hfirst.given, ?_, ?_, hfirst.found⟩
            · rw [namesJob_succ_iff]
              exact hfirst.other
            · intro j hj other hother
              cases j with
              | zero =>
                  cases hother
                  exact namesJob_zero_iff.mpr hname
              | succ j =>
                  rw [namesJob_succ_iff]
                  exact hfirst.before j (Nat.lt_of_succ_lt_succ hj) other hother
          · rw [if_neg hname] at h
            cases h
            refine ⟨0, name, jobName job, ⟨rfl, ?_, ?_, job, rfl, jobName_found job⟩, rfl⟩
            · rw [namesJob_zero_iff]
              exact hname
            · intro j hj
              exact absurd hj (Nat.not_lt_zero j)

/-! ## Configurations -/

theorem reserved_iff {jobs : List Value} :
    (∀ i name, reservedJobs[i]? = some name → NamesJob jobs i name) ↔
      NamesJob jobs 0 "prometheus" ∧ NamesJob jobs 1 "PushGateway" ∧
        NamesJob jobs 2 "kubernetes-pods" := by
  constructor
  · intro hall
    exact ⟨hall 0 _ rfl, hall 1 _ rfl, hall 2 _ rfl⟩
  · rintro ⟨h0, h1, h2⟩ i name hname
    match i with
    | 0 =>
        cases hname
        exact h0
    | 1 =>
        cases hname
        exact h1
    | 2 =>
        cases hname
        exact h2
    | i + 3 => cases hname

theorem hasInterval_iff {doc : Value} :
    (∃ settings, doc.Has "global" settings ∧ ∃ v, settings.Has "scrape_interval" v) ↔
      ¬ ((doc.field? "global").bind (·.field? "scrape_interval")).isNone = true := by
  rw [Bool.not_eq_true, Option.isNone_eq_false_iff, Option.isSome_iff_exists]
  simp only [Value.has_iff, Option.bind_eq_some_iff]
  exact ⟨fun ⟨settings, hsettings, v, hv⟩ => ⟨v, settings, hsettings, hv⟩,
    fun ⟨v, settings, hsettings, hv⟩ => ⟨settings, hsettings, v, hv⟩⟩

theorem hasRuleFiles_iff {doc : Value} :
    (∃ v, doc.Has "rule_files" v) ↔ ¬ (doc.field? "rule_files").isNone = true := by
  rw [Value.exists_has_iff, Bool.not_eq_true, Option.isNone_eq_false_iff]

/-- What is demanded of the jobs of a list that is long enough. -/
theorem checkJobs_agrees {doc : Value} {jobs : List Value}
    (hjobs : doc.Has "scrape_configs" (.list jobs))
    (hlength : reservedJobs.length ≤ jobs.length) :
    Agrees ConfigDefect.code (checkJobs 0 reservedJobs jobs) (configDemands.drop 5) doc := by
  by_cases hnames : ∀ i name, reservedJobs[i]? = some name → NamesJob jobs i name
  · rw [(checkJobs_eq_ok_iff 0 hlength).mpr hnames]
    exact agrees_nil.met ⟨jobs, hjobs, reserved_iff.mp hnames⟩
  · cases hcheck : checkJobs 0 reservedJobs jobs with
    | ok u => exact absurd ((checkJobs_eq_ok_iff 0 hlength).mp hcheck) hnames
    | error defect =>
        obtain ⟨i, expected, found, -, rfl⟩ := firstOtherJob_of_checkJobs hlength hcheck
        refine agrees_of_not_met _ ?_ rfl
        rintro ⟨other, hother, hreserved⟩
        cases hother.unique hjobs
        exact hnames (reserved_iff.mpr hreserved)

theorem checkConfig_agrees (doc : Value) :
    Agrees ConfigDefect.code (checkConfig doc) configDemands doc := by
  unfold checkConfig configDemands
  by_cases hnull : doc = .null
  · subst hnull
    exact agrees_of_not_met _ (not_not_intro rfl) rfl
  have hisNull : ¬ doc.isNull = true := by
    cases doc <;> simp_all [Value.isNull]
  rw [if_neg hisNull]
  refine .met ?_ hnull
  by_cases hmap : ∃ entries, doc = .map entries
  case neg =>
    have hisMap : (!doc.isMap) = true := by
      cases doc <;> simp_all [Value.isMap]
    rw [if_pos hisMap]
    exact agrees_of_not_met _ hmap rfl
  have hisMap : ¬ (!doc.isMap) = true := by
    obtain ⟨entries, rfl⟩ := hmap
    simp [Value.isMap]
  rw [if_neg hisMap]
  refine .met ?_ hmap
  by_cases hinterval : ((doc.field? "global").bind (·.field? "scrape_interval")).isNone = true
  · rw [if_pos hinterval]
    exact agrees_of_not_met _ (fun h => hasInterval_iff.mp h hinterval) rfl
  rw [if_neg hinterval]
  refine .met ?_ (hasInterval_iff.mpr hinterval)
  by_cases hfiles : (doc.field? "rule_files").isNone = true
  · rw [if_pos hfiles]
    exact agrees_of_not_met _ (fun h => hasRuleFiles_iff.mp h hfiles) rfl
  rw [if_neg hfiles]
  refine .met ?_ (hasRuleFiles_iff.mpr hfiles)
  cases hjobs : (doc.field? "scrape_configs").bind Value.items? with
  | none =>
      refine agrees_of_not_met _ ?_ rfl
      rintro ⟨jobs, hhas, -⟩
      rw [Value.has_list_iff, hjobs] at hhas
      cases hhas
  | some jobs =>
      have hhas : doc.Has "scrape_configs" (.list jobs) := Value.has_list_iff.mpr hjobs
      dsimp only
      by_cases hshort : jobs.length < reservedJobs.length
      · rw [if_pos hshort]
        refine agrees_of_not_met _ ?_ rfl
        rintro ⟨other, hother, hlength⟩
        cases hother.unique hhas
        exact absurd hshort (Nat.not_lt.mpr hlength)
      · rw [if_neg hshort]
        have hlength : reservedJobs.length ≤ jobs.length := Nat.not_lt.mp hshort
        exact (checkJobs_agrees hhas hlength).met ⟨jobs, hhas, hlength⟩

/-- A job is refused only after all sections are there. -/
theorem firstOtherJob_of_checkConfig {doc : Value} {defect : ConfigDefect}
    (h : checkConfig doc = .error defect) (hcode : defect.code = "RESERVED_JOB_NOT_DEFINED") :
    ∃ jobs index expected found, doc.Has "scrape_configs" (.list jobs) ∧
      FirstOtherJob reservedJobs jobs index expected found ∧
        defect = .otherJob index expected found := by
  unfold checkConfig at h
  split at h
  · cases h
    exact absurd hcode (by decide)
  split at h
  · cases h
    exact absurd hcode (by decide)
  split at h
  · cases h
    exact absurd hcode (by decide)
  split at h
  · cases h
    exact absurd hcode (by decide)
  split at h
  · cases h
    exact absurd hcode (by decide)
  next jobs hjobs =>
    split at h
    · cases h
      exact absurd hcode (by decide)
    next hlength =>
      obtain ⟨i, expected, found, hfirst, rfl⟩ :=
        firstOtherJob_of_checkJobs (Nat.not_lt.mp hlength) h
      refine ⟨jobs, i, expected, found, Value.has_list_iff.mpr hjobs, hfirst, ?_⟩
      rw [Nat.zero_add]

/-! ## Additions -/

theorem NamesJob.append {jobs : List Value} {i : Nat} {name : String} (h : NamesJob jobs i name)
    (more : List Value) : NamesJob (jobs ++ more) i name := by
  obtain ⟨job, hjob, hname⟩ := h
  have hi : i < jobs.length := (List.getElem?_eq_some_iff.mp hjob).1
  exact ⟨job, (List.getElem?_append_left hi).trans hjob, hname⟩

/-- A document that meets the demands still does after additions. -/
theorem Extends.meets {doc extended : Value} (h : Extends doc extended)
    (hall : ∀ d ∈ configDemands, d.Met doc) : ∀ d ∈ configDemands, d.Met extended := by
  simp only [configDemands, List.forall_mem_cons, List.not_mem_nil, false_imp_iff,
    implies_true, and_true] at hall ⊢
  obtain ⟨-, -, ⟨settings, hsettings, hinterval⟩, ⟨files, hfiles⟩, ⟨jobs, hjobs, hlength⟩,
    ⟨others, hothers, hfirst, hsecond, hthird⟩⟩ := hall
  cases hothers.unique hjobs
  obtain ⟨more, hmore⟩ := h.appended jobs hjobs
  have hmap := hmore.exists_eq_map
  refine ⟨?_, hmap, ?_, ?_, ?_, ?_⟩
  · rintro rfl
    obtain ⟨entries, heq⟩ := hmap
    cases heq
  · exact ⟨settings, h.kept _ _ (by decide) hsettings, hinterval⟩
  · exact ⟨files, h.kept _ _ (by decide) hfiles⟩
  · refine ⟨jobs ++ more, hmore, ?_⟩
    rw [List.length_append]
    exact Nat.le_add_right_of_le hlength
  · exact ⟨jobs ++ more, hmore, hfirst.append more, hsecond.append more, hthird.append more⟩

/-- An entry of a configuration with jobs behind its own. -/
def appendJobs (more : List Value) (e : Value × Value) : Value × Value :=
  match e.2 with
  | .list jobs => if e.1.isText "scrape_configs" then (e.1, .list (jobs ++ more)) else e
  | _ => e

theorem appendJobs_fst (more : List Value) (e : Value × Value) :
    (appendJobs more e).1 = e.1 := by
  unfold appendJobs
  split
  · split <;> rfl
  · rfl

/-- Entries behind those of a configuration and jobs behind its own are additions. -/
theorem extends_added (entries added : List (Value × Value)) (more : List Value) :
    Extends (.map entries) (.map (entries.map (appendJobs more) ++ added)) := by
  have hhas : ∀ name v, (Value.map entries).Has name v →
      (Value.map (entries.map (appendJobs more) ++ added)).Has name
        (appendJobs more (.text name, v)).2 := by
    rintro name v ⟨before, after, heq, hbefore⟩
    cases heq
    refine ⟨before.map (appendJobs more), after.map (appendJobs more) ++ added, ?_, ?_⟩
    · have hentry : appendJobs more (.text name, v) =
          (.text name, (appendJobs more (.text name, v)).2) :=
        Prod.ext (appendJobs_fst more _) rfl
      rw [List.map_append, List.map_cons, List.append_assoc, List.cons_append, ← hentry]
    · intro e he
      obtain ⟨old, hold, rfl⟩ := List.mem_map.mp he
      rw [appendJobs_fst]
      exact hbefore old hold
  constructor
  · intro name v hne hv
    have hother : (Value.text name).isText "scrape_configs" = false := by
      simpa [Value.isText] using hne
    have hsame : appendJobs more (.text name, v) = (.text name, v) := by
      unfold appendJobs
      split
      · rw [hother]
        rfl
      · rfl
    have hnew := hhas name v hv
    rwa [hsame] at hnew
  · intro jobs hjobs
    exact ⟨more, hhas _ _ hjobs⟩

/-! ## Verdicts -/

namespace SingleCheck

def Refuses (verdict : Except CheckFailure String) (code : String) : Prop :=
  ∃ rejection : Rejection, verdict = .error (.rejected rejection) ∧
    rejection.incident.code = code

variable {s : Surroundings} {load : Loader} {content : String} {doc : Value}

section ByStructure

variable {ε : Type} {name : String} {test : Value → Except ε Unit} {rejection : ε → Rejection}
  {codeOf : ε → String} {demands : List Demand}

theorem byStructure_eq_ok_iff (hread : load content = .ok doc)
    (h : Agrees codeOf (test doc) demands doc) :
    byStructure load name test rejection content = .ok "" ↔ ∀ d ∈ demands, d.Met doc := by
  have hdocument : document load name content = .ok doc := document_of_ok hread
  rw [← h.passes]
  cases htest : test doc with
  | ok u => simp [byStructure_of_pass hdocument htest]
  | error defect => simp [byStructure_of_defect hdocument htest]

theorem refuses_byStructure_iff
    (hcode : ∀ defect, (rejection defect).incident.code = codeOf defect)
    (hread : load content = .ok doc) (h : Agrees codeOf (test doc) demands doc)
    (code : String) :
    Refuses (byStructure load name test rejection content) code ↔ FailsFirst doc demands code := by
  have hdocument : document load name content = .ok doc := document_of_ok hread
  rw [← h.fails, Refuses]
  cases htest : test doc with
  | ok u => simp [byStructure_of_pass hdocument htest]
  | error defect => simp [byStructure_of_defect hdocument htest, hcode]

end ByStructure

theorem config_eq_ok_iff (hread : s.load content = .ok doc) :
    (config.run s content).1 = .ok "" ↔ ∀ d ∈ configDemands, d.Met doc :=
  byStructure_eq_ok_iff hread (checkConfig_agrees doc)

theorem refuses_config_iff (hread : s.load content = .ok doc) (code : String) :
    Refuses (config.run s content).1 code ↔ FailsFirst doc configDemands code :=
  refuses_byStructure_iff (fun _ => rfl) hread (checkConfig_agrees doc) code

/-- What is told of the first job that has another name. -/
theorem config_details (hread : s.load content = .ok doc) {r : Rejection}
    (hrun : (config.run s content).1 = .error (.rejected r))
    (hcode : r.incident.code = "RESERVED_JOB_NOT_DEFINED") :
    ∃ jobs index expected found, doc.Has "scrape_configs" (.list jobs) ∧
      FirstOtherJob reservedJobs jobs index expected found ∧
        r.incident.details = [("index", .int index), ("expected", .text expected),
          ("found", found), ("diagnostics", .text "")] := by
  have hdocument : document s.load config.name content = .ok doc := document_of_ok hread
  change byStructure _ _ _ _ _ = _ at hrun
  cases hcheck : checkConfig doc with
  | ok u =>
      rw [byStructure_of_pass hdocument hcheck] at hrun
      cases hrun
  | error defect =>
      rw [byStructure_of_defect hdocument hcheck] at hrun
      cases hrun
      obtain ⟨jobs, index, expected, found, hjobs, hfirst, rfl⟩ :=
        firstOtherJob_of_checkConfig hcheck hcode
      exact ⟨jobs, index, expected, found, hjobs, hfirst, rfl⟩

theorem rules_eq_ok_iff (hread : s.load content = .ok doc) :
    (rules.run s content).1 = .ok "" ↔ ∃ groups, doc.Has "groups" (.list groups) := by
  refine (byStructure_eq_ok_iff hread (checkRules_agrees doc)).trans ?_
  simp only [rulesDemands, List.forall_mem_cons, List.not_mem_nil, false_imp_iff,
    implies_true, and_true]
  constructor
  · rintro ⟨-, -, hgroups⟩
    exact hgroups
  · rintro ⟨groups, hgroups⟩
    refine ⟨?_, ⟨_, hgroups⟩, groups, hgroups⟩
    intro hfalsy
    obtain ⟨before, after, rfl, -⟩ := hgroups
    cases before <;> cases hfalsy

theorem refuses_rules_iff (hread : s.load content = .ok doc) (code : String) :
    Refuses (rules.run s content).1 code ↔ FailsFirst doc rulesDemands code :=
  refuses_byStructure_iff (fun _ => rfl) hread (checkRules_agrees doc) code

/-- The two checks of monitoring files accept the documents that meet all demands.  Others are
refused with the code of the first demand that they do not meet, and where it is the one on the
names of the jobs, the first other name is told with its index.  No document that counts as
false passes for a file of rules, and a configuration that is accepted still is after
additions. -/
theorem sections_checked_exactly (s : Surroundings) {content : String} {doc : Value}
    (hread : s.load content = .ok doc) :
    ((config.run s content).1 = .ok "" ↔ ∀ d ∈ configDemands, d.Met doc) ∧
    (∀ code, Refuses (config.run s content).1 code ↔
      FailsFirst doc configDemands code) ∧
    (∀ r, (config.run s content).1 = .error (.rejected r) →
      r.incident.code = "RESERVED_JOB_NOT_DEFINED" →
      ∃ jobs index expected found, doc.Has "scrape_configs" (.list jobs) ∧
        FirstOtherJob reservedJobs jobs index expected found ∧
          r.incident.details = [("index", .int index), ("expected", .text expected),
            ("found", found), ("diagnostics", .text "")]) ∧
    ((rules.run s content).1 = .ok "" ↔ ∃ groups, doc.Has "groups" (.list groups)) ∧
    (∀ code, Refuses (rules.run s content).1 code ↔ FailsFirst doc rulesDemands code) ∧
    (doc.Falsy → Refuses (rules.run s content).1 "RULE_EMPTY") ∧
    ∀ longer extended, s.load longer = .ok extended → Extends doc extended →
      (config.run s content).1 = .ok "" → (config.run s longer).1 = .ok "" := by
  refine ⟨config_eq_ok_iff hread, refuses_config_iff hread, fun r => config_details hread,
    rules_eq_ok_iff hread, refuses_rules_iff hread, ?_, ?_⟩
  · intro hfalsy
    rw [refuses_rules_iff hread]
    exact .here (not_not_intro hfalsy)
  · intro longer extended hlonger hextends haccepted
    rw [config_eq_ok_iff hread] at haccepted
    rw [config_eq_ok_iff hlonger]
    exact hextends.meets haccepted

def reservedOnly : String :=
  "global:\n  scrape_interval: 15s\nrule_files:\nscrape_configs:\n" ++
    "- job_name: prometheus\n- job_name: PushGateway\n- job_name: kubernetes-pods\n"

theorem sections_checked_exactly_reserved :
    ∃ doc, readingOnly.load reservedOnly = .ok doc ∧
      (config.run readingOnly reservedOnly).1 = .ok "" ∧
        Refuses (rules.run readingOnly reservedOnly).1 "RULE_GROUPS_NOT_DEFINED" := by
  have hchecked : ((readingOnly.load reservedOnly).toOption.any fun doc =>
      (checkConfig doc).isOk && doc.truthy && (doc.field? "groups").isNone) = true := by
    decide +kernel
  cases hread : readingOnly.load reservedOnly with
  | error failure =>
      rw [hread] at hchecked
      cases hchecked
  | ok doc =>
      rw [hread] at hchecked
      simp only [Except.toOption, Option.any_some, Bool.and_eq_true] at hchecked
      obtain ⟨⟨hconfig, htruthy⟩, hgroups⟩ := hchecked
      obtain ⟨haccepts, -, -, -, hrules, -⟩ := sections_checked_exactly readingOnly hread
      refine ⟨doc, rfl, ?_, ?_⟩
      · rw [haccepts, ← (checkConfig_agrees doc).passes]
        cases hcheck : checkConfig doc with
        | ok u => rfl
        | error defect =>
            rw [hcheck] at hconfig
            cases hconfig
      · rw [hrules]
        refine .later ?_ (.here ?_)
        · intro hfalsy
          rw [Value.falsy_iff, htruthy] at hfalsy
          cases hfalsy
        · rintro ⟨v, hv⟩
          rw [Value.has_iff] at hv
          rw [hv] at hgroups
          cases hgroups

end SingleCheck

end ConfigVault
