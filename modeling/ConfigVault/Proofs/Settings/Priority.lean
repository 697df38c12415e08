import ConfigVault.Instance.Yaml.Document
import ConfigVault.Proofs.Settings.Library

/-!
# Priority of the sources

Every setting of a configuration that is loaded comes from the first source that gives it, and has its
standard value where none does.  This holds for each field of a section on its own.  The fields of the
file are handed over as arguments, which count more than the environment.
-/

namespace ConfigVault

open Value

namespace Configuration

/-- A setting: where its field is, how it is read, its value where it is left out, and its
place in a configuration. -/
structure Setting where
  Kind : Type
  /-- The section that has the field, if it is in one. -/
  inside : Option String
  field : String
  read : FieldReader Kind
  standard : Kind
  of : Configuration → Kind

def sectionNames : List String := ["retention", "confirmation", "validators", "kubernetes"]

def settings (types : FieldTypes) : List Setting :=
  [⟨Stage, none, "environment", types.literal ([.dev, .staging, .prod].map fun s => (s.label, s)),
      .dev, fun c => c.stage⟩,
    ⟨String, none, "log_level", types.text, "INFO", fun c => c.logLevel⟩,
    ⟨BackendKind, none, "backend",
      types.enumeration ([.memory, .configmap].map fun b => (b.label, b)), .memory,
      fun c => c.backend⟩,
    ⟨Int, "retention", "max_backup_files", types.wholeFrom 1, 10, fun c => c.retention.keep⟩,
    ⟨Int, "retention", "max_backup_hours", types.wholeFrom 0, 48, fun c => c.retention.hours⟩,
    ⟨Float, "confirmation", "poll_interval_seconds", types.numberAbove 0, 0.3,
      fun c => c.confirmation.interval⟩,
    ⟨Float, "confirmation", "timeout_seconds", types.numberAbove 0, 10.0,
      fun c => c.confirmation.timeout⟩,
    ⟨String, "validators", "promtool_path", types.text, "/opt/tools/bin/promtool",
      fun c => c.tools.promtoolPath⟩,
    ⟨String, "validators", "amtool_path", types.text, "/opt/tools/bin/amtool",
      fun c => c.tools.amtoolPath⟩,
    ⟨Option Float, "validators", "timeout_seconds", types.optional (types.numberAbove 0), none,
      fun c => c.tools.timeout⟩,
    ⟨String, "kubernetes", "namespace", types.text, "default",
      fun c => c.cluster.namespaceName⟩,
    ⟨Option String, "kubernetes", "kubeconfig", types.optional types.text, none,
      fun c => c.cluster.access.accessFile⟩,
    ⟨Bool, "kubernetes", "in_cluster", types.truth, true, fun c => c.cluster.access.inCluster⟩,
    ⟨List Group, none, "groups", types.list (types.record "ArtifactGroup" (readGroup types)),
      Group.standard, fun c => c.groups⟩]

theorem eq_of_settings {types : FieldTypes} {c c' : Configuration}
    (h : ∀ s ∈ settings types, s.of c = s.of c') : c = c' := by
  obtain ⟨stage, level, backend, ⟨keep, hours⟩, ⟨interval, timeout⟩,
    ⟨promtool, amtool, limit⟩, ⟨name, inside, file⟩, groups⟩ := c
  obtain ⟨stage', level', backend', ⟨keep', hours'⟩, ⟨interval', timeout'⟩,
    ⟨promtool', amtool', limit'⟩, ⟨name', inside', file'⟩, groups'⟩ := c'
  simp only [settings, List.forall_mem_cons, List.not_mem_nil, false_imp_iff,
    implies_true, and_true] at h
  obtain ⟨rfl, rfl, rfl, rfl, rfl, rfl, rfl, rfl, rfl, rfl, rfl, rfl, rfl, rfl⟩ := h
  rfl

theorem settings_flat {types : FieldTypes} (htypes : types.Documented) :
    ∀ s ∈ settings types, s.read.Flat := by
  simp only [settings, List.forall_mem_cons, List.not_mem_nil, false_imp_iff, implies_true,
    and_true]
  exact ⟨htypes.literal _, htypes.text, htypes.enumeration _, htypes.wholeFrom 1,
    htypes.wholeFrom 0, htypes.numberAbove 0, htypes.numberAbove 0, htypes.text, htypes.text,
    htypes.optional (htypes.numberAbove 0), htypes.text, htypes.optional htypes.text,
    htypes.truth, htypes.list _⟩

def Setting.find? (s : Setting) (layers : List Fields) : Option Value :=
  match s.inside with
  | none => layers.findSome? fun fields => (map fields).field? s.field
  | some name => sectionField? name s.field layers

/-- The configuration has the setting from the first of several layers that has a value for it, or
its standard. -/
def Setting.Carries (s : Setting) (layers : List Fields) (c : Configuration) : Prop :=
  s.read.Gives s.standard (s.find? layers) (s.of c)

/-- All fields of the layers are known, and their sections are mappings. -/
structure Fit (layers : List Fields) : Prop where
  known : ∀ name, (layers.findSome? fun fields => (map fields).field? name).isSome →
    name ∈ fieldNames
  sections : ∀ name ∈ sectionNames,
    IsSection (layers.findSome? fun fields => (map fields).field? name)

/-! ## Merged layers -/

section

variable {types : FieldTypes} (htypes : types.Documented) {fields : Fields} {c : Configuration}

include htypes

theorem ofFields_eq_valid_iff_readings :
    ofFields types fields = .valid c ↔
      (types.literal ([.dev, .staging, .prod].map fun s => (s.label, s))).Gives Stage.dev
          ((map fields).field? "environment") c.stage ∧
        types.text.Gives "INFO" ((map fields).field? "log_level") c.logLevel ∧
        (types.enumeration ([.memory, .configmap].map fun b => (b.label, b))).Gives
          BackendKind.memory ((map fields).field? "backend") c.backend ∧
        (IsSection ((map fields).field? "retention") ∧
          readRetention types (sectionOf fields "retention") = .valid c.retention) ∧
        (IsSection ((map fields).field? "confirmation") ∧
          readConfirmation types (sectionOf fields "confirmation") = .valid c.confirmation) ∧
        (IsSection ((map fields).field? "validators") ∧
          readTools types (sectionOf fields "validators") = .valid c.tools) ∧
        (IsSection ((map fields).field? "kubernetes") ∧
          readCluster types (sectionOf fields "kubernetes") = .valid c.cluster) ∧
        (types.list (types.record "ArtifactGroup" (readGroup types))).Gives Group.standard
          ((map fields).field? "groups") c.groups ∧
        types.checkKnown fieldNames fields = .valid () := by
  have hretention : readRetention types [] = .valid Retention.standard := rfl
  have hconfirmation : readConfirmation types [] = .valid Confirmation.standard := rfl
  have htools : readTools types [] = .valid ToolSettings.standard := rfl
  have hcluster : readCluster types [] = .valid ClusterSettings.standard := rfl
  rw [← readSection_eq_valid_iff htypes hretention "RetentionConfig",
    ← readSection_eq_valid_iff htypes hconfirmation "ConfirmationConfig",
    ← readSection_eq_valid_iff htypes htools "ValidatorConfig",
    ← readSection_eq_valid_iff htypes hcluster "KubernetesConfig"]
  unfold ofFields
  simp only [← readField_eq_valid_iff, Checked.seq_eq_valid_iff, Checked.map_eq_valid_iff]
  constructor
  · rintro ⟨_, _, ⟨_, _, ⟨_, _, ⟨_, _, ⟨_, _, ⟨_, _, ⟨_, _, ⟨_, _, ⟨_, hstage, rfl⟩,
      hlevel, rfl⟩, hbackend, rfl⟩, hretention, rfl⟩, hconfirmation, rfl⟩, htools, rfl⟩,
      hcluster, rfl⟩, hgroups, rfl⟩, hknown, rfl⟩
    exact ⟨hstage, hlevel, hbackend, hretention, hconfirmation, htools, hcluster, hgroups,
      hknown⟩
  · rintro ⟨hstage, hlevel, hbackend, hretention, hconfirmation, htools, hcluster, hgroups,
      hknown⟩
    exact ⟨_, (), ⟨_, _, ⟨_, _, ⟨_, _, ⟨_, _, ⟨_, _, ⟨_, _, ⟨_, _, ⟨_, hstage, rfl⟩,
      hlevel, rfl⟩, hbackend, rfl⟩, hretention, rfl⟩, hconfirmation, rfl⟩, htools, rfl⟩,
      hcluster, rfl⟩, hgroups, rfl⟩, hknown, rfl⟩

theorem ofFields_eq_valid_iff :
    ofFields types fields = .valid c ↔
      ((∀ name, ((map fields).field? name).isSome → name ∈ fieldNames) ∧
        ∀ name ∈ sectionNames, IsSection ((map fields).field? name)) ∧
      ∀ s ∈ settings types, s.read.Gives s.standard
        (match s.inside with
          | none => (map fields).field? s.field
          | some name => (map (sectionOf fields name)).field? s.field) (s.of c) := by
  rw [ofFields_eq_valid_iff_readings htypes, readRetention_eq_valid_iff,
    readConfirmation_eq_valid_iff, readTools_eq_valid_iff, readCluster_eq_valid_iff,
    htypes.checkKnown]
  simp only [settings, sectionNames, List.forall_mem_cons, List.not_mem_nil, false_imp_iff,
    implies_true, and_true]
  constructor
  · rintro ⟨hstage, hlevel, hbackend, ⟨hr, hretention⟩, ⟨hc, hconfirmation⟩, ⟨ht, htools⟩,
      ⟨hk, hcluster⟩, hgroups, hknown⟩
    exact ⟨⟨hknown, hr, hc, ht, hk⟩, hstage, hlevel, hbackend, hretention.1, hretention.2,
      hconfirmation.1, hconfirmation.2, htools.1, htools.2.1, htools.2.2, hcluster.1,
      hcluster.2.1, hcluster.2.2, hgroups⟩
  · rintro ⟨⟨hknown, hr, hc, ht, hk⟩, hstage, hlevel, hbackend, hkeep, hhours, hinterval,
      htimeout, hpromtool, hamtool, hlimit, hname, hfile, hinside, hgroups⟩
    exact ⟨hstage, hlevel, hbackend, ⟨hr, hkeep, hhours⟩, ⟨hc, hinterval, htimeout⟩,
      ⟨ht, hpromtool, hamtool, hlimit⟩, ⟨hk, hname, hfile, hinside⟩, hgroups, hknown⟩

/-- Merged layers are read as their settings are found in the layers from the first one on. -/
theorem ofFields_mergeAll_eq_valid_iff {merge : Fields → Fields → Fields}
    (hmerge : KeyByKey merge) (layers : List Fields) :
    ofFields types (layers.foldr merge []) = .valid c ↔
      Fit layers ∧ ∀ s ∈ settings types, s.Carries layers c := by
  have hfield (name : String) := field?_mergeAll hmerge layers name
  have hfit : ((∀ name, ((map (layers.foldr merge [])).field? name).isSome → name ∈ fieldNames) ∧
      ∀ name ∈ sectionNames, IsSection ((map (layers.foldr merge [])).field? name)) ↔
        Fit layers := by
    have hsome (name : String) := congrArg Option.isSome (hfield name)
    simp only [Option.isSome_map] at hsome
    simp only [hsome]
    constructor
    · rintro ⟨hknown, hsections⟩
      refine ⟨hknown, fun name hname => ?_⟩
      rw [← isSection_map_bare_iff, ← hfield, isSection_map_bare_iff]
      exact hsections name hname
    · intro h
      refine ⟨h.known, fun name hname => ?_⟩
      rw [← isSection_map_bare_iff, hfield, isSection_map_bare_iff]
      exact h.sections name hname
  rw [ofFields_eq_valid_iff htypes, hfit]
  refine and_congr_right fun _ => forall₂_congr fun s hs => ?_
  refine (settings_flat htypes s hs).gives_iff ?_
  unfold Setting.find?
  cases s.inside with
  | none => exact hfield s.field
  | some name => exact field?_sectionOf_mergeAll hmerge layers name s.field

end

/-! ## Loading -/

def NamedByTexts (given : Fields) : Prop := ∀ e ∈ given, e.1.text?.isSome

theorem ofArguments_eq_ok_iff {lib : SettingsLibrary} (hlib : lib.Documented) {given : Fields}
    {vars : Variables} {c : Configuration} :
    ofArguments lib given vars = .ok c ↔
      NamedByTexts given ∧ ∃ layers, lib.sources given vars = .ok layers ∧ Fit layers ∧
        ∀ setting ∈ settings lib.types, setting.Carries layers c := by
  have hnamed : NamedByTexts given ↔ (given.any fun e => e.1.text?.isNone) = false := by
    simp [NamedByTexts, Option.isSome_iff_ne_none]
  unfold ofArguments
  rw [hnamed]
  cases given.any fun e => e.1.text?.isNone with
  | true => exact iff_of_false (by rintro ⟨⟩) (by simp)
  | false =>
      cases lib.sources given vars with
      | error failure => exact iff_of_false (by rintro ⟨⟩) (by simp)
      | ok layers =>
          simp only [bind, Except.bind, pure, Except.pure, Bool.false_eq_true, if_false,
            true_and, Except.ok.injEq, exists_eq_left']
          rw [← ofFields_mergeAll_eq_valid_iff hlib.types hlib.merges layers]
          cases ofFields lib.types (layers.foldr lib.merge []) with
          | valid c' => rw [Except.ok.injEq, Checked.valid.injEq]
          | invalid issues => exact iff_of_false (by rintro ⟨⟩) (by rintro ⟨⟩)

/-- A field that is given in the first layer under its own name is what is found for its setting. -/
theorem find?_of_given {lib : SettingsLibrary} (hlib : lib.Documented) {given : Fields}
    (hplain : Plain given) (below : List Fields) {s : Setting} (hs : s ∈ settings lib.types)
    {v : Value} (hfound : s.find? [given] = some v) :
    s.find? (lib.arguments given :: below) = some v := by
  have hnames : ∀ s ∈ settings lib.types,
      s.inside.getD s.field ∈ fieldNames := by
    simp [settings, fieldNames, plainFields, sections]
  have hname := hnames s hs
  unfold Setting.find? at hfound ⊢
  cases hinside : s.inside with
  | none =>
      rw [hinside] at hfound
      rw [hinside, Option.getD_none] at hname
      dsimp only at hfound ⊢
      rw [List.findSome?_singleton] at hfound
      rw [List.findSome?_cons, hlib.named given hplain _ hname v hfound]
  | some name =>
      rw [hinside] at hfound
      rw [hinside, Option.getD_some] at hname
      dsimp only [sectionField?] at hfound ⊢
      cases hsection : (map given).field? name with
      | none =>
          rw [hsection] at hfound
          cases hfound
      | some w =>
          rw [hsection] at hfound
          rw [hlib.named given hplain name hname w hsection]
          cases w with
          | map inner =>
              dsimp only at hfound ⊢
              rw [Option.or_none] at hfound
              rw [hfound, Option.some_or]
          | _ => cases hfound

/-- A configuration is loaded just where the file and the other sources can be read, all fields are
known and the sections are mappings.  Then it has each setting from the first source that gives it, else
its standard.  Where the file does not ask for other sources, these are the file and then the
environment: what the file gives counts, whatever the environment sets. -/
theorem load_eq_ok_iff (loader : Loader) {lib : SettingsLibrary} (hlib : lib.Documented)
    (at? : String → Option PathEntry) (path : Option String) (vars : Variables)
    (c : Configuration) :
    (load loader lib at? path vars = .ok c ↔
      ∃ given, givenFields loader at? path = .ok given ∧ NamedByTexts given ∧
        ∃ layers, lib.sources given vars = .ok layers ∧ Fit layers ∧
          ∀ setting ∈ settings lib.types, setting.Carries layers c) ∧
    ∀ given, givenFields loader at? path = .ok given → Plain given →
      (load loader lib at? path vars = .ok c ↔
        NamedByTexts given ∧ ∃ environment, lib.environment vars = .ok environment ∧
          Fit [lib.arguments given, environment] ∧
          ∀ setting ∈ settings lib.types,
            setting.Carries [lib.arguments given, environment] c) ∧
      (load loader lib at? path vars = .ok c →
        ∀ setting ∈ settings lib.types, ∀ v, setting.find? [given] = some v →
          setting.read v = .valid (setting.of c)) := by
  have hload (given : Fields) (hgiven : givenFields loader at? path = .ok given) :
      load loader lib at? path vars = ofArguments lib given vars := by
    unfold load
    rw [hgiven]
    rfl
  refine ⟨?_, ?_⟩
  · cases hgiven : givenFields loader at? path with
    | error failure =>
        unfold load
        rw [hgiven]
        exact iff_of_false (by rintro ⟨⟩) (by simp)
    | ok given =>
        rw [hload given hgiven, ofArguments_eq_ok_iff hlib]
        simp
  · intro given hgiven hplain
    have hiff : load loader lib at? path vars = .ok c ↔
        NamedByTexts given ∧ ∃ environment, lib.environment vars = .ok environment ∧
          Fit [lib.arguments given, environment] ∧
          ∀ setting ∈ settings lib.types,
            setting.Carries [lib.arguments given, environment] c := by
      rw [hload given hgiven, ofArguments_eq_ok_iff hlib, hlib.priority given vars hplain]
      cases lib.environment vars with
      | error failure => simp [Except.map]
      | ok environment => simp [Except.map]
    refine ⟨hiff, ?_⟩
    intro hloaded setting hsetting v hfound
    obtain ⟨-, environment, -, -, hcarries⟩ := hiff.mp hloaded
    have hgives := hcarries setting hsetting
    unfold Setting.Carries at hgives
    rwa [find?_of_given hlib hplain [environment] hsetting hfound] at hgives

/-- A file of settings with the given text at the usual place. -/
def onlyFile (content : String) : String → Option PathEntry := fun path =>
  if path = standardFile then some (.file content) else none

def keepThree : String := "retention:\n  max_backup_files: 3\n"

theorem givenFields_keepThree :
    ∃ given v, givenFields (Yaml.loader 488) (onlyFile keepThree) none = .ok given ∧
      Plain given ∧ sectionField? "retention" "max_backup_files" [given] = some v ∧
      FieldReader.wholeFrom 1 v = .valid 3 := by
  have hgiven : (givenFields (Yaml.loader 488) (onlyFile keepThree) none).toOption.map
      (fun given => (given.map fun e => e.1.text?,
        (sectionField? "retention" "max_backup_files" [given]).map (FieldReader.wholeFrom 1))) =
      some ([some "retention"], some (.valid 3)) := by
    decide +kernel
  cases hfields : givenFields (Yaml.loader 488) (onlyFile keepThree) none with
  | error failure =>
      rw [hfields] at hgiven
      cases hgiven
  | ok given =>
      rw [hfields] at hgiven
      obtain ⟨hnames, hvalue⟩ := Prod.mk.inj (Option.some.inj hgiven)
      obtain ⟨v, hfound, hthree⟩ := Option.map_eq_some_iff.mp hvalue
      refine ⟨given, v, rfl, ?_, hfound, hthree⟩
      intro e he name hname
      have hmem : e.1.text? ∈ given.map fun e => e.1.text? := List.mem_map_of_mem he
      rw [hnames, hname, List.mem_singleton, Option.some.injEq] at hmem
      rw [hmem]
      decide

/-- Of a section that the file and the environment both give, the file decides the field that it has
and the environment the other one. -/
theorem load_eq_ok_iff_file_first :
    let vars := [("CONFKEEPER_RETENTION__MAX_BACKUP_FILES", "20"),
      ("CONFKEEPER_RETENTION__MAX_BACKUP_HOURS", "5")]
    (library 985).Documented ∧
      ∃ given, givenFields (Yaml.loader 488) (onlyFile keepThree) none = .ok given ∧
        Plain given ∧
        ∃ c, load (Yaml.loader 488) (library 985) (onlyFile keepThree) none vars = .ok c ∧
          c.retention.keep = 3 ∧ c.retention.hours = 5 := by
  intro vars
  have hlib : (library 985).Documented := library_documented 985
  have hhours : (load (Yaml.loader 488) (library 985) (onlyFile keepThree) none
      vars).toOption.map (fun c => c.retention.hours) = some 5 := by
    decide +kernel
  obtain ⟨given, v, hgiven, hplain, hfound, hthree⟩ := givenFields_keepThree
  refine ⟨hlib, given, hgiven, hplain, ?_⟩
  cases hloaded : load (Yaml.loader 488) (library 985) (onlyFile keepThree) none vars with
  | error failure =>
      rw [hloaded] at hhours
      cases hhours
  | ok c =>
      rw [hloaded] at hhours
      refine ⟨c, rfl, ?_, Option.some.inj hhours⟩
      obtain ⟨-, hpriority⟩ := load_eq_ok_iff (Yaml.loader 488) hlib (onlyFile keepThree)
        none vars c
      obtain ⟨-, hfirst⟩ := hpriority given hgiven hplain
      let keep : Setting := ⟨Int, "retention", "max_backup_files", FieldReader.wholeFrom 1,
        10, fun c => c.retention.keep⟩
      have hkeep : keep ∈ settings (library 985).types := by
        simp [settings, keep, library, FieldReader.types]
      have hread : FieldReader.wholeFrom 1 v = .valid c.retention.keep :=
        hfirst hloaded keep hkeep v hfound
      rw [hthree] at hread
      exact (Checked.valid.inj hread).symm

/-- A file hides a variable for the same setting, which counts without the file. -/
theorem file_hides_variable :
    let vars := [("CONFKEEPER_RETENTION__MAX_BACKUP_FILES", "20")]
    let keep (at? : String → Option PathEntry) (vars : Variables) :=
      (load (Yaml.loader 488) (library 985) at? none vars).toOption.map fun c => c.retention.keep
    keep (fun _ => none) vars = some 20 ∧ keep (onlyFile keepThree) [] = some 3 ∧
      keep (onlyFile keepThree) vars = some 3 := by
  decide +kernel

end Configuration

end ConfigVault
