import ConfigVault.Proofs.Settings.Merging
import ConfigVault.Settings.Configuration

/-!
# Reading of fields

What is read of fields is known from the values that are found for them.  Readers of single fields
accept no mapping, so that they cannot tell values apart that differ in the contents of mappings only.
-/

namespace ConfigVault

open Value

namespace Checked

variable {α β : Type}

@[simp] theorem map_eq_valid_iff {f : α → β} {a : Checked α} {b : β} :
    f <$> a = valid b ↔ ∃ x, a = valid x ∧ f x = b := by
  cases a with
  | valid x => simp [Functor.map, map]
  | invalid issues => simp [Functor.map, map]

@[simp] theorem seq_eq_valid_iff {f : Checked (α → β)} {a : Checked α} {b : β} :
    f <*> a = valid b ↔ ∃ g x, f = valid g ∧ a = valid x ∧ g x = b := by
  cases f <;> cases a <;> simp [Seq.seq, seq]

@[simp] theorem within_eq_valid_iff {step : PlaceStep} {a : Checked α} {x : α} :
    a.within step = valid x ↔ a = valid x := by
  cases a <;> simp [within]

end Checked

namespace FieldReader

variable {α : Type} {read : FieldReader α} {standard a : α}

def Gives (read : FieldReader α) (standard : α) (found : Option Value) (a : α) : Prop :=
  match found with
  | some v => read v = .valid a
  | none => a = standard

def Flat (read : FieldReader α) : Prop := ∀ entries a, read (.map entries) ≠ .valid a

theorem Flat.read_bare_iff (h : read.Flat) (v : Value) :
    read v.bare = .valid a ↔ read v = .valid a := by
  cases v with
  | map entries => exact iff_of_false (h [] a) (h entries a)
  | _ => rfl

theorem Flat.gives_iff (h : read.Flat) {found other : Option Value}
    (heq : found.map bare = other.map bare) :
    read.Gives standard found a ↔ read.Gives standard other a := by
  cases found with
  | none =>
      cases other with
      | none => rfl
      | some w => cases heq
  | some v =>
      cases other with
      | none => cases heq
      | some w =>
          have hbare : v.bare = w.bare := Option.some.inj heq
          unfold Gives
          dsimp only
          rw [← h.read_bare_iff v, hbare, h.read_bare_iff]

end FieldReader

theorem readField_eq_valid_iff {α : Type} {fields : Fields} {name : String} {standard a : α}
    {read : FieldReader α} :
    readField fields name (some standard) read = .valid a ↔
      read.Gives standard ((map fields).field? name) a := by
  unfold readField FieldReader.Gives
  rw [Checked.within_eq_valid_iff]
  cases (map fields).field? name with
  | some v => rfl
  | none =>
      dsimp only
      rw [Checked.valid.injEq]
      exact eq_comm

/-- What is relied on of the types of fields: only records are read from mappings, as their fields
are, and all other fields than the known ones are complained about. -/
structure FieldTypes.Documented (types : FieldTypes) : Prop where
  text : types.text.Flat
  wholeFrom : ∀ bound, (types.wholeFrom bound).Flat
  numberAbove : ∀ bound, (types.numberAbove bound).Flat
  truth : types.truth.Flat
  literal : ∀ {α : Type} (choices : List (String × α)), (types.literal choices).Flat
  enumeration : ∀ {α : Type} (choices : List (String × α)), (types.enumeration choices).Flat
  optional : ∀ {α : Type} {read : FieldReader α}, read.Flat → (types.optional read).Flat
  list : ∀ {α : Type} (read : FieldReader α), (types.list read).Flat
  record : ∀ {α : Type} (name : String) (read : Fields → Checked α) (v : Value) (a : α),
    types.record name read v = .valid a ↔ ∃ entries, v = .map entries ∧ read entries = .valid a
  checkKnown : ∀ names fields, types.checkKnown names fields = .valid () ↔
    ∀ name, ((map fields).field? name).isSome → name ∈ names

/-! ## Sections -/

def IsSection (found : Option Value) : Prop := ∀ v ∈ found, v.entries?.isSome

theorem isSection_map_bare_iff (found : Option Value) :
    IsSection (found.map bare) ↔ IsSection found := by
  unfold IsSection
  cases found with
  | none => simp
  | some v => cases v <;> simp [bare, entries?]

variable {types : FieldTypes} {fields : Fields}

theorem readSection_eq_valid_iff (htypes : types.Documented) {α : Type}
    {readAll : Fields → Checked α} {standard a : α} (hstandard : readAll [] = .valid standard)
    (label : String) (fields : Fields) (name : String) :
    readField fields name (some standard) (types.record label readAll) = .valid a ↔
      IsSection ((map fields).field? name) ∧ readAll (sectionOf fields name) = .valid a := by
  rw [readField_eq_valid_iff]
  unfold FieldReader.Gives IsSection sectionOf
  cases hfound : (map fields).field? name with
  | none =>
      simp only [Option.bind_none, Option.getD_none, hstandard, Checked.valid.injEq]
      constructor
      · intro h
        exact ⟨fun _ hv => absurd hv (by simp), h.symm⟩
      · exact fun h => h.2.symm
  | some v =>
      dsimp only
      rw [htypes.record]
      cases v <;> simp [entries?]

theorem readRetention_eq_valid_iff {r : Retention} :
    readRetention types fields = .valid r ↔
      (types.wholeFrom 1).Gives Retention.standard.keep
          ((map fields).field? "max_backup_files") r.keep ∧
        (types.wholeFrom 0).Gives Retention.standard.hours
          ((map fields).field? "max_backup_hours") r.hours := by
  unfold readRetention
  simp only [← readField_eq_valid_iff, Checked.seq_eq_valid_iff, Checked.map_eq_valid_iff]
  constructor
  · rintro ⟨_, _, ⟨_, hkeep, rfl⟩, hhours, rfl⟩
    exact ⟨hkeep, hhours⟩
  · rintro ⟨hkeep, hhours⟩
    exact ⟨_, _, ⟨_, hkeep, rfl⟩, hhours, rfl⟩

theorem readConfirmation_eq_valid_iff {c : Confirmation Float} :
    readConfirmation types fields = .valid c ↔
      (types.numberAbove 0).Gives Confirmation.standard.interval
          ((map fields).field? "poll_interval_seconds") c.interval ∧
        (types.numberAbove 0).Gives Confirmation.standard.timeout
          ((map fields).field? "timeout_seconds") c.timeout := by
  unfold readConfirmation
  simp only [← readField_eq_valid_iff, Checked.seq_eq_valid_iff, Checked.map_eq_valid_iff]
  constructor
  · rintro ⟨_, _, ⟨_, hinterval, rfl⟩, htimeout, rfl⟩
    exact ⟨hinterval, htimeout⟩
  · rintro ⟨hinterval, htimeout⟩
    exact ⟨_, _, ⟨_, hinterval, rfl⟩, htimeout, rfl⟩

theorem readTools_eq_valid_iff {t : ToolSettings} :
    readTools types fields = .valid t ↔
      types.text.Gives ToolSettings.standard.promtoolPath
          ((map fields).field? "promtool_path") t.promtoolPath ∧
        types.text.Gives ToolSettings.standard.amtoolPath
          ((map fields).field? "amtool_path") t.amtoolPath ∧
        (types.optional (types.numberAbove 0)).Gives ToolSettings.standard.timeout
          ((map fields).field? "timeout_seconds") t.timeout := by
  unfold readTools
  simp only [← readField_eq_valid_iff, Checked.seq_eq_valid_iff, Checked.map_eq_valid_iff]
  constructor
  · rintro ⟨_, _, ⟨_, _, ⟨_, hpromtool, rfl⟩, hamtool, rfl⟩, htimeout, rfl⟩
    exact ⟨hpromtool, hamtool, htimeout⟩
  · rintro ⟨hpromtool, hamtool, htimeout⟩
    exact ⟨_, _, ⟨_, _, ⟨_, hpromtool, rfl⟩, hamtool, rfl⟩, htimeout, rfl⟩

theorem readCluster_eq_valid_iff {s : ClusterSettings} :
    readCluster types fields = .valid s ↔
      types.text.Gives ClusterSettings.standard.namespaceName
          ((map fields).field? "namespace") s.namespaceName ∧
        (types.optional types.text).Gives ClusterSettings.standard.access.accessFile
          ((map fields).field? "kubeconfig") s.access.accessFile ∧
        types.truth.Gives ClusterSettings.standard.access.inCluster
          ((map fields).field? "in_cluster") s.access.inCluster := by
  unfold readCluster
  simp only [← readField_eq_valid_iff, Checked.seq_eq_valid_iff, Checked.map_eq_valid_iff]
  constructor
  · rintro ⟨_, _, ⟨_, _, ⟨_, hname, rfl⟩, hfile, rfl⟩, hinside, rfl⟩
    exact ⟨hname, hfile, hinside⟩
  · rintro ⟨hname, hfile, hinside⟩
    exact ⟨_, _, ⟨_, _, ⟨_, hname, rfl⟩, hfile, rfl⟩, hinside, rfl⟩

/-! ## Sources -/

namespace Configuration

/-- No name of a field begins with an underscore, as the words do that ask for other sources. -/
def Plain (given : Fields) : Prop :=
  ∀ e ∈ given, ∀ name, e.1.text? = some name → name.toList.head? ≠ some '_'

end Configuration

/-- What is relied on of a library of settings.  Arguments count more than the environment, and there
is no other source unless an argument asks for it.  Fields that are given under their own names are
taken as they are, and mappings of different sources are merged key by key. -/
structure SettingsLibrary.Documented (lib : SettingsLibrary) : Prop where
  types : lib.types.Documented
  priority : ∀ given vars, Configuration.Plain given →
    lib.sources given vars =
      (lib.environment vars).map fun environment => [lib.arguments given, environment]
  named : ∀ given, Configuration.Plain given → ∀ name ∈ Configuration.fieldNames, ∀ v,
    (map given).field? name = some v → (map (lib.arguments given)).field? name = some v
  merges : KeyByKey lib.merge

end ConfigVault
