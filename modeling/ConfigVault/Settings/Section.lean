import ConfigVault.Backend.ConfigMap
import ConfigVault.Backoff
import ConfigVault.Commit
import ConfigVault.Group
import ConfigVault.Settings.Library
import ConfigVault.Validation.Checker
import ConfigVault.Version.Retention

/-!
# Sections of settings

The parts of settings, each with the values of fields that are left out.  Fields that a section does
not know are passed over.
-/

namespace ConfigVault

/-- The times of writes that are given no others. -/
def Confirmation.standard : Confirmation Float := ⟨0.3, 10.0⟩

/-- Where the collections of a cluster are, and how to reach it. -/
structure ClusterSettings where
  namespaceName : String
  access : ClusterAccess
  deriving DecidableEq, Repr

def ClusterSettings.standard : ClusterSettings := ⟨"default", ⟨true, none⟩⟩

def Backoff.standard : Backoff Float := ⟨1.0, 2.0, 0.0, 5, none⟩

section

variable (types : FieldTypes) (fields : Fields)

/-- The limits of histories. -/
def readRetention : Checked Retention :=
  Retention.mk
    <$> readField fields "max_backup_files" (some Retention.standard.keep) (types.wholeFrom 1)
    <*> readField fields "max_backup_hours" (some Retention.standard.hours) (types.wholeFrom 0)

/-- The times of writes. -/
def readConfirmation : Checked (Confirmation Float) :=
  Confirmation.mk
    <$> readField fields "poll_interval_seconds" (some Confirmation.standard.interval)
      (types.numberAbove 0)
    <*> readField fields "timeout_seconds" (some Confirmation.standard.timeout)
      (types.numberAbove 0)

def readTools : Checked ToolSettings :=
  ToolSettings.mk
    <$> readField fields "promtool_path" (some ToolSettings.standard.promtoolPath) types.text
    <*> readField fields "amtool_path" (some ToolSettings.standard.amtoolPath) types.text
    <*> readField fields "timeout_seconds" (some ToolSettings.standard.timeout)
      (types.optional (types.numberAbove 0))

def readCluster : Checked ClusterSettings :=
  let standard := ClusterSettings.standard
  (fun name file inside => ⟨name, ⟨inside, file⟩⟩)
    <$> readField fields "namespace" (some standard.namespaceName) types.text
    <*> readField fields "kubeconfig" (some standard.access.accessFile) (types.optional types.text)
    <*> readField fields "in_cluster" (some standard.access.inCluster) types.truth

def readBackoff : Checked (Backoff Float) :=
  let standard := Backoff.standard
  (fun duration factor jitter (steps : Int) cap => ⟨duration, factor, jitter, steps.toNat, cap⟩)
    <$> readField fields "duration" (some standard.duration) (types.numberFrom 0)
    <*> readField fields "factor" (some standard.factor) (types.numberFrom 1)
    <*> readField fields "jitter" (some standard.jitter) (types.numberFrom 0)
    <*> readField fields "steps" (some (standard.steps : Int)) (types.wholeFrom 1)
    <*> readField fields "cap" (some standard.cap) (types.optional (types.numberAbove 0))

/-- A group; its two collections have to be different ones. -/
def readGroup : Checked Group :=
  let kinds := CheckKind.all.map fun kind => (kind.label, kind)
  let group : Checked Group :=
    Group.mk
      <$> readField fields "name" none types.filledText
      <*> readField fields "current_collection" none types.filledText
      <*> readField fields "history_collection" none types.filledText
      <*> readField fields "required_suffix" (some none) (types.optional types.text)
      <*> readField fields "fixed_name" (some none) (types.optional types.text)
      <*> readField fields "validator" (some .none) (types.enumeration kinds)
  group.andThen fun g =>
    if g.current = g.history then .complain .sameCollections else .valid g

end

end ConfigVault
