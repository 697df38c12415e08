import ConfigVault.Backend.Memory
import ConfigVault.Settings.Configuration
import ConfigVault.Validation.Checker
import ConfigVault.Vault

/-!
# Vaults of a configuration

A configuration that names no group twice has a vault over any backend.  Each group is checked by the
checker that was given for it, or else by the one for its kind of check; the checkers of all groups
are kept side by side under the names of the groups.
-/

namespace ConfigVault

namespace Configuration

/-- The checkers of the groups: those given under the name of a group, and for the other groups those
for their kinds of check. -/
def checkers (c : Configuration) (given : List (String × Checker)) : KeyMap Checker :=
  KeyMap.ofList (c.groups.map fun group =>
    (group.name,
      ((given.find? (·.1 = group.name)).map Prod.snd).getD (group.check.checker c.tools)))

abbrev CheckerRun := Checker → String → Except CheckFailure String × Checker

/-- Passes a content through the checker under a name, which alone may change.  A name without a
checker lets everything pass. -/
def checkUnder (runs : CheckerRun) (name : String) : Check (KeyMap Checker) :=
  fun content checkers =>
    match checkers.get? name with
    | some checker =>
      let (verdict, checker) := runs checker content
      (verdict, checkers.insert name checker)
    | none => (.ok "", checkers)

def vault {σ : Type} (c : Configuration) (runs : CheckerRun) (backend : Backend σ Float) :
    Except Incident (Vault σ (KeyMap Checker) Float) := do
  Vault.checkGroups c.groups
  return {
    backend
    confirmation := c.confirmation
    retention := c.retention
    logLevel := c.logLevel
    groups := c.groups
    check := checkUnder runs }

/-- A backend with its state at the start. -/
inductive CreatedBackend (κ : Type) where
  | memory (backend : Backend (Memory Float) Float) (start : Memory Float)
  | configMaps (backend : Backend (Option κ) Float) (start : Option κ)

/-- The backend of the kind that a configuration asks for: a memory without delay, or the config maps
of a cluster that is still to be found. -/
def createBackend {κ : Type} (c : Configuration) (client : ClusterClient κ) : CreatedBackend κ :=
  match c.backend with
  | .memory => .memory (Memory.backend 0.0) KeyMap.empty
  | .configmap => .configMaps (client.backend c.cluster.namespaceName c.cluster.access) none

end Configuration

end ConfigVault
