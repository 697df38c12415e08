/-!
# Groups

A group is a kind of artifact with the two collections that hold it: one with the current values and
one with the archived versions.  A group may hold one artifact only, or artifacts with a common
ending, and names the check that their contents have to pass.
-/

namespace ConfigVault

/-- The checks that settings can ask for. -/
inductive CheckKind where
  | prometheusConfig
  | prometheusRules
  | alertmanagerConfig
  | yaml
  | none
  deriving DecidableEq, Repr

namespace CheckKind

/-- The word for a check in settings. -/
def label : CheckKind → String
  | prometheusConfig => "prometheus_config"
  | prometheusRules => "prometheus_rules"
  | alertmanagerConfig => "alertmanager_config"
  | yaml => "yaml"
  | none => "none"

/-- All checks, in the order in which messages list them. -/
def all : List CheckKind :=
  [prometheusConfig, prometheusRules, alertmanagerConfig, yaml, none]

def ofLabel? (word : String) : Option CheckKind :=
  all.find? fun kind => kind.label == word

end CheckKind

/-- A kind of artifact. -/
structure Group where
  name : String
  /-- The collection with the current values. -/
  current : String
  /-- The collection with the archived versions. -/
  history : String
  /-- The ending that names have to carry; an empty one asks for nothing. -/
  suffix : Option String
  /-- The one name that the group holds. -/
  fixedName : Option String
  check : CheckKind
  deriving DecidableEq, Repr

namespace Group

def standard : List Group :=
  [{ name := "prometheus-config", current := "prometheus-config",
     history := "prometheus-config-versions", suffix := none,
     fixedName := some "prometheus.yml", check := .prometheusConfig },
   { name := "alertrules", current := "alertrules", history := "alertrules-versions",
     suffix := some ".rules", fixedName := none, check := .prometheusRules },
   { name := "alertmanager-config", current := "alertmanager-config",
     history := "alertmanager-config-versions", suffix := none,
     fixedName := some "alertmanager.yml", check := .alertmanagerConfig }]

end Group

end ConfigVault
