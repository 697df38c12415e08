import ConfigVault.Store
import ConfigVault.Text.Case

/-!
# Vaults

A vault is one backend with a store for each of its groups.  It is put in order before use, when the
level of its log is set and the backend connected, and can tell whether the current values of every
group can be read.
-/

namespace ConfigVault

/-- A vault with the checks of its groups under their names. -/
structure Vault (σ ν τ : Type) where
  backend : Backend σ τ
  confirmation : Confirmation τ
  retention : Retention
  logLevel : String
  groups : List Group
  check : String → Check ν

/-- A vault in use. -/
structure VaultState (σ ν τ : Type) where
  world : World σ ν τ
  initialized : Bool

/-- Takes a vault out of use. -/
def VaultState.shutdown {σ ν τ : Type} (s : VaultState σ ν τ) : VaultState σ ν τ :=
  { s with initialized := false }

def logLevels : List String :=
  ["CRITICAL", "FATAL", "ERROR", "WARN", "WARNING", "INFO", "DEBUG", "NOTSET"]

/-- The word names a level, in any case. -/
def isLogLevel (word : String) : Bool :=
  logLevels.contains (Text.upper word)

/-- The first name that a list of groups holds twice. -/
def duplicateName? (seen : List String) : List Group → Option String
  | [] => none
  | group :: rest =>
    if seen.contains group.name then some group.name
    else duplicateName? (group.name :: seen) rest

/-- What a vault tells of a group's current values: nothing when they can be read, a message
otherwise. -/
abbrev GroupHealth := String × Option String

/-- The word for a group that can be read. -/
def wellWord : String := "ok"

/-- What a report says about a group. -/
def GroupHealth.word (g : GroupHealth) : String :=
  g.2.getD wellWord

/-- The report on the health of a vault. -/
structure HealthReport where
  groups : List GroupHealth

/-- The report says of all groups that they can be read. -/
def HealthReport.isOk (r : HealthReport) : Bool :=
  r.groups.all fun g => g.word == wellWord

/-- The word for the vault as a whole. -/
def HealthReport.word (r : HealthReport) : String :=
  if r.isOk then wellWord else "degraded"

namespace Vault

variable {σ ν τ : Type}

/-- Refuses lists of groups with a name that is used twice. -/
def checkGroups (groups : List Group) : Except Incident Unit :=
  match duplicateName? [] groups with
  | some name =>
    .error (.configuration ("Duplicate artifact group: " ++ name) "DUPLICATE_GROUP"
      [("group", .text name)])
  | none => .ok ()

variable (vault : Vault σ ν τ)

def storeOf (group : Group) : Store σ ν τ where
  backend := vault.backend
  confirmation := vault.confirmation
  group := group
  check := vault.check group.name
  retention := vault.retention

def store (name : String) : Except Incident (Store σ ν τ) :=
  match vault.groups.find? (·.name == name) with
  | some group => .ok (vault.storeOf group)
  | none =>
    let known := (vault.groups.map Group.name).mergeSort fun a b => decide (a ≤ b)
    .error (.configuration ("Unknown artifact group: " ++ name) "UNKNOWN_GROUP"
      [("group", .text name), ("known", .list (known.map .text))])

/-- Puts the vault in order.  A vault that is in order stays as it is. -/
def start (s : VaultState σ ν τ) : Except Obstacle (VaultState σ ν τ) :=
  if s.initialized then .ok s
  else if !isLogLevel vault.logLevel then
    .error (.incident (.configuration ("Unknown log level: " ++ vault.logLevel)
      "INVALID_LOG_LEVEL" [("log_level", .text vault.logLevel)]))
  else
    (vault.backend.connect s.world.backend).map fun backend =>
      ⟨{ s.world with backend }, true⟩

variable [TimeScale τ]

/-- Reads the current values of groups one after the other. -/
def healthOf : List Group → Action σ ν τ (List GroupHealth)
  | [] => pure []
  | group :: rest => do
    let entry ← Action.ofRun fun w =>
      match (vault.backend.read group.current).run w with
      | (.ok _, w) => (.ok (group.name, none), w)
      | (.error failure, w) =>
        if failure.isBackend then (.ok (group.name, some (failure.message?.getD "")), w)
        else (.error failure, w)
    return entry :: (← healthOf rest)

/-- Tells which groups can be read.  Only failures of the backend are told; others end the report. -/
def health : Action σ ν τ HealthReport :=
  HealthReport.mk <$> vault.healthOf vault.groups

end Vault

end ConfigVault
