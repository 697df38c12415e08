import ConfigVault.Commit
import ConfigVault.Version.Retention

/-!
# Stores

A store keeps the artifacts of one group: their current values in one collection and their archived
versions in another.  A new value passes a check first.  The value it takes the place of is archived,
and the archive is confirmed before the new value is written, so that the old value is never lost.
Deleting takes the current value away before its versions.
-/

namespace ConfigVault

open Calendar Version

/-- A check of contents with a state of its own: it accepts a content with diagnostics or fails. -/
abbrev Check (ν : Type) := String → ν → Except CheckFailure String × ν

/-- The store of a group. -/
structure Store (σ ν τ : Type) where
  backend : Backend σ τ
  confirmation : Confirmation τ
  group : Group
  check : Check ν
  retention : Retention

/-- What became of a new value. -/
inductive PutOutcome where
  | created
  | updated
  | unchanged
  deriving DecidableEq, Repr

/-- What became of a deletion. -/
inductive DeleteOutcome where
  | deleted
  | notFound
  deriving DecidableEq, Repr

/-- An archived version: the second in which it was archived, and its content. -/
structure ArchivedVersion where
  moment : Reading
  content : String
  deriving DecidableEq

namespace Store

variable {σ ν τ : Type} [TimeScale τ] (store : Store σ ν τ)

/-- Refuses names that the group does not hold. -/
def checkName (name : String) : Action σ ν τ Unit :=
  .ofExcept ((Name.check store.group name).mapError (.name name))

def checkContent (content : String) : Action σ ν τ String :=
  .ofRun fun w =>
    match store.check content w.checks with
    | (.ok diagnostics, checks) => (.ok diagnostics, { w with checks })
    | (.error failure, checks) => (.error (.ofCheck failure), { w with checks })

def readCurrent : Action σ ν τ Collection :=
  store.backend.read store.group.current

/-- Reads the collection with the archived versions. -/
def readHistory : Action σ ν τ Collection :=
  store.backend.read store.group.history

/-- The names of all artifacts, in increasing order. -/
def listNames : Action σ ν τ (List String) :=
  KeyMap.keys <$> store.readCurrent

/-- The current value of an artifact. -/
def getCurrent (name : String) : Action σ ν τ (Option String) := do
  store.checkName name
  let current ← store.readCurrent
  return current.get? name

/-- The labels of the versions in a history that belong to a name, newest first. -/
def labelsIn (name : String) (history : Collection) : List String :=
  (Retention.order name history.keys).map (label name)

/-- The versions in a history that decode under a name, newest first. -/
def versionsIn (name : String) (history : Collection) : List ArchivedVersion :=
  (Retention.order name history.keys).filterMap fun key =>
    match decode? name key, history.get? key with
    | some moment, some content => some ⟨moment, content⟩
    | _, _ => none

/-- The timestamps of the versions of an artifact, newest first.  Keys that belong to the name but do
not decode come last, as the text behind the name. -/
def listVersions (name : String) : Action σ ν τ (List String) := do
  store.checkName name
  let history ← store.readHistory
  return labelsIn name history

/-- The versions of an artifact, newest first. -/
def listHistory (name : String) : Action σ ν τ (List ArchivedVersion) := do
  store.checkName name
  let history ← store.readHistory
  return versionsIn name history

def getVersion (name timestamp : String) : Action σ ν τ (Option String) := do
  store.checkName name
  let moment ← .ofExcept ((parseTimestamp timestamp).mapError (.timestamp timestamp))
  let history ← store.readHistory
  return history.get? (versionKey name moment)

/-- A history with a value archived in it, and trimmed. -/
def archive (limits : Retention) (name previous : String) (clock : Moment) (history : Collection) :
    Except Escape Collection :=
  match clock.inUtc? with
  | none => .error .overflow
  | some now =>
    (limits.trim name (.utc now) (history.insert (versionKey name now) previous)).map Prod.fst

/-- Makes a content that passes the check the current value of an artifact.  `clock` is the time of
the version that archives the value before it. -/
def put (name content : String) (clock : Moment) : Action σ ν τ PutOutcome := do
  store.checkName name
  let _ ← store.checkContent content
  let current ← store.readCurrent
  let history ← store.readHistory
  match current.get? name with
  | none =>
    store.backend.commit store.confirmation store.group.current (current.insert name content)
    return .created
  | some previous =>
    if previous = content then return .unchanged
    let history ← .ofExcept
      ((archive store.retention name previous clock history).mapError .escaped)
    store.backend.commit store.confirmation store.group.history history
    store.backend.commit store.confirmation store.group.current (current.insert name content)
    return .updated

/-- Takes an artifact away, and then its versions. -/
def delete (name : String) : Action σ ν τ DeleteOutcome := do
  store.checkName name
  let current ← store.readCurrent
  let history ← store.readHistory
  if current.contains name then
    store.backend.commit store.confirmation store.group.current (current.erase name)
    store.backend.commit store.confirmation store.group.history
      (history.filter fun key => !belongsTo name key)
    return .deleted
  else return .notFound

end Store

end ConfigVault
