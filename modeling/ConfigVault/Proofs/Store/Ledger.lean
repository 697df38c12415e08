import ConfigVault.Proofs.Store.Operation

/-!
# Ledgers

A store as its callers think of it: every artifact has at most one current value and
a list of versions, the newest first.  A new value moves the old one to the front of
the list, and then the versions go that are both behind the newest ones and old
enough.  There are no collections, no keys and no calls.
-/

namespace ConfigVault

open Calendar Version

variable {σ ν τ : Type}

/-- The values and versions of all artifacts, with the state of the checks. -/
structure Ledger (ν : Type) where
  values : Collection
  versions : String → List ArchivedVersion
  checks : ν

namespace Ledger

/-- The versions that stay: the newest ones, and of the others those that are young. -/
def kept (limits : Retention) (now : Reading) (versions : List ArchivedVersion) :
    List ArchivedVersion :=
  versions.take limits.keep.toNat ++
    (versions.drop limits.keep.toNat).filter fun version =>
      (now.microseconds : Int) - version.moment.microseconds < limits.hours * 3600000000

variable (limits : Retention)

def replace (name content : String) (clock : Moment) (l : Ledger ν) :
    Except (Failure τ) PutOutcome × Ledger ν :=
  match l.values.get? name with
  | none => (.ok .created, { l with values := l.values.insert name content })
  | some previous =>
    if previous = content then (.ok .unchanged, l)
    else
      match clock.inUtc? with
      | none => (.error (.escaped .overflow), l)
      | some now =>
        (.ok .updated,
          { l with
            values := l.values.insert name content
            versions := Function.update l.versions name
              (kept limits now (⟨now.wholeSeconds, previous⟩ :: l.versions name)) })

variable (check : Check ν)

/-- A new value for an artifact, once its content has passed the check. -/
def put (name content : String) (clock : Moment) (l : Ledger ν) :
    Except (Failure τ) PutOutcome × Ledger ν :=
  match check content l.checks with
  | (.error failure, checks) => (.error (.ofCheck failure), { l with checks })
  | (.ok _, checks) => replace limits name content clock { l with checks }

/-- Takes an artifact away with its versions, if it has a value. -/
def delete (name : String) (l : Ledger ν) : DeleteOutcome × Ledger ν :=
  if l.values.contains name then
    (.deleted,
      { l with
        values := l.values.erase name
        versions := Function.update l.versions name [] })
  else (.notFound, l)

def contentAt (name : String) (moment : Reading) (l : Ledger ν) : Option String :=
  ((l.versions name).find? fun version => version.moment = moment).map
    ArchivedVersion.content

def perform : Operation → Ledger ν → Except (Failure τ) Reply × Ledger ν
  | .put name content clock, l =>
    let (outcome, l) := l.put limits check name content clock
    (outcome.map .put, l)
  | .delete name, l => (.ok (.deleted (l.delete name).1), (l.delete name).2)
  | .getCurrent name, l => (.ok (.value (l.values.get? name)), l)
  | .listNames, l => (.ok (.texts l.values.keys), l)
  | .listVersions name, l =>
    (.ok (.texts ((l.versions name).map fun version => formatTimestamp version.moment)), l)
  | .listHistory name, l => (.ok (.versions (l.versions name)), l)
  | .getVersion name timestamp, l =>
    match parseTimestamp timestamp with
    | .error defect => (.error (.timestamp timestamp defect), l)
    | .ok moment => (.ok (.value (l.contentAt name moment)), l)

def performAll : List Operation → Ledger ν → List (Except (Failure τ) Reply) × Ledger ν
  | [], l => ([], l)
  | op :: ops, l =>
    let (answer, l) := perform limits check op l
    let (answers, l) := performAll ops l
    (answer :: answers, l)

end Ledger

end ConfigVault
