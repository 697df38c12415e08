import ConfigVault.Backend.ConfigMap

/-!
# Outages

A backend whose calls are disturbed by a plan, and which keeps a log of its calls.  A disturbance
makes a call fail without effect or after it, answers a read with other data, or loses a write.  The
plan is a state of its own that is asked at every call; a script of rules is one such plan.
-/

namespace ConfigVault

/-- The calls that reach the other end of a backend. -/
inductive CallKind where
  | get
  | put
  | read
  | replace
  deriving DecidableEq, Repr

namespace CallKind

def label : CallKind → String
  | get => "get"
  | put => "put"
  | read => "read"
  | replace => "replace"

def ofLabel? (word : String) : Option CallKind :=
  [get, put, read, replace].find? fun kind => kind.label == word

end CallKind

/-- One call. -/
structure Call where
  kind : CallKind
  collection : String
  /-- Whether it went through to the other end undisturbed. -/
  reached : Bool
  deriving DecidableEq, Repr

/-- What happens to a call. -/
inductive Disturbance where
  /-- The call fails without effect. -/
  | fails (fault : Fault)
  /-- The call takes effect and fails. -/
  | breaksOff (fault : Fault)
  /-- A read is answered with other data. -/
  | answers (data : Option Collection)
  /-- A write is dropped, or a read finds nothing. -/
  | lost

/-- A plan with states `φ`: what it does to a call of a kind on a collection. -/
abbrev OutagePlan (φ : Type) := CallKind → String → φ → Option Disturbance × φ

/-- A state together with the state of a plan and the calls so far, the latest first. -/
structure Disturbed (σ φ : Type) where
  inner : σ
  plan : φ
  calls : List Call

namespace Disturbed

variable {σ φ : Type}

/-- Asks the plan about a call and puts the call into the log. -/
def ask (next : OutagePlan φ) (kind : CallKind) (collection : String) (s : Disturbed σ φ) :
    Option Disturbance × Disturbed σ φ :=
  let (d, plan) := next kind collection s.plan
  (d, ⟨s.inner, plan, ⟨kind, collection, d.isNone⟩ :: s.calls⟩)

end Disturbed

variable {σ φ τ α : Type}

def Backend.disturbed (b : Backend σ τ) (next : OutagePlan φ) : Backend (Disturbed σ φ) τ where
  get collection now s :=
    match s.ask next .get collection with
    | (some (.fails fault), s) => (.error fault, s)
    | (some (.breaksOff fault), s) =>
      (.error fault, { s with inner := (b.get collection now s.inner).2 })
    | (some (.answers data), s) => (.ok data, s)
    | (some .lost, s) => (.ok none, s)
    | (none, s) =>
      let (answer, inner) := b.get collection now s.inner
      (answer, { s with inner })
  put collection data now s :=
    match s.ask next .put collection with
    | (some (.fails fault), s) => (.error fault, s)
    | (some (.breaksOff fault), s) =>
      (.error fault, { s with inner := (b.put collection data now s.inner).2 })
    | (some _, s) => (.ok (), s)
    | (none, s) =>
      let (answer, inner) := b.put collection data now s.inner
      (answer, { s with inner })
  connect s := (b.connect s.inner).map fun inner => { s with inner }

def ConfigMapServer.disturbed (server : ConfigMapServer σ) (next : OutagePlan φ) :
    ConfigMapServer (Disturbed σ φ) where
  read name s :=
    match s.ask next .read name with
    | (some (.fails fault), s) => (.error fault, s)
    | (some (.breaksOff fault), s) =>
      (.error fault, { s with inner := (server.read name s.inner).2 })
    | (some (.answers data), s) => (.ok ⟨data, ∅⟩, s)
    | (some .lost, s) => (.ok ⟨none, ∅⟩, s)
    | (none, s) =>
      let (answer, inner) := server.read name s.inner
      (answer, { s with inner })
  replace name object s :=
    match s.ask next .replace name with
    | (some (.fails fault), s) => (.error fault, s)
    | (some (.breaksOff fault), s) =>
      (.error fault, { s with inner := (server.replace name object s.inner).2 })
    | (some _, s) => (.ok (), s)
    | (none, s) =>
      let (answer, inner) := server.replace name object s.inner
      (answer, { s with inner })

/-- A rule of a script: it applies to the calls of a kind, on one collection or on all, lets the
first `skip` of them pass, and strikes the next `times` or all that follow. -/
structure OutageRule where
  kind : CallKind
  collection : Option String
  skip : Nat
  times : Option Nat
  effect : String → Disturbance

/-- What the first rule that strikes does to a call.  A rule that lets a call pass has counted it. -/
def OutageRule.strike (kind : CallKind) (collection : String) :
    List OutageRule → Option Disturbance × List OutageRule
  | [] => (none, [])
  | rule :: rest =>
    let pass (rule : OutageRule) :=
      let (d, rest) := strike kind collection rest
      (d, rule :: rest)
    if rule.kind ≠ kind || rule.collection.any (· ≠ collection) then pass rule
    else if 0 < rule.skip then pass { rule with skip := rule.skip - 1 }
    else
      match rule.times with
      | none => (some (rule.effect collection), rule :: rest)
      | some 0 => pass rule
      | some (n + 1) => (some (rule.effect collection), { rule with times := some n } :: rest)

end ConfigVault
