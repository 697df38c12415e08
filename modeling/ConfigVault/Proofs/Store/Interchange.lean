import ConfigVault.Proofs.Backend.Agreement
import ConfigVault.Proofs.Store.VersionsKept

/-!
# Stores over config maps

A store does not tell a cluster of config maps from a backend in memory without a delay.
The two answer an empty collection differently, and a write to a config map is a read and
a replacement, but no call of a store shows that: whole runs give the same answers and
leave the same data.  The run over config maps replaces those of the group only, and the
labels of all of them stay.
-/

namespace ConfigVault

variable {σ σ' ν τ φ : Type}

/-! ## Stores over backends that agree -/

namespace Store

variable [TimeScale τ] {store : Store σ ν τ} {b : Backend σ' τ} {Tied : σ → σ' → Prop}

theorem withBackend_agree (hagrees : store.backend.Agrees b Tied store.group.Uses) :
    store.Related (Action.agreeing ν τ Tied) (store.withBackend b) where
  group := rfl
  retention := rfl
  checkContent content := by
    intro w w' h
    rw [checkContent_run, checkContent_run, ← h.checks]
    exact ⟨rfl, h.backend, rfl, h.now⟩
  read _ huses := hagrees.read_agree huses
  commit _ m huses := hagrees.commit_agree huses store.confirmation m

/-- Whole runs of stores over backends that agree give the same answers. -/
theorem performPaced_agree (hagrees : store.backend.Agrees b Tied store.group.Uses)
    (calls : List (τ × Operation)) {w : World σ ν τ} {w' : World σ' ν τ}
    (h : World.Alike Tied w w') :
    (store.performPaced calls w).1 = ((store.withBackend b).performPaced calls w').1 ∧
      World.Alike Tied (store.performPaced calls w).2
        ((store.withBackend b).performPaced calls w').2 := by
  induction calls generalizing w w' with
  | nil => exact ⟨rfl, h⟩
  | cons call calls ih =>
      obtain ⟨pause, op⟩ := call
      have hlater : World.Alike Tied (w.later pause) (w'.later pause) :=
        ⟨h.backend, h.checks, congrArg (· + pause) h.now⟩
      obtain ⟨hanswer, hnext⟩ := (withBackend_agree hagrees).perform op _ _ hlater
      obtain ⟨hanswers, hend⟩ := ih hnext
      simp only [performPaced]
      exact ⟨congrArg₂ List.cons hanswer hanswers, hend⟩

end Store

/-! ## Servers of config maps -/

/-- A server whose reads return the object that was put in place last, up to the
difference between no data and empty data.  `objects` is what it keeps, and `replaced` the
names that were replaced so far, the latest first. -/
structure ConfigMapServer.Faithful (server : ConfigMapServer σ) (objects : σ → Cluster)
    (replaced : σ → List String) : Prop where
  read : ∀ {s : σ} {name : String} {object : ConfigMap},
    (objects s).get? name = some object →
      ∃ answer s', server.read name s = (.ok answer, s') ∧
        shown answer.data = shown object.data ∧ answer.labels = object.labels ∧
        objects s' = objects s ∧ replaced s' = replaced s
  replace : ∀ {s : σ} {name : String} {object : ConfigMap} (new : ConfigMap),
    (objects s).get? name = some object →
      ∃ s', server.replace name new s = (.ok (), s') ∧
        objects s' = (objects s).insert name new ∧ replaced s' = name :: replaced s

/-- The names of the config maps that were replaced, the latest first. -/
def Disturbed.replaced (s : Disturbed σ φ) : List String :=
  (s.calls.filter fun call => decide (call.kind = .replace)).map Call.collection

/-- A cluster whose calls are put into a log and all pass is faithful. -/
theorem Cluster.server_faithful {next : OutagePlan φ}
    (hpass : ∀ kind c p, (next kind c p).1 = none) :
    (server.disturbed next).Faithful Disturbed.inner Disturbed.replaced := by
  constructor
  · intro s name object hobject
    refine ⟨object, ⟨s.inner, (next .read name s.plan).2, ⟨.read, name, true⟩ :: s.calls⟩,
      ?_, rfl, rfl, rfl, rfl⟩
    simp only [ConfigMapServer.disturbed, Disturbed.ask, hpass, server, hobject]
    rfl
  · intro s name object new _
    refine ⟨⟨s.inner.insert name new, (next .replace name s.plan).2,
      ⟨.replace, name, true⟩ :: s.calls⟩, ?_, rfl, rfl⟩
    simp only [ConfigMapServer.disturbed, Disturbed.ask, hpass, server]
    rfl

/-- The config maps hold the data in memory.  Since the start only covered ones were
replaced, and the labels of all are the same. -/
structure Memory.HeldBy (objects : σ → Cluster) (replaced : σ → List String)
    (Covers : String → Prop) (start : σ) (m : Memory τ) (s : σ) : Prop where
  settled : m.Settled
  data : ∀ c, Covers c → ∃ object, (objects s).get? c = some object ∧
    shown object.data = m.snapshot c
  labels : ∀ c, ((objects s).get? c).map ConfigMap.labels =
    ((objects start).get? c).map ConfigMap.labels
  others : ∀ c, ¬Covers c → (objects s).get? c = (objects start).get? c
  replaced : ∃ names, replaced s = names ++ replaced start ∧ ∀ c ∈ names, Covers c

namespace ConfigMapServer.Faithful

variable {server : ConfigMapServer σ} {objects : σ → Cluster} {replaced : σ → List String}
  {Covers : String → Prop} {start : σ} (hserver : server.Faithful objects replaced)

include hserver

theorem backend_get {s : σ} {c : String} {object : ConfigMap}
    (hobject : (objects s).get? c = some object) (now : τ) :
    ∃ observed s', server.backend.get c now s = (.ok observed, s') ∧
      shown observed = shown object.data ∧ objects s' = objects s ∧
      replaced s' = replaced s := by
  obtain ⟨answer, s', hread, hdata, -, hkept⟩ := hserver.read hobject
  refine ⟨answer.data, s', ?_, hdata, hkept⟩
  simp only [backend, hread]

theorem backend_put {s : σ} {c : String} {object : ConfigMap}
    (hobject : (objects s).get? c = some object) (m : Collection) (now : τ) :
    ∃ s', server.backend.put c m now s = (.ok (), s') ∧
      objects s' = (objects s).insert c ⟨some m, object.labels⟩ ∧
      replaced s' = c :: replaced s := by
  obtain ⟨answer, s₁, hread, -, hlabels, hkept, hquiet⟩ := hserver.read hobject
  rw [← hkept] at hobject
  obtain ⟨s₂, hreplace, hobjects, hreplaced⟩ :=
    hserver.replace ⟨some m, answer.labels⟩ hobject
  refine ⟨s₂, ?_, ?_, ?_⟩
  · simp only [backend, hread, hreplace]
  · rw [hobjects, hkept, hlabels]
  · rw [hreplaced, hquiet]

variable [TimeScale τ]

/-- The backend in memory without a delay agrees with the one over config maps on those
that exist. -/
theorem agrees {immediate : τ} (himmediate : immediate ≤ TimeScale.zero) :
    (Memory.backend immediate).Agrees server.backend
      (Memory.HeldBy objects replaced Covers start) Covers := by
  constructor
  · intro m s c now hcovers hheld
    obtain ⟨object, hobject, hdata⟩ := hheld.data c hcovers
    obtain ⟨m', hget, hsettled, hsnapshot⟩ :=
      Memory.backend_get hheld.settled immediate c now
    obtain ⟨observed, s', hget', hshown, hobjects, hreplaced⟩ :=
      hserver.backend_get hobject now
    rw [hget, hget']
    constructor
    · rw [Except.map, Except.map, hshown, hdata, Register.shown_answer]
      rfl
    · exact ⟨hsettled, by rw [hobjects, hsnapshot]; exact hheld.data,
        by rw [hobjects]; exact hheld.labels, by rw [hobjects]; exact hheld.others,
        by rw [hreplaced]; exact hheld.replaced⟩
  · intro m s c data now hcovers hheld
    obtain ⟨object, hobject, -⟩ := hheld.data c hcovers
    obtain ⟨m', hput, hsettled, hsnapshot⟩ :=
      Memory.backend_put himmediate hheld.settled c data now
    obtain ⟨s', hput', hobjects, hreplaced⟩ := hserver.backend_put hobject data now
    rw [hput, hput']
    refine ⟨rfl, hsettled, ?_, ?_, ?_, ?_⟩
    · intro c' hcovers'
      rw [hobjects, KeyMap.get?_insert, hsnapshot]
      by_cases hc : c = c'
      · subst hc
        rw [if_pos rfl, Function.update_self]
        exact ⟨_, rfl, rfl⟩
      · rw [if_neg hc, Function.update_of_ne (Ne.symm hc)]
        exact hheld.data c' hcovers'
    · intro c'
      rw [← hheld.labels c', hobjects, KeyMap.get?_insert]
      split
      · next hc => rw [← hc, hobject]; rfl
      · rfl
    · intro c' hother
      rw [← hheld.others c' hother, hobjects, KeyMap.get?_insert, if_neg]
      rintro rfl
      exact hother hcovers
    · obtain ⟨names, hnames, hcovered⟩ := hheld.replaced
      refine ⟨c :: names, by rw [hreplaced, hnames]; rfl, ?_⟩
      intro c' hc'
      rcases List.mem_cons.mp hc' with rfl | hc'
      · exact hcovers
      · exact hcovered c' hc'

end ConfigMapServer.Faithful

/-- Over config maps that exist and hold the same data, a store answers every call of a run
as over a backend in memory without a delay.  In the end they hold the same data again, the
labels of all config maps are those of the start, and none but the two of the group was
replaced. -/
theorem Store.configMaps_interchangeable [TimeScale τ] {server : ConfigMapServer σ}
    {objects : σ → Cluster} {replaced : σ → List String}
    (hserver : server.Faithful objects replaced) {immediate : τ}
    (himmediate : immediate ≤ TimeScale.zero) {store : Store (Memory τ) ν τ}
    (hbackend : store.backend = Memory.backend immediate)
    (initial : List (String × Collection)) (start : σ)
    (hstart : ∀ c, store.group.Uses c → ∃ object, (objects start).get? c = some object ∧
      shown object.data = (Memory.ofCollections initial : Memory τ).snapshot c)
    (checks : ν) (now : τ) (calls : List (τ × Operation)) :
    let run := store.performPaced calls ⟨Memory.ofCollections initial, checks, now⟩
    let run' := (store.withBackend server.backend).performPaced calls ⟨start, checks, now⟩
    run.1 = run'.1 ∧
      Memory.HeldBy objects replaced store.group.Uses start run.2.backend run'.2.backend := by
  intro run run'
  have hagrees : store.backend.Agrees server.backend
      (Memory.HeldBy objects replaced store.group.Uses start) store.group.Uses := by
    rw [hbackend]
    exact hserver.agrees himmediate
  have hheld : Memory.HeldBy objects replaced store.group.Uses start
      (Memory.ofCollections initial : Memory τ) start :=
    ⟨Memory.ofCollections_settled initial, hstart, fun _ => rfl, fun _ _ => rfl, [], rfl,
      fun _ hc => absurd hc List.not_mem_nil⟩
  have halike : World.Alike (Memory.HeldBy objects replaced store.group.Uses start)
      (⟨Memory.ofCollections initial, checks, now⟩ : World (Memory τ) ν τ)
      (⟨start, checks, now⟩ : World σ ν τ) :=
    ⟨hheld, rfl, rfl⟩
  obtain ⟨hanswers, hend⟩ := performPaced_agree hagrees calls halike
  exact ⟨hanswers, hend.backend⟩

/-- A cluster with the config maps of the rules of alerts, one of them without data, and
with another one. -/
def threeConfigMaps : Disturbed Cluster Unit :=
  ⟨.ofList [("alertrules", ⟨some (.ofList [("a.rules", "one")]), .ofList [("app", "alerts")]⟩),
      ("alertrules-versions", ⟨none, .empty⟩),
      ("dashboards", ⟨some (.ofList [("main", "{}")]), .ofList [("app", "boards")]⟩)],
    (), []⟩

theorem Store.configMaps_interchangeable_update :
    let server := Cluster.server.disturbed passing
    let store : Store (Memory Rat) Unit Rat :=
      (rulesUnder passing .standard).withBackend (Memory.backend 0)
    let initial := [("alertrules", KeyMap.ofList [("a.rules", "one")])]
    let calls : List (Rat × Operation) :=
      [(1, .put "a.rules" "two" (.utc noon)), (5, .listHistory "a.rules"),
        (2, .delete "a.rules"), (0, .put "a.txt" "one" (.utc noon))]
    server.Faithful Disturbed.inner Disturbed.replaced ∧ (0 : Rat) ≤ TimeScale.zero ∧
      store.backend = Memory.backend 0 ∧
      (∀ c, store.group.Uses c → ∃ object, threeConfigMaps.inner.get? c = some object ∧
        shown object.data = (Memory.ofCollections initial : Memory Rat).snapshot c) ∧
      (store.performPaced calls ⟨Memory.ofCollections initial, (), 0⟩).1 =
        ((store.withBackend server.backend).performPaced calls ⟨threeConfigMaps, (), 0⟩).1 ∧
      Memory.HeldBy Disturbed.inner Disturbed.replaced store.group.Uses threeConfigMaps
        (store.performPaced calls ⟨Memory.ofCollections initial, (), 0⟩).2.backend
        ((store.withBackend server.backend).performPaced calls
          ⟨threeConfigMaps, (), 0⟩).2.backend := by
  intro server store initial calls
  have hserver : server.Faithful Disturbed.inner Disturbed.replaced :=
    Cluster.server_faithful fun _ _ _ => rfl
  have hzero : (0 : Rat) ≤ TimeScale.zero := le_refl _
  have hstart : ∀ c, store.group.Uses c → ∃ object,
      threeConfigMaps.inner.get? c = some object ∧
        shown object.data = (Memory.ofCollections initial : Memory Rat).snapshot c := by
    rintro c (rfl | rfl)
    · exact ⟨⟨some (.ofList [("a.rules", "one")]), .ofList [("app", "alerts")]⟩,
        by decide +kernel, by decide +kernel⟩
    · exact ⟨⟨none, .empty⟩, by decide +kernel, by decide +kernel⟩
  have hbackend : store.backend = Memory.backend 0 := rfl
  obtain ⟨hanswers, hheld⟩ :=
    Store.configMaps_interchangeable hserver hzero hbackend initial threeConfigMaps hstart
      () 0 calls
  exact ⟨hserver, hzero, hbackend, hstart, hanswers, hheld⟩

end ConfigVault
