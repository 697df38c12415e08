import ConfigVault.Proofs.Backend.Lossy
import ConfigVault.Proofs.Backend.Watched

/-!
# The steps before the first write

Updates and deletions look at the name and then read both collections, the current
values first.  Nothing has been written until then, so over an erratic backend the
collections still hold what they held, and that is what has been read.
-/

namespace ConfigVault

variable {σ ν τ α : Type}

namespace Store

variable (store : Store σ ν τ)

/-- Both collections have been read. -/
structure BothRead (s : σ) (current history : Option Collection) (s₁ s₂ : σ) : Prop where
  got_current : ∃ now, store.backend.get store.group.current now s = (.ok current, s₁)
  got_history : ∃ now, store.backend.get store.group.history now s₁ = (.ok history, s₂)

def startCalls (current history : Option Collection) (s₁ s₂ : σ) : List (Exchange σ) :=
  [.got store.group.current (.ok current) s₁, .got store.group.history (.ok history) s₂]

/-- The calls begin with successful reads of both collections. -/
def ReadAs (es : List (Exchange σ)) (current history : Option Collection) : Prop :=
  ∃ s₁ s₂, store.startCalls current history s₁ s₂ <+: es

variable {store}

theorem writesOf_startCalls (current history : Option Collection) (s₁ s₂ : σ) :
    writesOf (store.startCalls current history s₁ s₂) = [] := rfl

section

variable {es : List (Exchange σ)} {current history : Option Collection} {s s₁ s₂ : σ}

theorem readAs_iff {current' history' : Option Collection} :
    store.ReadAs (store.startCalls current history s₁ s₂ ++ es) current' history' ↔
      current' = current ∧ history' = history := by
  constructor
  · rintro ⟨t₁, t₂, rest, heq⟩
    simp only [startCalls, List.cons_append, List.nil_append, List.cons.injEq,
      Exchange.got.injEq, Except.ok.injEq, true_and] at heq
    exact ⟨heq.1.1, heq.2.1.1⟩
  · rintro ⟨rfl, rfl⟩
    exact ⟨s₁, s₂, List.prefix_append _ _⟩

theorem not_readAs_of_unread {c : String} {fault : Fault}
    (hmem : .got c (.error fault) s ∈ es.take 2) : ¬store.ReadAs es current history := by
  rintro ⟨t₁, t₂, rest, rfl⟩
  simp [startCalls] at hmem

theorem not_readAs_of_nil : ¬store.ReadAs ([] : List (Exchange σ)) current history := by
  rintro ⟨s₁, s₂, rest, heq⟩
  simp [startCalls] at heq

end

theorem BothRead.erratic {contents : σ → String → Collection} {Settled : σ → Prop}
    (herratic : store.backend.Erratic contents Settled) {s s₁ s₂ : σ}
    {current history : Option Collection} (hread : store.BothRead s current history s₁ s₂)
    (hsettled : Settled s) :
    Backend.Holding contents Settled (contents s)
        (store.startCalls current history s₁ s₂) ∧
      Settled s₂ ∧ contents s₂ = contents s ∧
      shown current = contents s store.group.current ∧
      shown history = contents s store.group.history := by
  obtain ⟨⟨_, hgotCurrent⟩, ⟨_, hgotHistory⟩⟩ := hread
  obtain ⟨hsettled₁, hcontents₁, hcurrent⟩ := herratic.get hsettled hgotCurrent
  obtain ⟨hsettled₂, hcontents₂, hhistory⟩ := herratic.get hsettled₁ hgotHistory
  rw [hcontents₁] at hcontents₂ hhistory
  exact ⟨.cons hsettled₁ hcontents₁ (.cons hsettled₂ hcontents₂ (Backend.holding_nil _)),
    hsettled₂, hcontents₂, hcurrent _ rfl, hhistory _ rfl⟩

variable (store)

theorem checkName_run (name : String) (w : World σ ν τ) :
    (store.checkName name).run w =
      ((Name.check store.group name).mapError (Failure.name name), w) := rfl

theorem checkName_run_ok {store : Store σ ν τ} {name : String}
    (hname : Name.check store.group name = .ok ()) (w : World σ ν τ) :
    (store.checkName name).run w = (.ok (), w) := by
  rw [checkName_run, hname]
  rfl

theorem checkName_run_error {store : Store σ ν τ} {name : String} {refusal : NameRefusal}
    (hname : Name.check store.group name = .error refusal) (w : World σ ν τ) :
    (store.checkName name).run w = (.error (.name name refusal), w) := by
  rw [checkName_run, hname]
  rfl

theorem checkContent_run (content : String) (w : World σ ν τ) :
    (store.checkContent content).run w =
      ((store.check content w.checks).1.mapError Failure.ofCheck,
        { w with checks := (store.check content w.checks).2 }) := by
  rcases hcheck : store.check content w.checks with ⟨_ | _, k⟩ <;>
    simp [checkContent, hcheck, Except.mapError]

/-- Reading both collections fails at the first or the second read, or goes on with
what has been read. -/
theorem readBoth_course (f : Collection → Collection → Action (Journal σ) ν τ α)
    (w : World (Journal σ) ν τ) :
    let start := store.journaled.readCurrent >>= fun current =>
      store.journaled.readHistory >>= fun history => f current history
    (∃ now fault s, store.backend.get store.group.current now w.backend.state =
        (.error fault, s) ∧
      start.run w = (.error (.ofRead store.group.current fault),
        { w with backend :=
          ⟨s, w.backend.exchanges ++ [.got store.group.current (.error fault) s]⟩ })) ∨
    (∃ now now' current s₁ fault s,
      store.backend.get store.group.current now w.backend.state = (.ok current, s₁) ∧
      store.backend.get store.group.history now' s₁ = (.error fault, s) ∧
      start.run w = (.error (.ofRead store.group.history fault),
        { w with backend := ⟨s, w.backend.exchanges ++
          [.got store.group.current (.ok current) s₁,
            .got store.group.history (.error fault) s]⟩ })) ∨
    ∃ current history s₁ s₂,
      store.BothRead w.backend.state current history s₁ s₂ ∧
      start.run w = (f (shown current) (shown history)).run
        { w with backend :=
          ⟨s₂, w.backend.exchanges ++ store.startCalls current history s₁ s₂⟩ } := by
  intro start
  obtain ⟨answer, s₁, hgotCurrent, hreadCurrent⟩ :=
    store.backend.read_journaled (ν := ν) store.group.current w
  cases answer with
  | error fault =>
      left
      exact ⟨_, _, _, hgotCurrent,
        Action.run_bind_of_error (a := store.journaled.readCurrent) hreadCurrent _⟩
  | ok current =>
  right
  simp only [start]
  rw [Action.run_bind_of_ok (a := store.journaled.readCurrent) hreadCurrent]
  obtain ⟨answer, s₂, hgotHistory, hreadHistory⟩ :=
    store.backend.read_journaled (ν := ν) store.group.history
      { w with backend :=
        ⟨s₁, w.backend.exchanges ++ [.got store.group.current (.ok current) s₁]⟩ }
  cases answer with
  | error fault =>
      left
      refine ⟨_, _, _, _, _, _, hgotCurrent, hgotHistory, ?_⟩
      rw [Action.run_bind_of_error (a := store.journaled.readHistory) hreadHistory]
      simp
  | ok history =>
      right
      refine ⟨_, _, _, _, ⟨⟨_, hgotCurrent⟩, ⟨_, hgotHistory⟩⟩, ?_⟩
      rw [Action.run_bind_of_ok (a := store.journaled.readHistory) hreadHistory]
      simp [startCalls]

end Store

end ConfigVault
