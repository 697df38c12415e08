import ConfigVault.Proofs.Action
import ConfigVault.Proofs.Store.Operation

/-!
# Operations over two backends

A store uses its backend for two things only: it reads the collections of its group, and
it writes them and waits until they can be read back.  A relation between operations over
two backends that holds of these two, and that is kept when operations follow each other,
therefore holds of every call of two stores that differ in nothing but their backends.
-/

namespace ConfigVault

open Calendar

variable {σ σ' ν τ : Type}

/-- A relation between operations over two backends that sequences of operations keep. -/
structure Action.Relation (σ σ' ν τ : Type) where
  Rel : ∀ {α : Type}, Action σ ν τ α → Action σ' ν τ α → Prop
  ofExcept : ∀ {α : Type} (r : Except (Failure τ) α),
    Rel (Action.ofExcept r) (Action.ofExcept r)
  bind : ∀ {α β : Type} {a : Action σ ν τ α} {a' : Action σ' ν τ α}
    {f : α → Action σ ν τ β} {f' : α → Action σ' ν τ β},
    Rel a a' → (∀ x, Rel (f x) (f' x)) → Rel (a >>= f) (a' >>= f')

namespace Action.Relation

variable (R : Action.Relation σ σ' ν τ) {α β : Type}

theorem pure (x : α) : R.Rel (Pure.pure x) (Pure.pure x) :=
  R.ofExcept (.ok x)

theorem map {a : Action σ ν τ α} {a' : Action σ' ν τ α} (f : α → β) (h : R.Rel a a') :
    R.Rel (f <$> a) (f <$> a') :=
  R.bind h fun x => R.pure (f x)

end Action.Relation

def Group.Uses (group : Group) (c : String) : Prop :=
  c = group.current ∨ c = group.history

namespace Store

/-- The store that keeps its artifacts in another backend. -/
def withBackend (store : Store σ ν τ) (b : Backend σ' τ) : Store σ' ν τ where
  backend := b
  confirmation := store.confirmation
  group := store.group
  check := store.check
  retention := store.retention

/-- Stores of one group whose reads are related. -/
structure ReadRelated (R : Action.Relation σ σ' ν τ) (store : Store σ ν τ)
    (store' : Store σ' ν τ) : Prop where
  group : store'.group = store.group
  read : ∀ c, store.group.Uses c → R.Rel (store.backend.read c) (store'.backend.read c)

variable {R : Action.Relation σ σ' ν τ} {store : Store σ ν τ} {store' : Store σ' ν τ}

namespace ReadRelated

variable (h : store.ReadRelated R store')

include h

theorem checkName (name : String) : R.Rel (store.checkName name) (store'.checkName name) := by
  unfold Store.checkName
  rw [h.group]
  exact R.ofExcept _

theorem readCurrent : R.Rel store.readCurrent store'.readCurrent := by
  unfold Store.readCurrent
  rw [h.group]
  exact h.read _ (.inl rfl)

theorem readHistory : R.Rel store.readHistory store'.readHistory := by
  unfold Store.readHistory
  rw [h.group]
  exact h.read _ (.inr rfl)

theorem getVersion (name timestamp : String) :
    R.Rel (store.getVersion name timestamp) (store'.getVersion name timestamp) := by
  unfold Store.getVersion
  apply R.bind (h.checkName name)
  intro _
  apply R.bind (R.ofExcept _)
  intro moment
  exact R.map _ h.readHistory

variable [TimeScale τ]

/-- Calls that only look are related. -/
theorem perform {op : Operation} (hop : op.isRead = true) :
    R.Rel (store.perform op) (store'.perform op) := by
  cases op with
  | put | delete => cases hop
  | getCurrent name =>
      exact R.map _ (R.bind (h.checkName name) fun _ => R.map _ h.readCurrent)
  | listNames => exact R.map _ (R.map _ h.readCurrent)
  | listVersions name =>
      exact R.map _ (R.bind (h.checkName name) fun _ => R.map _ h.readHistory)
  | listHistory name =>
      exact R.map _ (R.bind (h.checkName name) fun _ => R.map _ h.readHistory)
  | getVersion name timestamp => exact R.map _ (h.getVersion name timestamp)

end ReadRelated

variable [TimeScale τ]

/-- Stores of one group whose backends are related by all that a store does with them. -/
structure Related (R : Action.Relation σ σ' ν τ) (store : Store σ ν τ)
    (store' : Store σ' ν τ) : Prop extends ReadRelated R store store' where
  retention : store'.retention = store.retention
  checkContent : ∀ content, R.Rel (store.checkContent content) (store'.checkContent content)
  commit : ∀ c m, store.group.Uses c → R.Rel (store.backend.commit store.confirmation c m)
    (store'.backend.commit store'.confirmation c m)

namespace Related

variable (h : store.Related R store')

include h

theorem put (name content : String) (clock : Moment) :
    R.Rel (store.put name content clock) (store'.put name content clock) := by
  unfold Store.put
  apply R.bind (h.checkName name)
  intro _
  apply R.bind (h.checkContent content)
  intro _
  apply R.bind h.readCurrent
  intro current
  apply R.bind h.readHistory
  intro history
  rw [h.group, h.retention]
  cases current.get? name with
  | none =>
      apply R.bind (h.commit _ _ (.inl rfl))
      exact fun _ => R.pure _
  | some previous =>
      dsimp only
      split
      · exact R.pure _
      apply R.bind (R.ofExcept _)
      intro archived
      apply R.bind (h.commit _ _ (.inr rfl))
      intro _
      apply R.bind (h.commit _ _ (.inl rfl))
      exact fun _ => R.pure _

theorem delete (name : String) : R.Rel (store.delete name) (store'.delete name) := by
  unfold Store.delete
  apply R.bind (h.checkName name)
  intro _
  apply R.bind h.readCurrent
  intro current
  apply R.bind h.readHistory
  intro history
  rw [h.group]
  split
  · apply R.bind (h.commit _ _ (.inl rfl))
    intro _
    apply R.bind (h.commit _ _ (.inr rfl))
    exact fun _ => R.pure _
  · exact R.pure _

/-- Every call of the two stores is related. -/
theorem perform (op : Operation) : R.Rel (store.perform op) (store'.perform op) := by
  cases op with
  | put name content clock => exact R.map _ (h.put name content clock)
  | delete name => exact R.map _ (h.delete name)
  | getCurrent | listNames | listVersions | listHistory | getVersion =>
      exact h.toReadRelated.perform rfl

end Related

end Store

end ConfigVault
