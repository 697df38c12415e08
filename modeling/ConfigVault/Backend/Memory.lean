import ConfigVault.Backend.Basic

/-!
# A backend in memory

Each collection is a register with the data that reads see and a queue of writes that are not visible
yet.  A write becomes visible at a fixed delay after it was made; with no delay it is visible at once.
Writes are moved out of the queue by the reads of their own collection.
-/

namespace ConfigVault

/-- One collection in memory. -/
structure Register (τ : Type) where
  /-- The data that reads see. -/
  visible : Option Collection
  /-- Writes with the times at which they become visible, the oldest first. -/
  pending : List (τ × Collection)

abbrev Memory (τ : Type) := KeyMap (Register τ)

namespace Register

variable {τ : Type}

/-- A collection that was never written. -/
def empty : Register τ := ⟨none, []⟩

/-- Moves the writes at the front of the queue that are due into view. -/
def promote [TimeScale τ] (now : τ) (r : Register τ) : Register τ :=
  go r.visible r.pending
where
  go (visible : Option Collection) : List (τ × Collection) → Register τ
    | [] => ⟨visible, []⟩
    | (due, data) :: rest =>
      if due ≤ now then go (some data) rest else ⟨visible, (due, data) :: rest⟩

/-- What a read of the register answers: empty data is no data. -/
def answer (r : Register τ) : Option Collection :=
  r.visible.filter fun data => !data.isEmpty

def write [TimeScale τ] (delay now : τ) (data : Collection) (r : Register τ) : Register τ :=
  if delay ≤ TimeScale.zero then ⟨some data, r.pending⟩
  else ⟨r.visible, r.pending ++ [(now + delay, data)]⟩

end Register

namespace Memory

variable {τ : Type}

def register (m : Memory τ) (collection : String) : Register τ :=
  (m.get? collection).getD Register.empty

/-- Collections whose data is visible from the start. -/
def ofCollections (initial : List (String × Collection)) : Memory τ :=
  KeyMap.ofList (initial.map fun c => (c.1, ⟨some c.2, []⟩))

/-- The visible data of a collection, without looking for writes that are due. -/
def snapshot (m : Memory τ) (collection : String) : Collection :=
  shown (m.register collection).visible

def visible (m : Memory τ) : List (String × Collection) :=
  m.entries.filterMap fun e => e.2.visible.map (e.1, ·)

def backend [TimeScale τ] (delay : τ) : Backend (Memory τ) τ where
  get collection now m :=
    let r := (m.register collection).promote now
    (.ok r.answer, m.insert collection r)
  put collection data now m :=
    (.ok (), m.insert collection ((m.register collection).write delay now data))

end Memory

end ConfigVault
