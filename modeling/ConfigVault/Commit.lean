import ConfigVault.Backend.Basic

/-!
# Confirmed writes

A write counts as done when it has been read back.  After the backend took it, the collection is read
at once and then at even intervals until the read shows the data, a read fails, or the next read
would lie beyond the timeout.  A write that was not seen in time may still take effect later.
-/

namespace ConfigVault

/-- How long and how often a write is looked for. -/
structure Confirmation (τ : Type) where
  interval : τ
  timeout : τ
  deriving DecidableEq

/-- What the operations of a vault act on: the state of the backend, the state of the checks and the
time. -/
structure World (σ ν τ : Type) where
  backend : σ
  checks : ν
  now : τ

/-- An operation that may fail; what it did before it failed stays done. -/
abbrev Action (σ ν τ α : Type) := ExceptT (Failure τ) (StateM (World σ ν τ)) α

namespace Action

variable {σ ν τ α : Type}

def run (a : Action σ ν τ α) (w : World σ ν τ) : Except (Failure τ) α × World σ ν τ :=
  a w

def ofRun (f : World σ ν τ → Except (Failure τ) α × World σ ν τ) : Action σ ν τ α :=
  f

/-- An operation that fails when the given result does. -/
def ofExcept (r : Except (Failure τ) α) : Action σ ν τ α :=
  fun w => (r, w)

end Action

namespace Backend

variable {σ ν τ : Type} (b : Backend σ τ)

/-- Reads a collection as the backend answers. -/
def observe (collection : String) : Action σ ν τ (Option Collection) :=
  .ofRun fun w =>
    match b.get collection w.now w.backend with
    | (.ok observed, s) => (.ok observed, { w with backend := s })
    | (.error fault, s) => (.error (.ofRead collection fault), { w with backend := s })

/-- Reads a collection; no data is the empty collection. -/
def read (collection : String) : Action σ ν τ Collection :=
  shown <$> b.observe collection

/-- Hands a collection to the backend. -/
def send (collection : String) (m : Collection) : Action σ ν τ Unit :=
  .ofRun fun w =>
    match b.put collection m w.now w.backend with
    | (.ok (), s) => (.ok (), { w with backend := s })
    | (.error fault, s) => (.error (.ofWrite collection fault), { w with backend := s })

variable [TimeScale τ]

/-- Reads a collection until it shows the data, sleeping at most `sleeps` times in between. -/
def await (c : Confirmation τ) (collection : String) (m : Collection) (started : τ) :
    (sleeps : Nat) → World σ ν τ → Except (Failure τ) Unit × World σ ν τ
  | sleeps, w =>
    match (b.observe collection).run w with
    | (.error failure, w) => (.error failure, w)
    | (.ok observed, w) =>
      if Shows observed m then (.ok (), w)
      else
        let elapsed := w.now - started
        if c.timeout < elapsed + c.interval then
          (.error (.unconfirmed collection c.timeout elapsed), w)
        else
          match sleeps with
          | 0 => (.error (.unconfirmed collection c.timeout elapsed), w)
          | sleeps + 1 =>
            await c collection m started sleeps { w with now := w.now + c.interval }

/-- Replaces a collection and waits until the new data can be read. -/
def commit (c : Confirmation τ) (collection : String) (m : Collection) : Action σ ν τ Unit := do
  b.send collection m
  .ofRun fun w =>
    b.await c collection m w.now (TimeScale.stepsBeyond c.interval c.timeout) w

end Backend

end ConfigVault
