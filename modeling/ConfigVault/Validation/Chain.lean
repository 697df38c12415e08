import ConfigVault.Validation.Rejection

/-!
# Chains of checks

A check is a single one or a chain of checks, which may be chains again.  A chain runs its members in
order and stops at the first that does not accept; what they have to say about an accepted content is
joined line by line.  Single checks may have a state, so running a check also gives the check as it
is afterwards.
-/

namespace ConfigVault

/-- A tree of checks over single checks `α`. -/
inductive CheckTree (α : Type) where
  | single (check : α)
  | chain (members : List (CheckTree α))

/-- Joins diagnostics with line breaks; empty ones leave no trace. -/
def joinDiagnostics (diagnostics : List String) : String :=
  String.intercalate "\n" (diagnostics.filter fun d => !d.isEmpty)

namespace CheckTree

variable {α ε : Type}

mutual

def run (step : α → String → Except ε String × α) (content : String) :
    CheckTree α → Except ε String × CheckTree α
  | .single check =>
    let (verdict, check) := step check content
    (verdict, .single check)
  | .chain members =>
    let (verdicts, members) := runAll step content members
    (verdicts.map joinDiagnostics, .chain members)

def runAll (step : α → String → Except ε String × α) (content : String) :
    List (CheckTree α) → Except ε (List String) × List (CheckTree α)
  | [] => (.ok [], [])
  | tree :: rest =>
    match run step content tree with
    | (.error e, tree) => (.error e, tree :: rest)
    | (.ok diagnostics, tree) =>
      let (verdicts, rest) := runAll step content rest
      (verdicts.map (diagnostics :: ·), tree :: rest)

end

mutual

/-- The single checks of a tree from left to right. -/
def leaves : CheckTree α → List α
  | .single check => [check]
  | .chain members => leavesOf members

/-- The single checks of trees from left to right. -/
def leavesOf : List (CheckTree α) → List α
  | [] => []
  | tree :: rest => leaves tree ++ leavesOf rest

end

/-- The chain of the single checks of a tree. -/
def flat (tree : CheckTree α) : CheckTree α :=
  .chain (tree.leaves.map .single)

end CheckTree

end ConfigVault
