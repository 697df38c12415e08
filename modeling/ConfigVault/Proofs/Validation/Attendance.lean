import ConfigVault.Proofs.Validation.TreeRuns

/-!
# What single checks see

The contents that a single check is run on can be noted down beside its state.  Notes change
nothing in a run, so trees with the same single checks also run each of them on the same
contents.
-/

namespace ConfigVault.CheckTree

variable {α ε : Type} {step : α → String → Except ε String × α} {content : String}

mutual

def map {β : Type} (f : α → β) : CheckTree α → CheckTree β
  | .single check => .single (f check)
  | .chain members => .chain (mapAll f members)

def mapAll {β : Type} (f : α → β) : List (CheckTree α) → List (CheckTree β)
  | [] => []
  | tree :: rest => map f tree :: mapAll f rest

end

section

variable {β γ : Type} (f : α → β)

mutual

theorem leaves_map (tree : CheckTree α) : (tree.map f).leaves = tree.leaves.map f := by
  cases tree with
  | single check => rfl
  | chain members =>
      have hmembers := leavesOf_mapAll members
      simpa only [map, leaves] using hmembers

theorem leavesOf_mapAll (trees : List (CheckTree α)) :
    leavesOf (mapAll f trees) = (leavesOf trees).map f := by
  cases trees with
  | nil => rfl
  | cons tree rest =>
      have htree := leaves_map tree
      have hrest := leavesOf_mapAll rest
      simp only [mapAll, leavesOf, htree, hrest, List.map_append]

end

variable {f} {step' : β → String → Except ε String × β}

mutual

/-- A translation of the single checks that respects their runs respects those of trees. -/
theorem run_map (hf : ∀ check content,
      step' (f check) content = ((step check content).1, f (step check content).2))
    (tree : CheckTree α) :
    run step' content (tree.map f) =
      ((run step content tree).1, (run step content tree).2.map f) := by
  cases tree with
  | single check => simp only [map, run, hf]
  | chain members =>
      have hmembers := runAll_mapAll hf members
      simp only [map, run, hmembers]

theorem runAll_mapAll (hf : ∀ check content,
      step' (f check) content = ((step check content).1, f (step check content).2))
    (trees : List (CheckTree α)) :
    runAll step' content (mapAll f trees) =
      ((runAll step content trees).1, mapAll f (runAll step content trees).2) := by
  cases trees with
  | nil => rfl
  | cons tree rest =>
      have htree := run_map hf tree
      have hrest := runAll_mapAll hf rest
      rw [mapAll, runAll, htree, runAll]
      rcases run step content tree with ⟨_ | _, tree'⟩
      · rfl
      · dsimp only
        rw [hrest]
        rfl

end

end

theorem runEach_map {β : Type} {f : α → β} {step' : β → String → Except ε String × β}
    (hf : ∀ check content,
      step' (f check) content = ((step check content).1, f (step check content).2))
    (contents : List String) (tree : CheckTree α) :
    runEach step' contents (tree.map f) =
      ((runEach step contents tree).1, (runEach step contents tree).2.map f) := by
  induction contents generalizing tree with
  | nil => rfl
  | cons content contents ih =>
      simp only [runEach]
      rw [run_map hf, ih]

/-- A check with the contents that it was run on, the latest first. -/
structure Attended (α : Type) where
  check : α
  seen : List String

namespace Attended

def fresh (check : α) : Attended α := ⟨check, []⟩

def run (step : α → String → Except ε String × α) (attended : Attended α)
    (content : String) : Except ε String × Attended α :=
  ((step attended.check content).1,
    ⟨(step attended.check content).2, content :: attended.seen⟩)

end Attended

mutual

theorem map_check_fresh (tree : CheckTree α) :
    (tree.map Attended.fresh).map Attended.check = tree := by
  cases tree with
  | single check => rfl
  | chain members =>
      have hmembers := mapAll_check_fresh members
      simp only [map, hmembers]

theorem mapAll_check_fresh (trees : List (CheckTree α)) :
    mapAll Attended.check (mapAll Attended.fresh trees) = trees := by
  cases trees with
  | nil => rfl
  | cons tree rest =>
      have htree := map_check_fresh tree
      have hrest := mapAll_check_fresh rest
      simp only [mapAll, htree, hrest]

end

/-- Taking notes changes nothing in the run of a tree. -/
theorem runEach_attended (contents : List String) (tree : CheckTree α) :
    runEach step contents tree =
      ((runEach (Attended.run step) contents (tree.map .fresh)).1,
        (runEach (Attended.run step) contents (tree.map .fresh)).2.map Attended.check) := by
  conv_lhs => rw [← map_check_fresh tree]
  exact runEach_map (fun _ _ => rfl) contents _

/-- The contents that each single check of a tree is run on, the latest first, when the
tree is run on contents one after the other. -/
def seenBy (step : α → String → Except ε String × α) (contents : List String)
    (tree : CheckTree α) : List (List String) :=
  (runEach (Attended.run step) contents (tree.map .fresh)).2.leaves.map Attended.seen

theorem seenBy_congr (contents : List String) {tree other : CheckTree α}
    (h : tree.leaves = other.leaves) :
    seenBy step contents tree = seenBy step contents other := by
  have hfresh : (tree.map Attended.fresh).leaves = (other.map Attended.fresh).leaves := by
    rw [leaves_map, leaves_map, h]
  rw [seenBy, seenBy, (runEach_congr contents hfresh).2]

end ConfigVault.CheckTree
