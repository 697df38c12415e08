import ConfigVault.Proofs.Validation.Diagnostics

/-!
# Runs of trees of checks

However chains are nested, they run their single checks from left to right up to the first
that does not accept.  What a tree has to say on a content, and the states in which it
leaves its single checks, therefore depend on the row of its single checks only.
-/

namespace ConfigVault.CheckTree

variable {α ε : Type} (step : α → String → Except ε String × α) (content : String)

/-! ## Trees and their single checks -/

def singles (checks : List α) : List (CheckTree α) := checks.map .single

@[simp] theorem leavesOf_singles (checks : List α) : leavesOf (singles checks) = checks := by
  induction checks with
  | nil => rfl
  | cons check checks ih =>
      change check :: leavesOf (singles checks) = check :: checks
      rw [ih]

theorem singles_append (checks others : List α) :
    singles (checks ++ others) = singles checks ++ singles others :=
  List.map_append ..

@[simp] theorem leaves_flat (tree : CheckTree α) : tree.flat.leaves = tree.leaves :=
  leavesOf_singles tree.leaves

theorem leavesOf_append (trees others : List (CheckTree α)) :
    leavesOf (trees ++ others) = leavesOf trees ++ leavesOf others := by
  induction trees with
  | nil => simp [leavesOf]
  | cons tree trees ih => simp [leavesOf, ih]

section

variable {step content} {trees ran : List (CheckTree α)}

theorem runAll_append_of_error {e : ε} (h : runAll step content trees = (.error e, ran))
    (others : List (CheckTree α)) :
    runAll step content (trees ++ others) = (.error e, ran ++ others) := by
  induction trees generalizing ran with
  | nil => simp [runAll] at h
  | cons tree trees ih =>
      rw [runAll] at h
      rw [List.cons_append, runAll]
      rcases hrun : run step content tree with ⟨e' | d, tree'⟩
      · rw [hrun] at h
        cases h
        rfl
      · rw [hrun] at h
        rcases hrest : runAll step content trees with ⟨e' | ds, rest⟩
        · rw [hrest] at h
          cases h
          dsimp only
          rw [ih hrest]
          rfl
        · rw [hrest] at h
          cases h

theorem runAll_append_of_ok {ds : List String}
    (h : runAll step content trees = (.ok ds, ran)) (others : List (CheckTree α)) :
    runAll step content (trees ++ others) =
      ((runAll step content others).1.map (ds ++ ·),
        ran ++ (runAll step content others).2) := by
  induction trees generalizing ran ds with
  | nil =>
      rw [runAll] at h
      cases h
      rw [List.nil_append]
      rcases runAll step content others with ⟨_ | _, _⟩ <;> rfl
  | cons tree trees ih =>
      rw [runAll] at h
      rw [List.cons_append, runAll]
      rcases hrun : run step content tree with ⟨e | d, tree'⟩
      · rw [hrun] at h
        cases h
      · rw [hrun] at h
        rcases hrest : runAll step content trees with ⟨e | ds', rest⟩
        · rw [hrest] at h
          cases h
        · rw [hrest] at h
          cases h
          dsimp only
          rw [ih hrest]
          cases (runAll step content others).1 <;> rfl

end

/-! ## Runs and the runs of single checks -/

mutual

theorem run_leaves (tree : CheckTree α) :
    (run step content tree).1 =
        (runAll step content (singles tree.leaves)).1.map joinDiagnostics ∧
      (run step content tree).2.leaves =
        leavesOf (runAll step content (singles tree.leaves)).2 := by
  cases tree with
  | single check =>
      rcases hstep : step check content with ⟨e | d, check'⟩ <;>
        simp [run, runAll, singles, leaves, leavesOf, hstep, Except.map]
  | chain members =>
      have hmembers := runAll_leaves members
      simpa only [run, leaves] using hmembers

theorem runAll_leaves (trees : List (CheckTree α)) :
    (runAll step content trees).1.map joinDiagnostics =
        (runAll step content (singles (leavesOf trees))).1.map joinDiagnostics ∧
      leavesOf (runAll step content trees).2 =
        leavesOf (runAll step content (singles (leavesOf trees))).2 := by
  cases trees with
  | nil => simp [leavesOf, singles]
  | cons tree rest =>
      obtain ⟨hverdict, hleaves⟩ := run_leaves tree
      obtain ⟨hverdicts, hrest⟩ := runAll_leaves rest
      have hsplit : singles (leavesOf (tree :: rest)) =
          singles tree.leaves ++ singles (leavesOf rest) := by
        rw [leavesOf, singles_append]
      rw [hsplit, runAll]
      rcases hran : runAll step content (singles tree.leaves) with ⟨e | ds, ran⟩
      · rw [hran] at hverdict hleaves
        rw [runAll_append_of_error hran]
        rcases hrun : run step content tree with ⟨e' | d, tree'⟩
        · rw [hrun] at hverdict hleaves
          cases hverdict
          simp only at hleaves
          simp [leavesOf, leavesOf_append, hleaves]
        · rw [hrun] at hverdict
          cases hverdict
      · rw [hran] at hverdict hleaves
        rw [runAll_append_of_ok hran]
        rcases hrun : run step content tree with ⟨e' | d, tree'⟩
        · rw [hrun] at hverdict
          cases hverdict
        · rw [hrun] at hverdict hleaves
          cases hverdict
          simp only at hleaves
          dsimp only
          rw [map_join_cons, map_join_append, hverdicts, leavesOf, leavesOf_append, hleaves,
            hrest]
          exact ⟨rfl, rfl⟩

end

variable {step content}

/-- Trees with the same single checks run alike. -/
theorem run_congr {tree other : CheckTree α} (h : tree.leaves = other.leaves) :
    (run step content tree).1 = (run step content other).1 ∧
      (run step content tree).2.leaves = (run step content other).2.leaves := by
  obtain ⟨hverdict, hleaves⟩ := run_leaves step content tree
  obtain ⟨hverdict', hleaves'⟩ := run_leaves step content other
  rw [hverdict, hverdict', hleaves, hleaves', h]
  exact ⟨rfl, rfl⟩

def runEach (step : α → String → Except ε String × α) :
    List String → CheckTree α → List (Except ε String) × CheckTree α
  | [], tree => ([], tree)
  | content :: contents, tree =>
    let (verdict, tree) := run step content tree
    let (verdicts, tree) := runEach step contents tree
    (verdict :: verdicts, tree)

theorem runEach_congr (contents : List String) {tree other : CheckTree α}
    (h : tree.leaves = other.leaves) :
    (runEach step contents tree).1 = (runEach step contents other).1 ∧
      (runEach step contents tree).2.leaves = (runEach step contents other).2.leaves := by
  induction contents generalizing tree other with
  | nil => exact ⟨rfl, h⟩
  | cons content contents ih =>
      obtain ⟨hverdict, hleaves⟩ : (run step content tree).1 = (run step content other).1 ∧
          (run step content tree).2.leaves = (run step content other).2.leaves := run_congr h
      obtain ⟨hverdicts, hend⟩ := ih hleaves
      simp only [runEach]
      rw [hverdict, hverdicts, hend]
      exact ⟨rfl, rfl⟩

/-! ## What a flat chain does -/

def Accepts (step : α → String → Except ε String × α) (content : String) (check : α)
    (d : String) : Prop :=
  (step check content).1 = .ok d

section

variable {checks before after : List α} {check : α} {ds : List String} {e : ε}

def stepped (step : α → String → Except ε String × α) (content : String)
    (checks : List α) : List α :=
  checks.map fun check => (step check content).2

theorem runAll_singles_of_accept (h : List.Forall₂ (Accepts step content) checks ds) :
    runAll step content (singles checks) =
      (.ok ds, singles (stepped step content checks)) := by
  induction h with
  | nil => simp [singles, stepped, runAll]
  | @cons check d checks ds haccepts _ ih =>
      have hrun : run step content (.single check) =
          (.ok d, .single (step check content).2) := by
        rw [run, ← haccepts]
      change runAll step content (.single check :: singles checks) = _
      rw [runAll, hrun]
      dsimp only
      rw [ih]
      rfl

theorem runAll_singles_of_refusal (hbefore : List.Forall₂ (Accepts step content) before ds)
    (hrefuses : (step check content).1 = .error e) (after : List α) :
    runAll step content (singles (before ++ check :: after)) =
      (.error e,
        singles (stepped step content before ++ (step check content).2 :: after)) := by
  have hrun : run step content (.single check) =
      (.error e, .single (step check content).2) := by
    rw [run, ← hrefuses]
  have hrest : runAll step content (singles (check :: after)) =
      (.error e, singles ((step check content).2 :: after)) := by
    change runAll step content (.single check :: singles after) = _
    rw [runAll, hrun]
    rfl
  rw [singles_append, runAll_append_of_ok (runAll_singles_of_accept hbefore), hrest,
    singles_append]
  rfl

theorem accept_or_refuse (step : α → String → Except ε String × α) (content : String)
    (checks : List α) :
    (∃ ds, List.Forall₂ (Accepts step content) checks ds) ∨
      ∃ before check after ds e, checks = before ++ check :: after ∧
        List.Forall₂ (Accepts step content) before ds ∧
        (step check content).1 = .error e := by
  induction checks with
  | nil => exact .inl ⟨[], .nil⟩
  | cons check checks ih =>
      cases hstep : (step check content).1 with
      | error e => exact .inr ⟨[], check, checks, [], e, rfl, .nil, hstep⟩
      | ok d =>
          rcases ih with ⟨ds, hds⟩ | ⟨before, other, after, ds, e, rfl, hbefore, hrefuses⟩
          · exact .inl ⟨d :: ds, .cons hstep hds⟩
          · exact .inr ⟨check :: before, other, after, d :: ds, e, rfl,
              .cons hstep hbefore, hrefuses⟩

end

end ConfigVault.CheckTree
