import ConfigVault.Proofs.Validation.Attendance

/-!
# Checks that act on a common state

One check may stand at several places of a tree, and checks may act on something that they
have in common.  Such a tree runs as the row of its single checks, too.  Where no check
stands at two places, it runs as the tree of checks with states of their own.
-/

namespace ConfigVault.CheckTree

variable {α ε : Type} {step : α → String → Except ε String × α} {content : String}

section

variable {ι : Type}

mutual

/-- Runs a tree whose single checks act on something that they have in common. -/
def runIn {m : Type → Type} [Monad m] (act : ι → String → m String) (content : String) :
    CheckTree ι → m String
  | .single check => act check content
  | .chain members => joinDiagnostics <$> runAllIn act content members

def runAllIn {m : Type → Type} [Monad m] (act : ι → String → m String) (content : String) :
    List (CheckTree ι) → m (List String)
  | [] => pure []
  | tree :: rest => do
    let d ← runIn act content tree
    let ds ← runAllIn act content rest
    return d :: ds

end

section

variable {m : Type → Type} [Monad m] [LawfulMonad m] (act : ι → String → m String)

mutual

theorem runIn_eq (tree : CheckTree ι) :
    runIn act content tree =
      joinDiagnostics <$> tree.leaves.mapM fun check => act check content := by
  cases tree with
  | single check => simp [runIn, leaves]
  | chain members =>
      have hmembers := runAllIn_eq members
      simpa only [runIn, leaves] using hmembers

theorem runAllIn_eq (trees : List (CheckTree ι)) :
    joinDiagnostics <$> runAllIn act content trees =
      joinDiagnostics <$> (leavesOf trees).mapM fun check => act check content := by
  cases trees with
  | nil => simp [runAllIn, leavesOf]
  | cons tree rest =>
      have htree := runIn_eq tree
      have hrest := runAllIn_eq rest
      calc joinDiagnostics <$> runAllIn act content (tree :: rest)
          = (do
              let d ← runIn act content tree
              let joined ← joinDiagnostics <$> runAllIn act content rest
              return joinDiagnostics [d, joined]) := by
            simp [runAllIn, ← joinDiagnostics_cons_eq]
        _ = joinDiagnostics <$>
              (leavesOf (tree :: rest)).mapM fun check => act check content := by
            rw [htree, hrest]
            simp [leavesOf, ← joinDiagnostics_append]

end

end

theorem runIn_flat {m : Type → Type} [Monad m] [LawfulMonad m] (act : ι → String → m String)
    (content : String) (tree : CheckTree ι) :
    runIn act content tree.flat = runIn act content tree := by
  rw [runIn_eq, runIn_eq, leaves_flat]

/-- Runs the check at a place of a pool and puts it back. -/
def onPool [DecidableEq ι] (step : α → String → Except ε String × α) (place : ι)
    (content : String) : ExceptT ε (StateM (ι → α)) String :=
  fun pool => ((step (pool place) content).1,
    Function.update pool place (step (pool place) content).2)

section

variable {σ β γ : Type}

theorem bind_apply_of_ok {x : ExceptT ε (StateM σ) β} {b : β} {s s' : σ}
    (h : x s = (.ok b, s')) (f : β → ExceptT ε (StateM σ) γ) : (x >>= f) s = f b s' := by
  change ExceptT.bindCont (m := StateM σ) f (x s).1 (x s).2 = _
  rw [h]
  rfl

theorem bind_apply_of_error {x : ExceptT ε (StateM σ) β} {e : ε} {s s' : σ}
    (h : x s = (.error e, s')) (f : β → ExceptT ε (StateM σ) γ) :
    (x >>= f) s = (.error e, s') := by
  change ExceptT.bindCont (m := StateM σ) f (x s).1 (x s).2 = _
  rw [h]
  rfl

theorem map_apply (f : β → γ) (x : ExceptT ε (StateM σ) β) (s : σ) :
    (f <$> x) s = ((x s).1.map f, (x s).2) := by
  change (x >>= fun b => pure (f b)) s = _
  rcases h : x s with ⟨_ | b, s'⟩
  · rw [bind_apply_of_error h]
    rfl
  · rw [bind_apply_of_ok h]
    rfl

end

section

variable {pool pool' : ι → α}

mutual

theorem map_congr (tree : CheckTree ι)
    (h : ∀ place ∈ tree.leaves, pool place = pool' place) : tree.map pool = tree.map pool' := by
  cases tree with
  | single place => simp only [map, h place (by simp [leaves])]
  | chain members =>
      have hmembers := mapAll_congr members h
      simp only [map, hmembers]

theorem mapAll_congr (trees : List (CheckTree ι))
    (h : ∀ place ∈ leavesOf trees, pool place = pool' place) :
    mapAll pool trees = mapAll pool' trees := by
  cases trees with
  | nil => rfl
  | cons tree rest =>
      have htree := map_congr tree fun place hplace =>
        h place (List.mem_append_left _ hplace)
      have hrest := mapAll_congr rest fun place hplace =>
        h place (List.mem_append_right _ hplace)
      simp only [mapAll, htree, hrest]

end

end

variable [DecidableEq ι]

mutual

/-- A tree of places, no two of them the same, runs on a pool as the tree of the checks at
these places, and leaves the rest of the pool alone. -/
theorem runIn_onPool (tree : CheckTree ι) (hdistinct : tree.leaves.Nodup) (pool : ι → α) :
    ∃ pool', runIn (onPool step) content tree pool =
        ((run step content (tree.map pool)).1, pool') ∧
      (run step content (tree.map pool)).2 = tree.map pool' ∧
      ∀ place ∉ tree.leaves, pool' place = pool place := by
  cases tree with
  | single place =>
      refine ⟨Function.update pool place (step (pool place) content).2, rfl, ?_, ?_⟩
      · simp [map, run]
      · intro other hother
        have hne : other ≠ place := by simpa [leaves] using hother
        exact Function.update_of_ne hne ..
  | chain members =>
      obtain ⟨pool', hrun, hmembers, hothers⟩ := runAllIn_onPool members hdistinct pool
      refine ⟨pool', ?_, ?_, hothers⟩
      · rw [runIn, map_apply, hrun]
        rfl
      · simp only [map, run, hmembers]

theorem runAllIn_onPool (trees : List (CheckTree ι)) (hdistinct : (leavesOf trees).Nodup)
    (pool : ι → α) :
    ∃ pool', runAllIn (onPool step) content trees pool =
        ((runAll step content (mapAll pool trees)).1, pool') ∧
      (runAll step content (mapAll pool trees)).2 = mapAll pool' trees ∧
      ∀ place ∉ leavesOf trees, pool' place = pool place := by
  cases trees with
  | nil => exact ⟨pool, rfl, rfl, fun _ _ => rfl⟩
  | cons tree rest =>
      rw [leavesOf, List.nodup_append] at hdistinct
      obtain ⟨htreeDistinct, hrestDistinct, hapart⟩ := hdistinct
      obtain ⟨pool₁, htree, htreeAfter, htreeOthers⟩ := runIn_onPool tree htreeDistinct pool
      have hrestBefore : mapAll pool rest = mapAll pool₁ rest := by
        refine mapAll_congr rest fun place hplace => (htreeOthers place ?_).symm
        exact fun hmem => hapart place hmem place hplace rfl
      have hothers₁ : ∀ place ∉ leavesOf (tree :: rest), pool₁ place = pool place :=
        fun place hplace => htreeOthers place fun hmem =>
          hplace (List.mem_append_left _ hmem)
      rcases hrun : run step content (tree.map pool) with ⟨e | d, after⟩
      · rw [hrun] at htree htreeAfter
        refine ⟨pool₁, ?_, ?_, hothers₁⟩
        · rw [runAllIn, bind_apply_of_error htree, mapAll, runAll, hrun]
        · rw [mapAll, runAll, hrun]
          dsimp only at htreeAfter ⊢
          rw [htreeAfter, hrestBefore]
          rfl
      · rw [hrun] at htree htreeAfter
        obtain ⟨pool₂, hrest, hrestAfter, hrestOthers⟩ :=
          runAllIn_onPool rest hrestDistinct pool₁
        have htreeSame : tree.map pool₁ = tree.map pool₂ := by
          refine map_congr tree fun place hplace => (hrestOthers place ?_).symm
          exact fun hmem => hapart place hplace place hmem rfl
        refine ⟨pool₂, ?_, ?_, ?_⟩
        · rw [runAllIn, bind_apply_of_ok htree, mapAll, runAll, hrun, hrestBefore]
          change ((d :: ·) <$> runAllIn (onPool step) content rest) pool₁ = _
          rw [map_apply, hrest]
        · rw [mapAll, runAll, hrun, hrestBefore]
          dsimp only at htreeAfter ⊢
          rw [htreeAfter, htreeSame, hrestAfter]
          rfl
        · intro place hplace
          rw [hrestOthers place fun hmem => hplace (List.mem_append_right _ hmem),
            hothers₁ place hplace]

end

end

end ConfigVault.CheckTree
