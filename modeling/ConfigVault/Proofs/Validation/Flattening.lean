import ConfigVault.Proofs.Validation.SharedChecks
import ConfigVault.Validation.Scripted

/-!
# Flat chains of checks

A tree of checks can be replaced by the chain of its single checks.  This holds for checks
with states of their own and for checks that act on a common state, such as one check at
several places of a tree.
-/

namespace ConfigVault.CheckTree

variable {α ε : Type} {step : α → String → Except ε String × α} {content : String}

theorem exists_forall₂_accepts {checks : List α}
    (h : ∀ check ∈ checks, ∃ d, (step check content).1 = .ok d) :
    ∃ ds, List.Forall₂ (Accepts step content) checks ds := by
  rcases accept_or_refuse step content checks with
    haccepts | ⟨before, check, after, ds, e, rfl, -, hrefuses⟩
  · exact haccepts
  · obtain ⟨d, haccepts⟩ := h check (by simp)
    rw [hrefuses] at haccepts
    cases haccepts

theorem exists_accepts_of_mem {checks : List α} {ds : List String}
    (h : List.Forall₂ (Accepts step content) checks ds) {check : α} (hcheck : check ∈ checks) :
    ∃ d, Accepts step content check d := by
  induction h with
  | nil => cases hcheck
  | @cons first d checks ds hfirst _ ih =>
      rcases List.mem_cons.mp hcheck with rfl | hrest
      · exact ⟨d, hfirst⟩
      · exact ih hrest

theorem run_flat_of_accept {tree : CheckTree α} {ds : List String}
    (h : List.Forall₂ (Accepts step content) tree.leaves ds) :
    (run step content tree.flat).1 = .ok (joinDiagnostics ds) := by
  have hall : runAll step content (singles tree.leaves) =
      (.ok ds, singles (stepped step content tree.leaves)) := runAll_singles_of_accept h
  rw [(run_leaves step content tree.flat).1, leaves_flat, hall]
  rfl

section

variable {tree : CheckTree α} {before after : List α} {check : α} {ds : List String} {e : ε}
  (hleaves : tree.leaves = before ++ check :: after)
  (hbefore : List.Forall₂ (Accepts step content) before ds)
  (hrefuses : (step check content).1 = .error e)

include hleaves hbefore hrefuses

theorem run_flat_of_refusal :
    (run step content tree.flat).1 = .error e ∧
      (run step content tree.flat).2.leaves =
        stepped step content before ++ (step check content).2 :: after := by
  obtain ⟨hverdict, hafter⟩ := run_leaves step content tree.flat
  rw [hverdict, hafter, leaves_flat, hleaves,
    runAll_singles_of_refusal hbefore hrefuses after, leavesOf_singles]
  exact ⟨rfl, rfl⟩

/-- Checks behind the first one that does not accept are not run. -/
theorem seenBy_flat_of_refusal :
    seenBy step [content] tree.flat =
      before.map (fun _ => [content]) ++ [content] :: after.map fun _ => [] := by
  have hfresh : (tree.map Attended.fresh).leaves = before.map Attended.fresh ++
      Attended.fresh check :: after.map Attended.fresh := by
    rw [leaves_map, hleaves, List.map_append, List.map_cons]
  have haccepts : List.Forall₂ (Accepts (Attended.run step) content)
      (before.map Attended.fresh) ds :=
    List.forall₂_map_left_iff.mpr hbefore
  have hrun : (run (Attended.run step) content (tree.map .fresh).flat).2.leaves =
      stepped (Attended.run step) content (before.map .fresh) ++
        (Attended.run step (.fresh check) content).2 :: after.map .fresh :=
    (run_flat_of_refusal hfresh haccepts hrefuses).2
  have hsame : (tree.flat.map Attended.fresh).leaves =
      (tree.map Attended.fresh).flat.leaves := by
    rw [leaves_flat, leaves_map, leaves_map, leaves_flat]
  change (run (Attended.run step) content (tree.flat.map .fresh)).2.leaves.map
    Attended.seen = _
  rw [(run_congr hsame).2, hrun]
  simp only [stepped, List.map_append, List.map_cons, List.map_map]
  rfl

end

/-- A tree of checks and the flat chain of its single checks have the same verdicts on
contents one after the other, leave their checks in the same states and run each of them
on the same contents.  The flat chain accepts a content exactly when all checks do, with
what they say line by line; the first check that does not accept it decides, and the later
ones are not run.  Checks that act on a common state do the same in a tree and in a row. -/
theorem flat_runs_alike {α ε : Type} (step : α → String → Except ε String × α)
    (tree : CheckTree α) :
    (∀ contents,
      (runEach step contents tree.flat).1 = (runEach step contents tree).1 ∧
      (runEach step contents tree.flat).2.leaves = (runEach step contents tree).2.leaves ∧
      seenBy step contents tree.flat = seenBy step contents tree) ∧
    (∀ content,
      ((∃ d, (run step content tree.flat).1 = .ok d) ↔
        ∀ check ∈ tree.leaves, ∃ d, (step check content).1 = .ok d) ∧
      (∀ ds, List.Forall₂ (fun check d => (step check content).1 = .ok d) tree.leaves ds →
        (run step content tree.flat).1 =
          .ok (String.intercalate "\n" (ds.filter (· ≠ "")))) ∧
      ∀ before check after e, tree.leaves = before ++ check :: after →
        (∀ earlier ∈ before, ∃ d, (step earlier content).1 = .ok d) →
        (step check content).1 = .error e →
          (run step content tree.flat).1 = .error e ∧
          seenBy step [content] tree.flat =
            before.map (fun _ => [content]) ++ [content] :: after.map fun _ => []) ∧
    ∀ (ι σ : Type) (act : ι → String → ExceptT ε (StateM σ) String) (shared : CheckTree ι)
      (content : String), runIn act content shared.flat = runIn act content shared := by
  refine ⟨?_, ?_, ?_⟩
  · intro contents
    have hsame : tree.flat.leaves = tree.leaves := leaves_flat tree
    have hruns : (runEach step contents tree.flat).1 = (runEach step contents tree).1 ∧
        (runEach step contents tree.flat).2.leaves = (runEach step contents tree).2.leaves :=
      runEach_congr contents hsame
    exact ⟨hruns.1, hruns.2, seenBy_congr contents hsame⟩
  · intro content
    refine ⟨?_, ?_, ?_⟩
    · constructor
      · rintro ⟨d, haccepts⟩
        rcases accept_or_refuse step content tree.leaves with
          ⟨ds, hds⟩ | ⟨before, check, after, ds, e, hleaves, hbefore, hrefuses⟩
        · intro check hcheck
          exact exists_accepts_of_mem hds hcheck
        · rw [(run_flat_of_refusal hleaves hbefore hrefuses).1] at haccepts
          cases haccepts
      · intro hall
        obtain ⟨ds, hds⟩ := exists_forall₂_accepts hall
        exact ⟨_, run_flat_of_accept hds⟩
    · intro ds hds
      rw [run_flat_of_accept hds, joinDiagnostics_eq]
      rfl
    · intro before check after e hleaves hbefore hrefuses
      obtain ⟨ds, hds⟩ := exists_forall₂_accepts hbefore
      exact ⟨(run_flat_of_refusal hleaves hds hrefuses).1,
        seenBy_flat_of_refusal hleaves hds hrefuses⟩
  · intro ι σ act shared content
    exact runIn_flat act content shared

def scriptedWith (diagnostics : String) (verdicts : List (Option String)) : ScriptedCheck :=
  ⟨none, diagnostics, verdicts, []⟩

theorem flat_runs_alike_second_refuses :
    let first := scriptedWith "fine" []
    let second := scriptedWith "fine" [some "stop", none]
    let third := scriptedWith "" []
    let tree : CheckTree ScriptedCheck :=
      .chain [.chain [.single first, .single second], .single third]
    tree.leaves = [first] ++ second :: [third] ∧
      (first.run "a").1 = .ok "fine" ∧
      (second.run "a").1 = .error (.rejected (.scripted "stop")) ∧
      (run ScriptedCheck.run "a" tree.flat).1 = .error (.rejected (.scripted "stop")) ∧
      seenBy ScriptedCheck.run ["a"] tree.flat = [["a"], ["a"], []] ∧
      (runEach ScriptedCheck.run ["a", "b"] tree.flat).1 =
        (runEach ScriptedCheck.run ["a", "b"] tree).1 := by
  intro first second third tree
  have hleaves : tree.leaves = [first] ++ second :: [third] := rfl
  have hfirst : (first.run "a").1 = .ok "fine" := rfl
  have hsecond : (second.run "a").1 = .error (.rejected (.scripted "stop")) := rfl
  obtain ⟨hruns, hflat, -⟩ := flat_runs_alike ScriptedCheck.run tree
  obtain ⟨hverdict, hseen⟩ := (hflat "a").2.2 [first] second [third] _ hleaves
    (fun earlier hearlier => ⟨"fine", by rwa [List.mem_singleton.mp hearlier]⟩) hsecond
  exact ⟨hleaves, hfirst, hsecond, hverdict, hseen, (hruns ["a", "b"]).1⟩

end ConfigVault.CheckTree
