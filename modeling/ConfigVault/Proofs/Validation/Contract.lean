import ConfigVault.Instance.Yaml.Document
import ConfigVault.Validation.Checker
import Mathlib.Tactic

/-!
# The contract of checks of structure

A check says something of a content or refuses it.  The checks that read a content as a
document keep to this as long as the reading does not escape: what escapes from it escapes
from each of them, and nothing else does.
-/

namespace ConfigVault.SingleCheck

/-- The checks that read a content as a document. -/
def structural : List SingleCheck := [.yaml, .rules, .config]

/-- What a check may end with: diagnostics, or the incident of a content that is refused. -/
def KeepsContract (verdict : Except CheckFailure String) : Prop :=
  (∃ diagnostics, verdict = .ok diagnostics) ∨
    ∃ rejection : Rejection, verdict = .error (.rejected rejection) ∧
      rejection.incident.kind = .validation

theorem keepsContract_ok (diagnostics : String) : KeepsContract (.ok diagnostics) :=
  .inl ⟨diagnostics, rfl⟩

theorem keepsContract_rejected (rejection : Rejection) :
    KeepsContract (.error (.rejected rejection)) :=
  .inr ⟨rejection, rfl, rfl⟩

theorem not_keepsContract_escaped (e : Escape) : ¬ KeepsContract (.error (.escaped e)) := by
  rintro (⟨diagnostics, h⟩ | ⟨rejection, h, -⟩)
  · cases h
  · cases h

variable {s : Surroundings} {load : Loader} {check : SingleCheck} {name content : String}
  {e : Escape}

/-! ## Documents -/

theorem document_of_escaped (h : load content = .error (.escaped e)) :
    document load name content = .error (.escaped e) := by
  rw [document, h]

theorem document_of_malformed {message : String}
    (h : load content = .error (.malformed message)) :
    document load name content = .error (.rejected (.unreadable name message)) := by
  rw [document, h]

theorem document_of_ok {v : Value} (h : load content = .ok v) :
    document load name content = .ok v := by
  rw [document, h]

section ByStructure

variable {ε : Type} {test : Value → Except ε Unit} {rejection : ε → Rejection} {v : Value}

theorem byStructure_of_error {failure : CheckFailure}
    (h : document load name content = .error failure) :
    byStructure load name test rejection content = .error failure := by
  rw [byStructure, h]

theorem byStructure_of_pass (h : document load name content = .ok v) (htest : test v = .ok ()) :
    byStructure load name test rejection content = .ok "" := by
  unfold byStructure
  simp only [h, htest]

theorem byStructure_of_defect {defect : ε} (h : document load name content = .ok v)
    (htest : test v = .error defect) :
    byStructure load name test rejection content = .error (.rejected (rejection defect)) := by
  unfold byStructure
  simp only [h, htest]

theorem byStructure_keepsContract (h : document load name content = .ok v) :
    KeepsContract (byStructure load name test rejection content) := by
  cases htest : test v with
  | ok u =>
      rw [byStructure_of_pass h htest]
      exact keepsContract_ok ""
  | error defect =>
      rw [byStructure_of_defect h htest]
      exact keepsContract_rejected (rejection defect)

end ByStructure

/-! ## Verdicts -/

theorem run_of_error {failure : CheckFailure} (hcheck : check ∈ structural)
    (h : document s.load check.name content = .error failure) :
    (check.run s content).1 = .error failure := by
  simp only [structural, List.mem_cons, List.not_mem_nil, or_false] at hcheck
  obtain rfl | rfl | rfl := hcheck
  · simp only [run, h, Except.map]
  · exact byStructure_of_error h
  · exact byStructure_of_error h

theorem run_of_ok {v : Value} (hcheck : check ∈ structural) (h : s.load content = .ok v) :
    KeepsContract (check.run s content).1 := by
  simp only [structural, List.mem_cons, List.not_mem_nil, or_false] at hcheck
  obtain rfl | rfl | rfl := hcheck
  · simp only [run, document_of_ok h, Except.map]
    exact keepsContract_ok ""
  · exact byStructure_keepsContract (document_of_ok h)
  · exact byStructure_keepsContract (document_of_ok h)

/-- A content that breaks the rules of the format is refused under the name of the check. -/
theorem run_of_malformed {message : String} (hcheck : check ∈ structural)
    (h : s.load content = .error (.malformed message)) :
    (check.run s content).1 = .error (.rejected (.unreadable check.name message)) :=
  run_of_error hcheck (document_of_malformed h)

theorem run_of_escaped (hcheck : check ∈ structural)
    (h : s.load content = .error (.escaped e)) :
    (check.run s content).1 = .error (.escaped e) :=
  run_of_error hcheck (document_of_escaped h)

theorem keepsContract_iff (hcheck : check ∈ structural) :
    KeepsContract (check.run s content).1 ↔ ∀ e, s.load content ≠ .error (.escaped e) := by
  constructor
  · intro hkeeps e h
    rw [run_of_escaped hcheck h] at hkeeps
    exact not_keepsContract_escaped e hkeeps
  · intro hload
    cases h : s.load content with
    | ok v => exact run_of_ok hcheck h
    | error failure =>
        cases failure with
        | malformed message =>
            rw [run_of_malformed hcheck h]
            exact keepsContract_rejected _
        | escaped e => exact absurd h (hload e)

theorem run_eq_escaped_iff (hcheck : check ∈ structural) :
    (check.run s content).1 = .error (.escaped e) ↔ s.load content = .error (.escaped e) := by
  constructor
  · intro hrun
    by_contra hload
    have hkeeps : KeepsContract (check.run s content).1 := by
      rw [keepsContract_iff hcheck]
      intro e' h
      rw [run_of_escaped hcheck h] at hrun
      cases hrun
      exact hload h
    rw [hrun] at hkeeps
    exact not_keepsContract_escaped e hkeeps
  · exact run_of_escaped hcheck

/-- The escapes that come about when a value is built: a value of the right sort that is out of
range, a word that is not in a table, a part that a missing match does not have, a value of the
wrong sort, and a number beyond its range. -/
def buildingEscapes : List Escape :=
  [.badValue, .missingKey, .missingPart, .mismatch, .overflow]

/-- What is relied on of a loader: each of the escapes comes about on some text, although loaders have
failures of their own for texts that break the rules of the format. -/
def RaisesWhileBuilding (load : Loader) : Prop :=
  ∀ e ∈ buildingEscapes, ∃ content, load content = .error (.escaped e)

/-- A check of structure keeps to the contract on a content unless the loader escapes on it, and then
it escapes in the same way.  A content that breaks the rules of the format is refused with what the
loader says of it.  Each of the escapes of building a value comes out of the check. -/
theorem structural_contract {s : Surroundings} (hload : RaisesWhileBuilding s.load)
    {check : SingleCheck} (hcheck : check ∈ structural) :
    (∀ content, KeepsContract (check.run s content).1 ↔
      ∀ e, s.load content ≠ .error (.escaped e)) ∧
    (∀ content e, (check.run s content).1 = .error (.escaped e) ↔
      s.load content = .error (.escaped e)) ∧
    (∀ content message, s.load content = .error (.malformed message) →
      (check.run s content).1 = .error (.rejected (.unreadable check.name message))) ∧
    ∀ e ∈ buildingEscapes, ∃ content, (check.run s content).1 = .error (.escaped e) ∧
      ¬KeepsContract (check.run s content).1 := by
  refine ⟨fun content => keepsContract_iff hcheck, fun content e => run_eq_escaped_iff hcheck,
    fun content message => run_of_malformed hcheck, ?_⟩
  intro e he
  obtain ⟨content, h⟩ := hload e he
  have hrun := run_of_escaped hcheck h
  refine ⟨content, hrun, ?_⟩
  rw [hrun]
  exact not_keepsContract_escaped e

/-- A loader of documents, and no program that can be started. -/
def readingOnly : Surroundings where
  load := Yaml.loader 488
  launch _ _ := .unfit
  freshPath suffix := .ok ("/tmp/content" ++ suffix)

/-- A text for each escape of building a value. -/
def escaping : List (Escape × String) :=
  [(.badValue, "2024-13-45"), (.missingKey, "!!bool maybe"), (.missingPart, "!!timestamp foo"),
    (.mismatch, "!!timestamp \x7b=: x\x7d"), (.overflow, "\x22\x5cU80000000\x22")]

/-- How a loader ends on a text, if it gives no document. -/
def failure? (load : Loader) (content : String) : Option LoadFailure :=
  match load content with
  | .ok _ => none
  | .error failure => some failure

theorem failure?_eq_some_iff {failure : LoadFailure} :
    failure? load content = some failure ↔ load content = .error failure := by
  unfold failure?
  cases load content <;> simp

theorem readingOnly_raises : RaisesWhileBuilding readingOnly.load := by
  have hall : ∀ e ∈ buildingEscapes, ∃ entry ∈ escaping, entry.1 = e := by decide
  have hescapes : ∀ entry ∈ escaping,
      failure? readingOnly.load entry.2 = some (.escaped entry.1) := by
    decide +kernel
  intro e he
  obtain ⟨entry, hentry, rfl⟩ := hall e he
  exact ⟨entry.2, failure?_eq_some_iff.mp (hescapes entry hentry)⟩

theorem structural_contract_settings :
    RaisesWhileBuilding readingOnly.load ∧ SingleCheck.config ∈ structural ∧
      KeepsContract (SingleCheck.config.run readingOnly "global: 15s").1 ∧
      (SingleCheck.config.run readingOnly "!!bool maybe").1 = .error (.escaped .missingKey) := by
  have hcheck : SingleCheck.config ∈ structural := .tail _ (.tail _ (.head _))
  obtain ⟨hkeeps, hescapes, -⟩ := structural_contract readingOnly_raises hcheck
  refine ⟨readingOnly_raises, hcheck, ?_, ?_⟩
  · rw [hkeeps]
    intro e h
    have hnone : failure? readingOnly.load "global: 15s" = none := by decide +kernel
    rw [failure?_eq_some_iff.mpr h] at hnone
    cases hnone
  · rw [hescapes, ← failure?_eq_some_iff]
    decide +kernel

/-- A date that no calendar has is a plain scalar of a text in order. -/
theorem yaml_impossible_date_escapes :
    ¬ KeepsContract (SingleCheck.yaml.run readingOnly "2024-13-45").1 := by
  have hload : readingOnly.load "2024-13-45" = .error (.escaped .badValue) := by
    rw [← failure?_eq_some_iff]
    decide +kernel
  rw [run_of_escaped (.head _) hload]
  exact not_keepsContract_escaped .badValue

end ConfigVault.SingleCheck
