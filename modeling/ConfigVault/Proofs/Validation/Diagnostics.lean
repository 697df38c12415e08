import ConfigVault.Validation.Chain
import Mathlib.Tactic

/-!
# Joined diagnostics

Diagnostics are joined line by line, without those that say nothing.  They can therefore be
joined piece by piece: what is joined already counts as one of them.
-/

namespace ConfigVault

def spoken (diagnostics : List String) : List String :=
  diagnostics.filter (· ≠ "")

@[simp] theorem spoken_nil : spoken [] = [] := rfl

@[simp] theorem spoken_empty_cons (ds : List String) : spoken ("" :: ds) = spoken ds := by
  simp [spoken]

theorem spoken_cons {d : String} (hd : d ≠ "") (ds : List String) :
    spoken (d :: ds) = d :: spoken ds := by
  simp [spoken, hd]

@[simp] theorem spoken_append (ds es : List String) :
    spoken (ds ++ es) = spoken ds ++ spoken es :=
  List.filter_append ..

theorem joinDiagnostics_eq (ds : List String) :
    joinDiagnostics ds = String.intercalate "\n" (spoken ds) := by
  have hsame : (fun d : String => !d.isEmpty) = fun d => decide (d ≠ "") := by
    funext d
    by_cases hd : d = "" <;> simp [hd]
  unfold joinDiagnostics spoken
  rw [hsame]

theorem joinDiagnostics_of_spoken_eq {ds es : List String} (h : spoken ds = spoken es) :
    joinDiagnostics ds = joinDiagnostics es := by
  rw [joinDiagnostics_eq, h, joinDiagnostics_eq]

@[simp] theorem joinDiagnostics_singleton (d : String) : joinDiagnostics [d] = d := by
  by_cases hd : d = ""
  · subst hd
    simp [joinDiagnostics_eq]
  · simp [joinDiagnostics_eq, spoken_cons hd]

theorem joinDiagnostics_cons {d : String} (hd : d ≠ "") {ds : List String}
    (hds : spoken ds ≠ []) :
    joinDiagnostics (d :: ds) = d ++ "\n" ++ joinDiagnostics ds := by
  rw [joinDiagnostics_eq, joinDiagnostics_eq, spoken_cons hd,
    String.intercalate_cons_of_ne_nil hds]

theorem joinDiagnostics_eq_empty_iff (ds : List String) :
    joinDiagnostics ds = "" ↔ spoken ds = [] := by
  induction ds with
  | nil => simp [joinDiagnostics_eq]
  | cons d ds ih =>
      by_cases hd : d = ""
      · subst hd
        rw [joinDiagnostics_of_spoken_eq (spoken_empty_cons ds), ih, spoken_empty_cons]
      · refine iff_of_false ?_ (by simp [spoken_cons hd])
        by_cases hds : spoken ds = []
        · simp [joinDiagnostics_eq, spoken_cons hd, hds, hd]
        · simp [joinDiagnostics_cons hd hds, hd]

theorem joinDiagnostics_append (ds es : List String) :
    joinDiagnostics (ds ++ es) = joinDiagnostics [joinDiagnostics ds, joinDiagnostics es] := by
  by_cases hds : spoken ds = []
  · have hleft : joinDiagnostics (ds ++ es) = joinDiagnostics es :=
      joinDiagnostics_of_spoken_eq (by simp [hds])
    rw [hleft, (joinDiagnostics_eq_empty_iff ds).mpr hds,
      joinDiagnostics_of_spoken_eq (spoken_empty_cons _), joinDiagnostics_singleton]
  have hjoined : joinDiagnostics ds ≠ "" := by
    rwa [Ne, joinDiagnostics_eq_empty_iff]
  by_cases hes : spoken es = []
  · have hright : joinDiagnostics (ds ++ es) = joinDiagnostics [joinDiagnostics ds] := by
      rw [joinDiagnostics_singleton]
      exact joinDiagnostics_of_spoken_eq (by simp [hes])
    rw [hright, (joinDiagnostics_eq_empty_iff es).mpr hes]
    exact joinDiagnostics_of_spoken_eq (by simp [spoken_cons hjoined])
  have hother : spoken [joinDiagnostics es] ≠ [] := by
    rwa [Ne, ← joinDiagnostics_eq_empty_iff, joinDiagnostics_singleton,
      joinDiagnostics_eq_empty_iff]
  rw [joinDiagnostics_cons hjoined hother, joinDiagnostics_singleton, joinDiagnostics_eq,
    spoken_append, String.intercalate_append_of_ne_nil hds hes, ← joinDiagnostics_eq,
    ← joinDiagnostics_eq]

theorem joinDiagnostics_cons_eq (d : String) (ds : List String) :
    joinDiagnostics (d :: ds) = joinDiagnostics [d, joinDiagnostics ds] := by
  have h := joinDiagnostics_append [d] ds
  rwa [joinDiagnostics_singleton] at h

section

variable {ε : Type} (verdicts : Except ε (List String))

theorem map_join_cons (d : String) :
    (verdicts.map (d :: ·)).map joinDiagnostics =
      (verdicts.map joinDiagnostics).map fun joined => joinDiagnostics [d, joined] := by
  cases verdicts with
  | error e => rfl
  | ok ds => simp [Except.map, ← joinDiagnostics_cons_eq]

theorem map_join_append (ds : List String) :
    (verdicts.map (ds ++ ·)).map joinDiagnostics =
      (verdicts.map joinDiagnostics).map fun joined =>
        joinDiagnostics [joinDiagnostics ds, joined] := by
  cases verdicts with
  | error e => rfl
  | ok es => simp [Except.map, joinDiagnostics_append ds es]

end

end ConfigVault
