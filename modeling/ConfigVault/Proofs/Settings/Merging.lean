import ConfigVault.Proofs.Data.Entries
import ConfigVault.Settings.Library

/-!
# Merged fields

Fields of several sources are merged key by key.  Of a field the first source that has it counts, and
the fields of a section are put together in the same way.  What is said here holds up to the contents
of mappings, which no reader of a field accepts.
-/

namespace ConfigVault

open Value

def mergedValue (merge : Fields → Fields → Fields) : (upper lower : Option Value) → Option Value
  | some (.map upper), some (.map lower) => some (.map (merge upper lower))
  | some v, _ => some v
  | none, found => found

/-- Merging takes each field from the upper fields, else from the lower ones, and merges mappings that
are in both. -/
def KeyByKey (merge : Fields → Fields → Fields) : Prop :=
  ∀ upper lower name, (map (merge upper lower)).field? name =
    mergedValue merge ((map upper).field? name) ((map lower).field? name)

def Value.bare : Value → Value
  | .map _ => .map []
  | v => v

def sectionOf (fields : Fields) (name : String) : Fields :=
  (((map fields).field? name).bind entries?).getD []

/-- A field of a section in the first of several layers that has it.  A section that is no mapping hides
the layers below. -/
def sectionField? (name field : String) : List Fields → Option Value
  | [] => none
  | fields :: below =>
    match (map fields).field? name with
    | none => sectionField? name field below
    | some (.map inner) => ((map inner).field? field).or (sectionField? name field below)
    | some _ => none

section

variable {merge : Fields → Fields → Fields}

theorem map_bare_mergedValue (upper lower : Option Value) :
    (mergedValue merge upper lower).map bare = (upper.or lower).map bare := by
  cases upper with
  | none => rfl
  | some v =>
      cases v with
      | map inner =>
          cases lower with
          | none => rfl
          | some w => cases w <;> rfl
      | _ => rfl

variable (h : KeyByKey merge)

include h

theorem field?_mergeAll (layers : List Fields) (name : String) :
    ((map (layers.foldr merge [])).field? name).map bare =
      (layers.findSome? fun fields => (map fields).field? name).map bare := by
  induction layers with
  | nil => rfl
  | cons fields below ih =>
      rw [List.foldr_cons, h, map_bare_mergedValue, List.findSome?_cons]
      cases (map fields).field? name with
      | none => rw [Option.none_or, ih]
      | some v => rfl

theorem field?_sectionOf_mergeAll (layers : List Fields) (name field : String) :
    ((map (sectionOf (layers.foldr merge []) name)).field? field).map bare =
      (sectionField? name field layers).map bare := by
  induction layers with
  | nil => rfl
  | cons fields below ih =>
      unfold sectionOf sectionField?
      rw [List.foldr_cons, h]
      unfold sectionOf at ih
      generalize below.foldr merge [] = merged at ih ⊢
      cases hupper : (map fields).field? name with
      | none => exact ih
      | some v =>
          cases v with
          | map inner =>
              -- The sections below are merged only where they are a mapping in turn.
              have halone (hnone : ((map merged).field? name).bind entries? = none) :
                  sectionField? name field below = none := by
                rw [hnone] at ih
                exact Option.map_eq_none_iff.mp ih.symm
              cases hlower : (map merged).field? name with
              | none => simp [mergedValue, entries?, halone (by rw [hlower]; rfl)]
              | some w =>
                  cases w with
                  | map lower =>
                      rw [hlower] at ih
                      change ((map (merge inner lower)).field? field).map bare = _
                      change ((map lower).field? field).map bare = _ at ih
                      rw [h, map_bare_mergedValue]
                      dsimp only
                      cases (map inner).field? field with
                      | none => rw [Option.none_or, Option.none_or, ih]
                      | some u => rfl
                  | _ => simp [mergedValue, entries?, halone (by rw [hlower]; rfl)]
          | _ => rfl

end

end ConfigVault
