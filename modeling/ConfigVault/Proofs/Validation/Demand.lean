import ConfigVault.Proofs.Data.Entries
import ConfigVault.Validation.Structure

/-!
# Demands on documents

A check that makes several demands on a document refuses it for the first one that it does not
meet.  The demands are said in terms of the entries of mappings.
-/

namespace ConfigVault

/-! ## Entries -/

/-- The value is a mapping, and its first entry under the text has the value `v`. -/
def Value.Has (doc : Value) (name : String) (v : Value) : Prop :=
  ∃ before after, doc = .map (before ++ (.text name, v) :: after) ∧
    ∀ e ∈ before, e.1 ≠ .text name

/-- The values that count as false. -/
inductive Value.Falsy : Value → Prop
  | null : Falsy .null
  | false : Falsy (.bool false)
  | zero : Falsy (.int 0)
  | float {x : Float} (hzero : (x == 0.0) = true) : Falsy (.float x)
  | text : Falsy (.text "")
  | bytes : Falsy (.bytes [])
  | list : Falsy (.list [])
  | set : Falsy (.set [])
  | map : Falsy (.map [])

namespace Value

variable {doc v : Value} {name : String}

theorem has_iff : doc.Has name v ↔ doc.field? name = some v := by
  constructor
  · rintro ⟨before, after, rfl, hbefore⟩
    induction before with
    | nil => exact (field?_map_cons _ _ _ _).trans (if_pos rfl)
    | cons entry before ih =>
        obtain ⟨key, other⟩ := entry
        have hkey : ¬ key.text? = some name := by
          rw [text?_eq_some_iff]
          exact hbefore _ List.mem_cons_self
        rw [List.cons_append, field?_map_cons, if_neg hkey]
        exact ih fun e he => hbefore e (List.mem_cons_of_mem _ he)
  · intro hfield
    cases doc with
    | map entries =>
        induction entries with
        | nil => cases hfield
        | cons entry entries ih =>
            obtain ⟨key, other⟩ := entry
            rw [field?_map_cons] at hfield
            by_cases hkey : key.text? = some name
            · rw [if_pos hkey, Option.some.injEq] at hfield
              rw [text?_eq_some_iff.mp hkey, hfield]
              exact ⟨[], entries, rfl, by simp⟩
            · rw [if_neg hkey] at hfield
              obtain ⟨before, after, heq, hbefore⟩ := ih hfield
              cases heq
              refine ⟨(key, other) :: before, after, rfl, ?_⟩
              intro e he
              rcases List.mem_cons.mp he with rfl | he
              · exact fun h => hkey (text?_eq_some_iff.mpr h)
              · exact hbefore e he
    | _ => cases hfield

theorem exists_has_iff : (∃ v, doc.Has name v) ↔ (doc.field? name).isSome = true := by
  rw [Option.isSome_iff_exists]
  simp only [has_iff]

theorem Has.exists_eq_map (h : doc.Has name v) : ∃ entries, doc = .map entries := by
  obtain ⟨before, after, rfl, -⟩ := h
  exact ⟨_, rfl⟩

theorem Has.unique {w : Value} (hv : doc.Has name v) (hw : doc.Has name w) : v = w := by
  rw [has_iff] at hv hw
  exact Option.some.inj (hv.symm.trans hw)

theorem items?_eq_some_iff {items : List Value} : v.items? = some items ↔ v = .list items := by
  constructor
  · intro h
    cases v with
    | list other =>
        cases h
        rfl
    | _ => cases h
  · rintro rfl
    rfl

theorem has_list_iff {items : List Value} :
    doc.Has name (.list items) ↔ (doc.field? name).bind items? = some items := by
  rw [has_iff, Option.bind_eq_some_iff]
  simp only [items?_eq_some_iff, exists_eq_right]

theorem falsy_iff : doc.Falsy ↔ doc.truthy = false := by
  constructor
  · intro h
    cases h with
    | float hzero => simp [truthy, hzero]
    | _ => rfl
  · intro h
    cases doc with
    | null => exact .null
    | bool b =>
        cases b with
        | false => exact .false
        | true => cases h
    | int i =>
        have hi : i = 0 := by simpa [truthy] using h
        rw [hi]
        exact .zero
    | float x => exact .float (by simpa [truthy] using h)
    | text s =>
        have hs : s = "" := by simpa [truthy] using h
        rw [hs]
        exact .text
    | bytes data =>
        have hdata : data = [] := by simpa [truthy] using h
        rw [hdata]
        exact .bytes
    | date d => cases h
    | moment m => cases h
    | list items =>
        have hitems : items = [] := by simpa [truthy] using h
        rw [hitems]
        exact .list
    | set items =>
        have hitems : items = [] := by simpa [truthy] using h
        rw [hitems]
        exact .set
    | map entries =>
        have hentries : entries = [] := by simpa [truthy] using h
        rw [hentries]
        exact .map

end Value

/-! ## Demands in order -/

/-- A demand on documents with the code of those that do not meet it. -/
structure Demand where
  code : String
  Met : Value → Prop

/-- The first of some demands that a document does not meet has the code. -/
inductive FailsFirst (doc : Value) : List Demand → String → Prop
  | here {d : Demand} {rest : List Demand} (hfails : ¬ d.Met doc) :
      FailsFirst doc (d :: rest) d.code
  | later {d : Demand} {rest : List Demand} {code : String} (hmet : d.Met doc)
      (hrest : FailsFirst doc rest code) : FailsFirst doc (d :: rest) code

/-- A check with its verdicts agrees with demands on the document. -/
structure Agrees {ε : Type} (codeOf : ε → String) (r : Except ε Unit) (demands : List Demand)
    (doc : Value) : Prop where
  passes : r = .ok () ↔ ∀ d ∈ demands, d.Met doc
  fails : ∀ code, (∃ defect, r = .error defect ∧ codeOf defect = code) ↔
    FailsFirst doc demands code

section Agreement

variable {ε : Type} {codeOf : ε → String} {r : Except ε Unit} {demands : List Demand}
  {d : Demand} {doc : Value}

theorem agrees_nil : Agrees codeOf (.ok ()) [] doc where
  passes := by simp
  fails := by
    intro code
    constructor
    · rintro ⟨defect, h, -⟩
      cases h
    · intro h
      cases h

theorem Agrees.met (h : Agrees codeOf r demands doc) (hmet : d.Met doc) :
    Agrees codeOf r (d :: demands) doc where
  passes := by
    rw [h.passes, List.forall_mem_cons]
    exact (and_iff_right hmet).symm
  fails := by
    intro code
    rw [h.fails]
    constructor
    · exact .later hmet
    · intro hfirst
      cases hfirst with
      | here hfails => exact absurd hmet hfails
      | later _ hrest => exact hrest

theorem agrees_of_not_met (demands : List Demand) (hfails : ¬ d.Met doc) {defect : ε}
    (hcode : codeOf defect = d.code) :
    Agrees codeOf (.error defect) (d :: demands) doc where
  passes := by
    constructor
    · intro h
      cases h
    · intro hall
      exact absurd (hall d List.mem_cons_self) hfails
  fails := by
    intro code
    constructor
    · rintro ⟨other, h, rfl⟩
      cases h
      rw [hcode]
      exact .here hfails
    · intro hfirst
      cases hfirst with
      | here _ => exact ⟨defect, rfl, hcode⟩
      | later hmet _ => exact absurd hmet hfails

end Agreement

end ConfigVault
