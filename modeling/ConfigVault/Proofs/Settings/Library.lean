import ConfigVault.Instance.Settings.Library
import ConfigVault.Proofs.Settings.Reading

/-!
# A library that keeps to what is relied on

The library of settings that reads its variables in JSON does what is relied on of libraries: it merges
key by key, reads fields by their types, and looks at no other source for plain arguments.
-/

namespace ConfigVault

open Value

/-! ## Merging -/

section

variable {name : String}

theorem field?_map_append (front back : Fields) (name : String) :
    (map (front ++ back)).field? name =
      ((map front).field? name).or ((map back).field? name) := by
  induction front with
  | nil => rfl
  | cons entry front ih =>
      obtain ⟨key, v⟩ := entry
      rw [List.cons_append, field?_map_cons, field?_map_cons, ih]
      split <;> rfl

theorem laidFrom_text (upper : Fields) (name : String) (w : Value) :
    laidFrom upper (.text name, w) = (((map upper).field? name).map (laid · w)).getD w := by
  induction upper with
  | nil => rfl
  | cons entry upper ih =>
      obtain ⟨key, v⟩ := entry
      rw [laidFrom, field?_map_cons, ih]
      by_cases hkey : key.text? = some name
      · rw [if_pos hkey, if_pos (sameKey_text_left.mpr (text?_eq_some_iff.mp hkey))]
        rfl
      · have hsame : ¬sameKey (.text name) key = true := fun hsame =>
          hkey (text?_eq_some_iff.mpr (sameKey_text_left.mp hsame))
        rw [if_neg hkey, if_neg hsame]

theorem field?_map_laidFrom (upper lower : Fields) (name : String) :
    (map (lower.map fun e => (e.1, laidFrom upper e))).field? name =
      ((map lower).field? name).map fun w => laidFrom upper (.text name, w) := by
  induction lower with
  | nil => rfl
  | cons entry lower ih =>
      obtain ⟨key, w⟩ := entry
      rw [List.map_cons, field?_map_cons, field?_map_cons, ih]
      by_cases hkey : key.text? = some name
      · rw [if_pos hkey, if_pos hkey, text?_eq_some_iff.mp hkey]
        rfl
      · rw [if_neg hkey, if_neg hkey]

theorem field?_filter_absent (upper lower : Fields) (name : String) :
    (map (upper.filter fun e => lower.all fun f => !sameKey f.1 e.1)).field? name =
      if ((map lower).field? name).isSome then none else (map upper).field? name := by
  have habsent : (lower.all fun f => !sameKey f.1 (.text name)) =
      !((map lower).field? name).isSome := by
    rw [Bool.eq_iff_iff, List.all_eq_true, Bool.not_eq_true', Option.isSome_eq_false_iff,
      Option.isNone_iff_eq_none, field?_map_eq_none_iff]
    simp only [Bool.not_eq_true', Bool.eq_false_iff, ne_eq, sameKey_text_right]
  induction upper with
  | nil => simp
  | cons entry upper ih =>
      obtain ⟨key, v⟩ := entry
      rw [field?_map_cons, List.filter_cons]
      by_cases hkey : key.text? = some name
      · rw [if_pos hkey, text?_eq_some_iff.mp hkey, habsent]
        cases hlower : ((map lower).field? name).isSome with
        | true =>
            rw [hlower] at ih
            exact ih
        | false =>
            simp [field?_map_cons, text?]
      · rw [if_neg hkey]
        split
        · rw [field?_map_cons, if_neg hkey, ih]
        · exact ih

theorem mergeFields_keyByKey : KeyByKey mergeFields := by
  intro upper lower name
  unfold mergeFields
  rw [field?_map_append, field?_map_laidFrom, field?_filter_absent]
  simp only [laidFrom_text]
  cases (map lower).field? name with
  | none =>
      cases (map upper).field? name with
      | none => rfl
      | some v => cases v <;> rfl
  | some w =>
      cases (map upper).field? name with
      | none => rfl
      | some v => cases v <;> cases w <;> rfl

end

/-! ## Types -/

namespace FieldReader

variable {α : Type}

theorem optional_flat {read : FieldReader α} (h : read.Flat) : (optional read).Flat := by
  intro entries a hvalid
  have hread := h entries
  unfold optional at hvalid
  dsimp only at hvalid
  cases hchecked : read (.map entries) with
  | valid x => exact hread x hchecked
  | invalid issues =>
      rw [hchecked] at hvalid
      cases hvalid

theorem checkKnown_eq_valid_iff (names : List String) (fields : Fields) :
    checkKnown names fields = .valid () ↔
      ∀ name, ((map fields).field? name).isSome → name ∈ names := by
  have hissues : ∀ issues : List Issue,
      (if issues.isEmpty then .valid () else .invalid issues : Checked Unit) = .valid () ↔
        issues = [] := by
    intro issues
    cases issues <;> simp
  unfold checkKnown
  rw [hissues, List.filterMap_eq_nil_iff]
  simp only [field?_map_isSome_iff]
  constructor
  · rintro h name ⟨⟨key, v⟩, he, rfl⟩
    have hentry := h _ he
    by_contra hmissing
    simp [hmissing] at hentry
  · rintro h ⟨key, v⟩ he
    cases key with
    | text name =>
        have hname := h name ⟨_, he, rfl⟩
        simp [hname]
    | _ => rfl

theorem types_documented : types.Documented where
  text := nofun
  wholeFrom _ := nofun
  numberAbove _ := nofun
  truth := nofun
  literal _ := nofun
  enumeration _ := nofun
  optional := optional_flat
  list _ := nofun
  record name read v a := by
    cases v <;> simp [types, record, entries?, Checked.complain]
  checkKnown := checkKnown_eq_valid_iff

end FieldReader

/-! ## Sources -/

namespace Configuration

variable {given : Fields} {name : String}

theorem Plain.field?_eq_none (hplain : Plain given) (hname : name.toList.head? = some '_') :
    (map given).field? name = none := by
  rw [field?_map_eq_none_iff]
  intro e he heq
  exact hplain e he name (text?_eq_some_iff.mpr heq) hname

theorem environmentOf_plain (hplain : Plain given) : environmentOf given = .ok .standard := by
  have hnone (name : String) (hname : name.toList.head? = some '_') :
      (map given).field? name = none := hplain.field?_eq_none hname
  unfold environmentOf
  simp only [hnone "_env_prefix" rfl, hnone "_env_nested_max_split" rfl,
    hnone "_case_sensitive" rfl, hnone "_env_nested_delimiter" rfl,
    hnone "_env_ignore_empty" rfl, hnone "_env_parse_none_str" rfl]
  rfl

theorem filter_directives_plain (hplain : Plain given) :
    (given.filter fun e => !isDirective e) = given := by
  have hstart : ∀ word ∈ directives, word.toList.head? = some '_' := by decide
  rw [List.filter_eq_self]
  intro e he
  unfold isDirective
  cases hname : e.1.text? with
  | none => rfl
  | some name =>
      have hfree : name ∉ directives := fun hmem => hplain e he name hname (hstart name hmem)
      simpa using hfree

theorem field?_normalFields {v : Value} (hname : name ∈ fieldNames)
    (hfound : (map given).field? name = some v) :
    (map (normalFields given)).field? name = some v := by
  have hknown (names : List String) (hmem : name ∈ names) (f : String → Option Value)
      (hf : f name = some v) :
      (map (names.filterMap fun name => (f name).map (Value.text name, ·))).field? name =
        some v := by
    induction names with
    | nil => cases hmem
    | cons other names ih =>
        rw [List.filterMap_cons]
        by_cases hother : other = name
        · rw [hother, hf]
          simp [field?_map_cons, text?]
        · have hrest := ih ((List.mem_cons.mp hmem).resolve_left (Ne.symm hother))
          cases f other with
          | none => exact hrest
          | some w =>
              rw [Option.map_some, field?_map_cons, if_neg (by simpa [text?] using hother)]
              exact hrest
  unfold normalFields
  dsimp only
  rw [field?_map_append, hknown fieldNames hname _ (by rw [hfound, Option.some_or])]
  rfl

theorem library_documented (depth : Nat) : (library depth).Documented where
  types := FieldReader.types_documented
  priority given vars hplain := by
    simp only [library, environmentOf_plain hplain]
    change (environmentFields depth .standard vars).bind _ = _
    cases environmentFields depth .standard vars <;> rfl
  named given hplain name hname v hfound := by
    simp only [library, argumentFields, filter_directives_plain hplain]
    exact field?_normalFields hname hfound
  merges := mergeFields_keyByKey

end Configuration

end ConfigVault
