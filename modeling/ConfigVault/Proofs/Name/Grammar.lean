import ConfigVault.Failure
import ConfigVault.Proofs.Version.Timestamp

/-!
# The grammar of names

A name is a short run of letters, digits, hyphens, underscores and dots with at least
one letter, digit or underscore in it, and keeps to the rules of its group.  The check
of names accepts these texts and no others but one kind: a text of the grammar with a
line break behind it, as long as the rules of the group hold with the break.  A name
that is refused breaks the rule that the refusal tells.
-/

namespace ConfigVault

open Version

namespace Name

def IsLetter (c : Char) : Prop :=
  ('a' ≤ c ∧ c ≤ 'z') ∨ ('A' ≤ c ∧ c ≤ 'Z')

def IsDigit (c : Char) : Prop :=
  '0' ≤ c ∧ c ≤ '9'

def IsKeyChar (c : Char) : Prop :=
  IsLetter c ∨ IsDigit c ∨ c = '-' ∨ c = '_' ∨ c = '.'

/-- The rule for keys of collections. -/
structure IsKey (text : String) : Prop where
  nonempty : 1 ≤ text.length
  short : text.length ≤ 253
  characters : ∀ c ∈ text.toList, IsKeyChar c

/-- A text of hyphens and dots alone is no name. -/
def HasWord (text : String) : Prop :=
  ∃ c ∈ text.toList, IsLetter c ∨ IsDigit c ∨ c = '_'

/-- The rules that a group adds. -/
structure FitsGroup (group : Group) (name : String) : Prop where
  fixed : ∀ fixed, group.fixedName = some fixed → name = fixed
  suffix : ∀ suffix, group.suffix = some suffix → suffix ≠ "" →
    (∃ front, name = front ++ suffix) ∧ name ≠ suffix

/-- The rule that a refusal tells is broken. -/
inductive Breaks (group : Group) (name : String) : NameRefusal → Prop
  | length (h : ¬ (1 ≤ name.length ∧ name.length ≤ 253)) : Breaks group name .length
  | characters (h : ∃ c ∈ name.toList, ¬ IsKeyChar c) : Breaks group name .characters
  | noWordCharacter (h : ¬ HasWord name) : Breaks group name .noWordCharacter
  | notTheFixedName {fixed : String} (hfixed : group.fixedName = some fixed)
      (h : name ≠ fixed) : Breaks group name (.notTheFixedName group.name fixed)
  | suffixMissing {suffix : String} (hsuffix : group.suffix = some suffix)
      (h : ¬ ∃ front, name = front ++ suffix) :
      Breaks group name (.suffixMissing group.name suffix)
  | bareSuffix {suffix : String} (hsuffix : group.suffix = some suffix)
      (h : name = suffix) : Breaks group name (.bareSuffix group.name)

/-! ## Characters -/

theorem isWordChar_iff (c : Char) :
    isWordChar c = true ↔ IsLetter c ∨ IsDigit c ∨ c = '_' := by
  have hupper : c.isUpper = true ↔ 'A' ≤ c ∧ c ≤ 'Z' := decide_eq_true_iff
  have hlower : c.isLower = true ↔ 'a' ≤ c ∧ c ≤ 'z' := by
    change (decide ('a' ≤ c) && decide (c ≤ 'z')) = true ↔ _
    rw [Bool.and_eq_true, decide_eq_true_iff, decide_eq_true_iff]
  have hletter : c.isAlpha = true ↔ IsLetter c := by
    change (c.isUpper || c.isLower) = true ↔ _
    rw [Bool.or_eq_true, hupper, hlower]
    exact or_comm
  have hdigit : c.isDigit = true ↔ IsDigit c := by
    simp [Char.isDigit, IsDigit, Char.le_def]
  simp [isWordChar, Char.isAlphanum, hletter, hdigit, or_assoc]

theorem isNameChar_iff (c : Char) : isNameChar c = true ↔ IsKeyChar c := by
  simp only [isNameChar, Bool.or_eq_true, isWordChar_iff, decide_eq_true_eq, IsKeyChar]
  tauto

theorem not_isKeyChar_break : ¬ IsKeyChar '\n' := by
  simp [← isNameChar_iff, isNameChar, isWordChar, Char.isAlphanum]

theorem all_isNameChar_iff (cs : List Char) :
    cs.all isNameChar = true ↔ ∀ c ∈ cs, IsKeyChar c := by
  simp [isNameChar_iff]

theorem any_isWordChar_iff (text : String) :
    text.toList.any isWordChar = true ↔ HasWord text := by
  simp [HasWord, isWordChar_iff]

/-! ## Texts with a line break at the end -/

theorem dropFinalBreak_break (cs : List Char) : dropFinalBreak (cs ++ ['\n']) = cs := by
  simp [dropFinalBreak]

theorem dropFinalBreak_eq_self_or (cs : List Char) :
    dropFinalBreak cs = cs ∨ cs = dropFinalBreak cs ++ ['\n'] := by
  by_cases hlast : cs.getLast? = some '\n'
  · obtain ⟨front, rfl⟩ := List.getLast?_eq_some_iff.mp hlast
    right
    rw [dropFinalBreak_break]
  · left
    simp [dropFinalBreak, hlast]

theorem hasWord_break_iff (body : String) : HasWord (body ++ "\n") ↔ HasWord body := by
  simp [← any_isWordChar_iff, isWordChar, Char.isAlphanum]

/-! ## The rule for keys -/

theorem refusesLength_iff (name : String) :
    (name.toList.isEmpty || maxLength < name.toList.length) = true ↔
      ¬ (1 ≤ name.length ∧ name.length ≤ 253) := by
  rw [Bool.or_eq_true, List.isEmpty_iff_length_eq_zero, decide_eq_true_iff,
    String.length_toList, maxLength]
  omega

theorem checkKey_eq_ok_iff_body (name : String) :
    checkKey name = .ok () ↔ (1 ≤ name.length ∧ name.length ≤ 253) ∧
      dropFinalBreak name.toList ≠ [] ∧
      (∀ c ∈ dropFinalBreak name.toList, IsKeyChar c) ∧ HasWord name := by
  simp only [← all_isNameChar_iff, ← any_isWordChar_iff, checkKey]
  by_cases hlength : 1 ≤ name.length ∧ name.length ≤ 253
  · rw [if_neg ((refusesLength_iff name).not.mpr (not_not.mpr hlength))]
    by_cases hbody : dropFinalBreak name.toList = []
    · simp [hbody]
    · cases hchars : (dropFinalBreak name.toList).all isNameChar <;>
        cases hword : name.toList.any isWordChar <;>
          simp [hlength, hbody]
  · rw [if_pos ((refusesLength_iff name).mpr hlength)]
    simp [hlength]

/-- What the rule for keys lets through is a key with a word in it, or such a key with a
line break behind it. -/
theorem checkKey_eq_ok_iff (name : String) :
    checkKey name = .ok () ↔ (IsKey name ∧ HasWord name) ∨
      ∃ body, name = body ++ "\n" ∧ body.length < 253 ∧ IsKey body ∧ HasWord body := by
  have hone : "\n".length = 1 := rfl
  rw [checkKey_eq_ok_iff_body]
  constructor
  · rintro ⟨⟨hpos, hshort⟩, hbody, hchars, hword⟩
    rcases dropFinalBreak_eq_self_or name.toList with hself | hbreak
    · rw [hself] at hchars
      exact .inl ⟨⟨hpos, hshort, hchars⟩, hword⟩
    · right
      have hname : name = String.ofList (dropFinalBreak name.toList) ++ "\n" := by
        apply String.toList_inj.mp
        simpa using hbreak
      generalize dropFinalBreak name.toList = cs at hname hbody hchars
      subst hname
      rw [hasWord_break_iff] at hword
      simp only [String.length_append, String.length_ofList, hone] at hshort
      have hcs : 1 ≤ cs.length := List.length_pos_iff.mpr hbody
      have hkey : IsKey (String.ofList cs) := by
        refine ⟨?_, ?_, ?_⟩
        · simpa using hcs
        · simpa using Nat.le_of_succ_le hshort
        · simpa using hchars
      refine ⟨String.ofList cs, rfl, ?_, hkey, hword⟩
      simpa using hshort
  · rintro (⟨hkey, hword⟩ | ⟨body, rfl, hshort, hkey, hword⟩)
    · have hclean : dropFinalBreak name.toList = name.toList := by
        apply dropFinalBreak_eq_self
        exact fun hbreak => not_isKeyChar_break (hkey.characters _ hbreak)
      have hpos := hkey.nonempty
      rw [hclean]
      refine ⟨⟨hpos, hkey.short⟩, ?_, hkey.characters, hword⟩
      rw [← String.length_toList] at hpos
      exact List.length_pos_iff.mp hpos
    · have hbody : dropFinalBreak (body ++ "\n").toList = body.toList := by
        simp [dropFinalBreak_break]
      have hpos := hkey.nonempty
      have hlength : (body ++ "\n").length = body.length + 1 := by
        simp [hone]
      rw [hbody, hlength]
      refine ⟨⟨by omega, by omega⟩, ?_, hkey.characters, (hasWord_break_iff body).mpr hword⟩
      rw [← String.length_toList] at hpos
      exact List.length_pos_iff.mp hpos

theorem exists_not_isKeyChar {cs : List Char} (h : cs ≠ [])
    (hbody : dropFinalBreak cs = [] ∨ (dropFinalBreak cs).all isNameChar = false) :
    ∃ c ∈ cs, ¬ IsKeyChar c := by
  rcases dropFinalBreak_eq_self_or cs with hself | hbreak
  · rw [hself] at hbody
    have hall : ¬ ∀ c ∈ cs, IsKeyChar c := by
      rw [← all_isNameChar_iff, Bool.not_eq_true]
      exact hbody.resolve_left h
    simpa using hall
  · refine ⟨'\n', ?_, not_isKeyChar_break⟩
    rw [hbreak]
    simp

variable {group : Group} {name : String} {refusal : NameRefusal}

theorem breaks_of_checkKey (h : checkKey name = .error refusal) :
    Breaks group name refusal := by
  simp only [checkKey] at h
  by_cases hlength : 1 ≤ name.length ∧ name.length ≤ 253
  · rw [if_neg ((refusesLength_iff name).not.mpr (not_not.mpr hlength))] at h
    split_ifs at h with hchars hword
    · cases h
      apply Breaks.characters
      apply exists_not_isKeyChar
      · rw [← List.length_pos_iff, String.length_toList]
        exact hlength.1
      · simpa using hchars
    · cases h
      apply Breaks.noWordCharacter
      rw [← any_isWordChar_iff]
      simpa using hword
  · rw [if_pos ((refusesLength_iff name).mpr hlength)] at h
    cases h
    exact .length hlength

/-! ## The rules of a group -/

theorem endsWith_iff (ending text : String) :
    endsWith ending text = true ↔ ∃ front, text = front ++ ending := by
  rw [endsWith, List.isSuffixOf_iff_suffix]
  constructor
  · rintro ⟨front, hfront⟩
    refine ⟨String.ofList front, ?_⟩
    apply String.toList_inj.mp
    simp [hfront]
  · rintro ⟨front, rfl⟩
    exact ⟨front.toList, by simp⟩

theorem checkSuffix_eq_ok_iff :
    checkInGroup.checkSuffix group name = .ok () ↔
      ∀ suffix, group.suffix = some suffix → suffix ≠ "" →
        (∃ front, name = front ++ suffix) ∧ name ≠ suffix := by
  unfold checkInGroup.checkSuffix
  cases hsuffix : group.suffix with
  | none => simp
  | some suffix =>
      by_cases hempty : suffix = ""
      · simp [hempty]
      · by_cases hends : endsWith suffix name = true
        · simp [hempty, hends, (endsWith_iff suffix name).mp hends]
        · have hother : ¬ ∃ front, name = front ++ suffix := by
            rwa [← endsWith_iff]
          simp [hempty, hends, hother]

theorem checkInGroup_eq_ok_iff : checkInGroup group name = .ok () ↔ FitsGroup group name := by
  have hfits : FitsGroup group name ↔
      (∀ fixed, group.fixedName = some fixed → name = fixed) ∧
        checkInGroup.checkSuffix group name = .ok () := by
    rw [checkSuffix_eq_ok_iff]
    exact ⟨fun h => ⟨h.fixed, h.suffix⟩, fun h => ⟨h.1, h.2⟩⟩
  rw [hfits]
  unfold checkInGroup
  cases hfixed : group.fixedName with
  | none => simp
  | some fixed => by_cases hname : name = fixed <;> simp [hname]

theorem breaks_of_checkInGroup (h : checkInGroup group name = .error refusal) :
    Breaks group name refusal := by
  have hsuffix : checkInGroup.checkSuffix group name = .error refusal →
      Breaks group name refusal := by
    intro h
    unfold checkInGroup.checkSuffix at h
    cases hgroup : group.suffix with
    | none =>
        rw [hgroup] at h
        cases h
    | some suffix =>
        simp only [hgroup] at h
        split_ifs at h with hempty hends hbare
        · cases h
          apply Breaks.suffixMissing hgroup
          rw [← endsWith_iff]
          simpa using hends
        · cases h
          exact .bareSuffix hgroup hbare
  unfold checkInGroup at h
  cases hfixed : group.fixedName with
  | none =>
      rw [hfixed] at h
      exact hsuffix h
  | some fixed =>
      simp only [hfixed] at h
      split_ifs at h with hname
      · cases h
        exact .notTheFixedName hfixed hname
      · exact hsuffix h

/-! ## Names of groups -/

/-- The names that the rules of keys and groups allow. -/
structure Allowed (group : Group) (name : String) : Prop where
  key : IsKey name
  word : HasWord name
  fits : FitsGroup group name

/-- A name is accepted exactly when it is allowed, or fits the group and is a key with a
word and a line break behind it; any other one is refused by an incident of the kind
for names, for a rule that it breaks. -/
theorem check_accepts_exactly (group : Group) (name : String) :
    (check group name = .ok () ↔ Allowed group name ∨
      FitsGroup group name ∧
        ∃ body, name = body ++ "\n" ∧ body.length < 253 ∧ IsKey body ∧ HasWord body) ∧
    (check group name = .ok () ∨ ∃ refusal, check group name = .error refusal ∧
      Breaks group name refusal ∧ (refusal.incident name).kind = .name) := by
  have hallowed : Allowed group name ↔ (IsKey name ∧ HasWord name) ∧ FitsGroup group name :=
    ⟨fun h => ⟨⟨h.key, h.word⟩, h.fits⟩, fun h => ⟨h.1.1, h.1.2, h.2⟩⟩
  constructor
  · rw [hallowed, and_comm (a := FitsGroup group name), ← or_and_right,
      ← checkKey_eq_ok_iff, ← checkInGroup_eq_ok_iff]
    unfold check
    cases checkKey name <;> simp
  · cases hcheck : check group name with
    | ok _ => exact .inl rfl
    | error refusal =>
        right
        refine ⟨refusal, rfl, ?_, rfl⟩
        unfold check at hcheck
        split at hcheck
        · next hkey =>
            cases hcheck
            exact breaks_of_checkKey hkey
        · exact breaks_of_checkInGroup hcheck

/-- A group that takes names of any kind. -/
def notes : Group where
  name := "notes"
  current := "notes"
  history := "notes-versions"
  suffix := none
  fixedName := none
  check := .none

/-- A name with a line break at its end is accepted, though no key holds one. -/
theorem check_accepts_break :
    check notes "a\n" = .ok () ∧ ¬ Allowed notes "a\n" := by
  refine ⟨by decide, ?_⟩
  intro h
  exact not_isKeyChar_break (h.key.characters _ (by decide))

end Name

end ConfigVault
