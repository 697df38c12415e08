import ConfigVault.Proofs.Store.Separation

/-!
# Three ways to read a history

The versions of an artifact are listed by their labels, listed with their contents, and
looked up by a timestamp.  The first picks the keys that begin with the name and cuts the
name off, the second decodes keys, the third writes a key and looks it up.  They agree:
the keys that decode come first in both lists and in one order, from the newest to the
oldest, and from the year 1000 on a timestamp finds a content exactly when one listed
version carries it, which is when it is the label of a key that decodes.
-/

namespace ConfigVault

open Calendar Version Retention

variable {σ ν τ : Type}

/-! ## Labels -/

namespace Version

variable {name key : String} {r : Reading}

theorem label_append (name suffix : String) : label name (name ++ "-" ++ suffix) = suffix := by
  have hstrip : stripStart? (name ++ "-") (name ++ "-" ++ suffix) = some suffix :=
    stripStart?_eq_some_iff.mpr (by simp)
  rw [label, hstrip]
  rfl

theorem decode?_append (name suffix : String) :
    decode? name (name ++ "-" ++ suffix) = (parseTimestamp suffix).toOption := by
  have hstrip : stripStart? (name ++ "-") (name ++ "-" ++ suffix) = some suffix :=
    stripStart?_eq_some_iff.mpr (by simp)
  rw [decode?, hstrip]
  dsimp only
  cases parseTimestamp suffix <;> rfl

theorem parseTimestamp_label (h : decode? name key = some r) :
    parseTimestamp (label name key) = .ok r := by
  obtain ⟨hkey, hmicro⟩ := decode?_eq_some_iff.mp h
  have hlabel : label name key = String.ofList (stamp r) := by
    have hwhole : key = name ++ "-" ++ String.ofList (stamp r) :=
      String.toList_inj.mp (by simp [hkey])
    rw [hwhole, label_append]
  rw [hlabel]
  exact parseTimestamp_eq_ok_iff.mpr ⟨String.toList_ofList, hmicro⟩

section

variable {timestamp : String} {moment : Reading}
  (hparse : parseTimestamp timestamp = .ok moment) (hyear : 1000 ≤ moment.date.year)

include hparse hyear

theorem decode?_versionKey_of_parse (name : String) :
    decode? name (versionKey name moment) = some moment := by
  have hdecode := decode?_versionKey name hyear
  rwa [Reading.wholeSeconds_eq_self (parseTimestamp_eq_ok_iff.mp hparse).2] at hdecode

/-- A timestamp of a year with four digits is the label of the one key that decodes to
it. -/
theorem label_eq_iff (h : decode? name key = some r) :
    label name key = timestamp ↔ key = versionKey name moment := by
  have hdecode := decode?_versionKey_of_parse hparse hyear name
  constructor
  · rintro rfl
    have hsame := parseTimestamp_label h
    rw [hparse, Except.ok.injEq] at hsame
    subst hsame
    exact eq_of_decode?_eq h hdecode
  · rintro rfl
    exact parseTimestamp_injective (parseTimestamp_label hdecode) hparse

end

end Version

namespace Store

variable {name : String} {history : Collection}

/-! ## The two lists -/

/-- The keys of a history that belong to a name and do not decode, the greatest first. -/
def undecodedIn (name : String) (history : Collection) : List String :=
  (order name history.keys).filter fun key => !(decode? name key).isSome

theorem decodedIn_append_undecodedIn (name : String) (history : Collection) :
    decodedIn name history ++ undecodedIn name history = order name history.keys :=
  order_eq_append name history.keys

theorem decodedIn_pairwise (name : String) (history : Collection) :
    (decodedIn name history).Pairwise fun newer older =>
      ∀ made, decode? name older = some made → isLater name made newer = true :=
  decoded_pairwise_isLater name history.keys_nodup

def LiesUnder (name : String) (history : Collection) (key : String)
    (version : ArchivedVersion) : Prop :=
  decode? name key = some version.moment ∧ history.get? key = some version.content

theorem versionsIn_forall₂ (name : String) (history : Collection) :
    List.Forall₂ (LiesUnder name history) (decodedIn name history)
      (versionsIn name history) := by
  rw [versionsIn_eq]
  have hkeys : ∀ key ∈ decodedIn name history, (∃ value, history.get? key = some value) ∧
      ∃ moment, decode? name key = some moment := fun key => mem_decodedIn.mp
  generalize decodedIn name history = keys at hkeys ⊢
  induction keys with
  | nil => exact .nil
  | cons key keys ih =>
      obtain ⟨⟨value, hvalue⟩, moment, hmoment⟩ := hkeys key List.mem_cons_self
      rw [List.filterMap_cons_some (by rw [hvalue, hmoment])]
      exact .cons ⟨hmoment, hvalue⟩ (ih fun key hkey =>
        hkeys key (List.mem_cons_of_mem _ hkey))

theorem mem_versionsIn {version : ArchivedVersion} :
    version ∈ versionsIn name history ↔ ∃ key, LiesUnder name history key version := by
  rw [versionsIn_eq, List.mem_filterMap]
  constructor
  · rintro ⟨key, hkey, hversion⟩
    obtain ⟨⟨value, hvalue⟩, moment, hmoment⟩ := mem_decodedIn.mp hkey
    rw [hmoment, hvalue, Option.some.injEq] at hversion
    subst hversion
    exact ⟨key, hmoment, hvalue⟩
  · rintro ⟨key, hmoment, hvalue⟩
    refine ⟨key, mem_decodedIn.mpr ⟨⟨_, hvalue⟩, _, hmoment⟩, ?_⟩
    rw [hmoment, hvalue]

theorem versionsIn_pairwise (name : String) (history : Collection) :
    (versionsIn name history).Pairwise fun newer older =>
      older.moment.microseconds < newer.moment.microseconds := by
  rw [versionsIn_eq]
  refine (decodedIn_pairwise name history).filterMap _ ?_
  intro a b hlater newer hnewer older holder
  split at hnewer
  · next made content hmade hcontent =>
      split at holder
      · next made' content' hmade' hcontent' =>
          cases hnewer
          cases holder
          obtain ⟨later, hdecode, hlt⟩ := isLater_iff.mp (hlater made' hmade')
          rw [hmade, Option.some.injEq] at hdecode
          rwa [hdecode]
      · cases holder
  · cases hnewer

/-! ## Looking up a timestamp -/

theorem eq_of_moment_eq {version other : ArchivedVersion}
    (hversion : version ∈ versionsIn name history) (hother : other ∈ versionsIn name history)
    (hmoment : version.moment = other.moment) : version = other := by
  have hnodup : ((versionsIn name history).map ArchivedVersion.moment).Nodup := by
    refine List.Pairwise.map _ ?_ (versionsIn_pairwise name history)
    intro newer older hlt heq
    rw [heq] at hlt
    exact Nat.lt_irrefl _ hlt
  exact List.inj_on_of_nodup_map hnodup hversion hother hmoment

theorem filter_moment_eq_iff {moment : Reading} {content : String} :
    (versionsIn name history).filter (fun version => decide (version.moment = moment)) =
        [⟨moment, content⟩] ↔
      ⟨moment, content⟩ ∈ versionsIn name history := by
  constructor
  · intro hfilter
    have hmem : (⟨moment, content⟩ : ArchivedVersion) ∈ [⟨moment, content⟩] :=
      List.mem_singleton_self _
    rw [← hfilter] at hmem
    exact (List.mem_filter.mp hmem).1
  · intro hmem
    apply List.perm_singleton.mp
    have hnodup : (versionsIn name history).Nodup :=
      (versionsIn_pairwise name history).imp fun hlt heq => by
        rw [heq] at hlt
        exact Nat.lt_irrefl _ hlt
    rw [List.perm_ext_iff_of_nodup (hnodup.filter _) (List.nodup_singleton _)]
    intro version
    rw [List.mem_filter, decide_eq_true_eq, List.mem_singleton]
    constructor
    · rintro ⟨hversion, hmoment⟩
      exact eq_of_moment_eq hversion hmem hmoment
    · rintro rfl
      exact ⟨hmem, rfl⟩

section

variable {timestamp : String} {moment : Reading}
  (hparse : parseTimestamp timestamp = .ok moment) (hyear : 1000 ≤ moment.date.year)

include hparse hyear

/-- The key that a timestamp is looked up under holds the version of its second. -/
theorem get?_versionKey_eq_some_iff {content : String} :
    history.get? (versionKey name moment) = some content ↔
      ⟨moment, content⟩ ∈ versionsIn name history := by
  have hdecode := decode?_versionKey_of_parse hparse hyear name
  rw [mem_versionsIn]
  constructor
  · intro hcontent
    exact ⟨_, hdecode, hcontent⟩
  · rintro ⟨key, hkey, hcontent⟩
    rwa [eq_of_decode?_eq hkey hdecode] at hcontent

theorem isSome_get?_versionKey_iff :
    (history.get? (versionKey name moment)).isSome = true ↔
      timestamp ∈ (decodedIn name history).map (label name) := by
  rw [Option.isSome_iff_exists, List.mem_map]
  constructor
  · intro hvalue
    have hdecode := decode?_versionKey_of_parse hparse hyear name
    refine ⟨_, mem_decodedIn.mpr ⟨hvalue, _, hdecode⟩, ?_⟩
    exact (label_eq_iff hparse hyear hdecode).mpr rfl
  · rintro ⟨key, hkey, hlabel⟩
    obtain ⟨hvalue, r, hdecode⟩ := mem_decodedIn.mp hkey
    rwa [(label_eq_iff hparse hyear hdecode).mp hlabel] at hvalue

end

variable (store : Store σ ν τ)

/-- The three ways of reading a history agree about a name.  The keys that belong to it
are those that decode, the newest first, and the rest. -/
structure ReadAlike (name : String) (history : Collection) (w w' : World σ ν τ)
    (labels : List String) (versions : List ArchivedVersion) (decoded rest : List String) :
    Prop where
  listVersions : (store.listVersions name).run w = (.ok labels, w')
  listHistory : (store.listHistory name).run w = (.ok versions, w')
  descending : versions.Pairwise fun newer older =>
    older.moment.microseconds < newer.moment.microseconds
  keys : (decoded ++ rest).Perm (history.keys.filter (belongsTo name))
  undecoded : ∀ key ∈ rest, decode? name key = none
  labelled : labels = (decoded ++ rest).map (label name)
  same_order : List.Forall₂ (LiesUnder name history) decoded versions
  timestamps : List.Forall₂ (fun text version => parseTimestamp text = .ok version.moment)
    (decoded.map (label name)) versions
  getVersion : ∀ timestamp moment, parseTimestamp timestamp = .ok moment →
    1000 ≤ moment.date.year →
      ∃ answer, (store.getVersion name timestamp).run w = (.ok answer, w') ∧
        (∀ content, answer = some content ↔
          versions.filter (fun version => decide (version.moment = moment)) =
            [⟨moment, content⟩]) ∧
        (answer.isSome = true ↔ timestamp ∈ decoded.map (label name))
  refused : ∀ suffix, decode? name (name ++ "-" ++ suffix) = none →
    label name (name ++ "-" ++ suffix) = suffix ∧
      ∃ defect, (store.getVersion name suffix).run w =
        (.error (.timestamp suffix defect), w)

variable {store}

/-- A history is read alike in three ways, whatever keys it holds.  The listed versions go
strictly from the newest to the oldest; the labels of the keys that decode come before all
others, one for each version and in their order; a timestamp of a year with four digits
finds a content exactly when one listed version carries it, and finds any exactly when it
is such a label; and what stands behind the name and a hyphen and does not decode is
refused as a timestamp. -/
theorem history_readAlike {w w' : World σ ν τ}
    (hname : Name.check store.group name = .ok ())
    (hread : store.readHistory.run w = (.ok history, w')) :
    ∃ labels versions decoded rest,
      store.ReadAlike name history w w' labels versions decoded rest := by
  refine ⟨labelsIn name history, versionsIn name history, decodedIn name history,
    undecodedIn name history, ?_⟩
  constructor
  · exact listVersions_run hname hread
  · exact listHistory_run hname hread
  · exact versionsIn_pairwise name history
  · rw [decodedIn_append_undecodedIn]
    exact order_perm name history.keys
  · intro key hkey
    simpa using (List.mem_filter.mp hkey).2
  · rw [decodedIn_append_undecodedIn, labelsIn]
  · exact versionsIn_forall₂ name history
  · rw [List.forall₂_map_left_iff]
    exact (versionsIn_forall₂ name history).imp fun _ _ hlies => parseTimestamp_label hlies.1
  · intro timestamp moment hparse hyear
    refine ⟨_, getVersion_run hname hread hparse, ?_,
      isSome_get?_versionKey_iff hparse hyear⟩
    intro content
    rw [filter_moment_eq_iff, get?_versionKey_eq_some_iff hparse hyear]
  · intro suffix hsuffix
    refine ⟨label_append name suffix, ?_⟩
    rw [decode?_append] at hsuffix
    cases hparse : parseTimestamp suffix with
    | ok r =>
        rw [hparse] at hsuffix
        cases hsuffix
    | error defect => exact ⟨defect, getVersion_run_of_error w hname hparse⟩

/-- A history with versions of two names, one a year with three digits, and keys that
decode under none. -/
def mixedHistory : Collection :=
  .ofList [("a.rules-2024-02-29T12-00-00", "one"), ("a.rules-2024-03-01T12-00-00", "two"),
    ("a.rules-0999-03-01T12-00-00", "zero"), ("a.rules-2023-02-29T12-00-00", "no day"),
    ("a.rules-b.rules-2024-03-01T12-00-00", "three"), ("a.rulesets", "none"),
    ("b.rules-2024-03-01T12-00-00", "four")]

/-- What is listed of it for one name: the stamps of the keys that decode, then the rest. -/
def mixedLabels : List String :=
  ["2024-03-01T12-00-00", "2024-02-29T12-00-00", "0999-03-01T12-00-00", "a.rulesets",
    "b.rules-2024-03-01T12-00-00", "2023-02-29T12-00-00"]

def mixedVersions : List ArchivedVersion :=
  [⟨noon, "two"⟩, ⟨{ noon with date := ⟨2024, 2, 29, by decide⟩ }, "one"⟩,
    ⟨{ noon with date := ⟨999, 3, 1, by decide⟩ }, "zero"⟩]

theorem history_readAlike_mixed :
    let store := rulesUnder passing .standard
    let w : World (Disturbed (Memory Rat) Unit) Unit Rat :=
      ⟨⟨Memory.ofCollections [("alertrules-versions", mixedHistory)], (), []⟩, (), 0⟩
    ∃ w', Name.check store.group "a.rules" = .ok () ∧
      store.readHistory.run w = (.ok mixedHistory, w') ∧
      ∃ decoded rest,
        store.ReadAlike "a.rules" mixedHistory w w' mixedLabels mixedVersions decoded rest := by
  intro store w
  have hname : Name.check store.group "a.rules" = .ok () := by decide
  have hsettled : w.backend.inner.Settled := Memory.ofCollections_settled _
  obtain ⟨s, hread, -⟩ := readHistory_answer (rulesUnder_passing_prompt .standard) w hsettled
  have hhistory : w.backend.inner.snapshot store.group.history = mixedHistory := by
    decide +kernel
  rw [hhistory] at hread
  have horder : order "a.rules" mixedHistory.keys =
      ["a.rules-2024-03-01T12-00-00", "a.rules-2024-02-29T12-00-00",
        "a.rules-0999-03-01T12-00-00", "a.rulesets", "a.rules-b.rules-2024-03-01T12-00-00",
        "a.rules-2023-02-29T12-00-00"] :=
    order_eq_of_perm mixedHistory.keys_nodup (by decide +kernel) (by decide +kernel)
  have hlabels : labelsIn "a.rules" mixedHistory = mixedLabels := by
    rw [labelsIn, horder]
    decide +kernel
  have hversions : versionsIn "a.rules" mixedHistory = mixedVersions := by
    rw [versionsIn, horder]
    decide +kernel
  obtain ⟨labels, versions, decoded, rest, halike⟩ := history_readAlike hname hread
  have hlisted := halike.listVersions.symm.trans (listVersions_run hname hread)
  have hread' := halike.listHistory.symm.trans (listHistory_run hname hread)
  rw [hlabels] at hlisted
  rw [hversions] at hread'
  cases hlisted
  cases hread'
  exact ⟨_, hname, hread, decoded, rest, halike⟩

end Store

end ConfigVault
