import ConfigVault.Proofs.Store.Immediate
import ConfigVault.Proofs.Store.Separation

/-!
# What a group touches and what it sees

The calls of a group touch the current values under its names and the keys of its history
that begin with one.  Its replies show all keys of its current values, and of its history
again the keys that begin with one of its names.  Everything else that the two collections
hold is left as it is, and makes no difference.
-/

namespace ConfigVault

open Calendar Version Retention

variable {σ ν τ : Type}

namespace Group

variable (g : Group)

/-- A call of the group may change what lies under the key of the collection. -/
def Touches (c key : String) : Prop :=
  ∃ name, Name.check g name = .ok () ∧
    (c = g.current ∧ key = name ∨ c = g.history ∧ belongsTo name key = true)

/-- What lies under the key of the collection may show in a reply to a call of the
group. -/
def Sees (c key : String) : Prop :=
  c = g.current ∨
    c = g.history ∧ ∃ name, Name.check g name = .ok () ∧ belongsTo name key = true

def Spares (v v' : String → Collection) : Prop :=
  ∀ c key, ¬g.Touches c key → (v' c).get? key = (v c).get? key

def SeesSame (v v' : String → Collection) : Prop :=
  ∀ c key, g.Sees c key → (v c).get? key = (v' c).get? key

variable {g} {v v' : String → Collection} {c : String} {m m' : Collection}

theorem Spares.refl (v : String → Collection) : g.Spares v v :=
  fun _ _ _ => rfl

theorem Spares.write (h : g.Spares v v')
    (hm : ∀ key, ¬g.Touches c key → m.get? key = (v c).get? key) :
    g.Spares v (Function.update v' c m) := by
  intro other key hkey
  by_cases hother : other = c
  · subst hother
    rw [Function.update_self, hm key hkey]
  · rw [Function.update_of_ne hother, h other key hkey]

theorem SeesSame.write (h : g.SeesSame v v')
    (hm : ∀ key, g.Sees c key → m.get? key = m'.get? key) :
    g.SeesSame (Function.update v c m) (Function.update v' c m') := by
  intro other key hkey
  by_cases hother : other = c
  · subst hother
    rw [Function.update_self, Function.update_self, hm key hkey]
  · rw [Function.update_of_ne hother, Function.update_of_ne hother, h other key hkey]

theorem SeesSame.current_eq (h : g.SeesSame v v') : v g.current = v' g.current := by
  ext1 key
  exact h g.current key (.inl rfl)

theorem SeesSame.history_eq (h : g.SeesSame v v') {name : String}
    (hname : Name.check g name = .ok ()) {key : String}
    (hkey : belongsTo name key = true) : (v g.history).get? key = (v' g.history).get? key :=
  h g.history key (.inr ⟨rfl, name, hname, hkey⟩)

end Group

namespace Store

variable {store : Store σ ν τ} {name content : String} {clock : Moment} {x x' : Holdings ν}

/-! ## What calls leave alone -/

theorem replaceIn_spares (hname : Name.check store.group name = .ok ()) :
    store.group.Spares x.contents (store.replaceIn x name content clock).2.contents := by
  have hcurrent : ∀ key, ¬store.group.Touches store.group.current key →
      ((x.contents store.group.current).insert name content).get? key =
        (x.contents store.group.current).get? key := by
    intro key hkey
    have hne : name ≠ key := by
      rintro rfl
      exact hkey ⟨name, hname, .inl ⟨rfl, rfl⟩⟩
    rw [KeyMap.get?_insert, if_neg hne]
  unfold replaceIn
  cases (x.contents store.group.current).get? name with
  | none => exact (Group.Spares.refl _).write hcurrent
  | some previous =>
      dsimp only
      split
      · exact Group.Spares.refl _
      cases harchive : archive store.retention name previous clock
          (x.contents store.group.history) with
      | error escape => exact Group.Spares.refl _
      | ok archived =>
          refine Group.Spares.write (Group.Spares.write (.refl _) ?_) hcurrent
          intro key hkey
          refine get?_of_archive harchive fun hversion => hkey ?_
          exact ⟨name, hname, .inr ⟨rfl, hversion.belongsTo⟩⟩

theorem putIn_spares :
    store.group.Spares x.contents (store.putIn x name content clock).2.contents := by
  unfold putIn
  cases hname : Name.check store.group name with
  | error refusal => exact Group.Spares.refl _
  | ok _ =>
      rcases store.check content x.checks with ⟨failure | diagnostics, k⟩
      · exact Group.Spares.refl _
      · exact replaceIn_spares (x := { x with checks := k }) hname

theorem deleteIn_spares :
    store.group.Spares x.contents (store.deleteIn x name).2.contents := by
  unfold deleteIn
  cases hname : Name.check store.group name with
  | error refusal => exact Group.Spares.refl _
  | ok _ =>
      dsimp only
      split
      · refine Group.Spares.write (Group.Spares.write (.refl _) ?_) ?_
        · intro key hkey
          have hne : key ≠ name := by
            rintro rfl
            exact hkey ⟨key, hname, .inl ⟨rfl, rfl⟩⟩
          rw [KeyMap.get?_erase, if_neg hne]
        · intro key hkey
          have hforeign : ¬belongsTo name key = true :=
            fun hbelongs => hkey ⟨name, hname, .inr ⟨rfl, hbelongs⟩⟩
          rw [get?_cleared, if_neg hforeign]
      · exact Group.Spares.refl _

theorem performIn_spares (op : Operation) :
    store.group.Spares x.contents (store.performIn x op).2.contents := by
  cases op with
  | put name content clock => exact putIn_spares
  | delete name => exact deleteIn_spares
  | getCurrent | listNames | listVersions | listHistory | getVersion =>
      exact Group.Spares.refl _

theorem replaceIn_checks : (store.replaceIn x name content clock).2.checks = x.checks := by
  unfold replaceIn
  cases (x.contents store.group.current).get? name with
  | none => rfl
  | some previous =>
      dsimp only
      split
      · rfl
      cases archive store.retention name previous clock (x.contents store.group.history) <;>
        rfl

/-- Only the check itself changes its state. -/
theorem performIn_checks (x : Holdings ν) (op : Operation) :
    (store.performIn x op).2.checks = x.checks ∨
      ∃ content, (store.performIn x op).2.checks = (store.check content x.checks).2 := by
  cases op with
  | put name content clock =>
      simp only [performIn, putIn]
      cases Name.check store.group name with
      | error refusal => exact .inl rfl
      | ok _ =>
          right
          refine ⟨content, ?_⟩
          rcases store.check content x.checks with ⟨failure | diagnostics, k⟩
          · rfl
          · exact replaceIn_checks
  | delete name =>
      left
      simp only [performIn, deleteIn]
      cases Name.check store.group name with
      | error refusal => rfl
      | ok _ =>
          dsimp only
          split <;> rfl
  | getCurrent | listNames | listVersions | listHistory | getVersion => exact .inl rfl

/-! ## What makes no difference to calls -/

/-- Archiving looks at the keys of the history that begin with the name. -/
theorem archive_congr (limits : Retention) (previous : String) (clock : Moment)
    {history history' : Collection}
    (hsame : ∀ key, belongsTo name key = true → history.get? key = history'.get? key) :
    (∃ escape, archive limits name previous clock history = .error escape ∧
      archive limits name previous clock history' = .error escape) ∨
    ∃ archived archived', archive limits name previous clock history = .ok archived ∧
      archive limits name previous clock history' = .ok archived' ∧
      ∀ key, history.get? key = history'.get? key →
        archived.get? key = archived'.get? key := by
  unfold archive
  cases clock.inUtc? with
  | none => exact .inl ⟨_, rfl, rfl⟩
  | some now =>
  have horder : order name (history.insert (versionKey name now) previous).keys =
      order name (history'.insert (versionKey name now) previous).keys := by
    apply order_congr
    intro key hkey
    rw [KeyMap.get?_insert, KeyMap.get?_insert, hsame key hkey]
  have hevictions : evictions limits name (.utc now)
        (history.insert (versionKey name now) previous).keys =
      evictions limits name (.utc now)
        (history'.insert (versionKey name now) previous).keys := by
    simp only [evictions, horder]
  simp only [trim, hevictions]
  cases evictions limits name (.utc now)
      (history'.insert (versionKey name now) previous).keys with
  | error escape => exact .inl ⟨escape, rfl, rfl⟩
  | ok evicted =>
      refine .inr ⟨_, _, rfl, rfl, ?_⟩
      intro key hkey
      rw [get?_trimmed, get?_trimmed, hkey]

/-- The collections look the same to the group of a store, and the states of its check are
alike. -/
structure Alike (store : Store σ ν τ) (Same : ν → ν → Prop) (x x' : Holdings ν) :
    Prop where
  contents : store.group.SeesSame x.contents x'.contents
  checks : Same x.checks x'.checks

variable {Same : ν → ν → Prop}

theorem replaceIn_alike (halike : store.Alike Same x x')
    (hname : Name.check store.group name = .ok ()) :
    (store.replaceIn x name content clock).1 = (store.replaceIn x' name content clock).1 ∧
      store.Alike Same (store.replaceIn x name content clock).2
        (store.replaceIn x' name content clock).2 := by
  unfold replaceIn
  rw [halike.contents.current_eq]
  cases (x'.contents store.group.current).get? name with
  | none => exact ⟨rfl, halike.contents.write fun _ _ => rfl, halike.checks⟩
  | some previous =>
      dsimp only
      split
      · exact ⟨rfl, halike⟩
      have hhistory : ∀ key, belongsTo name key = true →
          (x.contents store.group.history).get? key =
            (x'.contents store.group.history).get? key :=
        fun key hkey => halike.contents.history_eq hname hkey
      rcases archive_congr store.retention previous clock hhistory with
        ⟨escape, h, h'⟩ | ⟨archived, archived', h, h', hsame⟩
      · simp only [h, h', true_and]
        exact halike
      · simp only [h, h', true_and]
        refine ⟨?_, halike.checks⟩
        refine Group.SeesSame.write (halike.contents.write ?_) fun _ _ => rfl
        intro key hkey
        exact hsame key (halike.contents _ key hkey)

variable (hcheck : ∀ content k k', Same k k' →
  (store.check content k).1 = (store.check content k').1 ∧
    Same (store.check content k).2 (store.check content k').2)

include hcheck in
theorem putIn_alike (halike : store.Alike Same x x') :
    (store.putIn x name content clock).1 = (store.putIn x' name content clock).1 ∧
      store.Alike Same (store.putIn x name content clock).2
        (store.putIn x' name content clock).2 := by
  unfold putIn
  cases hname : Name.check store.group name with
  | error refusal => exact ⟨rfl, halike⟩
  | ok _ =>
      obtain ⟨hverdict, hsame⟩ := hcheck content _ _ halike.checks
      rcases h : store.check content x.checks with ⟨failure | diagnostics, k⟩ <;>
        rcases h' : store.check content x'.checks with ⟨failure' | diagnostics', k'⟩ <;>
        rw [h, h'] at hverdict hsame
      · cases hverdict
        exact ⟨rfl, halike.contents, hsame⟩
      · cases hverdict
      · cases hverdict
      · have halike' : store.Alike Same { x with checks := k } { x' with checks := k' } :=
          ⟨halike.contents, hsame⟩
        exact replaceIn_alike halike' hname

theorem deleteIn_alike (halike : store.Alike Same x x') :
    (store.deleteIn x name).1 = (store.deleteIn x' name).1 ∧
      store.Alike Same (store.deleteIn x name).2 (store.deleteIn x' name).2 := by
  unfold deleteIn
  cases hname : Name.check store.group name with
  | error refusal => exact ⟨rfl, halike⟩
  | ok _ =>
      dsimp only
      rw [halike.contents.current_eq]
      split
      · refine ⟨rfl, ?_, halike.checks⟩
        refine Group.SeesSame.write (halike.contents.write fun _ _ => rfl) ?_
        intro key hkey
        rw [get?_cleared, get?_cleared, halike.contents _ key hkey]
      · exact ⟨rfl, halike⟩

theorem about_congr {α : Type} {reply reply' : Except (Failure τ) α}
    (h : Name.check store.group name = .ok () → reply = reply') :
    store.about name reply = store.about name reply' := by
  unfold about
  cases hname : Name.check store.group name with
  | error refusal => rfl
  | ok _ => exact h hname

include hcheck in
/-- To alike collections and states of the check a call replies the same, and it leaves
them alike. -/
theorem performIn_alike (halike : store.Alike Same x x') (op : Operation) :
    (store.performIn x op).1 = (store.performIn x' op).1 ∧
      store.Alike Same (store.performIn x op).2 (store.performIn x' op).2 := by
  cases op with
  | put name content clock =>
      obtain ⟨hreply, hend⟩ := putIn_alike hcheck halike
      exact ⟨congrArg (Except.map _) hreply, hend⟩
  | delete name =>
      obtain ⟨hreply, hend⟩ := deleteIn_alike halike
      exact ⟨congrArg (Except.map _) hreply, hend⟩
  | getCurrent name =>
      refine ⟨?_, halike⟩
      simp only [performIn, halike.contents.current_eq]
  | listNames =>
      refine ⟨?_, halike⟩
      simp only [performIn, halike.contents.current_eq]
  | listVersions name =>
      refine ⟨congrArg (Except.map _) (about_congr fun hname => ?_), halike⟩
      rw [labelsIn_congr fun key hkey => halike.contents.history_eq hname hkey]
  | listHistory name =>
      refine ⟨congrArg (Except.map _) (about_congr fun hname => ?_), halike⟩
      rw [versionsIn_congr fun key hkey => halike.contents.history_eq hname hkey.belongsTo]
  | getVersion name timestamp =>
      refine ⟨congrArg (Except.map _) (about_congr fun hname => ?_), halike⟩
      unfold contentAt
      simp only [halike.contents.history_eq hname (belongsTo_versionKey name _)]

/-! ## What shows -/

/-- What a group touches, one of its deletions can take away. -/
theorem exists_performIn_eq_empty {c key : String} (htouches : store.group.Touches c key) :
    ∃ d : Collection, d.contains key = true ∧
      ∀ x : Holdings ν, x.contents store.group.current = d →
        x.contents store.group.history = d →
          ∃ op, (store.performIn x op).2.contents c = KeyMap.empty := by
  obtain ⟨name, hname, hplace⟩ := htouches
  let d : Collection := (KeyMap.empty.insert name "").insert key ""
  have hd : ∀ other, d.get? other =
      if key = other then some "" else if name = other then some "" else none := by
    intro other
    simp only [d, KeyMap.get?_insert, KeyMap.get?_empty]
  refine ⟨d, by simp [KeyMap.contains, hd], ?_⟩
  intro x hcurrent hhistory
  refine ⟨.delete name, ?_⟩
  have hcontains : d.contains name = true := by
    rw [KeyMap.contains, hd]
    split <;> simp
  simp only [performIn, deleteIn, hname, hcurrent, hhistory, hcontains, if_true,
    Holdings.write_contents]
  have hself : belongsTo name name = true := belongsTo_iff.mpr (List.prefix_refl _)
  by_cases hc : c = store.group.history
  · have hkey : belongsTo name key = true := by
      rcases hplace with ⟨-, rfl⟩ | ⟨-, hkey⟩
      · exact hself
      · exact hkey
    subst hc
    rw [Function.update_self]
    ext1 other
    rw [get?_cleared, hd, KeyMap.get?_empty]
    by_cases hother : belongsTo name other = true
    · rw [if_pos hother]
    · have hneKey : key ≠ other := fun heq => hother (heq ▸ hkey)
      have hneName : name ≠ other := fun heq => hother (heq ▸ hself)
      rw [if_neg hother, if_neg hneKey, if_neg hneName]
  · obtain ⟨rfl, rfl⟩ : c = store.group.current ∧ key = name := by
      rcases hplace with hplace | ⟨hhere, -⟩
      · exact hplace
      · exact absurd hhere hc
    rw [Function.update_of_ne hc, Function.update_self]
    ext1 other
    rw [KeyMap.get?_erase, hd, KeyMap.get?_empty]
    by_cases hother : other = key
    · rw [if_pos hother]
    · have hne : key ≠ other := fun heq => hother heq.symm
      rw [if_neg hother, if_neg hne, if_neg hne]

theorem labelsIn_empty (name : String) : labelsIn name KeyMap.empty = [] := by
  simp [labelsIn, order, KeyMap.keys, KeyMap.empty]

/-- A reply tells a collection with a key that the group sees from the empty one. -/
theorem exists_performIn_ne {c key : String} (hsees : store.group.Sees c key)
    (hkey : (x.contents c).contains key = true) (hempty : x'.contents c = KeyMap.empty) :
    ∃ op, (store.performIn x op).1 ≠ (store.performIn x' op).1 := by
  have hmem : key ∈ (x.contents c).keys :=
    (KeyMap.mem_keys_iff _ _).mpr (Option.isSome_iff_exists.mp hkey)
  rcases hsees with rfl | ⟨rfl, name, hname, hbelongs⟩
  · refine ⟨.listNames, ?_⟩
    simp only [performIn, hempty]
    intro heq
    injection heq with heq
    injection heq with heq
    rw [heq] at hmem
    cases hmem
  · refine ⟨.listVersions name, ?_⟩
    simp only [performIn, about, hname, hempty, Except.map]
    intro heq
    injection heq with heq
    injection heq with heq
    have hlabel : label name key ∈ labelsIn name (x.contents store.group.history) :=
      List.mem_map_of_mem (mem_order.mpr ⟨hmem, hbelongs⟩)
    rw [heq, labelsIn_empty] at hlabel
    cases hlabel

end Store

end ConfigVault
