import ConfigVault.Data.Loader
import ConfigVault.Instance.Yaml.Graph
import ConfigVault.Instance.Yaml.ScalarValue

/-!
# Documents

The value of a document.  The collections of a document are filled in the order in which they come
up, level by level, which decides which of several faults is reported.  A mapping takes over the
entries of the mappings that its merge keys name, in front of its own.

This gives one of the loaders that checks and settings can be run with.  What is proved of them holds
for every loader; examples need one.
-/

namespace ConfigVault.Yaml

/-! ## Filling collections -/

/-- What is known of a node: its value, or what it holds by the numbers of other nodes. -/
inductive Part where
  | leaf (value : Value)
  /-- A collection that is not filled yet. -/
  | unfilled
  | list (items : List Nat)
  | pairs (entries : List (Nat × Nat))
  | set (elements : List Value)
  | map (entries : List (Value × Nat))

/-- A key of a mapping.  The undefined number is not equal to itself: where it is the key, its node
tells which one is meant. -/
structure Key where
  value : Value
  node : Option Nat

namespace Key

def same (a b : Key) : Bool :=
  if a.node.isSome || b.node.isSome then a.node = b.node else Value.sameKey a.value b.value

def setEntry {α : Type} (key : Key) (a : α) : List (Key × α) → List (Key × α)
  | [] => [(key, a)]
  | (k, b) :: rest => if k.same key then (k, a) :: rest else (k, b) :: setEntry key a rest

end Key

/-- A document while its collections are filled. -/
structure Filling where
  nodes : Graph
  parts : Array (Option Part)
  /-- The collections to be filled, in order. -/
  waiting : List Nat

namespace Filling

def node (f : Filling) (n : Nat) : Node :=
  f.nodes.getD n ⟨"", .scalar ""⟩

def setContent (f : Filling) (n : Nat) (content : Content) : Filling :=
  { f with nodes := f.nodes.setIfInBounds n { f.node n with content } }

/-- Says what is known of a node. -/
def setPart (f : Filling) (n : Nat) (part : Part) : Filling :=
  { f with parts := f.parts.setIfInBounds n (some part) }

/-- The text of a scalar, or of the scalar under the value key of a mapping, within `fuel`
mappings. -/
def scalarText (f : Filling) : (fuel : Nat) → Nat → Except ReadFailure String
  | 0, _ => .error (.escaped .endless)
  | fuel + 1, n =>
    match (f.node n).content with
    | .scalar text => .ok text
    | .sequence _ => .error (.malformed .value)
    | .mapping entries =>
      match entries.find? fun e => (f.node e.1).tag = standardTag "value" with
      | some entry => scalarText f fuel entry.2
      | none => .error (.malformed .value)

def collectionTags : List String :=
  ["seq", "map", "set", "omap", "pairs"].map standardTag

/-- Takes a node up: a scalar gets its value, and a collection waits to be filled. -/
def takeUp (f : Filling) (n : Nat) : Except ReadFailure Filling :=
  match f.parts.getD n none with
  | some _ => .ok f
  | none =>
    let tag := (f.node n).tag
    if collectionTags.contains tag then
      .ok { f.setPart n .unfilled with waiting := f.waiting ++ [n] }
    else
      match scalarValue? tag with
      | none => .error (.malformed .value)
      | some value => do
        let text ← f.scalarText (f.nodes.size + 1) n
        match (f.node n).content with
        | .mapping _ =>
          if tag = standardTag "timestamp" then throw (.escaped .mismatch)
        | _ => pure ()
        return f.setPart n (.leaf (← value text))

def takeUpAll (f : Filling) : List Nat → Except ReadFailure Filling
  | [] => .ok f
  | n :: rest =>
    match f.takeUp n with
    | .error e => .error e
    | .ok f => takeUpAll f rest

/-- The value of a node as the key of a mapping. -/
def key? (f : Filling) (n : Nat) : Option Key :=
  match f.parts.getD n none with
  | some (.leaf (.float x)) =>
    if x.isNaN then
      let word := ((f.scalarText (f.nodes.size + 1) n).map isUndefinedWord).toOption
      some ⟨.float x, some (if word = some true then f.nodes.size else n)⟩
    else some ⟨.float x, none⟩
  | some (.leaf value) => some ⟨value, none⟩
  | _ => none

def entriesOf (f : Filling) (n : Nat) : List (Nat × Nat) :=
  match (f.node n).content with
  | .mapping entries => entries
  | _ => []

/-- The first entry with a merge key, and the mapping without it; value keys before it become plain
texts. -/
def takeMerge? (f : Filling) (n : Nat) : (before after : List (Nat × Nat)) →
    Filling × Option ((Nat × Nat) × List (Nat × Nat))
  | before, [] => (f.setContent n (.mapping before.reverse), none)
  | before, e :: rest =>
    let tag := (f.node e.1).tag
    if tag = standardTag "merge" then
      (f.setContent n (.mapping (before.reverse ++ rest)), some (e, before))
    else if tag = standardTag "value" then
      takeMerge?
        { f with nodes := f.nodes.setIfInBounds e.1 { f.node e.1 with tag := standardTag "str" } }
        n (e :: before) rest
    else takeMerge? f n (e :: before) rest

/-- Replaces the merge keys of a mapping by the entries that they bring in, within `fuel` steps. -/
def flatten : (fuel : Nat) → Filling → Nat → Except ReadFailure Filling
  | 0, _, _ => .error (.escaped .endless)
  | fuel + 1, f, n => go fuel f n 0 []
where
  /-- Goes on behind the first `done` entries; `merged` are the entries brought in so far. -/
  go : (fuel : Nat) → Filling → Nat → (done : Nat) → (merged : List (Nat × Nat)) →
      Except ReadFailure Filling
    | 0, _, _, _, _ => .error (.escaped .endless)
    | fuel + 1, f, n, done, merged =>
      let entries := f.entriesOf n
      match f.takeMerge? n (entries.take done).reverse (entries.drop done) with
      | (f, none) =>
        if merged.isEmpty then .ok f
        else .ok (f.setContent n (.mapping (merged ++ f.entriesOf n)))
      | (f, some (e, before)) =>
        match (f.node e.2).content with
        | .mapping _ =>
          match flatten fuel f e.2 with
          | .error e => .error e
          | .ok f => go fuel f n before.length (merged ++ f.entriesOf e.2)
        | .sequence items =>
          match flattenAll fuel f items [] with
          | .error e => .error e
          | .ok (f, lists) => go fuel f n before.length (merged ++ lists.flatten)
        | .scalar _ => .error (.malformed .value)
  /-- Flattens the mappings of a list; gives their entries, those of the last one first. -/
  flattenAll : (fuel : Nat) → Filling → List Nat → (lists : List (List (Nat × Nat))) →
      Except ReadFailure (Filling × List (List (Nat × Nat)))
    | 0, _, _, _ => .error (.escaped .endless)
    | _ + 1, f, [], lists => .ok (f, lists)
    | fuel + 1, f, n :: rest, lists =>
      match (f.node n).content with
      | .mapping _ =>
        match flatten fuel f n with
        | .error e => .error e
        | .ok f => flattenAll fuel f rest (f.entriesOf n :: lists)
      | _ => .error (.malformed .value)

/-- Takes up the keys and values of a mapping; a later entry takes the place of one with its key. -/
def fillEntries (f : Filling) (filled : List (Key × Nat)) :
    List (Nat × Nat) → Except ReadFailure (Filling × List (Value × Nat))
  | [] => .ok (f, filled.map fun e => (e.1.value, e.2))
  | (k, v) :: rest =>
    match f.takeUp k with
    | .error e => .error e
    | .ok f =>
      match f.key? k with
      | none => .error (.malformed .value)
      | some key =>
        match f.takeUp v with
        | .error e => .error e
        | .ok f => fillEntries f (key.setEntry v filled) rest

/-- Takes up the single entries of mappings in a list. -/
def fillPairs (f : Filling) (filled : List (Nat × Nat)) :
    List Nat → Except ReadFailure (Filling × List (Nat × Nat))
  | [] => .ok (f, filled.reverse)
  | n :: rest =>
    match (f.node n).content with
    | .mapping [(k, v)] =>
      match f.takeUpAll [k, v] with
      | .error e => .error e
      | .ok f => fillPairs f ((k, v) :: filled) rest
    | _ => .error (.malformed .value)

def flatteningBound (f : Filling) : Nat :=
  let size (node : Node) : Nat :=
    match node.content with
    | .scalar _ => 1
    | .sequence items => items.length + 1
    | .mapping entries => entries.length + 1
  let total := f.nodes.foldl (fun n node => n + size node) 0
  4 * total * (f.nodes.size + 1) + 8

def fill (f : Filling) (n : Nat) : Except ReadFailure Filling :=
  let tag := (f.node n).tag
  match (f.node n).content with
  | .sequence items =>
    if tag = standardTag "seq" then
      (f.takeUpAll items).map fun f => f.setPart n (.list items)
    else if tag = standardTag "omap" || tag = standardTag "pairs" then
      (f.fillPairs [] items).map fun r => r.1.setPart n (.pairs r.2)
    else .error (.malformed .value)
  | .mapping _ =>
    if tag = standardTag "map" || tag = standardTag "set" then
      match flatten f.flatteningBound f n with
      | .error e => .error e
      | .ok f =>
        (f.fillEntries [] (f.entriesOf n)).map fun r =>
          r.1.setPart n (if tag = standardTag "map" then .map r.2 else .set (r.2.map Prod.fst))
    else .error (.malformed .value)
  | .scalar _ => .error (.malformed .value)

/-- Fills the waiting collections and those that come up meanwhile, within `fuel` of them. -/
def fillAll : (fuel : Nat) → Filling → Except ReadFailure Filling
  | 0, f => .ok f
  | fuel + 1, f =>
    match f.waiting with
    | [] => .ok f
    | n :: rest =>
      match { f with waiting := rest }.fill n with
      | .error e => .error e
      | .ok f => fillAll fuel f

end Filling

/-! ## Values -/

/-- The values of nodes while they are put together. -/
structure Assembly where
  values : Array (Option Value)
  /-- The nodes whose values are being put together. -/
  entered : Array Bool
  /-- A node was found inside itself. -/
  cyclic : Bool

/-- The value of a part that is found inside itself: an empty one of its kind at first, later the
value of the round before. -/
def Part.shallow : Part → Value
  | .leaf value => value
  | .unfilled => .null
  | .list _ => .list []
  | .pairs _ => .list []
  | .set elements => .set elements
  | .map _ => .map []

/-- Puts the value of a node together, within a depth of `fuel`; `inner` are the values of nodes
that are found inside themselves. -/
def assemble (parts : Array (Option Part)) (inner : Array Value) :
    (fuel : Nat) → Nat → StateM Assembly Value
  | 0, n => return inner.getD n .null
  | fuel + 1, n => do
    let s ← get
    match s.values.getD n none with
    | some value => return value
    | none =>
      if s.entered.getD n false then
        set { s with cyclic := true }
        return inner.getD n .null
      else
        set { s with entered := s.entered.setIfInBounds n true }
        let value ←
          match parts.getD n none with
          | none => pure .null
          | some part =>
            match part with
            | .list items =>
              pure (.list (← items.mapM fun i => assemble parts inner fuel i))
            | .pairs entries =>
              pure (.list (← entries.mapM fun e => do
                pure (.list [← assemble parts inner fuel e.1, ← assemble parts inner fuel e.2])))
            | .map entries =>
              pure (.map (← entries.mapM fun e => do
                pure (e.1, ← assemble parts inner fuel e.2)))
            | part => pure part.shallow
        modify fun s =>
          { s with
            values := s.values.setIfInBounds n (some value)
            entered := s.entered.setIfInBounds n false }
        return value

/-- Puts values together in `rounds`: a node inside itself shows that many levels of itself. -/
def assembleRounds (parts : Array (Option Part)) (root : Nat) :
    (rounds : Nat) → (inner : Array Value) → Value
  | 0, inner => inner.getD root .null
  | rounds + 1, inner =>
    let blank : Assembly := ⟨parts.map fun _ => none, parts.map fun _ => false, false⟩
    let (value, s) := (assemble parts inner (parts.size + 1) root).run blank
    if s.cyclic then
      assembleRounds parts root rounds (s.values.map fun v => v.getD .null)
    else value

def valueOf (root : Nat) (nodes : Graph) : Except ReadFailure Value := do
  let start : Filling := ⟨nodes, nodes.map fun _ => none, []⟩
  let f ← (← start.takeUp root).fillAll (nodes.size + 1)
  return assembleRounds f.parts root 3 (f.parts.map fun p => (p.map Part.shallow).getD .null)

/-- The value of a text, in which `room` nodes may lie within each other; a text without a document is
null. -/
def read (room : Nat) (text : String) : Except ReadFailure Value := do
  let cs := text.toList
  if cs.all isReadable then
    match ← Graph.ofTokens? room (TokenStream.ofText cs) with
    | none => return .null
    | some (root, nodes) => valueOf root nodes
  else throw (.malformed .character)

/-- Loads documents.  What is wrong with a text is not told. -/
def loader (room : Nat) : Loader := fun text =>
  (read room text).mapError fun
    | .malformed _ => .malformed "*"
    | .escaped e => .escaped e

end ConfigVault.Yaml
