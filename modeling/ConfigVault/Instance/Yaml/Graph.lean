import ConfigVault.Instance.Yaml.ScalarTag
import ConfigVault.Instance.Yaml.TokenStream

/-!
# Graphs

A document with its aliases resolved: nodes are numbered, and an alias stands for the number of the
node with its anchor.  A node may contain itself.  Every node has a tag; where none is written it
follows from the kind of the node or the form of the scalar.  A text holds one document at most; none
is the empty document.  A node that is left out is an empty scalar.

Tokens are taken one by one and nodes are numbered as they come up, so that of several faults in a
text the first one is reported, even if the text cannot be read behind it.
-/

namespace ConfigVault.Yaml

/-! ## Nodes -/

/-- What a node holds; other nodes are given by their numbers. -/
inductive Content where
  | scalar (text : String)
  | sequence (items : List Nat)
  | mapping (entries : List (Nat × Nat))
  deriving DecidableEq, Repr

structure Node where
  tag : String
  content : Content
  deriving DecidableEq, Repr

/-- The nodes of a document by their numbers. -/
abbrev Graph := Array Node

def collectionTag (standard : String) : Option String → String
  | none => standardTag standard
  | some tag => if tag = "!" then standardTag standard else tag

def scalarTag (plain : Bool) (text : String) : Option String → String
  | none => if plain then tagOfText text else standardTag "str"
  | some tag => if tag = "!" then tagOfText text else tag

/-! ## Composition -/

/-- A document under way: the tokens that are left, the starts of tags that handles stand for, the
nodes so far, and the numbers of those with anchors. -/
structure Composition where
  stream : TokenStream
  handles : List (String × String)
  nodes : Graph
  anchors : List (String × Nat)

abbrev Composing (α : Type) := StateT Composition (Except ReadFailure) α

namespace Composing

def peek : Composing (Option Token) := fun c =>
  match c.stream.tokens with
  | t :: _ => .ok (some t, c)
  | [] =>
    match c.stream.failure with
    | none => .ok (none, c)
    | some e => .error e

def drop : Composing Unit :=
  modify fun c => { c with stream := { c.stream with tokens := c.stream.tokens.drop 1 } }

def atMark (marks : List Token) : Composing Bool := do
  match ← peek with
  | some t => return marks.contains t
  | none => return false

/-- The pieces do not fit together. -/
def refuse {α : Type} : Composing α := throw (.malformed .arrangement)

def takeAnchor : Composing (Option String) := do
  match ← peek with
  | some (.anchor name) => drop; return some name
  | _ => return none

def takeTag : Composing (Option TagText) := do
  match ← peek with
  | some (.tag tag) => drop; return some tag
  | _ => return none

/-- Takes an anchor and a tag, in either order. -/
def takeProperties : Composing (Option String × Option TagText) := do
  match ← takeAnchor with
  | some name => return (some name, ← takeTag)
  | none =>
    match ← takeTag with
    | some tag => return (← takeAnchor, some tag)
    | none => return (none, none)

/-- The whole tag that a written one stands for; its handle has to be known. -/
def wholeTag (tag : TagText) : Composing String := do
  match tag.handle with
  | none => return tag.text
  | some handle =>
    match (← get).handles.find? (·.1 = handle) with
    | some entry => return entry.2 ++ tag.text
    | none => refuse

def add (anchor : Option String) (node : Node) : Composing Nat := do
  let c ← get
  let n := c.nodes.size
  match anchor with
  | none => set { c with nodes := c.nodes.push node }
  | some name =>
    if c.anchors.any (·.1 = name) then throw (.malformed .reference)
    else set { c with nodes := c.nodes.push node, anchors := (name, n) :: c.anchors }
  return n

def named (name : String) : Composing Nat := do
  match (← get).anchors.find? (·.1 = name) with
  | some entry => return entry.2
  | none => throw (.malformed .reference)

/-- Says what a node holds. -/
def fill (n : Nat) (content : Content) : Composing Nat := do
  modify fun c =>
    match c.nodes[n]? with
    | some node => { c with nodes := c.nodes.setIfInBounds n { node with content } }
    | none => c
  return n

def addEmpty : Composing Nat := add none ⟨standardTag "null", .scalar ""⟩

inductive Place where
  | inFlow
  | inBlock
  /-- As the key or value of a block mapping, where a sequence need not be indented. -/
  | inMapping
  deriving DecidableEq, Repr

mutual

/-- Composes a node, within `fuel` steps, where `room` nodes may lie within each other. -/
def node : (fuel room : Nat) → Place → Composing Nat
  | 0, _, _ => refuse
  | fuel + 1, room, place => do
    if room = 0 then throw (.escaped .endless)
    match ← peek with
    | some (.aliasOf name) => drop; named name
    | _ =>
      let (anchor, written) ← takeProperties
      let tag ←
        match written with
        | some written => pure (some (← wholeTag written))
        | none => pure none
      let sequence (items : Composing (List Nat)) : Composing Nat := do
        let n ← add anchor ⟨collectionTag "seq" tag, .sequence []⟩
        fill n (.sequence (← items))
      let mapping (entries : Composing (List (Nat × Nat))) : Composing Nat := do
        let n ← add anchor ⟨collectionTag "map" tag, .mapping []⟩
        fill n (.mapping (← entries))
      let next ← peek
      if next = some .blockEntry && place = .inMapping then
        sequence (openItems fuel (room - 1))
      else
        match next with
        | some (.scalar text plain) =>
          drop
          add anchor ⟨scalarTag plain text tag, .scalar text⟩
        | some .flowSequenceStart => drop; sequence (flowItems fuel (room - 1) true)
        | some .flowMappingStart => drop; mapping (flowEntries fuel (room - 1) true)
        | next =>
          if next = some .blockSequenceStart && place ≠ .inFlow then
            drop; sequence (blockItems fuel (room - 1))
          else if next = some .blockMappingStart && place ≠ .inFlow then
            drop; mapping (blockEntries fuel (room - 1))
          else if anchor.isSome || tag.isSome then
            add anchor ⟨scalarTag true "" tag, .scalar ""⟩
          else refuse

def nodeUnless : (fuel room : Nat) → Place → (marks : List Token) → Composing Nat
  | 0, _, _, _ => refuse
  | fuel + 1, room, place, marks => do
    if ← atMark marks then addEmpty else node fuel room place

def blockItems : (fuel room : Nat) → Composing (List Nat)
  | 0, _ => refuse
  | fuel + 1, room => do
    match ← peek with
    | some .blockEntry =>
      drop
      let item ← nodeUnless fuel room .inBlock [.blockEntry, .blockEnd]
      return item :: (← blockItems fuel room)
    | some .blockEnd => drop; return []
    | _ => refuse

/-- Composes the items of a sequence that is not indented; it has no end of its own. -/
def openItems : (fuel room : Nat) → Composing (List Nat)
  | 0, _ => refuse
  | fuel + 1, room => do
    match ← peek with
    | some .blockEntry =>
      drop
      let item ← nodeUnless fuel room .inBlock [.blockEntry, .key, .value, .blockEnd]
      return item :: (← openItems fuel room)
    | _ => return []

/-- Composes the value of an entry of a mapping, which may be left out with its mark. -/
def entryValue : (fuel room : Nat) → Place → (marks : List Token) → Composing Nat
  | 0, _, _, _ => refuse
  | fuel + 1, room, place, marks => do
    match ← peek with
    | some .value => drop; nodeUnless fuel room place marks
    | _ => addEmpty

def blockEntries : (fuel room : Nat) → Composing (List (Nat × Nat))
  | 0, _ => refuse
  | fuel + 1, room => do
    match ← peek with
    | some .key =>
      drop
      let marks : List Token := [.key, .value, .blockEnd]
      let key ← nodeUnless fuel room .inMapping marks
      let value ← entryValue fuel room .inMapping marks
      return (key, value) :: (← blockEntries fuel room)
    | some .blockEnd => drop; return []
    | _ => refuse

/-- Composes the items of a flow sequence with its end, and passes over the comma in front of them if
they are not the first.  A key among them makes a mapping of one entry. -/
def flowItems : (fuel room : Nat) → (first : Bool) → Composing (List Nat)
  | 0, _, _ => refuse
  | fuel + 1, room, first => do
    if ← atMark [.flowSequenceEnd] then drop; return []
    if !first then
      if ← atMark [.flowEntry] then drop else refuse
    match ← peek with
    | some .flowSequenceEnd => drop; return []
    | some .key =>
      drop
      let n ← add none ⟨standardTag "map", .mapping []⟩
      let key ← nodeUnless fuel (room - 1) .inFlow [.value, .flowEntry, .flowSequenceEnd]
      let value ← entryValue fuel (room - 1) .inFlow [.flowEntry, .flowSequenceEnd]
      let item ← fill n (.mapping [(key, value)])
      return item :: (← flowItems fuel room false)
    | _ =>
      let item ← node fuel room .inFlow
      return item :: (← flowItems fuel room false)

/-- Composes the entries of a flow mapping with its end, and passes over the comma in front of them
if they are not the first. -/
def flowEntries : (fuel room : Nat) → (first : Bool) → Composing (List (Nat × Nat))
  | 0, _, _ => refuse
  | fuel + 1, room, first => do
    if ← atMark [.flowMappingEnd] then drop; return []
    if !first then
      if ← atMark [.flowEntry] then drop else refuse
    match ← peek with
    | some .flowMappingEnd => drop; return []
    | some .key =>
      drop
      let key ← nodeUnless fuel room .inFlow [.value, .flowEntry, .flowMappingEnd]
      let value ← entryValue fuel room .inFlow [.flowEntry, .flowMappingEnd]
      return (key, value) :: (← flowEntries fuel room false)
    | _ =>
      let key ← node fuel room .inFlow
      let value ← addEmpty
      return (key, value) :: (← flowEntries fuel room false)

end

/-- The handles of a document that does not give them another meaning. -/
def standardHandles : List (String × String) :=
  [("!", "!"), ("!!", "tag:yaml.org,2002:")]

/-- Takes the directives in front of a document, within `fuel` of them: one version at most, and each
handle once. -/
def takeDirectives : (fuel : Nat) → (version : Bool) → Composing Unit
  | 0, _ => refuse
  | fuel + 1, version => do
    match ← peek with
    | some (.directive directive) =>
      drop
      match directive with
      | .version major _ =>
        if version || major ≠ 1 then refuse else takeDirectives fuel true
      | .handle handle start =>
        if (← get).handles.any (·.1 = handle) then refuse
        modify fun c => { c with handles := (handle, start) :: c.handles }
        takeDirectives fuel version
      | .unknown => takeDirectives fuel version
    | _ => return ()

/-- Takes the start of a document with the directives in front of it. -/
def takeStart (fuel : Nat) : Composing Unit := do
  modify fun c => { c with handles := [] }
  takeDirectives fuel false
  modify fun c => { c with handles := c.handles ++ standardHandles }
  if ← atMark [.documentStart] then drop else refuse

/-- Passes over marks of the end of a document, within `fuel` of them. -/
def skipEnds : (fuel : Nat) → Composing Unit
  | 0 => refuse
  | fuel + 1 => do
    if ← atMark [.documentEnd] then
      drop
      skipEnds fuel

/-- The kinds of tokens that begin a document by name. -/
def startsDocument : Token → Bool
  | .directive _ => true
  | .documentStart => true
  | _ => false

def document (fuel room : Nat) : Composing (Option Nat) := do
  match ← peek with
  | none => return none
  | some first =>
    let root ←
      if startsDocument first then do
        takeStart fuel
        match ← peek with
        | none => addEmpty
        | some next =>
          if startsDocument next || next = .documentEnd then addEmpty else node fuel room .inBlock
      else node fuel room .inBlock
    skipEnds fuel
    match ← peek with
    | none => return some root
    | some _ =>
      takeStart fuel
      throw (.malformed .reference)

end Composing

/-- The graph of a document with the number of its root; none if the text holds no document. -/
def Graph.ofTokens? (room : Nat) (stream : TokenStream) :
    Except ReadFailure (Option (Nat × Graph)) :=
  let start : Composition := ⟨stream, Composing.standardHandles, #[], []⟩
  (Composing.document (4 * stream.tokens.length + 8) room start).map fun r =>
    r.1.map fun root => (root, r.2.nodes)

end ConfigVault.Yaml
