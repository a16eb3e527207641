import TemplateCalls.Yaml.Graph
import TemplateCalls.Yaml.TokenStream

/-!
# From tokens to a node graph

The tokens of one document are read into a graph. An anchor names the node that it is written
before, and an alias stands for the node that has the name; no name is given twice. A node without a
tag has the type of its kind, or the one that a plain scalar shows by its notation. Collections are
read by calls within calls, for which there is so much room and no more.
-/

namespace TemplateCalls.Yaml

/-- What is still to be read, the fault that waits behind the last token, and what has been read. -/
structure Composition where
  tokens : List Token
  atEnd : Fault
  room : Nat
  graph : Graph := #[]
  anchors : List (List Char × NodeId) := []
  handles : List (List Char × List Char) := []

abbrev Compose := StateT Composition (Except Fault)

namespace Compose

def malformed {α : Type} : Compose α := throw .malformed

def peek : Compose Token := do
  let composition ← get
  match composition.tokens with
  | token :: _ => return token
  | [] => throw composition.atEnd

def skip : Compose Unit :=
  modify fun composition ↦ { composition with tokens := composition.tokens.tail }

/-- Adds a node under an optional name, which must be new. -/
def add (anchor : Option (List Char)) (node : Node) : Compose NodeId := do
  let composition ← get
  let number := composition.graph.size
  match anchor with
  | none => set { composition with graph := composition.graph.push node }
  | some name =>
    if (composition.anchors.lookup name).isSome then malformed
    set { composition with
      graph := composition.graph.push node
      anchors := (name, number) :: composition.anchors }
  return number

/-- Gives a node that has been added its content. -/
def fill (number : NodeId) (content : NodeContent) : Compose NodeId := do
  modify fun composition ↦ { composition with
    graph := composition.graph.modify number fun { tag, .. } ↦ ⟨tag, content⟩ }
  return number

def addNull : Compose NodeId := add none ⟨.null, .scalar []⟩

/-- The calls that are open while the members of a collection are read: that for the collection and
that for the member. -/
def callsOfMember : Nat := 2

/-- Reads the members of a collection, if there is room for it. -/
def nested {α : Type} (members : Compose α) : Compose α := do
  let { room, .. } ← get
  if room < callsOfMember then throw .givenUp
  modify fun composition ↦ { composition with room := room - callsOfMember }
  let result ← members
  modify fun composition ↦ { composition with room }
  return result

/-! ## Properties of nodes -/

/-- The anchor and tag before a node. The tag is given as its complete name. -/
structure Properties where
  anchor : Option (List Char) := none
  tag : Option (List Char) := none

def anchor? : Compose (Option (List Char)) := do
  match ← peek with
  | .anchor name => skip; return some name
  | _ => return none

/-- A tag as it is written: the handle, if it has one, and the rest. -/
structure WrittenTag where
  handle : Option (List Char)
  suffix : List Char

def tag? : Compose (Option WrittenTag) := do
  match ← peek with
  | .tag handle suffix => skip; return some ⟨handle, suffix⟩
  | _ => return none

/-- The complete name of a tag, with the start that its handle stands for before it. -/
def WrittenTag.complete (tag : WrittenTag) : Compose (List Char) := do
  match tag.handle with
  | none => return tag.suffix
  | some handle =>
    match (← get).handles.lookup handle with
    | some start => return start ++ tag.suffix
    | none => malformed

/-- Reads the properties of a node, in either order. -/
def properties : Compose Properties := do
  match ← anchor? with
  | some name => return ⟨some name, ← (← tag?).mapM (·.complete)⟩
  | none =>
    match ← tag? with
    | some tag =>
      let anchor ← anchor?
      return ⟨anchor, some (← tag.complete)⟩
    | none => return {}

def isOpenTag (tag : Option (List Char)) : Bool := tag.all (· == ['!'])

def Properties.tagOr (properties : Properties) (usual : Tag) : Tag :=
  if isOpenTag properties.tag then usual else Tag.ofName (properties.tag.getD [])

/-- The type of a scalar. One that is plain, or has the tag `!`, shows it by its notation. -/
def Properties.scalarTag (properties : Properties) (content : CodeText) (plain : Bool) : Tag :=
  properties.tagOr
    (if plain || properties.tag.isSome then Tag.ofNotation content else .text)

/-! ## Nodes -/

/-- Whether a token ends an entry of a block collection. -/
def endsBlockEntry : Token → Bool
  | .key | .value | .blockEnd => true
  | _ => false

mutual

/-- Reads a node. Block collections stand only in blocks, and only the value of a key may be a
sequence that is not indented. -/
def node (inBlock indentless : Bool) : Nat → Compose NodeId
  | 0 => throw .givenUp
  | fuel + 1 => do
    match ← peek with
    | .alias name =>
      skip
      match (← get).anchors.lookup name with
      | some number => return number
      | none => malformed
    | _ =>
      let properties ← properties
      let sequence (items : Compose (List NodeId)) : Compose NodeId := do
        let number ← add properties.anchor ⟨properties.tagOr .sequence, .sequence []⟩
        fill number (.sequence (← nested items))
      let mapping (pairs : Compose (List (NodeId × NodeId))) : Compose NodeId := do
        let number ← add properties.anchor ⟨properties.tagOr .mapping, .mapping []⟩
        fill number (.mapping (← nested pairs))
      match ← peek, inBlock with
      | .blockEntry, _ =>
        if indentless then sequence (indentlessItems fuel)
        else emptyNode properties
      | .scalar content plain, _ =>
        skip
        add properties.anchor ⟨properties.scalarTag content plain, .scalar content⟩
      | .flowSequenceStart, _ => skip; sequence (flowItems true fuel)
      | .flowMappingStart, _ => skip; mapping (flowPairs true fuel)
      | .blockSequenceStart, true => skip; sequence (blockItems fuel)
      | .blockMappingStart, true => skip; mapping (blockPairs fuel)
      | _, _ => emptyNode properties

/-- A node may be left out after its properties. -/
def emptyNode (properties : Properties) : Compose NodeId :=
  if properties.anchor.isSome || properties.tag.isSome then
    add properties.anchor ⟨properties.tagOr .null, .scalar []⟩
  else malformed

def blockItems : Nat → Compose (List NodeId)
  | 0 => throw .givenUp
  | fuel + 1 => do
    match ← peek with
    | .blockEntry =>
      skip
      let item ←
        match ← peek with
        | .blockEntry | .blockEnd => addNull
        | _ => node true false fuel
      return item :: (← blockItems fuel)
    | .blockEnd => skip; return []
    | _ => malformed

/-- The items of a sequence in the column of the key before it. -/
def indentlessItems : Nat → Compose (List NodeId)
  | 0 => throw .givenUp
  | fuel + 1 => do
    match ← peek with
    | .blockEntry =>
      skip
      let next ← peek
      let item ←
        match next with
        | .blockEntry => addNull
        | _ => if endsBlockEntry next then addNull else node true false fuel
      return item :: (← indentlessItems fuel)
    | _ => return []

/-- The pairs of a block mapping. The key or the value may be left out, but not the mark of the key.
-/
def blockPairs : Nat → Compose (List (NodeId × NodeId))
  | 0 => throw .givenUp
  | fuel + 1 => do
    match ← peek with
    | .blockEnd => skip; return []
    | .key =>
      skip
      let key ← if endsBlockEntry (← peek) then addNull else node true true fuel
      let value ← blockValue fuel
      return (key, value) :: (← blockPairs fuel)
    | _ => malformed

def blockValue : Nat → Compose NodeId
  | 0 => throw .givenUp
  | fuel + 1 => do
    match ← peek with
    | .value =>
      skip
      if endsBlockEntry (← peek) then addNull else node true true fuel
    | _ => addNull

/-- The items of a flow sequence. A pair may stand for a mapping of one pair. -/
def flowItems (first : Bool) : Nat → Compose (List NodeId)
  | 0 => throw .givenUp
  | fuel + 1 => do
    match ← peek with
    | .flowSequenceEnd => skip; return []
    | token =>
      if !first then
        match token with
        | .flowEntry => skip
        | _ => malformed
      match ← peek with
      | .flowSequenceEnd => skip; return []
      | .key =>
        skip
        let number ← add none ⟨.mapping, .mapping []⟩
        let pair ← nested do
          let key ←
            match ← peek with
            | .value | .flowEntry | .flowSequenceEnd => addNull
            | _ => node false false fuel
          return (key, ← flowValue fuel)
        let item ← fill number (.mapping [pair])
        return item :: (← flowItems false fuel)
      | _ =>
        let item ← node false false fuel
        return item :: (← flowItems false fuel)

/-- The pairs of a flow mapping. A node alone is a key without a value. -/
def flowPairs (first : Bool) : Nat → Compose (List (NodeId × NodeId))
  | 0 => throw .givenUp
  | fuel + 1 => do
    match ← peek with
    | .flowMappingEnd => skip; return []
    | token =>
      if !first then
        match token with
        | .flowEntry => skip
        | _ => malformed
      match ← peek with
      | .flowMappingEnd => skip; return []
      | .key =>
        skip
        let key ←
          match ← peek with
          | .value | .flowEntry | .flowMappingEnd => addNull
          | _ => node false false fuel
        let value ← flowValue fuel
        return (key, value) :: (← flowPairs false fuel)
      | _ =>
        let key ← node false false fuel
        let value ← addNull
        return (key, value) :: (← flowPairs false fuel)

def flowValue : Nat → Compose NodeId
  | 0 => throw .givenUp
  | fuel + 1 => do
    match ← peek with
    | .value =>
      skip
      match ← peek with
      | .flowEntry | .flowSequenceEnd | .flowMappingEnd => addNull
      | _ => node false false fuel
    | _ => addNull

end

/-! ## Documents -/

def standardHandles : List (List Char × List Char) := [(['!'], ['!']), (['!', '!'], Tag.standard)]

/-- Reads the directives before a document. There is at most one version, and it is a version 1, and
each handle is given at most one meaning. -/
def directives (version : Bool) (handles : List (List Char × List Char)) : Nat → Compose Unit
  | 0 => throw .givenUp
  | fuel + 1 => do
    match ← peek with
    | .directive (.version major) =>
      skip
      if version || major != 1 then malformed
      directives true handles fuel
    | .directive (.tagHandle handle start) =>
      skip
      if (handles.lookup handle).isSome then malformed
      directives version ((handle, start) :: handles) fuel
    | .directive .reserved =>
      skip
      directives version handles fuel
    | _ => modify fun composition ↦ { composition with handles := handles ++ standardHandles }

/-- Reads a document that starts with a marker. -/
def markedDocument (fuel : Nat) : Compose NodeId := do
  directives false [] fuel
  match ← peek with
  | .documentStart =>
    skip
    match ← peek with
    | .directive _ | .documentStart | .documentEnd | .textEnd => addNull
    | _ => node true false fuel
  | _ => malformed

def skipDocumentEnds : Nat → Compose Unit
  | 0 => throw .givenUp
  | fuel + 1 => do
    match ← peek with
    | .documentEnd => skip; skipDocumentEnds fuel
    | _ => return

def document (fuel : Nat) : Compose (Option NodeId) := do
  match ← peek with
  | .textEnd => return none
  | first =>
    let root ←
      match first with
      | .directive _ | .documentStart => markedDocument fuel
      | _ =>
        modify fun composition ↦ { composition with handles := standardHandles }
        node true false fuel
    skipDocumentEnds fuel
    match ← peek with
    | .textEnd => return some root
    | _ =>
      directives false [] fuel
      malformed

end Compose

/-- The graph of the document in a text, with its root, if it has one. -/
def composeText (room : Nat) (text : List Char) : Except Fault (Option (Graph × NodeId)) := do
  let (tokens, fault) := TokenStream.tokensOf text
  let (root, composition) ←
    (Compose.document (4 * tokens.length + 4)).run { tokens, atEnd := fault.getD .malformed, room }
  return root.map fun root ↦ (composition.graph, root)

end TemplateCalls.Yaml
