import TemplateCalls.Yaml.Binary
import TemplateCalls.Yaml.Composition
import TemplateCalls.Yaml.Moment
import TemplateCalls.Yaml.Number

/-!
# The value of a YAML document

A graph is a document only if every node denotes a value of its type. The nodes are looked at from
the root, scalars where they stand and collections in the order in which they are found, and the
first fault met is the one reported. Of the value it is kept whether it is blank, and the pairs of a
mapping at the root as raw values.
-/

namespace TemplateCalls.Yaml

namespace Graph

/-! ## Scalars -/

/-- The content of a scalar. A mapping with a default value stands for that value, which may lead back
to the mapping; no way to a scalar is longer than the graph is large. -/
def scalarOf (graph : Graph) : Nat → NodeId → Except Fault CodeText
  | 0, _ => .error .givenUp
  | fuel + 1, node =>
    match graph.contentOf node with
    | .scalar content => .ok content
    | .mapping pairs =>
      match pairs.find? fun (key, _) ↦ graph.tagOf key == .value with
      | some (_, value) => scalarOf graph fuel value
      | none => .error .malformed
    | .sequence _ => .error .malformed

def scalar (graph : Graph) (node : NodeId) : Except Fault CodeText :=
  graph.scalarOf (graph.size + 1) node

/-- The truth value that a word in any mixture of cases stands for. -/
def booleanOf (text : CodeText) : Except Fault Bool :=
  let word := Text.lower text
  if Number.isWord ["yes", "true", "on"] word then .ok true
  else if Number.isWord ["no", "false", "off"] word then .ok false
  else .error (.notBoolean word)

def isCollectionTag : Tag → Bool
  | .sequence | .mapping | .set | .orderedMapping | .pairs => true
  | _ => false

/-- Checks that a scalar denotes a value of its type. -/
def checkScalar (graph : Graph) (node : NodeId) : Except Fault Unit := do
  let tag := graph.tagOf node
  if tag matches .unknown | .merge | .value then .error .malformed
  let content ← graph.scalar node
  match tag with
  | .boolean => discard (booleanOf content)
  | .integer => discard (Number.integer content)
  | .float => discard (Number.floatIsZero content)
  | .binary => discard (Binary.bytes content)
  | .moment =>
    match graph.contentOf node with
    | .scalar content => Moment.checkText content
    | _ => .error .momentOfMapping
  | _ => return

/-! ## Collections -/

/-- What has been looked at: the graph as merging has left it, the nodes found, and the collections
whose members are still to be looked at. -/
structure Visit where
  graph : Graph
  found : List NodeId := []
  waiting : List NodeId := []

/-- Looks at a node: a scalar is checked, a collection waits. -/
def visit (state : Visit) (node : NodeId) : Except Fault Visit := do
  if state.found.contains node then return state
  if isCollectionTag (state.graph.tagOf node) then
    return { state with found := node :: state.found, waiting := state.waiting ++ [node] }
  state.graph.checkScalar node
  return { state with found := node :: state.found }

/-- Looks at a pair. A collection is no key of a mapping. -/
def visitPair (state : Visit) (pair : NodeId × NodeId) : Except Fault Visit := do
  let state ← visit state pair.1
  if isCollectionTag (state.graph.tagOf pair.1) then .error .malformed
  visit state pair.2

/-- Looks at a member of a list of pairs, which is a mapping of one pair. -/
def visitEntry (state : Visit) (member : NodeId) : Except Fault Visit :=
  match state.graph.contentOf member with
  | .mapping [(key, value)] => do visit (← visit state key) value
  | _ => .error .malformed

/-- Looks at the members of a collection. -/
def visitMembers (state : Visit) (node : NodeId) : Except Fault Visit :=
  match state.graph.tagOf node, state.graph.contentOf node with
  | .sequence, .sequence items => items.foldlM visit state
  | .mapping, .mapping _ | .set, .mapping _ => do
    let graph ← state.graph.mergeAll node
    (graph.pairsOf node).foldlM visitPair { state with graph }
  | .orderedMapping, .sequence items | .pairs, .sequence items => items.foldlM visitEntry state
  | _, _ => .error .malformed

/-- Looks at the members of all waiting collections. Each collection waits once. -/
def visitWaiting : Nat → Visit → Except Fault Visit
  | 0, _ => .error .givenUp
  | fuel + 1, state =>
    match state.waiting with
    | [] => .ok state
    | node :: waiting => do visitWaiting fuel (← visitMembers { state with waiting } node)

/-- Checks all nodes under a root, and returns the graph without merge keys. -/
def check (graph : Graph) (root : NodeId) : Except Fault Graph := do
  let state ← visit { graph } root
  return (← visitWaiting (graph.size + 1) state).graph

/-! ## Values -/

def rawValue (graph : Graph) (node : NodeId) : Except Fault RawValue := do
  match graph.tagOf node with
  | .text => return .text (← graph.scalar node)
  | .binary => return .bytes (← Binary.bytes (← graph.scalar node))
  | _ => return .other

/-- Whether a node is blank: nothing, false, zero, or without characters, bytes or members. -/
def isBlank (graph : Graph) (node : NodeId) : Except Fault Bool := do
  match graph.tagOf node with
  | .null => return true
  | .boolean => return !(← booleanOf (← graph.scalar node))
  | .integer => return (← Number.integer (← graph.scalar node)) == 0
  | .float => Number.floatIsZero (← graph.scalar node)
  | .text => return (← graph.scalar node).isEmpty
  | .binary => return (← Binary.bytes (← graph.scalar node)).isEmpty
  | tag =>
    match graph.contentOf node with
    | .sequence items => return isCollectionTag tag && items.isEmpty
    | .mapping pairs => return isCollectionTag tag && pairs.isEmpty
    | .scalar _ => return false

def document (graph : Graph) (root : NodeId) : Except Fault Document := do
  if ← graph.isBlank root then return .blank
  match graph.tagOf root with
  | .mapping =>
    return .mapping (← (graph.pairsOf root).mapM fun (key, value) ↦
      return (← graph.rawValue key, ← graph.rawValue value))
  | _ => return .other

end Graph

/-- Reads the value of the document in a text, with room for so many calls within calls. A text
without a document is blank. -/
def readWithin (room : Nat) : Reader := fun text ↦ do
  match ← composeText room text with
  | none => return .blank
  | some (graph, root) => (← graph.check root).document root

/-- The calls within calls that are left for a reader, of the thousand that a program has. How many
of these are open before depends on what the program is doing. -/
def usualRoom : Nat := 960

def readDocument : Reader := readWithin usualRoom

end TemplateCalls.Yaml
