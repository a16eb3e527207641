import TemplateCalls.Yaml.Scalar
import TemplateCalls.Yaml.Tag

/-!
# Node graphs

The nodes of a document form a graph: a node may stand in several places, and a collection may hold
itself. A node is known by its number. Scalars have a content, sequences a list of nodes, and
mappings a list of pairs in the order of the text.

A mapping may have merge keys, whose values are mappings or sequences of mappings. The pairs of
these are put in front of the mapping's own pairs, so that own pairs and earlier members of a
sequence, which come later, take precedence.
-/

namespace TemplateCalls.Yaml

abbrev NodeId := Nat

inductive NodeContent where
  | scalar (content : CodeText)
  | sequence (items : List NodeId)
  | mapping (pairs : List (NodeId × NodeId))

structure Node where
  tag : Tag
  content : NodeContent

abbrev Graph := Array Node

namespace Graph

def tagOf (graph : Graph) (node : NodeId) : Tag := (graph[node]?.map (·.tag)).getD .unknown

def contentOf (graph : Graph) (node : NodeId) : NodeContent :=
  (graph[node]?.map (·.content)).getD (.sequence [])

/-- The pairs of a mapping; other nodes have none. -/
def pairsOf (graph : Graph) (node : NodeId) : List (NodeId × NodeId) :=
  match graph.contentOf node with
  | .mapping pairs => pairs
  | _ => []

def setPairs (graph : Graph) (node : NodeId) (pairs : List (NodeId × NodeId)) : Graph :=
  graph.modify node fun { tag, .. } ↦ ⟨tag, .mapping pairs⟩

def setTag (graph : Graph) (node : NodeId) (tag : Tag) : Graph :=
  graph.modify node fun { content, .. } ↦ ⟨tag, content⟩

def pairCount (graph : Graph) : Nat :=
  graph.foldl (fun count node ↦
    match node.content with
    | .mapping pairs => count + pairs.length
    | _ => count) 0

/-! ## Merge keys -/

/-- The first merge key of a mapping: its value, and the pairs without it. -/
def takeMerge? (graph : Graph) : List (NodeId × NodeId) → Option (NodeId × List (NodeId × NodeId))
  | [] => none
  | (key, value) :: rest =>
    if graph.tagOf key == .merge then some (value, rest)
    else (takeMerge? graph rest).map fun (found, others) ↦ (found, (key, value) :: others)

/-- Keys that look like the default value of a mapping are text. -/
def retagKeys (graph : Graph) (pairs : List (NodeId × NodeId)) : Graph :=
  pairs.foldl (fun graph (key, _) ↦
    if graph.tagOf key == .value then graph.setTag key .text else graph) graph

mutual

/-- Replaces the merge keys of a mapping by the pairs that they bring, which are collected on the
way. -/
def merge (collected : List (NodeId × NodeId)) (node : NodeId) : Nat → Graph → Except Fault Graph
  | 0, _ => .error .givenUp
  | fuel + 1, graph => do
    match graph.takeMerge? (graph.pairsOf node) with
    | none =>
      let pairs := graph.pairsOf node
      return (graph.retagKeys pairs).setPairs node (collected ++ pairs)
    | some (value, pairs) =>
      let graph := graph.setPairs node pairs
      match graph.contentOf value with
      | .mapping _ =>
        let graph ← merge [] value fuel graph
        merge (collected ++ graph.pairsOf value) node fuel graph
      | .sequence members =>
        let (brought, graph) ← mergeMembers members fuel graph
        merge (collected ++ brought) node fuel graph
      | .scalar _ => .error .malformed

/-- The pairs that the members of a sequence bring, those of the last member first. -/
def mergeMembers (members : List NodeId) : Nat → Graph →
    Except Fault (List (NodeId × NodeId) × Graph)
  | 0, _ => .error .givenUp
  | fuel + 1, graph => do
    match members with
    | [] => return ([], graph)
    | member :: rest =>
      match graph.contentOf member with
      | .mapping _ =>
        let graph ← merge [] member fuel graph
        let own := graph.pairsOf member
        let (brought, graph) ← mergeMembers rest fuel graph
        return (brought ++ own, graph)
      | _ => .error .malformed

end

def itemCount (graph : Graph) : Nat :=
  graph.foldl (fun count node ↦
    match node.content with
    | .sequence items => count + items.length
    | _ => count) 0

/-- Replaces all merge keys of a mapping. Each step uses up a merge key or a member of a sequence.
-/
def mergeAll (graph : Graph) (node : NodeId) : Except Fault Graph :=
  merge [] node ((graph.pairCount + 1) * (graph.itemCount + 2)) graph

end Graph

end TemplateCalls.Yaml
