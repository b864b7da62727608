-- Graphs as data. The data hold the nodes in order and the edges between
-- their places. Loading checks every edge first, so data are taken as a
-- whole or not at all.
import Patchbay.Graph.Basic

namespace Patchbay

structure NodeData where
  title : Option String
  source : String
  box : Box
  deriving DecidableEq, Repr

/-- An edge between the places of two nodes. -/
structure EdgeData where
  a : Nat
  b : Nat
  deriving DecidableEq, Repr

structure GraphData where
  nodes : List NodeData
  edges : List EdgeData
  deriving DecidableEq, Repr

namespace Graph

def toData (g : Graph) : GraphData where
  nodes := g.nodes.map fun node => ⟨node.title, node.source, node.box⟩
  edges := g.edges.filterMap fun e => do
    let a ← g.indexOf? e.producer
    let b ← g.indexOf? e.consumer
    pure ⟨a, b⟩

/-- Adds a node as the data describe it. -/
def addNodeData (g : Graph) (data : NodeData) : NodeId × Graph :=
  let (id, g) := g.addNode data.source
  (id, g.modifyNode id fun node => { node with title := data.title, box := data.box })

/-- Adds nodes in order, and says what they are known by. -/
def addNodes (g : Graph) : List NodeData → List NodeId × Graph
  | [] => ([], g)
  | data :: rest =>
    let (id, g) := g.addNodeData data
    let (ids, g) := addNodes g rest
    (id :: ids, g)

/-- The edge between the nodes at two places. -/
def edgeOf? (ids : List NodeId) (e : EdgeData) : Option Edge := do
  let producer ← ids[e.a]?
  let consumer ← ids[e.b]?
  pure ⟨producer, consumer⟩

/-- Puts nodes and edges in the place of all that was there. The
root scope stays, and no number is given again. -/
def loadData (g : Graph) (data : GraphData) : Except GraphError Graph :=
  let count := data.nodes.length
  match data.edges.find? fun e => count ≤ e.a || count ≤ e.b with
  | some e => .error (.invalidEdge e.a e.b count)
  | none =>
    let (ids, g) := { g with nodes := [], edges := [] }.addNodes data.nodes
    .ok { g with edges := data.edges.filterMap (edgeOf? ids) }

end Graph

end Patchbay
