-- Changes of a graph in place, one step after the other. A step that is
-- refused ends the change, and what was done before it stays.
import Patchbay.Graph.File
import Patchbay.Graph.Recompute

namespace Patchbay.Graph

/-! ## Single steps -/

/-- The node at a place. -/
def nodeAt (g : Graph) (index : Nat) : Except GraphError NodeId :=
  match g.nodeAt? index with
  | some id => .ok id
  | none => .error (.indexOutOfRange index g.nodes.length)

/-- A question about the graph, which may be refused. -/
def ask {α : Type} (f : Graph → Except GraphError α) : Recompute α := fun g =>
  match f g with
  | .ok a => .done a g
  | .error e => .failed e g

/-- A change of the graph, which may be refused. -/
def attempt (f : Graph → Except GraphError Graph) : Recompute Unit := fun g =>
  match f g with
  | .ok g' => .done () g'
  | .error e => .failed e g

/-! ## Edits by places -/

def joinAt (a b : Nat) : Recompute Unit := do
  let producer ← ask (·.nodeAt a)
  let consumer ← ask (·.nodeAt b)
  attempt (·.addEdge producer consumer)

def removeAt (index : Nat) : Recompute Unit := do
  let id ← ask (·.nodeAt index)
  attempt fun g => (g.deleteNode id).map Prod.snd

def rewriteAt (index : Nat) (source : String) : Recompute Unit := do
  let id ← ask (·.nodeAt index)
  attempt (·.setSource id source)

/-- Recomputes the node at a place and all nodes downstream of it. -/
def recomputeAt (depth index : Nat) : Recompute Unit := do
  let id ← ask (·.nodeAt index)
  recomputeDownstream depth id

/-! ## Loading -/

/-- Adds a node, and then gives it the rest of its data field by field. -/
def addInSteps (d : NodeData) : Recompute NodeId := do
  let id ← fun g => .done (g.addNode d.source).1 (g.addNode d.source).2
  attempt fun g => g.setTitle id d.title
  attempt fun g => g.setPosition id d.box.x d.box.y
  attempt fun g => g.setSize id d.box.width d.box.height
  pure id

/-- Adds the edge between two places of a list, which must have them. -/
def joinInSteps (ids : List NodeId) (d : EdgeData) : Recompute Unit := do
  let producer ← Action.demand ids[d.a]?
  let consumer ← Action.demand ids[d.b]?
  attempt fun g => g.addEdge producer consumer

/-- Puts nodes and edges in the place of all that was there. All edges are checked first. -/
def loadInSteps (data : GraphData) : Recompute Unit :=
  let count := data.nodes.length
  match data.edges.find? fun e => count ≤ e.a || count ≤ e.b with
  | some e => Action.fail (.invalidEdge e.a e.b count)
  | none => do
    let old ← Action.read nodeIds
    Action.forEach (fun id => attempt fun g => (g.deleteNode id).map Prod.snd) old
    let ids ← Action.mapList addInSteps data.nodes
    Action.forEach (joinInSteps ids) data.edges

/-- Loads a text, which is read before anything is changed. -/
def loadTextInSteps (text : String) : Recompute Unit :=
  match GraphData.read text with
  | .ok data => loadInSteps data
  | .error e => Action.fail e

/-- Loads a text and runs every node. -/
def openText (depth : Nat) (text : String) : Recompute Unit := do
  loadTextInSteps text
  recomputeAll depth

end Patchbay.Graph
