-- Graphs of nodes. A node has a source text and a scope of its own inside the
-- root scope; an edge makes the value of one node an input of another.
import Patchbay.Json.Reader
import Patchbay.Language.Eval

namespace Patchbay

open Patchbay.Language

/-! ## Nodes and edges -/

/-- What a node is known by. A graph gives each number once. -/
abbrev NodeId := Nat

/-- Why a node that was run has no value. -/
inductive Fault
  | source (error : SourceError)
  /-- A producer has no value itself. -/
  | input
  deriving DecidableEq, Repr

def Fault.message (w : Wording) : Fault → String
  | source e => e.message w
  | input => "Error in input node"

/-- What the last run of a node gave. -/
inductive Output
  | value (value : Value)
  | fault (fault : Fault)

/-- The display text of the value, or the message of the fault. -/
def Output.text (w : Wording) : Output → String
  | value v => v.display
  | fault f => f.message w

/-- A coordinate, kept as the bits of a double, so one that is no number keeps the bits it came
with. -/
structure Coordinate where
  bits : UInt64
  deriving DecidableEq, Repr

namespace Coordinate

def toFloat (c : Coordinate) : Float := .ofBits c.bits

def ofFloat (x : Float) : Coordinate := ⟨x.toBits⟩

end Coordinate

/-- Where a node lies on the canvas. -/
structure Box where
  x : Coordinate
  y : Coordinate
  width : Coordinate
  height : Coordinate
  deriving DecidableEq, Repr

/-- The box of a new node. -/
def Box.zero : Box :=
  ⟨.ofFloat 0.0, .ofFloat 0.0, .ofFloat 0.0, .ofFloat 0.0⟩

structure Node where
  id : NodeId
  title : Option String
  box : Box
  source : String
  scope : ScopeId
  /-- The last source that could be read, as an expression. -/
  compiled : Option Expr
  /-- None until the node has run, and again once the output is cleared. -/
  output : Option Output

/-- The value of the producer is an input of the consumer. -/
structure Edge where
  producer : NodeId
  consumer : NodeId
  deriving DecidableEq, Repr

/-! ## Errors -/

/-- Failures of a whole operation. Failures of a single source are outputs. -/
inductive GraphError
  | unknownNode (id : NodeId)
  /-- An edge of a file leads outside the nodes of the file. -/
  | invalidEdge (a b nodes : Nat)
  | indexOutOfRange (index nodes : Nat)
  /-- The node was reached again while it was being worked on. -/
  | cycle (id : NodeId)
  | unreadable (text : String) (problem : Json.Problem)
  deriving DecidableEq, Repr

def NodeId.text (id : NodeId) : String := "#" ++ toString id

namespace GraphError

def code : GraphError → String
  | unknownNode _ => "graph-unknown-node"
  | invalidEdge .. => "graph-invalid-edge"
  | indexOutOfRange .. => "graph-node-index-out-of-range"
  | cycle _ => "graph-cycle-detected"
  | unreadable .. => "graph-invalid-json"

def message (w : Wording) : GraphError → String
  | unknownNode id => "Unknown node " ++ id.text
  | invalidEdge a b nodes =>
    "Edge " ++ toString a ++ " -> " ++ toString b ++ " refers outside the " ++ toString nodes ++
      " serialized node(s)"
  | indexOutOfRange index nodes =>
    "Node index " ++ toString index ++ " out of range for " ++ toString nodes ++ " node(s)"
  | cycle id => "Dependency cycle detected at node " ++ id.text
  | unreadable text _ => "Invalid graph data: " ++ w.data text

end GraphError

/-! ## Graphs -/

/-- The nodes in the order in which they were added, the edges likewise, and the
store with the scopes of the nodes and their root. -/
structure Graph where
  store : Store
  root : ScopeId
  nodes : List Node
  edges : List Edge
  nextId : NodeId

namespace Graph

/-- No nodes, and a root scope with the built-in functions. -/
def empty : Graph :=
  let (root, store) := Store.empty.rootWithBuiltins
  ⟨store, root, [], [], 0⟩

def node? (g : Graph) (id : NodeId) : Option Node := g.nodes.find? (·.id = id)

def nodeIds (g : Graph) : List NodeId := g.nodes.map Node.id

def nodeAt? (g : Graph) (index : Nat) : Option NodeId := (g.nodes[index]?).map Node.id

def indexOf? (g : Graph) (id : NodeId) : Option Nat := g.nodes.findIdx? (·.id = id)

/-- The producers that feed a node, one for each edge into it, in edge order. -/
def inputsOf (g : Graph) (id : NodeId) : List NodeId :=
  (g.edges.filter (·.consumer = id)).map Edge.producer

/-- The consumers that a node feeds, one for each edge out of it, in edge order. -/
def consumersOf (g : Graph) (id : NodeId) : List NodeId :=
  (g.edges.filter (·.producer = id)).map Edge.consumer

/-! ## Changes of the topology -/

/-- Adds a node at the end, with no output yet. -/
def addNode (g : Graph) (source : String) : NodeId × Graph :=
  let (scope, store) := g.store.child g.root
  let node : Node := ⟨g.nextId, none, .zero, source, scope, none, none⟩
  (g.nextId, { g with store, nodes := g.nodes ++ [node], nextId := g.nextId + 1 })

/-- Removes a node and each edge that touches it. Nothing is recomputed. -/
def deleteNode (g : Graph) (id : NodeId) : Except GraphError (Node × Graph) :=
  match g.node? id with
  | none => .error (.unknownNode id)
  | some node =>
    .ok (node, { g with
      nodes := g.nodes.filter (·.id ≠ id)
      edges := g.edges.filter fun e => e.producer ≠ id && e.consumer ≠ id })

/-- Adds an edge at the end. A second edge between the same nodes makes one more
input. -/
def addEdge (g : Graph) (producer consumer : NodeId) : Except GraphError Graph :=
  if (g.node? producer).isNone then .error (.unknownNode producer)
  else if (g.node? consumer).isNone then .error (.unknownNode consumer)
  else .ok { g with edges := g.edges ++ [⟨producer, consumer⟩] }

/-- Removes the first edge between two nodes, and says whether there was one. -/
def removeEdge (g : Graph) (producer consumer : NodeId) : Bool × Graph :=
  (g.edges.contains ⟨producer, consumer⟩, { g with edges := g.edges.erase ⟨producer, consumer⟩ })

/-- Whether `goal` is among the nodes still to visit or comes after them along
the edges. Of the consumers that a node puts on the stack the last one is
visited first. Each node is left once, so each edge is followed once and the
limit need be no more than the edges and the start. -/
def reaches (g : Graph) (goal : NodeId) : Nat → List NodeId → List NodeId → Bool
  | _, [], _ => false
  | 0, _, _ => false
  | limit + 1, id :: stack, seen =>
    if id = goal then true
    else if seen.contains id then reaches g goal limit stack seen
    else reaches g goal limit ((g.consumersOf id).reverse ++ stack) (id :: seen)

/-- Whether one more edge would close a cycle. -/
def createsCycle (g : Graph) (producer consumer : NodeId) : Bool :=
  g.reaches producer (g.edges.length + 1) [consumer] []

/-! ## Changes of single nodes -/

def modifyNode (g : Graph) (id : NodeId) (f : Node → Node) : Graph :=
  { g with nodes := g.nodes.map fun node => if node.id = id then f node else node }

/-- Changes a node that must be there. -/
def updateNode (g : Graph) (id : NodeId) (f : Node → Node) : Except GraphError Graph :=
  if (g.node? id).isNone then .error (.unknownNode id) else .ok (g.modifyNode id f)

def setSource (g : Graph) (id : NodeId) (source : String) : Except GraphError Graph :=
  g.updateNode id fun node => { node with source }

def setTitle (g : Graph) (id : NodeId) (title : Option String) : Except GraphError Graph :=
  g.updateNode id fun node => { node with title }

def setPosition (g : Graph) (id : NodeId) (x y : Coordinate) : Except GraphError Graph :=
  g.updateNode id fun node => { node with box := { node.box with x, y } }

def setSize (g : Graph) (id : NodeId) (width height : Coordinate) : Except GraphError Graph :=
  g.updateNode id fun node => { node with box := { node.box with width, height } }

def output (g : Graph) (id : NodeId) : Except GraphError (Option Output) :=
  match g.node? id with
  | some node => .ok node.output
  | none => .error (.unknownNode id)

def clearOutput (g : Graph) (id : NodeId) : Except GraphError Graph :=
  g.updateNode id fun node => { node with output := none }

def clearOutputs (g : Graph) : Graph :=
  { g with nodes := g.nodes.map fun node => { node with output := none } }

end Graph

end Patchbay
