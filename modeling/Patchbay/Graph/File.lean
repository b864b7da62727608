-- Graphs in files: the JSON text of a graph, and reading one back.
import Patchbay.Graph.Data
import Patchbay.Json.Reader
import Patchbay.Json.Value

namespace Patchbay

/-! ## The text of a file -/

def NodeData.toJson (data : NodeData) : Json :=
  let title := match data.title with
    | some title => [("title", Json.string title)]
    | none => []
  .object (title ++ [("src", .string data.source), ("x", .number data.box.x.toFloat),
    ("y", .number data.box.y.toFloat), ("w", .number data.box.width.toFloat),
    ("h", .number data.box.height.toFloat)])

def EdgeData.toJson (data : EdgeData) : Json := .object [("a", .whole data.a), ("b", .whole data.b)]

def GraphData.toJson (data : GraphData) : Json :=
  .object [("node_data", .array (data.nodes.map NodeData.toJson)),
    ("edges", .array (data.edges.map EdgeData.toJson))]

/-! ## Reading -/

/-- A node of which some fields have been read. -/
structure NodeDraft where
  title : Option (Option String)
  source : Option String
  x : Option Coordinate
  y : Option Coordinate
  width : Option Coordinate
  height : Option Coordinate

namespace NodeDraft

def empty : NodeDraft := ⟨none, none, none, none, none, none⟩

def fields : List (Json.Reader.Field NodeDraft) :=
  [⟨"title", fun d => d.title.isSome, fun d => do
      let title ← Json.Reader.text?
      pure { d with title := some title }, true⟩,
    ⟨"src", fun d => d.source.isSome, fun d => do
      let source ← Json.Reader.text
      pure { d with source := some source }, false⟩,
    ⟨"x", fun d => d.x.isSome, fun d => do
      let x ← Json.Reader.float
      pure { d with x := some (.ofFloat x) }, false⟩,
    ⟨"y", fun d => d.y.isSome, fun d => do
      let y ← Json.Reader.float
      pure { d with y := some (.ofFloat y) }, false⟩,
    ⟨"w", fun d => d.width.isSome, fun d => do
      let width ← Json.Reader.float
      pure { d with width := some (.ofFloat width) }, false⟩,
    ⟨"h", fun d => d.height.isSome, fun d => do
      let height ← Json.Reader.float
      pure { d with height := some (.ofFloat height) }, false⟩]

/-- The node, unless a field other than the title is missing. -/
def finish (d : NodeDraft) : Option NodeData := do
  let source ← d.source
  let x ← d.x
  let y ← d.y
  let width ← d.width
  let height ← d.height
  pure ⟨d.title.join, source, ⟨x, y, width, height⟩⟩

end NodeDraft

/-- An edge of which some fields have been read. -/
structure EdgeDraft where
  a : Option Nat
  b : Option Nat

namespace EdgeDraft

def fields : List (Json.Reader.Field EdgeDraft) :=
  [⟨"a", fun d => d.a.isSome, fun d => do
      let a ← Json.Reader.index
      pure { d with a := some a }, false⟩,
    ⟨"b", fun d => d.b.isSome, fun d => do
      let b ← Json.Reader.index
      pure { d with b := some b }, false⟩]

def finish (d : EdgeDraft) : Option EdgeData := do
  let a ← d.a
  let b ← d.b
  pure ⟨a, b⟩

end EdgeDraft

/-- A file of which some fields have been read. -/
structure GraphDraft where
  nodes : Option (List NodeData)
  edges : Option (List EdgeData)

namespace GraphDraft

def fields : List (Json.Reader.Field GraphDraft) :=
  [⟨"node_data", fun d => d.nodes.isSome, fun d => do
      let nodes ← Json.Reader.array (Json.Reader.record NodeDraft.fields .empty NodeDraft.finish)
      pure { d with nodes := some nodes }, false⟩,
    ⟨"edges", fun d => d.edges.isSome, fun d => do
      let edges ← Json.Reader.array
        (Json.Reader.record EdgeDraft.fields ⟨none, none⟩ EdgeDraft.finish)
      pure { d with edges := some edges }, false⟩]

def finish (d : GraphDraft) : Option GraphData := do
  let nodes ← d.nodes
  let edges ← d.edges
  pure ⟨nodes, edges⟩

end GraphDraft

/-- What the text of a file holds. -/
def GraphData.read (text : String) : Except GraphError GraphData :=
  match (Json.Reader.record GraphDraft.fields ⟨none, none⟩ GraphDraft.finish).run text with
  | .ok data => .ok data
  | .error problem => .error (.unreadable text problem)

namespace Graph

def save (g : Graph) : String := g.toData.toJson.compact

def savePretty (g : Graph) : String := g.toData.toJson.pretty

/-- Loads a text in the place of all that was there. -/
def load (g : Graph) (text : String) : Except GraphError Graph := do
  g.loadData (← GraphData.read text)

end Graph

/-! ## Outputs -/

def Output.toJson (w : Language.Wording) : Option Output → Json
  | some (.value v) =>
    .object [("kind", .string "ok"), ("text", .string v.display), ("value", v.toJson)]
  | some (.fault f) => .object [("kind", .string "err"), ("message", .string (f.message w))]
  | none => .null

end Patchbay
