-- Sessions: graphs that an editor keeps open and edits by the places of
-- their nodes. A session is known by its number, which is never given again.
import Patchbay.Graph.InPlace
import Patchbay.Text.Utf8

namespace Patchbay

open Patchbay.Language (Wording)

namespace Graph

/-- The output at a place; none as well where no node is. -/
def outputAt? (g : Graph) (index : Nat) : Option Output :=
  (g.nodes[index]?).bind Node.output

end Graph

/-! ## Sessions -/

/-- What an operation on a session reports. -/
inductive Status
  | ok
  | failed (error : GraphError)
  | unknownSession
  /-- An evaluation nests too deep to end. -/
  | tooDeep
  deriving DecidableEq, Repr

namespace Status

/-- The report of a failure. -/
def refusal (code message : String) : Json :=
  .object [("ok", .bool false), ("code", .string code), ("message", .string message)]

def toJson (w : Wording) : Status → Json
  | ok => .object [("ok", .bool true)]
  | failed e => refusal e.code (e.message w)
  | unknownSession => refusal "unknown-session" "Unknown session"
  | tooDeep => refusal "too-deep" "Evaluation nests too deep"

def text (w : Wording) (status : Status) : String := (status.toJson w).compact

end Status

/-- The graphs by session; none where a session was freed. -/
abbrev Sessions := List (Option Graph)

namespace Sessions

/-- Before the first session is opened. No session has the number zero. -/
def start : Sessions := [none]

def graph? (ss : Sessions) (s : Nat) : Option Graph := (ss[s]?).join

def put (ss : Sessions) (s : Nat) (g : Graph) : Sessions := ss.set s (some g)

/-- Opens a session on an empty graph. -/
def open? (ss : Sessions) : Nat × Sessions := (ss.length, ss ++ [some .empty])

/-- Frees a session. -/
def free (ss : Sessions) (s : Nat) : Sessions := ss.set s none

/-- Changes the graph of a session in place. What was done before a failure stays. -/
def compute (ss : Sessions) (s : Nat) (x : Graph.Recompute Unit) : Status × Sessions :=
  match ss.graph? s with
  | none => (.unknownSession, ss)
  | some g =>
    match x g with
    | .done _ g => (.ok, ss.put s g)
    | .failed e g => (.failed e, ss.put s g)
    | .exhausted => (.tooDeep, ss)

/-- Loads a graph and evaluates every node. -/
def load (depth : Nat) (ss : Sessions) (s : Nat) (bytes : List UInt8) : Status × Sessions :=
  ss.compute s (Graph.openText depth (Text.utf8Lossy bytes))

def save (ss : Sessions) (s : Nat) : String := (ss.graph? s).elim "\x7b\x7d" Graph.save

/-- Adds a node, and gives its place. -/
def addNode (ss : Sessions) (s : Nat) (source : List UInt8) : Option Nat × Sessions :=
  match ss.graph? s with
  | none => (none, ss)
  | some g =>
    let (id, g) := g.addNode (Text.utf8Lossy source)
    (g.indexOf? id, ss.put s g)

def addEdge (ss : Sessions) (s a b : Nat) : Status × Sessions := ss.compute s (Graph.joinAt a b)

def deleteNode (ss : Sessions) (s index : Nat) : Status × Sessions :=
  ss.compute s (Graph.removeAt index)

def setSource (ss : Sessions) (s index : Nat) (source : List UInt8) : Status × Sessions :=
  ss.compute s (Graph.rewriteAt index (Text.utf8Lossy source))

/-- Recomputes the node at a place and all nodes downstream of it. -/
def recompute (depth : Nat) (ss : Sessions) (s index : Nat) : Status × Sessions :=
  ss.compute s (Graph.recomputeAt depth index)

/-- The output of the node at a place, as JSON; null where there is none. -/
def output (w : Wording) (ss : Sessions) (s index : Nat) : String :=
  (Output.toJson w ((ss.graph? s).bind fun g => g.outputAt? index)).compact

end Sessions

end Patchbay
