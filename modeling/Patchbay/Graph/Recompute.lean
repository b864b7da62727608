-- Recomputing a graph. A node runs after the producers that have no output
-- yet; a producer with an output keeps it. What was computed before a failure
-- stays.
import Patchbay.Graph.Basic

namespace Patchbay

open Patchbay.Language

/-! ## Names of inputs -/

/-- How many numbers of 32 bits there are. -/
def wordSize : Nat := 0x100000000

/-- The name under which a node sees its input at `index`: a letter from `a`
on, and on through the characters. Numbers of 32 bits wrap around; where no
character is, the name says the index. -/
def inputName (index : Nat) : String :=
  let code := (97 + index) % wordSize
  if index < wordSize ∧ code.isValidChar then (Char.ofNat code).toString
  else "in" ++ toString index

namespace Graph

/-- A computation over the graph. -/
abbrev Recompute := Action GraphError Graph

/-! ## Running one node -/

def find (id : NodeId) : Recompute Node := do
  let found ← Action.read fun g : Graph => g.node? id
  Action.ofOption (.unknownNode id) found

def putOutput (id : NodeId) (output : Output) : Recompute Unit :=
  Action.change fun g => g.modifyNode id fun node => { node with output := some output }

/-- Reads the source of a node and evaluates it in the node's scope. -/
def run (depth : Nat) (id : NodeId) : Recompute Unit := do
  let node ← find id
  match parseSource node.source with
  | .error e => putOutput id (.fault (.source (.syntaxError e)))
  | .ok e =>
    Action.change fun g => g.modifyNode id fun node => { node with compiled := some e }
    let store ← Action.read Graph.store
    match evaluate depth node.scope e store with
    | .done value store =>
      Action.change fun g => { g with store }
      putOutput id (.value value)
    | .failed cause store =>
      Action.change fun g => { g with store }
      putOutput id (.fault (.source (.eval cause)))
    | .exhausted => Action.exhausted

/-! ## Running a node after its producers -/

/-- The values of the producers, where `resolve` gives an output to one that
has none. The first producer without a value ends it. -/
def collect (resolve : NodeId → Recompute Unit) : List NodeId → Recompute (Option (List Value))
  | [] => pure (some [])
  | id :: ids => do
    if (← find id).output.isNone then resolve id
    match (← find id).output with
    | some (.value v) =>
      match ← collect resolve ids with
      | some vs => pure (some (v :: vs))
      | none => pure none
    | _ => pure none

/-- Binds values as the inputs of a scope, from `index` on. -/
def bindInputs (scope : ScopeId) : Nat → List Value → Store → Store
  | _, [], st => st
  | index, v :: vs, st => bindInputs scope (index + 1) vs (st.define scope (inputName index) v)

/-- Runs a node after its producers. `resolving` holds the nodes that wait for
this one. -/
def resolve (depth : Nat) : Nat → List NodeId → NodeId → Recompute Unit
  | 0, _, _ => Action.exhausted
  | limit + 1, resolving, id => do
    if resolving.contains id then Action.fail (.cycle id)
    else
      let node ← find id
      Action.change fun g => { g with store := g.store.clear node.scope }
      let producers ← Action.read fun g : Graph => g.inputsOf id
      match ← collect (resolve depth limit (id :: resolving)) producers with
      | none => putOutput id (.fault .input)
      | some values =>
        Action.change fun g => { g with store := bindInputs node.scope 0 values g.store }
        run depth id

/-- A node can wait for each other node once, and the call that finds it again
is one more. -/
def nesting : Recompute Nat := Action.read fun g : Graph => g.nodes.length + 1

/-- Runs a node with its inputs. -/
def recomputeWithInputs (depth : Nat) (id : NodeId) : Recompute Unit := do
  resolve depth (← nesting) [] id

/-! ## Running what depends on a node -/

/-- Runs a node, then what it feeds, along the edges. `path` holds the nodes on
the way to this one. -/
def propagate (depth : Nat) : Nat → List NodeId → NodeId → Recompute Unit
  | 0, _, _ => Action.exhausted
  | limit + 1, path, id => do
    if path.contains id then Action.fail (.cycle id)
    else
      recomputeWithInputs depth id
      let consumers ← Action.read fun g : Graph => g.consumersOf id
      Action.forEach (propagate depth limit (id :: path)) consumers

/-- Runs a node, whatever its output, and all nodes downstream of it. -/
def recomputeDownstream (depth : Nat) (id : NodeId) : Recompute Unit := do
  propagate depth (← nesting) [] id

/-- Runs each node of the list that has no output yet. -/
def recomputeUnset (depth : Nat) : List NodeId → Recompute Unit :=
  Action.forEach fun id => do
    if (← find id).output.isNone then recomputeWithInputs depth id

/-- Clears every output and runs every node once, in node order. -/
def recomputeAll (depth : Nat) : Recompute Unit := do
  Action.change clearOutputs
  let ids ← Action.read nodeIds
  recomputeUnset depth ids

/-! ## Evaluating beside the nodes -/

/-- Evaluates a source text in a scope of the graph. -/
def evaluateIn (depth : Nat) (s : ScopeId) (source : String) : Action SourceError Graph Value :=
  fun g =>
    match Language.evaluateIn depth s source g.store with
    | .done v store => .done v { g with store }
    | .failed cause store => .failed cause { g with store }
    | .exhausted => .exhausted

end Graph

end Patchbay
