-- Graphs under other numbers. Where each node goes by another number, recomputes do the same
-- under the new numbers: the same values in the same scopes, and errors with the new numbers.
import Patchbay.Proofs.Unmet

namespace Patchbay

open Patchbay.Language

/-! ## Renamed graphs -/

def Node.renamed (f : NodeId → NodeId) (node : Node) : Node := { node with id := f node.id }

def Edge.renamed (f : NodeId → NodeId) (e : Edge) : Edge := ⟨f e.producer, f e.consumer⟩

def GraphError.renamed (f : NodeId → NodeId) : GraphError → GraphError
  | unknownNode id => .unknownNode (f id)
  | cycle id => .cycle (f id)
  | e => e

/-- How a computation ends, seen through maps of causes, states and values. -/
def Outcome.through {ε ε' σ σ' α β : Type} (e : ε → ε') (s : σ → σ') (v : α → β) :
    Outcome ε σ α → Outcome ε' σ' β
  | .done a t => .done (v a) (s t)
  | .failed cause t => .failed (e cause) (s t)
  | .exhausted => .exhausted

namespace Graph

variable {f : NodeId → NodeId} {next : NodeId} {α α' β β' : Type}

/-- The graph with the nodes and edges under other numbers. The next number is `next`. -/
def renamed (f : NodeId → NodeId) (next : NodeId) (g : Graph) : Graph :=
  { g with
    nodes := g.nodes.map (Node.renamed f)
    edges := g.edges.map (Edge.renamed f)
    nextId := next }

theorem node?_renamed (hf : f.Injective) (g : Graph) (id : NodeId) :
    (g.renamed f next).node? (f id) = (g.node? id).map (Node.renamed f) := by
  unfold node? renamed
  rw [List.find?_map]
  congr 2
  funext node
  exact decide_eq_decide.mpr hf.eq_iff

theorem inputsOf_renamed (hf : f.Injective) (g : Graph) (id : NodeId) :
    (g.renamed f next).inputsOf (f id) = (g.inputsOf id).map f := by
  have hkeep : (fun e : Edge => decide (e.consumer = f id)) ∘ Edge.renamed f =
      fun e => decide (e.consumer = id) := by
    funext e
    exact decide_eq_decide.mpr hf.eq_iff
  unfold inputsOf renamed
  rw [List.filter_map, hkeep, List.map_map, List.map_map]
  rfl

theorem consumersOf_renamed (hf : f.Injective) (g : Graph) (id : NodeId) :
    (g.renamed f next).consumersOf (f id) = (g.consumersOf id).map f := by
  have hkeep : (fun e : Edge => decide (e.producer = f id)) ∘ Edge.renamed f =
      fun e => decide (e.producer = id) := by
    funext e
    exact decide_eq_decide.mpr hf.eq_iff
  unfold consumersOf renamed
  rw [List.filter_map, hkeep, List.map_map, List.map_map]
  rfl

/-- A change of a node that has nothing to do with its number. -/
theorem modifyNode_renamed {h : Node → Node} (hf : f.Injective) (g : Graph) (id : NodeId)
    (hh : ∀ node, h (node.renamed f) = (h node).renamed f) :
    (g.renamed f next).modifyNode (f id) h = (g.modifyNode id h).renamed f next := by
  unfold modifyNode renamed
  simp only [List.map_map]
  congr 1
  refine List.map_congr_left fun node _ => ?_
  have hid : (node.renamed f).id = f id ↔ node.id = id := hf.eq_iff
  simp only [Function.comp_apply, hid]
  split
  · exact hh node
  · rfl

/-! ## Computations under other numbers -/

/-- From a renamed graph `y` does what `x` does from the graph itself, with `v` of its values. -/
def Renames (f : NodeId → NodeId) (next : NodeId) (v : α → β) (x : Recompute α)
    (y : Recompute β) : Prop :=
  ∀ g, y (g.renamed f next) = (x g).through (GraphError.renamed f) (renamed f next) v

namespace Renames

theorem pure (v : α → β) (a : α) :
    Renames f next v (pure a : Recompute α) (pure (v a) : Recompute β) := fun _ => rfl

theorem fail (v : α → β) (e : GraphError) :
    Renames f next v (Action.fail e) (Action.fail (e.renamed f)) := fun _ => rfl

theorem exhausted (v : α → β) : Renames f next v Action.exhausted Action.exhausted := fun _ => rfl

theorem read {v : α → β} {r : Graph → α} {r' : Graph → β}
    (h : ∀ g, r' (g.renamed f next) = v (r g)) :
    Renames f next v (Action.read r) (Action.read r') := by
  intro g
  unfold Action.read
  rw [h]
  rfl

theorem change {c c' : Graph → Graph} (h : ∀ g, c' (g.renamed f next) = (c g).renamed f next) :
    Renames f next (fun u : Unit => u) (Action.change c) (Action.change c') := by
  intro g
  unfold Action.change
  rw [h]
  rfl

theorem bind {v : α → α'} {w : β → β'} {x : Recompute α} {y : Recompute α'}
    {k : α → Recompute β} {k' : α' → Recompute β'} (hx : Renames f next v x y)
    (hk : ∀ a, Renames f next w (k a) (k' (v a))) : Renames f next w (x >>= k) (y >>= k') := by
  intro g
  have hy := hx g
  rcases hr : x g with ⟨a, g₁⟩ | ⟨e, g₁⟩ | _
  · rw [hr] at hy
    rw [Action.bind_of_done hr, Action.bind_of_done hy]
    exact hk a g₁
  · rw [hr] at hy
    rw [Action.bind_of_failed hr, Action.bind_of_failed hy]
    rfl
  · rw [hr] at hy
    rw [Action.bind_of_exhausted hr, Action.bind_of_exhausted hy]
    rfl

theorem forEach {x y : NodeId → Recompute Unit}
    (h : ∀ id, Renames f next (fun u => u) (x id) (y (f id))) (ids : List NodeId) :
    Renames f next (fun u => u) (Action.forEach x ids) (Action.forEach y (ids.map f)) := by
  induction ids with
  | nil => exact pure _ ()
  | cons id ids ih => exact bind (h id) fun _ => ih

theorem find (hf : f.Injective) (id : NodeId) :
    Renames f next (Node.renamed f) (Graph.find id) (Graph.find (f id)) := by
  refine bind (v := Option.map (Node.renamed f)) (read fun g => node?_renamed hf g id) ?_
  intro node
  cases node with
  | none => exact fail _ _
  | some node => exact pure _ node

end Renames

theorem putOutput_renames (hf : f.Injective) (id : NodeId) (out : Output) :
    Renames f next (fun u => u) (putOutput id out) (putOutput (f id) out) :=
  Renames.change fun g => modifyNode_renamed hf g id fun _ => rfl

theorem run_renames (hf : f.Injective) (depth : Nat) (id : NodeId) :
    Renames f next (fun u => u) (run depth id) (run depth (f id)) := by
  refine Renames.bind (Renames.find hf id) fun node => ?_
  have hsource : (node.renamed f).source = node.source := rfl
  have hscope : (node.renamed f).scope = node.scope := rfl
  rw [hsource, hscope]
  rcases parseSource node.source with e | e
  · exact putOutput_renames hf id _
  · refine Renames.bind (Renames.change fun g => modifyNode_renamed hf g id fun _ => rfl) fun _ =>
      Renames.bind (v := fun st => st) (Renames.read fun _ => rfl) fun store => ?_
    rcases evaluate depth node.scope e store with ⟨value, st⟩ | ⟨cause, st⟩ | _
    · exact Renames.bind (Renames.change fun _ => rfl) fun _ => putOutput_renames hf id _
    · exact Renames.bind (Renames.change fun _ => rfl) fun _ => putOutput_renames hf id _
    · exact Renames.exhausted _

theorem ready_renames {r r' : NodeId → Recompute Unit} (hf : f.Injective)
    (hr : ∀ p, Renames f next (fun u => u) (r p) (r' (f p))) (id : NodeId) :
    Renames f next (fun u => u) (ready r id) (ready r' (f id)) := by
  refine Renames.bind (Renames.find hf id) fun node => ?_
  have hout : (node.renamed f).output = node.output := rfl
  rw [hout]
  split
  · exact hr id
  · exact Renames.pure _ ()

/-- The values of producers are the same under other numbers. -/
theorem collect_renames {r r' : NodeId → Recompute Unit} (hf : f.Injective)
    (hr : ∀ p, Renames f next (fun u => u) (r p) (r' (f p))) (ids : List NodeId) :
    Renames f next (fun found => found) (collect r ids) (collect r' (ids.map f)) := by
  induction ids with
  | nil => exact Renames.pure _ _
  | cons id ids ih =>
    rw [List.map_cons, collect_cons, collect_cons]
    refine Renames.bind (ready_renames hf hr id) fun _ =>
      Renames.bind (Renames.find hf id) fun node => ?_
    have hout : (node.renamed f).output = node.output := rfl
    rw [hout]
    rcases node.output with _ | ⟨v | fault⟩
    · exact Renames.pure _ _
    · refine Renames.bind ih fun found => ?_
      cases found with
      | none => exact Renames.pure _ _
      | some vs => exact Renames.pure _ _
    · exact Renames.pure _ _

theorem contains_map (hf : f.Injective) (ids : List NodeId) (id : NodeId) :
    (ids.map f).contains (f id) = ids.contains id := by
  rw [Bool.eq_iff_iff, List.contains_iff_mem, List.contains_iff_mem, List.mem_map_of_injective hf]

theorem resolve_renames (hf : f.Injective) (depth limit : Nat) (resolving : List NodeId)
    (id : NodeId) : Renames f next (fun u => u) (resolve depth limit resolving id)
      (resolve depth limit (resolving.map f) (f id)) := by
  induction limit generalizing resolving id with
  | zero => exact Renames.exhausted _
  | succ limit ih =>
    unfold resolve
    rw [contains_map hf]
    split
    · exact Renames.fail _ _
    · refine Renames.bind (Renames.find hf id) fun node =>
        Renames.bind (Renames.change fun _ => rfl) fun _ =>
        Renames.bind (Renames.read fun g => inputsOf_renamed hf g id) fun producers =>
        Renames.bind (collect_renames hf (ih (id :: resolving)) producers) fun found => ?_
      cases found with
      | none => exact putOutput_renames hf id _
      | some values =>
        exact Renames.bind (Renames.change fun _ => rfl) fun _ => run_renames hf depth id

theorem nesting_renames : Renames f next (fun limit => limit) nesting nesting :=
  Renames.read fun _ => congrArg (· + 1) (List.length_map _)

theorem recomputeWithInputs_renames (hf : f.Injective) (depth : Nat) (id : NodeId) :
    Renames f next (fun u => u) (recomputeWithInputs depth id) (recomputeWithInputs depth (f id)) :=
  Renames.bind nesting_renames fun limit => resolve_renames hf depth limit [] id

theorem propagate_renames (hf : f.Injective) (depth limit : Nat) (path : List NodeId)
    (id : NodeId) : Renames f next (fun u => u) (propagate depth limit path id)
      (propagate depth limit (path.map f) (f id)) := by
  induction limit generalizing path id with
  | zero => exact Renames.exhausted _
  | succ limit ih =>
    unfold propagate
    rw [contains_map hf]
    split
    · exact Renames.fail _ _
    · exact Renames.bind (recomputeWithInputs_renames hf depth id) fun _ =>
        Renames.bind (Renames.read fun g => consumersOf_renamed hf g id) fun consumers =>
        Renames.forEach (ih (id :: path)) consumers

theorem recomputeDownstream_renames (hf : f.Injective) (depth : Nat) (id : NodeId) :
    Renames f next (fun u => u) (recomputeDownstream depth id) (recomputeDownstream depth (f id)) :=
  Renames.bind nesting_renames fun limit => propagate_renames hf depth limit [] id

theorem recomputeUnset_renames (hf : f.Injective) (depth : Nat) (ids : List NodeId) :
    Renames f next (fun u => u) (recomputeUnset depth ids) (recomputeUnset depth (ids.map f)) := by
  refine Renames.forEach (fun id => Renames.bind (Renames.find hf id) fun node => ?_) ids
  have hout : (node.renamed f).output = node.output := rfl
  rw [hout]
  split
  · exact recomputeWithInputs_renames hf depth id
  · exact Renames.pure _ ()

theorem nodeIds_renamed (g : Graph) : (g.renamed f next).nodeIds = g.nodeIds.map f := by
  simp [nodeIds, renamed, Node.renamed]

theorem clearOutputs_renamed (g : Graph) :
    (g.renamed f next).clearOutputs = g.clearOutputs.renamed f next := by
  simp [clearOutputs, renamed, Node.renamed]

theorem recomputeAll_renames (hf : f.Injective) (depth : Nat) :
    Renames f next (fun u => u) (recomputeAll depth) (recomputeAll depth) :=
  Renames.bind (Renames.change clearOutputs_renamed) fun _ =>
    Renames.bind (Renames.read nodeIds_renamed) fun ids => recomputeUnset_renames hf depth ids

end Graph

end Patchbay
