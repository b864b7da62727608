-- Well-formed graphs. Every node has a scope of its own inside the root
-- scope, and every edge joins two nodes that are there. Each change of a graph
-- keeps this.
import Patchbay.Graph.Data
import Patchbay.Proofs.Scopes
import Patchbay.Proofs.Wiring

namespace Patchbay

open Patchbay.Language

/-- The value of an output that is no fault. -/
def Output.value? : Output → Option Value
  | .value v => some v
  | .fault _ => none

namespace Graph

/-! ## Reading nodes -/

/-- The output of a node; none as well where no node is. -/
def output? (g : Graph) (id : NodeId) : Option Output := (g.node? id).bind Node.output

/-- The values of all inputs of a node in order, when every producer has one. -/
def inputValues? (g : Graph) (id : NodeId) : Option (List Value) :=
  (g.inputsOf id).mapM fun p => (g.output? p).bind Output.value?

/-- The scopes of the nodes, in node order. -/
def scopes (g : Graph) : List ScopeId := g.nodes.map Node.scope

variable {g g' : Graph} {id m : NodeId} {node : Node}

theorem id_of_node? (h : g.node? id = some node) : node.id = id := by
  have := List.find?_some h
  exact of_decide_eq_true this

theorem mem_of_node? (h : g.node? id = some node) : node ∈ g.nodes := List.mem_of_find?_eq_some h

theorem mem_nodeIds_of_node? (h : g.node? id = some node) : id ∈ g.nodeIds :=
  List.mem_map.mpr ⟨node, mem_of_node? h, id_of_node? h⟩

theorem exists_node_of_mem (h : id ∈ g.nodeIds) : ∃ node, g.node? id = some node := by
  obtain ⟨node, hmem, rfl⟩ := List.mem_map.mp h
  have : (g.node? node.id).isSome := by
    unfold node?
    rw [List.find?_isSome]
    exact ⟨node, hmem, decide_eq_true rfl⟩
  exact Option.isSome_iff_exists.mp this

theorem node?_eq_none_iff : g.node? id = none ↔ id ∉ g.nodeIds := by
  constructor
  · intro h hmem
    obtain ⟨node, hn⟩ := exists_node_of_mem hmem
    rw [h] at hn
    cases hn
  · intro h
    rcases hn : g.node? id with _ | node
    · rfl
    · exact absurd (mem_nodeIds_of_node? hn) h

theorem output?_of_node? (h : g.node? id = some node) : g.output? id = node.output := by
  unfold output?
  rw [h]
  rfl

theorem node_of_output? {out : Output} (h : g.output? id = some out) :
    ∃ node, g.node? id = some node ∧ node.output = some out := by
  unfold output? at h
  exact Option.bind_eq_some_iff.mp h

theorem output?_congr (h : g'.node? m = g.node? m) : g'.output? m = g.output? m := by
  unfold output?
  rw [h]

theorem node?_modifyNode {f : Node → Node} (hf : ∀ n, (f n).id = n.id) :
    (g.modifyNode id f).node? m = if m = id then (g.node? m).map f else g.node? m := by
  unfold node? modifyNode
  simp only
  induction g.nodes with
  | nil => simp
  | cons n rest ih =>
    rw [List.map_cons, List.find?_cons, List.find?_cons]
    by_cases hn : n.id = m
    · by_cases hm : m = id
      · simp [hn, hm, hf]
      · simp [hn, hm]
    · have hne : ¬(if n.id = id then f n else n).id = m := by
        split
        · rw [hf]; exact hn
        · exact hn
      simp only [hn, hne, decide_false]
      exact ih

theorem node?_modifyNode_self {f : Node → Node} (hf : ∀ n, (f n).id = n.id)
    (h : g.node? id = some node) : (g.modifyNode id f).node? id = some (f node) := by
  rw [node?_modifyNode hf, if_pos rfl, h]
  rfl

theorem node?_modifyNode_ne {f : Node → Node} (hf : ∀ n, (f n).id = n.id) (h : m ≠ id) :
    (g.modifyNode id f).node? m = g.node? m := by
  rw [node?_modifyNode hf, if_neg h]

/-- What a change leaves of all nodes stays where it changes one of them. -/
theorem map_nodes_modifyNode {α : Type} {f : Node → Node} {view : Node → α}
    (hf : ∀ n, view (f n) = view n) : (g.modifyNode id f).nodes.map view = g.nodes.map view := by
  unfold modifyNode
  rw [List.map_map]
  apply List.map_congr_left
  intro n _
  simp only [Function.comp_apply]
  split
  · exact hf n
  · rfl

/-! ## The invariant -/

structure WellFormed (g : Graph) : Prop where
  ids_ascend : g.nodeIds.Pairwise (· < ·)
  /-- Numbers to come are new. -/
  ids_lt : ∀ id ∈ g.nodeIds, id < g.nextId
  scopes_nodup : (g.root :: g.scopes).Nodup
  scopes_lt : ∀ s ∈ g.root :: g.scopes, s < g.store.size
  root_outward : g.store.outward g.root = []
  outward : ∀ s ∈ g.scopes, g.store.outward s = [g.root]
  edges_join : ∀ e ∈ g.edges, e.producer ∈ g.nodeIds ∧ e.consumer ∈ g.nodeIds

instance (g : Graph) : Decidable g.WellFormed :=
  decidable_of_iff (g.nodeIds.Pairwise (· < ·) ∧ (∀ id ∈ g.nodeIds, id < g.nextId) ∧
      (g.root :: g.scopes).Nodup ∧ (∀ s ∈ g.root :: g.scopes, s < g.store.size) ∧
      g.store.outward g.root = [] ∧ (∀ s ∈ g.scopes, g.store.outward s = [g.root]) ∧
      ∀ e ∈ g.edges, e.producer ∈ g.nodeIds ∧ e.consumer ∈ g.nodeIds)
    ⟨fun ⟨h₁, h₂, h₃, h₄, h₅, h₆, h₇⟩ => ⟨h₁, h₂, h₃, h₄, h₅, h₆, h₇⟩,
      fun h => ⟨h.ids_ascend, h.ids_lt, h.scopes_nodup, h.scopes_lt, h.root_outward, h.outward,
        h.edges_join⟩⟩

namespace WellFormed

theorem ids_nodup (h : g.WellFormed) : g.nodeIds.Nodup := h.ids_ascend.imp Nat.ne_of_lt

theorem scope_mem (hn : g.node? id = some node) : node.scope ∈ g.scopes :=
  List.mem_map_of_mem (mem_of_node? hn)

theorem scope_lt (h : g.WellFormed) (hn : g.node? id = some node) : node.scope < g.store.size :=
  h.scopes_lt _ (List.mem_cons_of_mem _ (scope_mem hn))

theorem root_lt (h : g.WellFormed) : g.root < g.store.size := h.scopes_lt _ List.mem_cons_self

theorem scope_ne_root (h : g.WellFormed) (hn : g.node? id = some node) : node.scope ≠ g.root := by
  intro heq
  have := (List.nodup_cons.mp h.scopes_nodup).1
  exact this (heq ▸ scope_mem hn)

/-- Two nodes with one scope are the same node. -/
theorem eq_of_scope_eq (h : g.WellFormed) {other : Node} (hn : g.node? id = some node)
    (ho : g.node? m = some other) (hs : node.scope = other.scope) : id = m := by
  have hnd := (List.nodup_cons.mp h.scopes_nodup).2
  have heq : node = other := List.inj_on_of_nodup_map hnd (mem_of_node? hn) (mem_of_node? ho) hs
  rw [← id_of_node? hn, ← id_of_node? ho, heq]

theorem producer_mem (h : g.WellFormed) (hf : g.Feeds m id) : m ∈ g.nodeIds :=
  (h.edges_join _ hf).1

theorem consumer_mem (h : g.WellFormed) (hf : g.Feeds m id) : id ∈ g.nodeIds :=
  (h.edges_join _ hf).2

/-- The invariant speaks of ids, scopes, edges and the chains of scopes only. -/
theorem transfer (h : g.WellFormed) (hids : g'.nodeIds = g.nodeIds)
    (hscopes : g'.scopes = g.scopes) (hedges : g'.edges = g.edges) (hroot : g'.root = g.root)
    (hnext : g'.nextId = g.nextId) (hsize : g.store.size ≤ g'.store.size)
    (hout : ∀ s, s < g.store.size → g'.store.outward s = g.store.outward s) : g'.WellFormed := by
  have hlt := h.scopes_lt
  refine ⟨?_, ?_, ?_, ?_, ?_, ?_, ?_⟩
  · rw [hids]; exact h.ids_ascend
  · rw [hids, hnext]; exact h.ids_lt
  · rw [hroot, hscopes]; exact h.scopes_nodup
  · rw [hroot, hscopes]
    exact fun s hs => Nat.lt_of_lt_of_le (hlt s hs) hsize
  · rw [hroot, hout _ h.root_lt]; exact h.root_outward
  · rw [hscopes, hroot]
    intro s hs
    rw [hout s (hlt s (List.mem_cons_of_mem _ hs))]
    exact h.outward s hs
  · rw [hids, hedges]; exact h.edges_join

/-- A store that grows within any scopes keeps the invariant. -/
theorem withStore {W : ScopeId → Prop} {st : Store} (h : g.WellFormed)
    (hw : Store.Within W g.store st) : ({ g with store := st } : Graph).WellFormed :=
  h.transfer rfl rfl rfl rfl rfl hw.size_le hw.outward

theorem modifyNode {f : Node → Node} (h : g.WellFormed) (hid : ∀ n, (f n).id = n.id)
    (hscope : ∀ n, (f n).scope = n.scope) : (g.modifyNode m f).WellFormed :=
  h.transfer (map_nodes_modifyNode hid) (map_nodes_modifyNode hscope) rfl rfl rfl (Nat.le_refl _)
    fun _ _ => rfl

end WellFormed

end Graph

end Patchbay
