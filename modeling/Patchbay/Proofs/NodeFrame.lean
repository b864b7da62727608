-- What stays of a graph when some of its nodes are worked on: the plan of all
-- nodes, the edges, and every node and scope that is not among them.
import Patchbay.Proofs.WellFormed

namespace Patchbay

open Patchbay.Language

/-- A node without what its last run left. -/
def Node.plan (node : Node) : Node := { node with compiled := none, output := none }

namespace Graph

/-- The scope of one of the nodes `W`. -/
def ScopeOf (g : Graph) (W : NodeId → Prop) (s : ScopeId) : Prop :=
  ∃ m node, W m ∧ g.node? m = some node ∧ node.scope = s

/-- From `g` to `g'` at most the nodes `W` are worked on. -/
structure Frame (W : NodeId → Prop) (g g' : Graph) : Prop where
  plan : g'.nodes.map Node.plan = g.nodes.map Node.plan
  edges : g'.edges = g.edges
  root : g'.root = g.root
  nextId : g'.nextId = g.nextId
  node : ∀ m, ¬W m → g'.node? m = g.node? m
  store : Store.Within (g.ScopeOf W) g.store g'.store

variable {g g' g'' : Graph} {W V : NodeId → Prop} {id m : NodeId}

/-! ## Nodes with one plan -/

theorem map_of_plan {α : Type} {view : Node → α} (hview : ∀ n, view n.plan = view n)
    (h : g'.nodes.map Node.plan = g.nodes.map Node.plan) :
    g'.nodes.map view = g.nodes.map view := by
  have hboth : ∀ nodes : List Node, nodes.map view = (nodes.map Node.plan).map view := by
    intro nodes
    rw [List.map_map]
    exact List.map_congr_left fun n _ => (hview n).symm
  rw [hboth g'.nodes, h, ← hboth]

theorem node?_plan (g : Graph) (m : NodeId) :
    (g.node? m).map Node.plan = (g.nodes.map Node.plan).find? (·.id = m) := by
  unfold node?
  rw [List.find?_map]
  rfl

/-- A node that is there after the work was there before, with the same plan. -/
theorem exists_plan_eq {node' : Node} (h : g'.nodes.map Node.plan = g.nodes.map Node.plan)
    (hn : g'.node? m = some node') : ∃ node, g.node? m = some node ∧ node'.plan = node.plan := by
  have heq : (g'.node? m).map Node.plan = (g.node? m).map Node.plan := by
    rw [node?_plan, node?_plan, h]
  rw [hn] at heq
  rcases hg : g.node? m with _ | node
  · rw [hg] at heq
    cases heq
  · rw [hg] at heq
    exact ⟨node, rfl, Option.some.inj heq⟩

theorem source_eq_of_plan {a b : Node} (h : a.plan = b.plan) : a.source = b.source := by
  have hs : a.plan.source = b.plan.source := congrArg Node.source h
  exact hs

theorem scope_eq_of_plan {a b : Node} (h : a.plan = b.plan) : a.scope = b.scope := by
  have hs : a.plan.scope = b.plan.scope := congrArg Node.scope h
  exact hs

theorem id_eq_of_plan {a b : Node} (h : a.plan = b.plan) : a.id = b.id := by
  have hs : a.plan.id = b.plan.id := congrArg Node.id h
  exact hs

namespace Frame

theorem nodeIds (h : Frame W g g') : g'.nodeIds = g.nodeIds := map_of_plan (fun _ => rfl) h.plan

theorem scopes (h : Frame W g g') : g'.scopes = g.scopes := map_of_plan (fun _ => rfl) h.plan

theorem exists_node {node : Node} (h : Frame W g g') (hn : g.node? m = some node) :
    ∃ node', g'.node? m = some node' ∧ node'.plan = node.plan := by
  obtain ⟨node', hn', heq⟩ := exists_plan_eq h.plan.symm hn
  exact ⟨node', hn', heq.symm⟩

theorem exists_node_before {node' : Node} (h : Frame W g g') (hn : g'.node? m = some node') :
    ∃ node, g.node? m = some node ∧ node'.plan = node.plan := exists_plan_eq h.plan hn

theorem refl (W : NodeId → Prop) (g : Graph) : Frame W g g :=
  ⟨rfl, rfl, rfl, rfl, fun _ _ => rfl, Store.Within.refl _ _⟩

/-- The scopes of nodes do not change, so neither does which of them are in `W`. -/
theorem scopeOf_iff (h : Frame W g g') (s : ScopeId) : g'.ScopeOf V s ↔ g.ScopeOf V s := by
  constructor
  · rintro ⟨m, node', hm, hn, rfl⟩
    obtain ⟨node, hn', hp⟩ := h.exists_node_before hn
    exact ⟨m, node, hm, hn', (scope_eq_of_plan hp).symm⟩
  · rintro ⟨m, node, hm, hn, rfl⟩
    obtain ⟨node', hn', hp⟩ := h.exists_node hn
    exact ⟨m, node', hm, hn', scope_eq_of_plan hp⟩

theorem trans (h : Frame W g g') (k : Frame W g' g'') : Frame W g g'' := by
  refine ⟨k.plan.trans h.plan, k.edges.trans h.edges, k.root.trans h.root,
    k.nextId.trans h.nextId, ?_, ?_⟩
  · intro m hm
    rw [k.node m hm, h.node m hm]
  · exact h.store.trans (k.store.mono fun s _ hs => (h.scopeOf_iff s).mp hs)

theorem mono (h : Frame W g g') (hwv : ∀ m, W m → V m) : Frame V g g' := by
  refine ⟨h.plan, h.edges, h.root, h.nextId, ?_, ?_⟩
  · intro m hm
    exact h.node m fun hw => hm (hwv m hw)
  · refine h.store.mono ?_
    rintro s _ ⟨m, node, hm, hn, hs⟩
    exact ⟨m, node, hwv m hm, hn, hs⟩

theorem wellFormed (h : Frame W g g') (hg : g.WellFormed) : g'.WellFormed :=
  hg.transfer h.nodeIds h.scopes h.edges h.root h.nextId h.store.size_le h.store.outward

theorem inputsOf (h : Frame W g g') (id : NodeId) : g'.inputsOf id = g.inputsOf id :=
  inputsOf_congr h.edges id

theorem feeds (h : Frame W g g') : g'.Feeds = g.Feeds := feeds_congr h.edges

/-- The scope of a node that is not worked on is as it was. -/
theorem scope_same {node : Node} (h : Frame W g g') (hg : g.WellFormed)
    (hn : g.node? m = some node) (hm : ¬W m) :
    g'.store.scopes[node.scope]? = g.store.scopes[node.scope]? := by
  apply h.store.same _ (hg.scope_lt hn)
  rintro ⟨k, other, hk, ho, hs⟩
  obtain rfl : k = m := hg.eq_of_scope_eq ho hn hs
  exact hm hk

theorem bindings_same {node : Node} (h : Frame W g g') (hg : g.WellFormed)
    (hn : g.node? m = some node) (hm : ¬W m) :
    g'.store.bindings node.scope = g.store.bindings node.scope :=
  Store.bindings_congr (h.scope_same hg hn hm)

/-- The root scope belongs to no node, so no name is bound in it. -/
theorem off_root (h : Frame W g g') (hg : g.WellFormed) :
    Store.Within (· ≠ g.root) g.store g'.store := by
  refine h.store.mono ?_
  rintro s _ ⟨m, node, -, hn, rfl⟩
  exact hg.scope_ne_root hn

theorem root_same (h : Frame W g g') (hg : g.WellFormed) :
    g'.store.scopes[g.root]? = g.store.scopes[g.root]? :=
  (h.off_root hg).same _ hg.root_lt fun hne => hne rfl

end Frame

/-! ## Changes of one node -/

/-- A change of the store within the scope of one node. -/
theorem Frame.withStore {node : Node} {st : Store} (hn : g.node? id = some node)
    (h : Store.Within (· = node.scope) g.store st) :
    Frame (· = id) g { g with store := st } := by
  refine ⟨rfl, rfl, rfl, rfl, fun _ _ => rfl, h.mono ?_⟩
  rintro s _ rfl
  exact ⟨id, node, rfl, hn, rfl⟩

theorem Frame.modifyNode (g : Graph) (id : NodeId) {f : Node → Node}
    (hf : ∀ n, (f n).plan = n.plan) : Frame (· = id) g (g.modifyNode id f) := by
  have hid : ∀ n, (f n).id = n.id := fun n => id_eq_of_plan (hf n)
  refine ⟨map_nodes_modifyNode hf, rfl, rfl, rfl, ?_, Store.Within.refl _ _⟩
  intro m hm
  exact node?_modifyNode_ne hid hm

end Graph

end Patchbay
