-- Graphs that correspond. After full recomputes, nodes with the same source and with
-- corresponding inputs show the same text, whatever histories the two graphs have: the
-- order and the numbers of the nodes, what was computed before, and the names that were
-- left in their scopes make no difference.
import Patchbay.Proofs.Histories
import Patchbay.Proofs.Incremental

namespace Patchbay

open Patchbay.Language

namespace Graph

variable {depth : Nat} {g g' h h' : Graph} {n : NodeId} {partner : NodeId → NodeId}

/-! ## Histories -/

theorem Reachable.history (h : Reachable depth g) (requests : List Request) :
    Reachable depth (history depth g requests) := by
  induction requests generalizing g with
  | nil => exact h
  | cons r rest ih => exact ih (h.after r)

/-! ## The root scope -/

/-- The root scope binds the built-in functions under their names, and nothing else. -/
def RootIsPrelude (g : Graph) : Prop :=
  g.store.bindings g.root = Builtin.all.map fun b => (b.name, .builtin b [])

/-- Whether the entries are these built-in functions under their names. -/
def namesBuiltins : List Builtin → Fields Value → Bool
  | [], [] => true
  | b :: bs, (name, .builtin c []) :: fields => name = b.name && c = b && namesBuiltins bs fields
  | _, _ => false

theorem namesBuiltins_iff {bs : List Builtin} {fields : Fields Value} :
    namesBuiltins bs fields = true ↔ fields = bs.map fun b => (b.name, .builtin b []) := by
  constructor
  · intro h
    fun_induction namesBuiltins bs fields with
    | case1 => rfl
    | case2 b bs name c fields ih =>
      simp only [Bool.and_eq_true, decide_eq_true_eq] at h
      simp [h.1.1, h.1.2, ih h.2]
    | case3 => cases h
  · rintro rfl
    induction bs with
    | nil => rfl
    | cons b bs ih => simp [namesBuiltins, ih]

instance (g : Graph) : Decidable g.RootIsPrelude := decidable_of_iff _ namesBuiltins_iff

theorem RootIsPrelude.holdsBuiltins (h : g.RootIsPrelude) : g.RootHoldsBuiltins := by
  unfold RootHoldsBuiltins
  rw [h]
  simp

/-! ## Corresponding graphs -/

/-- The source of a node; none where no node is. -/
def source? (g : Graph) (n : NodeId) : Option String := (g.node? n).map Node.source

/-- Each node of `g` has a partner in `h`, and each node of `h` is the partner of one node.
Partners have the same source, and their inputs are partners in the same order. -/
structure Corresponds (partner : NodeId → NodeId) (g h : Graph) : Prop where
  nodes : (g.nodeIds.map partner).Perm h.nodeIds
  source : ∀ n ∈ g.nodeIds, h.source? (partner n) = g.source? n
  inputs : ∀ n ∈ g.nodeIds, h.inputsOf (partner n) = (g.inputsOf n).map partner

/-- What works on the nodes of a graph leaves their sources. -/
theorem Frame.source? {W : NodeId → Prop} (h : Frame W g g') (n : NodeId) :
    g'.source? n = g.source? n := by
  have hplan := h.plan_node? n
  unfold Graph.source?
  rcases hg : g.node? n with _ | node <;> rcases hg' : g'.node? n with _ | node' <;>
    simp only [hg, hg', Option.map_some, Option.map_none, Option.some.injEq, reduceCtorEq] at hplan
  · rfl
  · simp [source_eq_of_plan hplan]

namespace Corresponds

theorem injective (hc : Corresponds partner g h) (hh : h.WellFormed) :
    ∀ m ∈ g.nodeIds, ∀ n ∈ g.nodeIds, partner m = partner n → m = n := by
  have hnodup : (g.nodeIds.map partner).Nodup := hc.nodes.nodup_iff.mpr hh.ids_nodup
  intro m hm n hn heq
  exact List.inj_on_of_nodup_map hnodup hm hn heq

/-- Graphs go on to correspond while their nodes are worked on. -/
theorem frame (hc : Corresponds partner g h) {V W : NodeId → Prop} (hg : Frame V g g')
    (hh : Frame W h h') : Corresponds partner g' h' := by
  refine ⟨?_, ?_, ?_⟩
  · rw [hg.nodeIds, hh.nodeIds]
    exact hc.nodes
  · intro n hn
    rw [hg.nodeIds] at hn
    rw [hg.source?, hh.source?]
    exact hc.source n hn
  · intro n hn
    rw [hg.nodeIds] at hn
    rw [hg.inputsOf, hh.inputsOf]
    exact hc.inputs n hn

end Corresponds

theorem Frame.rootIsPrelude {W : NodeId → Prop} (hf : Frame W g g') (hg : g.WellFormed)
    (hroot : g.RootIsPrelude) : g'.RootIsPrelude := by
  unfold RootIsPrelude
  rw [hf.root, Store.bindings_congr (hf.root_same hg)]
  exact hroot

/-- Two graphs that correspond, each with the journal of a full recompute. -/
def Corresponds.twins (hc : Corresponds partner g h) (hg : g.WellFormed) (hh : h.WellFormed)
    (hac : g.Acyclic) (hac' : h.Acyclic) (hroot : g.RootIsPrelude) (hroot' : h.RootIsPrelude)
    (hdone : recomputeAll depth g = .done () g') (hdone' : recomputeAll depth h = .done () h') :
    Twins depth :=
  have hframe := recomputeAll_frame hg hdone
  have hframe' := recomputeAll_frame hh hdone'
  have hafter : Corresponds partner g' h' := hc.frame hframe hframe'
  { log := (Journal.recomputeAll depth g).1
    left := g'
    log' := (Journal.recomputeAll depth h).1
    right := h'
    partner
    tracked := recomputeAll_tracked hg hac hdone
    tracked' := recomputeAll_tracked hh hac' hdone'
    outputs := by
      rw [hframe.nodeIds]
      exact recomputeAll_sets hg hdone
    outputs' := by
      rw [hframe'.nodeIds]
      exact recomputeAll_sets hh hdone'
    injective := hafter.injective (hframe'.wellFormed hh)
    source := by
      intro n node hn
      have hsource := hafter.source n (mem_nodeIds_of_node? hn)
      unfold source? at hsource
      rw [hn, Option.map_some] at hsource
      exact Option.map_eq_some_iff.mp hsource
    inputs := hafter.inputs
    builtins := (hframe.rootIsPrelude hg hroot).holdsBuiltins
    root := (hframe'.rootIsPrelude hh hroot').trans (hframe.rootIsPrelude hg hroot).symm }

/-- Two graphs with any histories correspond. Where no way leads back and the evaluations
end, full recomputes of both succeed, and partners show the same text or message. -/
theorem corresponding_nodes_show_the_same (depth past past' : Nat) (g h : Graph)
    (hg : Reachable past g) (hh : Reachable past' h) (hac : g.Acyclic) (hac' : h.Acyclic)
    (hroot : g.RootIsPrelude) (hroot' : h.RootIsPrelude) (partner : NodeId → NodeId)
    (hc : Corresponds partner g h)
    (hends : ∀ ev ∈ (Journal.recomputeAll depth g).1, ev.Ends depth)
    (hends' : ∀ ev ∈ (Journal.recomputeAll depth h).1, ev.Ends depth) :
    ∃ g' h', recomputeAll depth g = .done () g' ∧ recomputeAll depth h = .done () h' ∧
      ∀ n ∈ g.nodeIds, ∃ shown, (g'.output? n).map Output.shown = some shown ∧
        (h'.output? (partner n)).map Output.shown = some shown := by
  obtain ⟨g', hdone⟩ := recomputeAll_done hg.wellFormed hac hends
  obtain ⟨h', hdone'⟩ := recomputeAll_done hh.wellFormed hac' hends'
  refine ⟨g', h', hdone, hdone', ?_⟩
  intro n hn
  obtain ⟨out, hout⟩ := Option.isSome_iff_exists.mp (recomputeAll_sets hg.wellFormed hdone n hn)
  have hmem : n ∈ g'.nodeIds := by rwa [(recomputeAll_frame hg.wellFormed hdone).nodeIds]
  have heq := (hc.twins hg.wellFormed hh.wellFormed hac hac' hroot hroot' hdone hdone').shown_eq
    n hmem
  change (h'.output? (partner n)).map Output.shown = (g'.output? n).map Output.shown at heq
  rw [hout] at heq ⊢
  exact ⟨out.shown, rfl, heq⟩

/-- A function, a node that calls it, and a node that takes both in. -/
def threeNodes : List Request :=
  [.addNode "\\x: x", .addNode "a \"hi\"", .addNode "b", .edit (.addEdge 0 1),
    .edit (.addEdge 0 2), .edit (.addEdge 1 2)]

/-- The same three nodes the other way round, after a node that goes, with outputs and with
a name in the scope of the last one. -/
def threeNodesBack : List Request :=
  [.addNode "7", .addNode "b", .addNode "a \"hi\"", .addNode "\\x: x", .edit (.addEdge 0 3),
    .edit (.addEdge 3 1), .edit (.addEdge 2 1), .deleteNode 0, .recomputeAll,
    .edit (.addEdge 3 2), .evaluate 2 "let x = 4; x"]

theorem threeNodes_show_the_same : ∃ g' h',
    recomputeAll 20 (history 20 empty threeNodes) = .done () g' ∧
    recomputeAll 20 (history 9 empty threeNodesBack) = .done () h' ∧
    ∀ n ∈ (history 20 empty threeNodes).nodeIds, ∃ shown,
      (g'.output? n).map Output.shown = some shown ∧
      (h'.output? (3 - n)).map Output.shown = some shown := by
  have hac : (history 20 empty threeNodes).Acyclic :=
    acyclic_of_rank (fun n => n) (by decide +kernel)
  have hac' : (history 9 empty threeNodesBack).Acyclic :=
    acyclic_of_rank (fun n => 3 - n) (by decide +kernel)
  exact corresponding_nodes_show_the_same 20 20 9 (history 20 empty threeNodes)
    (history 9 empty threeNodesBack) (Reachable.empty.history threeNodes)
    (Reachable.empty.history threeNodesBack) hac hac' (by decide +kernel) (by decide +kernel)
    (fun n => 3 - n) ⟨by decide +kernel, by decide +kernel, by decide +kernel⟩
    (by decide +kernel) (by decide +kernel)

end Graph

end Patchbay
