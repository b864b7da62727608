-- Graphs and their histories. After any requests, granted or refused, the nodes
-- stand in the order of their numbers, edges join nodes that are there, and each
-- number was given once, whatever was deleted or loaded since.
import Patchbay.Proofs.Reachable
import Patchbay.Proofs.Unmet

namespace Patchbay

open Patchbay.Language

namespace Graph

variable {depth : Nat} {g g' g'' : Graph} {id : NodeId} {ids ids' : List NodeId}

/-! ## Histories -/

/-- What requests one after the other make of a graph. -/
def history (depth : Nat) (g : Graph) (requests : List Request) : Graph :=
  requests.foldl (fun g r => g.after depth r) g

/-- The numbers that a request gives to nodes, in order. -/
def given (g : Graph) : Request → List NodeId
  | .addNode source => [(g.addNode source).1]
  | .loadData data =>
    match g.loadData data with
    | .ok g' => g'.nodeIds
    | .error _ => []
  | .load text =>
    match g.load text with
    | .ok g' => g'.nodeIds
    | .error _ => []
  | _ => []

/-- The numbers that requests one after the other give. -/
def givenBy (depth : Nat) : Graph → List Request → List NodeId
  | _, [] => []
  | g, r :: rest => g.given r ++ givenBy depth (g.after depth r) rest

/-! ## Numbers -/

/-- From `g` to `g'` the numbers `ids` are given: those that come next. A node is there
after it that was there before or has one of them. -/
structure Gives (g : Graph) (ids : List NodeId) (g' : Graph) : Prop where
  next : ids = List.range' g.nextId ids.length
  nextId : g'.nextId = g.nextId + ids.length
  nodeIds : ∀ id ∈ g'.nodeIds, id ∈ g.nodeIds ∨ id ∈ ids

namespace Gives

theorem none (hnext : g'.nextId = g.nextId) (hids : ∀ id ∈ g'.nodeIds, id ∈ g.nodeIds) :
    Gives g [] g' := ⟨rfl, hnext, fun id h => Or.inl (hids id h)⟩

theorem refl (g : Graph) : Gives g [] g := none rfl fun _ h => h

theorem trans (h : Gives g ids g') (k : Gives g' ids' g'') : Gives g (ids ++ ids') g'' := by
  refine ⟨?_, ?_, ?_⟩
  · have hk := k.next
    rw [h.nextId] at hk
    rw [List.length_append, ← List.range'_append_1, ← h.next, ← hk]
  · rw [k.nextId, h.nextId, List.length_append, Nat.add_assoc]
  · intro id hid
    rw [List.mem_append]
    rcases k.nodeIds id hid with hid | hid
    · rcases h.nodeIds id hid with hid | hid
      · exact Or.inl hid
      · exact Or.inr (Or.inl hid)
    · exact Or.inr (Or.inr hid)

/-- A change that is granted gives no number, and one that is refused changes nothing. -/
theorem getD {o : Option Graph} (h : ∀ g', o = some g' → Gives g [] g') :
    Gives g [] (o.getD g) := by
  cases o with
  | none => exact refl g
  | some g' => exact h g' rfl

end Gives

theorem Frame.gives {W : NodeId → Prop} (h : Frame W g g') : Gives g [] g' := by
  refine Gives.none h.nextId ?_
  rw [h.nodeIds]
  exact fun _ hid => hid

theorem modifyNode_gives (g : Graph) (id : NodeId) {f : Node → Node} (hf : ∀ n, (f n).id = n.id) :
    Gives g [] (g.modifyNode id f) := by
  refine Gives.none rfl ?_
  have hids : (g.modifyNode id f).nodeIds = g.nodeIds := map_nodes_modifyNode hf
  rw [hids]
  exact fun _ hid => hid

theorem updateNode_gives {f : Node → Node} (h : g.updateNode id f = .ok g')
    (hf : ∀ n, (f n).id = n.id) : Gives g [] g' := by
  unfold updateNode at h
  split at h
  · cases h
  · cases h
    exact modifyNode_gives g id hf

theorem addNode_gives (g : Graph) (source : String) :
    Gives g [(g.addNode source).1] (g.addNode source).2 := by
  refine ⟨rfl, rfl, ?_⟩
  rw [nodeIds_addNode]
  intro id hid
  exact List.mem_append.mp hid

theorem addNodes_gives (g : Graph) (nodes : List NodeData) :
    Gives g (g.addNodes nodes).1 (g.addNodes nodes).2 := by
  induction nodes generalizing g with
  | nil => exact Gives.refl g
  | cons data rest ih =>
    have hadd := addNode_gives g data.source
    have hone : Gives g [(g.addNodeData data).1] (g.addNodeData data).2 :=
      hadd.trans (modifyNode_gives _ (g.addNode data.source).1 fun _ => rfl)
    exact hone.trans (ih (g.addNodeData data).2)

/-- All nodes of a loaded graph have numbers that come next. -/
theorem loadData_gives {data : GraphData} (h : g.loadData data = .ok g') :
    Gives g g'.nodeIds g' := by
  unfold Graph.loadData at h
  dsimp only at h
  split at h
  · cases h
  · have hgives := addNodes_gives { g with nodes := [], edges := [] } data.nodes
    have hids := nodeIds_addNodes { g with nodes := [], edges := [] } data.nodes
    generalize ({ g with nodes := [], edges := [] } : Graph).addNodes data.nodes = added at *
    obtain ⟨ids, g₁⟩ := added
    cases h
    have hloaded : g₁.nodeIds = ids := hids
    have hedges : ∀ edges, ({ g₁ with edges := edges } : Graph).nodeIds = ids := fun _ => hloaded
    refine ⟨?_, ?_, fun id hid => Or.inr hid⟩
    · rw [hedges]
      exact hgives.next
    · rw [hedges]
      exact hgives.nextId

theorem edit_gives (g : Graph) (e : Edit) : Gives g [] (g.edit e) := by
  cases e with
  | setSource id source =>
    exact Gives.getD fun g' h => updateNode_gives (ok_of_toOption h) fun _ => rfl
  | addEdge producer consumer =>
    rcases edit_addEdge g producer consumer with h | ⟨-, -, h⟩
    · rw [h]
      exact Gives.refl g
    · rw [h]
      exact Gives.none rfl fun _ hid => hid
  | removeEdge producer consumer => exact Gives.none rfl fun _ hid => hid

theorem evaluateIn_gives {s : ScopeId} {source : String}
    (h : (evaluateIn depth s source g).state? = some g') : Gives g [] g' := by
  unfold Graph.evaluateIn at h
  split at h
  case h_1 =>
    cases h
    exact Gives.none rfl fun _ hid => hid
  case h_2 =>
    cases h
    exact Gives.none rfl fun _ hid => hid
  case h_3 => cases h

/-- Each request gives the numbers that come next, and no others. -/
theorem after_gives (hg : g.WellFormed) (depth : Nat) (r : Request) :
    Gives g (g.given r) (g.after depth r) := by
  cases r with
  | addNode source => exact addNode_gives g source
  | deleteNode id =>
    refine Gives.getD fun g' h => ?_
    rcases hd : g.deleteNode id with e | ⟨node, g₁⟩
    · rw [hd] at h
      cases h
    · rw [hd] at h
      cases h
      unfold Graph.deleteNode at hd
      split at hd
      · cases hd
      · cases hd
        exact Gives.none rfl (List.filter_sublist.map Node.id).subset
  | edit e => exact edit_gives g e
  | setTitle id title =>
    exact Gives.getD fun g' h => updateNode_gives (ok_of_toOption h) fun _ => rfl
  | setPosition id x y =>
    exact Gives.getD fun g' h => updateNode_gives (ok_of_toOption h) fun _ => rfl
  | setSize id width height =>
    exact Gives.getD fun g' h => updateNode_gives (ok_of_toOption h) fun _ => rfl
  | clearOutput id =>
    exact Gives.getD fun g' h => updateNode_gives (ok_of_toOption h) fun _ => rfl
  | clearOutputs => exact (frame_clearOutputs g).gives
  | loadData data =>
    simp only [given, after]
    rcases hload : g.loadData data with e | g'
    · exact Gives.refl g
    · exact loadData_gives hload
  | load text =>
    simp only [given, after]
    rcases hload : g.load text with e | g'
    · exact Gives.refl g
    · unfold Graph.load at hload
      rcases hr : GraphData.read text with e | data
      · rw [hr] at hload
        cases hload
      · rw [hr] at hload
        exact loadData_gives hload
  | recomputeWithInputs id =>
    exact Gives.getD fun g' h => (frame_recomputeWithInputs hg h).gives
  | recomputeDownstream id =>
    exact Gives.getD fun g' h => (frame_recomputeDownstream hg h).gives
  | recomputeAll => exact Gives.getD fun g' h => (frame_recomputeAll hg h).gives
  | evaluate s source => exact Gives.getD fun g' h => evaluateIn_gives h

theorem history_gives (hg : g.WellFormed) (depth : Nat) (requests : List Request) :
    Gives g (givenBy depth g requests) (history depth g requests) := by
  induction requests generalizing g with
  | nil => exact Gives.refl g
  | cons r rest ih => exact (after_gives hg depth r).trans (ih (hg.after depth r))

theorem history_wellFormed (hg : g.WellFormed) (depth : Nat) (requests : List Request) :
    (history depth g requests).WellFormed := by
  induction requests generalizing g with
  | nil => exact hg
  | cons r rest ih => exact ih (hg.after depth r)

/-! ## Places -/

/-- The place of a node is where its number stands. -/
theorem nodeAt?_eq_some_iff (hg : g.WellFormed) (i : Nat) :
    g.nodeAt? i = some id ↔ g.indexOf? id = some i := by
  have hasc := List.pairwise_iff_getElem.mp hg.ids_ascend
  have hget : ∀ j (hj : j < g.nodes.length) (hj' : j < g.nodeIds.length),
      g.nodeIds[j] = g.nodes[j].id := fun j _ _ => List.getElem_map _
  have hlen : g.nodeIds.length = g.nodes.length := List.length_map _
  unfold nodeAt? indexOf?
  rw [List.findIdx?_eq_some_iff_getElem]
  constructor
  · intro h
    obtain ⟨node, hn, hid⟩ := Option.map_eq_some_iff.mp h
    obtain ⟨hi, rfl⟩ := List.getElem?_eq_some_iff.mp hn
    refine ⟨hi, decide_eq_true hid, ?_⟩
    intro j hji hj
    have hlt := hasc j i (by omega) (by omega) hji
    rw [hget j (by omega) (by omega), hget i hi (by omega), hid, of_decide_eq_true hj] at hlt
    exact Nat.lt_irrefl _ hlt
  · rintro ⟨hi, hid, -⟩
    rw [List.getElem?_eq_getElem hi, Option.map_some, of_decide_eq_true hid]

theorem exists_place (h : id ∈ g.nodeIds) : ∃ i, g.indexOf? id = some i := by
  obtain ⟨node, hmem, rfl⟩ := List.mem_map.mp h
  apply Option.isSome_iff_exists.mp
  unfold indexOf?
  rw [List.findIdx?_isSome, List.any_eq_true]
  exact ⟨node, hmem, decide_eq_true rfl⟩

/-- The data of an edge say where its two nodes stand. -/
def Places (g : Graph) (e : Edge) (d : EdgeData) : Prop :=
  g.indexOf? e.producer = some d.a ∧ g.indexOf? e.consumer = some d.b

/-- No edge gets lost in the data. -/
theorem edges_toData (hg : g.WellFormed) : List.Forall₂ g.Places g.edges g.toData.edges := by
  have hjoin := hg.edges_join
  unfold toData
  dsimp only
  generalize g.edges = edges at hjoin
  induction edges with
  | nil => exact .nil
  | cons e rest ih =>
    obtain ⟨hp, hc⟩ := hjoin e List.mem_cons_self
    obtain ⟨a, ha⟩ := exists_place hp
    obtain ⟨b, hb⟩ := exists_place hc
    rw [List.filterMap_cons, ha, hb]
    exact .cons ⟨ha, hb⟩ (ih fun e he => hjoin e (List.mem_cons_of_mem _ he))

/-! ## What holds of all histories -/

/-- What a graph owes to those who know its nodes by their numbers and places. -/
structure Consistent (depth : Nat) (g : Graph) : Prop where
  edges_join : ∀ e ∈ g.edges, e.producer ∈ g.nodeIds ∧ e.consumer ∈ g.nodeIds
  ids_ascend : g.nodeIds.Pairwise (· < ·)
  ids_lt : ∀ id ∈ g.nodeIds, id < g.nextId
  place : ∀ id ∈ g.nodeIds, ∃ i, g.indexOf? id = some i
  place_iff : ∀ id i, g.nodeAt? i = some id ↔ g.indexOf? id = some i
  data : List.Forall₂ g.Places g.edges g.toData.edges
  /-- A recompute of a node that is there does not fail for want of a node. -/
  known : ∀ id ∈ g.nodeIds, ∀ n g', recomputeWithInputs depth id g ≠ .failed (.unknownNode n) g' ∧
    recomputeDownstream depth id g ≠ .failed (.unknownNode n) g'
  known_all : ∀ n g', recomputeAll depth g ≠ .failed (.unknownNode n) g'

theorem WellFormed.consistent (hg : g.WellFormed) (depth : Nat) : g.Consistent depth := by
  have hself : SameWiring g g := ⟨hg, rfl, rfl⟩
  refine ⟨hg.edges_join, hg.ids_ascend, hg.ids_lt, fun id => exists_place,
    fun id => nodeAt?_eq_some_iff hg, edges_toData hg, ?_, ?_⟩
  · intro id hid n g'
    exact ⟨(recomputeWithInputs_finds hid).known g n g' hself,
      (recomputeDownstream_finds depth hid).known g n g' hself⟩
  · exact fun n g' => recomputeAll_ne_unknown depth hg

/-- After any requests the graph is consistent. The numbers that were given are those below
the next one, each once, so while fewer than `2^32` were given a counter of 32 bits holds
them all; and a node is there after one more request only if it was there before or got
its number then. A producer that was run is never without output: what would be done
about it makes no difference. -/
theorem histories_are_consistent (depth : Nat) (requests : List Request) :
    (history depth empty requests).Consistent depth ∧
    givenBy depth empty requests = List.range (history depth empty requests).nextId ∧
    (∀ r, ∀ id ∈ ((history depth empty requests).after depth r).nodeIds,
      id ∈ (history depth empty requests).nodeIds ∨
        id ∈ (history depth empty requests).given r) ∧
    ∀ unset limit resolving id,
      resolveOr unset depth limit resolving id = resolve depth limit resolving id := by
  have hg := history_wellFormed empty_wellFormed depth requests
  have hgives := history_gives empty_wellFormed depth requests
  refine ⟨hg.consistent depth, ?_, fun r => (after_gives hg depth r).nodeIds, ?_⟩
  · have hzero : empty.nextId = 0 := rfl
    have hnext := hgives.next
    rw [hzero] at hnext
    rw [hgives.nextId, hzero, Nat.zero_add, List.range_eq_range']
    exact hnext
  · exact fun unset limit resolving id => resolveOr_eq unset depth limit resolving id

/-- Edges that are granted and refused, a node that goes, and a graph that takes the place
of the rest. -/
def sampleRequests : List Request :=
  [.addNode "1", .addNode "a", .edit (.addEdge 0 1), .edit (.addEdge 0 9), .deleteNode 0,
    .loadData ⟨[⟨none, "2", .zero⟩, ⟨none, "a", .zero⟩], [⟨0, 1⟩]⟩,
    .recomputeDownstream 2]

theorem sampleRequests_are_consistent :
    (history 20 empty sampleRequests).nodeIds = [2, 3] ∧
    (history 20 empty sampleRequests).Consistent 20 ∧
    givenBy 20 empty sampleRequests = [0, 1, 2, 3] := by
  obtain ⟨hgraph, hgiven, -, -⟩ := histories_are_consistent 20 sampleRequests
  refine ⟨by decide +kernel, hgraph, ?_⟩
  rw [hgiven]
  decide +kernel

end Graph

end Patchbay
