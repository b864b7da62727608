-- The graphs that come about. From the empty graph every request, granted or
-- refused, leads from well-formed graphs to well-formed graphs.
import Patchbay.Graph.File
import Patchbay.Proofs.Edits
import Patchbay.Proofs.FullRecompute

namespace Patchbay

open Patchbay.Language

namespace Graph

variable {depth : Nat} {g g' : Graph} {id : NodeId}

/-! ## Requests -/

/-- What can be asked of a graph. -/
inductive Request
  | addNode (source : String)
  | deleteNode (id : NodeId)
  | edit (e : Edit)
  | setTitle (id : NodeId) (title : Option String)
  | setPosition (id : NodeId) (x y : Coordinate)
  | setSize (id : NodeId) (width height : Coordinate)
  | clearOutput (id : NodeId)
  | clearOutputs
  | loadData (data : GraphData)
  | load (text : String)
  | recomputeWithInputs (id : NodeId)
  | recomputeDownstream (id : NodeId)
  | recomputeAll
  /-- Evaluates a text in a scope. -/
  | evaluate (s : ScopeId) (source : String)

/-- The graph after a request. A refused change leaves it as it was; a computation that
fails leaves what it computed before. -/
def after (depth : Nat) (g : Graph) : Request → Graph
  | .addNode source => (g.addNode source).2
  | .deleteNode id => ((g.deleteNode id).map Prod.snd).toOption.getD g
  | .edit e => g.edit e
  | .setTitle id title => (g.setTitle id title).toOption.getD g
  | .setPosition id x y => (g.setPosition id x y).toOption.getD g
  | .setSize id width height => (g.setSize id width height).toOption.getD g
  | .clearOutput id => (g.clearOutput id).toOption.getD g
  | .clearOutputs => g.clearOutputs
  | .loadData data => (g.loadData data).toOption.getD g
  | .load text => (g.load text).toOption.getD g
  | .recomputeWithInputs id => (recomputeWithInputs depth id g).state?.getD g
  | .recomputeDownstream id => (recomputeDownstream depth id g).state?.getD g
  | .recomputeAll => (recomputeAll depth g).state?.getD g
  | .evaluate s source => (evaluateIn depth s source g).state?.getD g

/-- What requests make of the empty graph. -/
inductive Reachable (depth : Nat) : Graph → Prop
  | empty : Reachable depth .empty
  | after {g : Graph} (h : Reachable depth g) (r : Request) : Reachable depth (g.after depth r)

/-! ## Nodes that come and go -/

theorem empty_wellFormed : empty.WellFormed := by decide +kernel

theorem nodeIds_addNode (g : Graph) (source : String) :
    (g.addNode source).2.nodeIds = g.nodeIds ++ [g.nextId] := by
  simp [nodeIds, addNode]

theorem scopes_addNode (g : Graph) (source : String) :
    (g.addNode source).2.scopes = g.scopes ++ [g.store.size] := by
  simp [scopes, addNode]

/-- A new node has a number and a scope that no node had. -/
theorem WellFormed.addNode (hg : g.WellFormed) (source : String) :
    (g.addNode source).2.WellFormed := by
  have hids := nodeIds_addNode g source
  have hscopes := scopes_addNode g source
  have hstore : (g.addNode source).2.store = (g.store.child g.root).2 := rfl
  have hroot : (g.addNode source).2.root = g.root := rfl
  have hwithin := Store.Within.child g.store g.root
  have hold : ∀ s ∈ g.root :: g.scopes, s < g.store.size := hg.scopes_lt
  have hnew : g.store.size ∉ g.root :: g.scopes := fun hmem => Nat.lt_irrefl _ (hold _ hmem)
  refine ⟨?_, ?_, ?_, ?_, ?_, ?_, ?_⟩
  · rw [hids, List.pairwise_append]
    refine ⟨hg.ids_ascend, List.pairwise_singleton _ _, ?_⟩
    intro i hi j hj
    rw [List.mem_singleton.mp hj]
    exact hg.ids_lt i hi
  · rw [hids]
    intro i hi
    have hnext : (g.addNode source).2.nextId = g.nextId + 1 := rfl
    rw [hnext]
    rcases List.mem_append.mp hi with hi | hi
    · exact Nat.lt_succ_of_lt (hg.ids_lt i hi)
    · rw [List.mem_singleton.mp hi]
      exact Nat.lt_succ_self _
  · rw [hroot, hscopes, ← List.cons_append, List.nodup_append]
    refine ⟨hg.scopes_nodup, List.nodup_singleton _, ?_⟩
    intro s hs t ht
    rw [List.mem_singleton.mp ht]
    rintro rfl
    exact hnew hs
  · rw [hroot, hscopes, hstore, Store.size_child]
    intro s hs
    rw [← List.cons_append] at hs
    rcases List.mem_append.mp hs with hs | hs
    · exact Nat.lt_succ_of_lt (hold s hs)
    · rw [List.mem_singleton.mp hs]
      exact Nat.lt_succ_self _
  · rw [hroot, hstore, hwithin.outward _ hg.root_lt]
    exact hg.root_outward
  · rw [hroot, hscopes, hstore]
    intro s hs
    rcases List.mem_append.mp hs with hs | hs
    · rw [hwithin.outward s (hold s (List.mem_cons_of_mem _ hs))]
      exact hg.outward s hs
    · rw [List.mem_singleton.mp hs, Store.outward, Store.getElem?_child_self]
      simp [hg.root_outward]
  · rw [hids]
    intro e he
    obtain ⟨hp, hc⟩ := hg.edges_join e he
    exact ⟨List.mem_append_left _ hp, List.mem_append_left _ hc⟩

theorem WellFormed.addNodes (hg : g.WellFormed) (nodes : List NodeData) :
    (g.addNodes nodes).2.WellFormed := by
  induction nodes generalizing g with
  | nil => exact hg
  | cons data rest ih =>
    have hone : (g.addNodeData data).2.WellFormed :=
      (hg.addNode data.source).modifyNode (fun _ => rfl) fun _ => rfl
    exact ih hone

/-- The numbers of the new nodes follow those of the nodes that were there. -/
theorem nodeIds_addNodes (g : Graph) (nodes : List NodeData) :
    (g.addNodes nodes).2.nodeIds = g.nodeIds ++ (g.addNodes nodes).1 := by
  induction nodes generalizing g with
  | nil => simp [addNodes]
  | cons data rest ih =>
    have hids : (g.addNodeData data).2.nodeIds = (g.addNode data.source).2.nodeIds :=
      map_nodes_modifyNode fun _ => rfl
    have hone : (g.addNodeData data).2.nodeIds = g.nodeIds ++ [(g.addNodeData data).1] :=
      hids.trans (nodeIds_addNode g data.source)
    have hrest := ih (g.addNodeData data).2
    rw [hone, List.append_assoc] at hrest
    exact hrest

theorem WellFormed.deleteNode {node : Node} (hg : g.WellFormed)
    (h : g.deleteNode id = .ok (node, g')) : g'.WellFormed := by
  unfold Graph.deleteNode at h
  split at h
  · cases h
  · cases h
    have hids : (g.nodes.filter (·.id ≠ id)).map Node.id = g.nodeIds.filter (· ≠ id) := by
      rw [nodeIds, List.filter_map]
      rfl
    have hscopes : ((g.nodes.filter (·.id ≠ id)).map Node.scope).Sublist g.scopes :=
      List.filter_sublist.map Node.scope
    refine ⟨?_, ?_, ?_, ?_, hg.root_outward, ?_, ?_⟩
    · exact hg.ids_ascend.sublist (List.filter_sublist.map Node.id)
    · intro i hi
      exact hg.ids_lt i ((List.filter_sublist.map Node.id).subset hi)
    · exact hg.scopes_nodup.sublist (hscopes.cons_cons g.root)
    · intro s hs
      exact hg.scopes_lt s ((hscopes.cons_cons g.root).subset hs)
    · intro s hs
      exact hg.outward s (hscopes.subset hs)
    · intro e he
      obtain ⟨hmem, hne⟩ := List.mem_filter.mp he
      obtain ⟨hp, hc⟩ := hg.edges_join e hmem
      unfold nodeIds
      rw [hids, List.mem_filter, List.mem_filter]
      simp_all

/-- An edge between two places of a list joins two of its elements. -/
theorem mem_of_edgeOf? {ids : List NodeId} {d : EdgeData} {e : Edge} (h : edgeOf? ids d = some e) :
    e.producer ∈ ids ∧ e.consumer ∈ ids := by
  unfold edgeOf? at h
  simp only [Option.bind_eq_bind, Option.bind_eq_some_iff, Option.pure_def, Option.some.injEq] at h
  obtain ⟨p, hp, c, hc, rfl⟩ := h
  exact ⟨List.mem_of_getElem? hp, List.mem_of_getElem? hc⟩

/-- The graph with all nodes and all edges taken away. -/
def bare (g : Graph) : Graph := { g with nodes := [], edges := [] }

theorem WellFormed.bare (hg : g.WellFormed) : g.bare.WellFormed := by
  refine ⟨.nil, ?_, List.nodup_singleton _, ?_, hg.root_outward, ?_, ?_⟩
  · simp [Graph.bare, nodeIds]
  · intro s hs
    rw [List.mem_singleton.mp hs]
    exact hg.root_lt
  · simp [Graph.bare, scopes]
  · simp [Graph.bare]

/-- A loaded graph joins the nodes that were loaded. -/
theorem WellFormed.loadData {data : GraphData} (hg : g.WellFormed)
    (h : g.loadData data = .ok g') : g'.WellFormed := by
  unfold Graph.loadData at h
  dsimp only at h
  split at h
  · cases h
  · cases h
    have hids := nodeIds_addNodes { g with nodes := [], edges := [] } data.nodes
    refine { hg.bare.addNodes data.nodes with edges_join := ?_ }
    intro e he
    obtain ⟨d, -, hd⟩ := List.mem_filterMap.mp he
    obtain ⟨hp, hc⟩ := mem_of_edgeOf? hd
    have hsub := List.subset_append_right (nodeIds { g with nodes := [], edges := [] })
      (({ g with nodes := [], edges := [] } : Graph).addNodes data.nodes).1
    rw [← hids] at hsub
    exact ⟨hsub hp, hsub hc⟩

/-! ## Changes of single nodes -/

theorem WellFormed.updateNode {f : Node → Node} (hg : g.WellFormed)
    (h : g.updateNode id f = .ok g') (hid : ∀ n, (f n).id = n.id)
    (hscope : ∀ n, (f n).scope = n.scope) : g'.WellFormed := by
  unfold Graph.updateNode at h
  split at h
  · cases h
  · cases h
    exact hg.modifyNode hid hscope

/-! ## Computations -/

theorem WellFormed.recomputeWithInputs (hg : g.WellFormed)
    (h : (recomputeWithInputs depth id g).state? = some g') : g'.WellFormed :=
  (frame_recomputeWithInputs hg h).wellFormed hg

theorem WellFormed.recomputeDownstream (hg : g.WellFormed)
    (h : (recomputeDownstream depth id g).state? = some g') : g'.WellFormed :=
  (frame_recomputeDownstream hg h).wellFormed hg

theorem WellFormed.recomputeAll (hg : g.WellFormed)
    (h : (recomputeAll depth g).state? = some g') : g'.WellFormed :=
  (frame_recomputeAll hg h).wellFormed hg

theorem WellFormed.evaluateIn {s : ScopeId} {source : String} (hg : g.WellFormed)
    (h : (evaluateIn depth s source g).state? = some g') : g'.WellFormed := by
  have hwithin := evaluateIn_within depth s source g.store
  unfold Graph.evaluateIn at h
  split at h
  case h_1 v st heq =>
    cases h
    exact hg.withStore (hwithin st (by rw [heq]; rfl))
  case h_2 cause st heq =>
    cases h
    exact hg.withStore (hwithin st (by rw [heq]; rfl))
  case h_3 => cases h

/-! ## Requests keep graphs well-formed -/

/-- What a granted change leaves, or the graph itself. -/
theorem WellFormed.getD {o : Option Graph} (hg : g.WellFormed)
    (h : ∀ g', o = some g' → g'.WellFormed) : (o.getD g).WellFormed := by
  cases o with
  | none => exact hg
  | some g' => exact h g' rfl

theorem ok_of_toOption {ε α : Type} {x : Except ε α} {a : α} (h : x.toOption = some a) :
    x = .ok a := by
  cases x with
  | error => cases h
  | ok b =>
    cases h
    rfl

theorem WellFormed.after (hg : g.WellFormed) (depth : Nat) (r : Request) :
    (g.after depth r).WellFormed := by
  cases r with
  | addNode source => exact hg.addNode source
  | deleteNode id =>
    refine hg.getD fun g' h => ?_
    rcases hd : g.deleteNode id with e | ⟨node, g₁⟩
    · rw [hd] at h
      cases h
    · rw [hd] at h
      cases h
      exact hg.deleteNode hd
  | edit e =>
    have hedited : Edited [e.target] g (g.edit e) := edit_edited g e List.mem_cons_self
    exact hedited.wellFormed hg
  | setTitle id title =>
    exact hg.getD fun g' h => hg.updateNode (ok_of_toOption h) (fun _ => rfl) fun _ => rfl
  | setPosition id x y =>
    exact hg.getD fun g' h => hg.updateNode (ok_of_toOption h) (fun _ => rfl) fun _ => rfl
  | setSize id width height =>
    exact hg.getD fun g' h => hg.updateNode (ok_of_toOption h) (fun _ => rfl) fun _ => rfl
  | clearOutput id =>
    exact hg.getD fun g' h => hg.updateNode (ok_of_toOption h) (fun _ => rfl) fun _ => rfl
  | clearOutputs => exact hg.clearOutputs
  | loadData data => exact hg.getD fun g' h => hg.loadData (ok_of_toOption h)
  | load text =>
    refine hg.getD fun g' h => ?_
    have hload := ok_of_toOption h
    unfold load at hload
    rcases hr : GraphData.read text with e | data
    · rw [hr] at hload
      cases hload
    · rw [hr] at hload
      exact hg.loadData hload
  | recomputeWithInputs id => exact hg.getD fun g' h => hg.recomputeWithInputs h
  | recomputeDownstream id => exact hg.getD fun g' h => hg.recomputeDownstream h
  | recomputeAll => exact hg.getD fun g' h => hg.recomputeAll h
  | evaluate s source => exact hg.getD fun g' h => hg.evaluateIn h

/-- Every graph that comes about is well-formed. -/
theorem Reachable.wellFormed (h : Reachable depth g) : g.WellFormed := by
  induction h with
  | empty => exact empty_wellFormed
  | after _ r ih => exact ih.after depth r

end Graph

end Patchbay
