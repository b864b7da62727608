-- Loading is exact, and all or nothing. Done step by step, a load checks all edges and
-- then deletes and adds one thing after the other; once the edges are checked no step
-- can fail. What it leaves gives back the data that were loaded.
import Patchbay.Graph.InPlace
import Patchbay.Proofs.Histories

namespace Patchbay

open Patchbay.Language

/-- An edge between two of `count` places. -/
def EdgeData.Fits (count : Nat) (e : EdgeData) : Prop := e.a < count ∧ e.b < count

instance (count : Nat) (e : EdgeData) : Decidable (e.Fits count) :=
  inferInstanceAs (Decidable (_ ∧ _))

/-- The node as the data describe it, before it has run. -/
def NodeData.node (d : NodeData) (id : NodeId) (scope : ScopeId) : Node :=
  ⟨id, d.title, d.box, d.source, scope, none, none⟩

namespace Graph

variable {g g' : Graph} {data : GraphData}

/-! ## Loading step by step -/

theorem attempt_of_ok {f : Graph → Except GraphError Graph} (h : f g = .ok g') :
    attempt f g = .done () g' := by
  unfold attempt
  rw [h]

theorem attempt_of_error {f : Graph → Except GraphError Graph} {e : GraphError}
    (h : f g = .error e) : attempt f g = .failed e g := by
  unfold attempt
  rw [h]

/-! ## No step fails -/

/-- A graph without nodes has no edges either. -/
theorem WellFormed.eq_bare (hg : g.WellFormed) (h : g.nodeIds = []) : g.bare = g := by
  have hnodes : g.nodes = [] := List.map_eq_nil_iff.mp h
  have hedges : g.edges = [] := by
    rw [List.eq_nil_iff_forall_not_mem]
    intro e he
    have hp := (hg.edges_join e he).1
    rw [h] at hp
    cases hp
  unfold Graph.bare
  rw [← hnodes, ← hedges]

theorem deleteNode_head {id : NodeId} {rest : List NodeId} (hg : g.WellFormed)
    (hids : g.nodeIds = id :: rest) :
    ∃ node g', g.deleteNode id = .ok (node, g') ∧ g'.nodeIds = rest ∧ g'.bare = g.bare := by
  have hmem : id ∈ g.nodeIds := by simp [hids]
  obtain ⟨node, hn⟩ := exists_node_of_mem hmem
  have hnodup := hg.ids_nodup
  rw [hids, List.nodup_cons] at hnodup
  unfold deleteNode
  rw [hn]
  refine ⟨node, _, rfl, ?_, rfl⟩
  have hrest : rest.filter (· ≠ id) = rest := by
    rw [List.filter_eq_self]
    intro i hi
    exact decide_eq_true fun h => hnodup.1 (h ▸ hi)
  change (g.nodes.filter fun node => node.id ≠ id).map Node.id = rest
  have hfilter : (g.nodes.filter fun node => node.id ≠ id).map Node.id =
      g.nodeIds.filter (· ≠ id) := by
    rw [nodeIds, List.filter_map]
    rfl
  rw [hfilter, hids, List.filter_cons_of_neg (by simp), hrest]

theorem delete_all_done {ids : List NodeId} (hg : g.WellFormed) (hids : g.nodeIds = ids) :
    Action.forEach (fun id => attempt fun g => (g.deleteNode id).map Prod.snd) ids g =
      .done () g.bare := by
  induction ids generalizing g with
  | nil => rw [hg.eq_bare hids]; rfl
  | cons id rest ih =>
    obtain ⟨node, g', hdel, hrest, hbare⟩ := deleteNode_head hg hids
    have hstep : attempt (fun g => (g.deleteNode id).map Prod.snd) g = .done () g' := by
      apply attempt_of_ok
      rw [hdel]
      rfl
    rw [← hbare, ← ih (hg.deleteNode hdel) hrest]
    exact Action.bind_of_done hstep

theorem updateNode_of_mem {id : NodeId} (f : Node → Node) (h : id ∈ g.nodeIds) :
    g.updateNode id f = .ok (g.modifyNode id f) := by
  obtain ⟨node, hn⟩ := exists_node_of_mem h
  unfold updateNode
  simp [hn]

/-- Where the node is there, a change of one node is granted. -/
theorem attempt_updateNode {id : NodeId} {f : Node → Node} (h : id ∈ g.nodeIds) :
    attempt (fun g => g.updateNode id f) g = .done () (g.modifyNode id f) :=
  attempt_of_ok (updateNode_of_mem f h)

theorem mem_nodeIds_modifyNode {m : NodeId} (id : NodeId) {f : Node → Node}
    (hf : ∀ n, (f n).id = n.id) (h : m ∈ g.nodeIds) : m ∈ (g.modifyNode id f).nodeIds := by
  have hids : (g.modifyNode id f).nodeIds = g.nodeIds := map_nodes_modifyNode hf
  rwa [hids]

theorem addInSteps_done (d : NodeData) (g : Graph) :
    addInSteps d g = .done (g.addNodeData d).1 (g.addNodeData d).2 := by
  have hnew : (g.addNode d.source).1 ∈ (g.addNode d.source).2.nodeIds := by
    rw [nodeIds_addNode]
    exact List.mem_append_right _ (List.mem_singleton.mpr rfl)
  have hmerge : ∀ (h : Graph) (id : NodeId), ((h.modifyNode id fun node =>
      { node with title := d.title }).modifyNode id fun node =>
      { node with box := { node.box with x := d.box.x, y := d.box.y } }).modifyNode id (fun node =>
      { node with box := { node.box with width := d.box.width, height := d.box.height } }) =
      h.modifyNode id fun node => { node with title := d.title, box := d.box } := by
    intro h id
    rw [modifyNode_modifyNode, modifyNode_modifyNode]
    · intro n; rfl
    · intro n; rfl
  have htitled := mem_nodeIds_modifyNode (g.addNode d.source).1
    (f := fun node => { node with title := d.title }) (fun _ => rfl) hnew
  have hplaced := mem_nodeIds_modifyNode (g.addNode d.source).1
    (f := fun node => { node with box := { node.box with x := d.box.x, y := d.box.y } })
    (fun _ => rfl) htitled
  refine (Action.bind_of_done rfl).trans ?_
  refine (Action.bind_of_done (attempt_updateNode hnew)).trans ?_
  refine (Action.bind_of_done (attempt_updateNode htitled)).trans ?_
  refine (Action.bind_of_done (attempt_updateNode hplaced)).trans ?_
  exact congrArg (Outcome.done _) (hmerge _ _)

theorem addInSteps_all_done (nodes : List NodeData) (g : Graph) :
    Action.mapList addInSteps nodes g = .done (g.addNodes nodes).1 (g.addNodes nodes).2 := by
  induction nodes generalizing g with
  | nil => rfl
  | cons d rest ih =>
    exact Action.mapList_cons_of_done (addInSteps_done d g) (ih (g.addNodeData d).2)

theorem edgeOf?_of_fits {ids : List NodeId} {d : EdgeData} (h : d.Fits ids.length) :
    ∃ e, edgeOf? ids d = some e ∧ ids[d.a]? = some e.producer ∧ ids[d.b]? = some e.consumer := by
  obtain ⟨ha, hb⟩ := h
  refine ⟨⟨ids[d.a], ids[d.b]⟩, ?_, List.getElem?_eq_getElem ha, List.getElem?_eq_getElem hb⟩
  simp [edgeOf?, List.getElem?_eq_getElem ha, List.getElem?_eq_getElem hb]

theorem addEdge_of_mem {e : Edge} (hp : e.producer ∈ g.nodeIds) (hc : e.consumer ∈ g.nodeIds) :
    g.addEdge e.producer e.consumer = .ok { g with edges := g.edges ++ [e] } := by
  obtain ⟨p, hp⟩ := exists_node_of_mem hp
  obtain ⟨c, hc⟩ := exists_node_of_mem hc
  unfold addEdge
  simp [hp, hc]

theorem joinInSteps_all_done {ids : List NodeId} {edges : List EdgeData}
    (hids : ∀ id ∈ ids, id ∈ g.nodeIds) (hfits : ∀ d ∈ edges, d.Fits ids.length) :
    Action.forEach (joinInSteps ids) edges g =
      .done () { g with edges := g.edges ++ edges.filterMap (edgeOf? ids) } := by
  induction edges generalizing g with
  | nil => simp [Action.forEach, pure]
  | cons d rest ih =>
    obtain ⟨e, he, ha, hb⟩ := edgeOf?_of_fits (hfits d List.mem_cons_self)
    obtain ⟨hp, hc⟩ := mem_of_edgeOf? he
    have hstep : joinInSteps ids d g = .done () { g with edges := g.edges ++ [e] } := by
      refine (Action.bind_of_done (Action.demand_of_some ha g)).trans ?_
      refine (Action.bind_of_done (Action.demand_of_some hb g)).trans ?_
      exact attempt_of_ok (addEdge_of_mem (hids _ hp) (hids _ hc))
    refine (Action.bind_of_done hstep).trans ?_
    refine (ih (g := { g with edges := g.edges ++ [e] }) hids
      fun d hd => hfits d (List.mem_cons_of_mem _ hd)).trans ?_
    simp [he]

theorem length_addNodes (g : Graph) (nodes : List NodeData) :
    (g.addNodes nodes).1.length = nodes.length := by
  induction nodes generalizing g with
  | nil => rfl
  | cons d rest ih => simp [addNodes, ih]

/-! ## The nodes that are added -/

/-- Nodes are added without a change of anything else: no edge comes or goes, and each name
keeps its value in each scope. -/
structure Keeps (g g' : Graph) : Prop where
  root : g'.root = g.root
  edges : g'.edges = g.edges
  bindings : ∀ s, g'.store.bindings s = g.store.bindings s

theorem addNodes_keeps (g : Graph) (nodes : List NodeData) : Keeps g (g.addNodes nodes).2 := by
  induction nodes generalizing g with
  | nil => exact ⟨rfl, rfl, fun _ => rfl⟩
  | cons d rest ih =>
    have hrest := ih (g.addNodeData d).2
    refine ⟨hrest.root, hrest.edges, fun s => (hrest.bindings s).trans ?_⟩
    exact Store.bindings_child g.store g.root s

theorem nodes_addNodeData (hg : g.WellFormed) (d : NodeData) :
    (g.addNodeData d).2.nodes = g.nodes ++ [d.node g.nextId g.store.size] := by
  have hold : ∀ n ∈ g.nodes, n.id ≠ g.nextId := by
    intro n hn
    exact Nat.ne_of_lt (hg.ids_lt n.id (List.mem_map_of_mem hn))
  unfold addNodeData modifyNode addNode
  simp only [List.map_append, List.map_cons, List.map_nil, if_true, Store.child_fst]
  congr 1
  rw [List.map_congr_left fun n hn => if_neg (hold n hn), List.map_id']

/-- The nodes follow each other in the data, in their numbers and in their scopes. -/
theorem nodes_addNodes (hg : g.WellFormed) (nodes : List NodeData) :
    (g.addNodes nodes).2.nodes =
      g.nodes ++ nodes.mapIdx fun i d => d.node (g.nextId + i) (g.store.size + i) := by
  induction nodes generalizing g with
  | nil => simp [addNodes]
  | cons d rest ih =>
    have hone : (g.addNodeData d).2.WellFormed :=
      (hg.addNode d.source).modifyNode (fun _ => rfl) fun _ => rfl
    have hnext : (g.addNodeData d).2.nextId = g.nextId + 1 := rfl
    have hsize : (g.addNodeData d).2.store.size = g.store.size + 1 := Store.size_child _ _
    have hrest := ih hone
    rw [nodes_addNodeData hg, hnext, hsize] at hrest
    refine hrest.trans ?_
    simp [List.mapIdx_cons, Nat.add_assoc, Nat.add_comm 1]

/-! ## All or nothing -/

/-- The edges are checked for the first that does not fit. -/
theorem find?_not_fits (data : GraphData) :
    (data.edges.find? fun e => data.nodes.length ≤ e.a || data.nodes.length ≤ e.b) =
      data.edges.find? fun e => ¬e.Fits data.nodes.length := by
  congr 1
  funext e
  simp only [EdgeData.Fits, not_and_or, Nat.not_lt, Bool.decide_or]

/-- What a load makes of the graph once the edges are checked. -/
def loaded (g : Graph) (data : GraphData) : Graph :=
  { (g.bare.addNodes data.nodes).2 with
    edges := data.edges.filterMap (edgeOf? (g.bare.addNodes data.nodes).1) }

theorem loadData_of_fits (g : Graph) (h : ∀ e ∈ data.edges, e.Fits data.nodes.length) :
    g.loadData data = .ok (g.loaded data) := by
  have hnone : (data.edges.find? fun e => ¬e.Fits data.nodes.length) = none := by
    rw [List.find?_eq_none]
    intro e he hne
    exact of_decide_eq_true hne (h e he)
  unfold Graph.loadData
  dsimp only
  rw [find?_not_fits, hnone]
  rfl

theorem loadData_of_not_fits (g : Graph) {before after : List EdgeData} {e : EdgeData}
    (hedges : data.edges = before ++ e :: after)
    (hbefore : ∀ d ∈ before, d.Fits data.nodes.length) (he : ¬e.Fits data.nodes.length) :
    g.loadData data = .error (.invalidEdge e.a e.b data.nodes.length) := by
  have hfind : (data.edges.find? fun e => ¬e.Fits data.nodes.length) = some e := by
    rw [List.find?_eq_some_iff_append]
    refine ⟨decide_eq_true he, before, after, hedges, ?_⟩
    intro d hd
    simp [hbefore d hd]
  unfold Graph.loadData
  dsimp only
  rw [find?_not_fits, hfind]

/-- The step by step load and the load at once are the same, so that a load which fails has
changed nothing. -/
theorem loadInSteps_eq (hg : g.WellFormed) (data : GraphData) :
    loadInSteps data g = attempt (fun g => g.loadData data) g := by
  rcases hfind : data.edges.find? fun e => ¬e.Fits data.nodes.length with _ | e
  · have hfits : ∀ e ∈ data.edges, e.Fits data.nodes.length := by
      intro e he
      have hnot := List.find?_eq_none.mp hfind e he
      simpa using hnot
    have hids : ∀ id ∈ (g.bare.addNodes data.nodes).1,
        id ∈ (g.bare.addNodes data.nodes).2.nodeIds := by
      rw [nodeIds_addNodes]
      exact fun id hid => List.mem_append_right _ hid
    have hplaces : ∀ d ∈ data.edges, d.Fits (g.bare.addNodes data.nodes).1.length := by
      rwa [length_addNodes]
    have hjoin := joinInSteps_all_done hids hplaces
    unfold loadInSteps
    rw [find?_not_fits, hfind, attempt_of_ok (loadData_of_fits g hfits)]
    refine (Action.bind_of_done rfl).trans ?_
    refine (Action.bind_of_done (delete_all_done hg rfl)).trans ?_
    refine (Action.bind_of_done (addInSteps_all_done data.nodes g.bare)).trans ?_
    rw [hjoin, (addNodes_keeps g.bare data.nodes).edges]
    rfl
  · obtain ⟨hnot, before, after, hedges, hbefore⟩ := List.find?_eq_some_iff_append.mp hfind
    have hload := loadData_of_not_fits g hedges (fun d hd => by simpa using hbefore d hd)
      (of_decide_eq_true hnot)
    unfold loadInSteps
    rw [find?_not_fits, hfind, attempt_of_error hload]
    rfl

/-! ## Exactness -/

/-- What a load leaves of `g`, where `used` are the numbers that were ever given: the data,
in nodes that are new in each way and have not run, and the root scope as it was. -/
structure Holds (g : Graph) (used : List NodeId) (data : GraphData) (g' : Graph) : Prop where
  toData : g'.toData = data
  new : ∀ node ∈ g'.nodes, node.id ∉ used ∧ g.store.size ≤ node.scope
  unset : ∀ node ∈ g'.nodes, node.output = none ∧ node.compiled = none
  scope : ∀ node ∈ g'.nodes, g'.store.bindings node.scope = [] ∧
    g'.store.outward node.scope = [g.root]
  root : g'.root = g.root
  bindings : ∀ s, g'.store.bindings s = g.store.bindings s

/-- The edges of a loaded graph lead back to their places. -/
theorem filterMap_places {ids : List NodeId} {edges : List EdgeData} (hg : g.WellFormed)
    (hids : g.nodeIds = ids) (hfits : ∀ d ∈ edges, d.Fits ids.length) :
    ((edges.filterMap (edgeOf? ids)).filterMap fun e => do
      let a ← g.indexOf? e.producer
      let b ← g.indexOf? e.consumer
      pure (⟨a, b⟩ : EdgeData)) = edges := by
  have hplace : ∀ {i : Nat} {id : NodeId}, ids[i]? = some id → g.indexOf? id = some i := by
    intro i id hid
    rw [← hids, nodeIds, List.getElem?_map] at hid
    exact (nodeAt?_eq_some_iff hg i).mp hid
  rw [List.filterMap_filterMap]
  have hback : ∀ d ∈ edges, ((edgeOf? ids d).bind fun e => do
      let a ← g.indexOf? e.producer
      let b ← g.indexOf? e.consumer
      pure (⟨a, b⟩ : EdgeData)) = some d := by
    intro d hd
    obtain ⟨e, he, hp, hc⟩ := edgeOf?_of_fits (hfits d hd)
    simp [he, hplace hp, hplace hc]
  rw [List.filterMap_congr hback, List.filterMap_some]

theorem nodes_loaded (hg : g.WellFormed) (data : GraphData) : (g.loaded data).nodes =
    data.nodes.mapIdx fun i d => d.node (g.nextId + i) (g.store.size + i) :=
  nodes_addNodes hg.bare data.nodes

theorem toData_loaded (hg : g.WellFormed) (h : ∀ e ∈ data.edges, e.Fits data.nodes.length) :
    (g.loaded data).toData = data := by
  have hids : (g.loaded data).nodeIds = (g.bare.addNodes data.nodes).1 :=
    nodeIds_addNodes g.bare data.nodes
  have hfits : ∀ e ∈ data.edges, e.Fits (g.bare.addNodes data.nodes).1.length := by
    rw [length_addNodes]
    exact h
  have hnodes : (g.loaded data).nodes.map
      (fun node => (⟨node.title, node.source, node.box⟩ : NodeData)) = data.nodes := by
    rw [nodes_loaded hg]
    apply List.ext_getElem?
    intro i
    simp [NodeData.node, Function.comp_def]
  have hedges := filterMap_places (hg.loadData (loadData_of_fits g h)) hids hfits
  exact congrArg₂ GraphData.mk hnodes hedges

theorem loaded_holds {used : List NodeId} (hg : g.WellFormed)
    (hused : ∀ id ∈ used, id < g.nextId) (h : ∀ e ∈ data.edges, e.Fits data.nodes.length) :
    g.Holds used data (g.loaded data) := by
  have hkeeps := addNodes_keeps g.bare data.nodes
  have hfresh : ∀ node ∈ (g.loaded data).nodes,
      ∃ (i : Nat) (d : NodeData), node = d.node (g.nextId + i) (g.store.size + i) := by
    intro node hmem
    rw [nodes_loaded hg] at hmem
    obtain ⟨i, hi, rfl⟩ := List.mem_mapIdx.mp hmem
    exact ⟨i, _, rfl⟩
  refine ⟨toData_loaded hg h, ?_, ?_, ?_, hkeeps.root, hkeeps.bindings⟩
  · intro node hmem
    obtain ⟨i, d, rfl⟩ := hfresh node hmem
    refine ⟨fun hin => ?_, Nat.le_add_right _ _⟩
    exact Nat.not_lt.mpr (Nat.le_add_right _ i) (hused _ hin)
  · intro node hmem
    obtain ⟨i, d, rfl⟩ := hfresh node hmem
    exact ⟨rfl, rfl⟩
  · intro node hmem
    have hroot := (hg.loadData (loadData_of_fits g h)).outward _ (List.mem_map_of_mem hmem)
    obtain ⟨i, d, rfl⟩ := hfresh node hmem
    refine ⟨(hkeeps.bindings _).trans ?_, hroot.trans (congrArg (fun s => [s]) hkeeps.root)⟩
    exact Store.bindings_of_size_le (Nat.le_add_right _ i)

/-- The numbers that were given to nodes are below the next one. -/
theorem lt_of_mem_givenBy (hg : g.WellFormed) (depth : Nat) (requests : List Request) :
    ∀ id ∈ givenBy depth g requests, id < (history depth g requests).nextId := by
  have hgives := history_gives hg depth requests
  intro id hid
  rw [hgives.next] at hid
  rw [hgives.nextId]
  have hlt := (List.mem_range'_1.mp hid).2
  exact hlt

/-! ## All histories -/

/-- After any requests, a load of data whose edges fit succeeds, and the graph holds just
these data, in nodes with numbers that were never given. An edge that does not fit, the
first one in order, is named with the number of nodes, and a text that cannot be read is
refused; then nothing has changed, whether the load is taken at once or step by step. -/
theorem loading_is_all_or_nothing (depth : Nat) (requests : List Request) (g : Graph)
    (hg : g = history depth empty requests) (data : GraphData) (text : String) :
    ((∀ e ∈ data.edges, e.Fits data.nodes.length) → ∃ g',
      loadInSteps data g = .done () g' ∧ g.loadData data = .ok g' ∧
      g.Holds (givenBy depth empty requests) data g') ∧
    (∀ before e after, data.edges = before ++ e :: after →
      (∀ d ∈ before, d.Fits data.nodes.length) → ¬e.Fits data.nodes.length →
      loadInSteps data g = .failed (.invalidEdge e.a e.b data.nodes.length) g ∧
      g.loadData data = .error (.invalidEdge e.a e.b data.nodes.length)) ∧
    (∀ e, GraphData.read text = .error e →
      loadTextInSteps text g = .failed e g ∧ g.load text = .error e) := by
  have hwf : g.WellFormed := hg ▸ history_wellFormed empty_wellFormed depth requests
  have hused := lt_of_mem_givenBy empty_wellFormed depth requests
  refine ⟨?_, ?_, ?_⟩
  · intro hfits
    have hload := loadData_of_fits g hfits
    refine ⟨g.loaded data, (loadInSteps_eq hwf data).trans (attempt_of_ok hload), hload, ?_⟩
    exact loaded_holds hwf (hg ▸ hused) hfits
  · intro before e after hedges hbefore he
    have hload := loadData_of_not_fits g hedges hbefore he
    exact ⟨(loadInSteps_eq hwf data).trans (attempt_of_error hload), hload⟩
  · intro e he
    unfold loadTextInSteps load
    rw [he]
    exact ⟨rfl, rfl⟩

/-- Data with an edge that comes twice, and a box with two doubles that are no numbers, which
differ in their bits. -/
def sampleData : GraphData where
  nodes := [⟨some "in", "1", ⟨.ofFloat (-0.0), .ofFloat (1.0 / 0.0), ⟨0x7FF8000000000001⟩,
      ⟨0xFFF0000000000002⟩⟩⟩,
    ⟨none, "a b", .zero⟩]
  edges := [⟨0, 1⟩, ⟨0, 1⟩, ⟨1, 1⟩]

/-- The same data with an edge past the nodes, and one more. -/
def sampleDataPast : GraphData := { sampleData with edges := [⟨0, 1⟩, ⟨1, 2⟩, ⟨5, 0⟩] }

theorem sampleData_are_loaded_or_not :
    (∃ g', loadInSteps sampleData (history 20 empty sampleRequests) = .done () g' ∧
      g'.toData = sampleData) ∧
    loadInSteps sampleDataPast (history 20 empty sampleRequests) =
      .failed (.invalidEdge 1 2 2) (history 20 empty sampleRequests) ∧
    loadTextInSteps "[" (history 20 empty sampleRequests) =
      .failed (.unreadable "[" .ended) (history 20 empty sampleRequests) := by
  obtain ⟨hloads, -, hreads⟩ := loading_is_all_or_nothing 20 sampleRequests _ rfl sampleData "["
  obtain ⟨-, hrefuses, -⟩ := loading_is_all_or_nothing 20 sampleRequests _ rfl sampleDataPast "["
  obtain ⟨g', hsteps, -, hholds⟩ := hloads (by decide)
  refine ⟨⟨g', hsteps, hholds.toData⟩, ?_, ?_⟩
  · exact (hrefuses [⟨0, 1⟩] ⟨1, 2⟩ [⟨5, 0⟩] rfl (by decide) (by decide)).1
  · exact (hreads (.unreadable "[" .ended) (by decide +kernel)).1

end Graph

end Patchbay
