-- Graphs by places. A lineup knows its nodes by their places in a list, and its edges are pairs
-- of places. Each graph has its lineup, and an edit does to the lineup what it does to the graph,
-- though the nodes of the graph keep their numbers while their places change.
import Patchbay.Proofs.Operations
import Patchbay.Proofs.Renaming

namespace Patchbay

open Patchbay.Language

/-! ## Lineups -/

/-- A node without a number. -/
structure Slot where
  title : Option String
  box : Box
  source : String
  scope : ScopeId
  compiled : Option Expr
  output : Option Output

def Node.slot (node : Node) : Slot :=
  ⟨node.title, node.box, node.source, node.scope, node.compiled, node.output⟩

namespace Slot

def node (slot : Slot) (id : NodeId) : Node :=
  ⟨id, slot.title, slot.box, slot.source, slot.scope, slot.compiled, slot.output⟩

def data (slot : Slot) : NodeData := ⟨slot.title, slot.source, slot.box⟩

end Slot

/-- Nodes in a row, and pairs of their places, with the store that holds the scopes. -/
structure Lineup where
  store : Store
  root : ScopeId
  slots : List Slot
  pairs : List EdgeData

/-- The place of a node once place `k` is taken out. -/
def lowered (k i : Nat) : Nat := if k < i then i - 1 else i

namespace Lineup

def empty : Lineup :=
  let (root, store) := Store.empty.rootWithBuiltins
  ⟨store, root, [], []⟩

/-- Whether there is a node at the place. -/
def check (l : Lineup) (index : Nat) : Except GraphError Unit :=
  if index < l.slots.length then .ok () else .error (.indexOutOfRange index l.slots.length)

/-- Adds a node at the end, in a new scope. -/
def add (l : Lineup) (data : NodeData) : Lineup :=
  let (scope, store) := l.store.child l.root
  { l with store, slots := l.slots ++ [⟨data.title, data.box, data.source, scope, none, none⟩] }

def addPair (l : Lineup) (a b : Nat) : Except GraphError Lineup := do
  l.check a
  l.check b
  pure { l with pairs := l.pairs ++ [⟨a, b⟩] }

/-- Takes a node out, with each pair that it is in. The nodes after it move up. -/
def delete (l : Lineup) (k : Nat) : Except GraphError Lineup := do
  l.check k
  pure { l with
    slots := l.slots.eraseIdx k
    pairs := (l.pairs.filter fun p => p.a ≠ k && p.b ≠ k).map fun p =>
      ⟨lowered k p.a, lowered k p.b⟩ }

def setSource (l : Lineup) (index : Nat) (source : String) : Except GraphError Lineup := do
  l.check index
  pure { l with slots := l.slots.modify index fun slot => { slot with source } }

/-- Puts nodes and pairs in the place of all that was there, unless a pair does not fit. -/
def replaced (l : Lineup) (data : GraphData) : Except GraphError Lineup :=
  match data.edges.find? fun p => ¬p.Fits data.nodes.length with
  | some p => .error (.invalidEdge p.a p.b data.nodes.length)
  | none =>
    .ok { data.nodes.foldl add { l with slots := [], pairs := [] } with pairs := data.edges }

def load (l : Lineup) (text : String) : Except GraphError Lineup := do
  l.replaced (← GraphData.read text)

def save (l : Lineup) : String := (GraphData.toJson ⟨l.slots.map Slot.data, l.pairs⟩).compact

/-- The graph in which each node goes by its place. -/
def graph (l : Lineup) : Graph :=
  ⟨l.store, l.root, l.slots.mapIdx fun i slot => slot.node i,
    l.pairs.map fun p => ⟨p.a, p.b⟩, l.slots.length⟩

/-- The nodes and scopes that a recompute leaves, in the lineup that it started from. -/
def recomputed (l : Lineup) (g : Graph) : Lineup :=
  { l with store := g.store, slots := g.nodes.map Node.slot }

/-- How a recompute of `l'` ended, as it is reported. One that breaks off leaves `l`. -/
def report (l l' : Lineup) : Outcome GraphError Graph Unit → Status × Lineup
  | .done _ g => (.ok, l'.recomputed g)
  | .failed e g => (.failed e, l'.recomputed g)
  | .exhausted => (.tooDeep, l)

/-- An edit, as it is reported. -/
def editing (l : Lineup) (f : Lineup → Except GraphError Lineup) : Status × Lineup :=
  match f l with
  | .ok l' => (.ok, l')
  | .error e => (.failed e, l)

def loading (depth : Nat) (l : Lineup) (text : String) : Status × Lineup :=
  match l.load text with
  | .ok l' => l.report l' (Graph.recomputeAll depth l'.graph)
  | .error e => (.failed e, l)

def recomputing (depth : Nat) (l : Lineup) (index : Nat) : Status × Lineup :=
  match l.check index with
  | .ok _ => l.report l (Graph.recomputeDownstream depth index l.graph)
  | .error e => (.failed e, l)

def perform (w : Wording) (depth : Nat) (l : Lineup) : Operation → Answer × Lineup
  | .load bytes => (l.loading depth (Text.utf8Lossy bytes)).map Answer.status id
  | .save => (.text l.save, l)
  | .addNode source =>
    (.place (some l.slots.length), l.add ⟨none, Text.utf8Lossy source, .zero⟩)
  | .addEdge a b => (l.editing (·.addPair a b)).map Answer.status id
  | .deleteNode index => (l.editing (·.delete index)).map Answer.status id
  | .setSource index source =>
    (l.editing (·.setSource index (Text.utf8Lossy source))).map Answer.status id
  | .recompute index => (l.recomputing depth index).map Answer.status id
  | .output index => (.text (Output.toJson w ((l.slots[index]?).bind Slot.output)).compact, l)

end Lineup

/-! ## The lineup of a graph -/

namespace Graph

variable {g g' : Graph} {id : NodeId} {pairs : List EdgeData} {depth index k : Nat}

/-- What there is to see of a graph for one who knows no numbers. -/
def lineup (g : Graph) : Lineup := ⟨g.store, g.root, g.nodes.map Node.slot, g.toData.edges⟩

theorem indexOf?_eq (g : Graph) (id : NodeId) : g.indexOf? id = g.nodeIds.findIdx? (· = id) := by
  unfold indexOf? nodeIds
  rw [List.findIdx?_map]
  rfl

theorem indexOf?_congr (h : g'.nodeIds = g.nodeIds) (id : NodeId) :
    g'.indexOf? id = g.indexOf? id := by rw [indexOf?_eq, indexOf?_eq, h]

/-- The pairs of a graph are those that place its edges. -/
theorem edges_toData_eq (h : List.Forall₂ g.Places g.edges pairs) : g.toData.edges = pairs := by
  unfold toData
  dsimp only
  generalize g.edges = edges at h
  induction h with
  | nil => rfl
  | cons hp _ ih =>
    rw [List.filterMap_cons, hp.1, hp.2]
    exact congrArg _ ih

theorem edges_toData_congr (hg : g.WellFormed) (hids : g'.nodeIds = g.nodeIds)
    (he : g'.edges = g.edges) : g'.toData.edges = g.toData.edges := by
  refine edges_toData_eq ?_
  rw [he]
  refine (edges_toData hg).imp fun e p hp => ?_
  exact ⟨(indexOf?_congr hids _).trans hp.1, (indexOf?_congr hids _).trans hp.2⟩

/-- The place of a node. Numbers of no nodes are put past all places. -/
def place (g : Graph) (id : NodeId) : Nat := (g.indexOf? id).getD (g.nodes.length + id)

theorem place_of_indexOf? {i : Nat} (h : g.indexOf? id = some i) : g.place id = i := by
  rw [place, h]
  rfl

theorem lt_of_indexOf? {i : Nat} (h : g.indexOf? id = some i) : i < g.nodes.length :=
  (List.findIdx?_eq_some_iff_getElem.mp h).1

theorem place_injective (hg : g.WellFormed) : g.place.Injective := by
  intro a b h
  unfold place at h
  rcases ha : g.indexOf? a with _ | i <;> rcases hb : g.indexOf? b with _ | j
  · rw [ha, hb] at h
    exact Nat.add_left_cancel h
  · have hj := lt_of_indexOf? hb
    rw [ha, hb] at h
    simp only [Option.getD_none, Option.getD_some] at h
    omega
  · have hi := lt_of_indexOf? ha
    rw [ha, hb] at h
    simp only [Option.getD_none, Option.getD_some] at h
    omega
  · rw [ha, hb] at h
    obtain rfl : i = j := h
    have hat := (nodeAt?_eq_some_iff hg i).mpr ha
    rw [(nodeAt?_eq_some_iff hg i).mpr hb] at hat
    exact (Option.some.inj hat).symm

theorem place_getElem (hg : g.WellFormed) {i : Nat} (hi : i < g.nodes.length) :
    g.place g.nodes[i].id = i := by
  refine place_of_indexOf? ((nodeAt?_eq_some_iff hg i).mp ?_)
  unfold nodeAt?
  rw [List.getElem?_eq_getElem hi]
  rfl

/-- The lineup as a graph is the graph with each number made a place. -/
theorem graph_lineup (hg : g.WellFormed) :
    g.lineup.graph = g.renamed g.place g.nodes.length := by
  have hnodes : (g.nodes.map Node.slot).mapIdx (fun i slot => slot.node i) =
      g.nodes.map (Node.renamed g.place) := by
    refine List.ext_getElem (by simp) fun i hi _ => ?_
    have hlt : i < g.nodes.length := by simpa using hi
    simp only [List.getElem_mapIdx, List.getElem_map, Node.renamed, place_getElem hg hlt]
    rfl
  have hedges : g.toData.edges.map (fun p => (⟨p.a, p.b⟩ : Edge)) =
      g.edges.map (Edge.renamed g.place) := by
    have hplaces := edges_toData hg
    generalize g.toData.edges = pairs at hplaces
    generalize g.edges = edges at hplaces
    induction hplaces with
    | nil => rfl
    | cons hp _ ih =>
      rw [List.map_cons, List.map_cons, ih]
      refine congrArg (· :: _) ?_
      rw [Edge.renamed, place_of_indexOf? hp.1, place_of_indexOf? hp.2]
  unfold Lineup.graph lineup renamed
  simp only [hnodes, hedges, List.length_map]

/-! ## Edits -/

theorem check_lineup (g : Graph) (index : Nat) :
    g.lineup.check index = (g.nodeAt index).map fun _ => () := by
  unfold Lineup.check nodeAt nodeAt? lineup
  rw [List.length_map]
  split
  case isTrue h =>
    rw [List.getElem?_eq_getElem h]
    rfl
  case isFalse h =>
    rw [List.getElem?_eq_none (Nat.le_of_not_lt h)]
    rfl

theorem indexOf?_of_nodeAt (hg : g.WellFormed) (h : g.nodeAt index = .ok id) :
    g.indexOf? id = some index := by
  refine (nodeAt?_eq_some_iff hg index).mp ?_
  unfold nodeAt at h
  rcases hid : g.nodeAt? index with _ | id'
  · rw [hid] at h
    cases h
  · rw [hid] at h
    cases h
    rfl

theorem exists_node_of_nodeAt (h : g.nodeAt index = .ok id) : ∃ node, g.node? id = some node :=
  exists_node_of_mem (mem_of_nodeAt h)

/-- Nodes that come after it leave a node its place. -/
theorem indexOf?_append {i : Nat} {more : List Node} (hnodes : g'.nodes = g.nodes ++ more)
    (h : g.indexOf? id = some i) : g'.indexOf? id = some i := by
  unfold indexOf? at h ⊢
  rw [hnodes, List.findIdx?_append, h]
  rfl

/-- A new node goes to the end of the lineup. -/
theorem lineup_add {d : NodeData} (hg : g.WellFormed)
    (hnodes : g'.nodes = g.nodes ++ [d.node g.nextId g.store.size])
    (hstore : g'.store = (g.store.child g.root).2) (hroot : g'.root = g.root)
    (hedges : g'.edges = g.edges) : g'.lineup = g.lineup.add d := by
  have hpairs : g'.toData.edges = g.toData.edges := by
    refine edges_toData_eq ?_
    rw [hedges]
    exact (edges_toData hg).imp fun e p hp =>
      ⟨indexOf?_append hnodes hp.1, indexOf?_append hnodes hp.2⟩
  unfold lineup
  rw [hpairs, hnodes, hstore, hroot, List.map_append]
  rfl

theorem addNode_lineup (hg : g.WellFormed) (source : String) :
    (g.addNode source).2.lineup = g.lineup.add ⟨none, source, .zero⟩ :=
  lineup_add hg rfl rfl rfl rfl

theorem addNodes_lineup (hg : g.WellFormed) (nodes : List NodeData) :
    (g.addNodes nodes).2.lineup = nodes.foldl Lineup.add g.lineup := by
  induction nodes generalizing g with
  | nil => rfl
  | cons d rest ih =>
    have hone : (g.addNodeData d).2.WellFormed :=
      (hg.addNode d.source).modifyNode (fun _ => rfl) fun _ => rfl
    have hadd : (g.addNodeData d).2.lineup = g.lineup.add d :=
      lineup_add hg (nodes_addNodeData hg d) rfl rfl rfl
    rw [List.foldl_cons, ← hadd]
    exact ih hone

theorem loaded_lineup (hg : g.WellFormed) {data : GraphData}
    (hfits : ∀ e ∈ data.edges, e.Fits data.nodes.length) : (g.loaded data).lineup =
      { data.nodes.foldl Lineup.add { g.lineup with slots := [], pairs := [] } with
        pairs := data.edges } := by
  have hnodes : (g.bare.addNodes data.nodes).2.lineup =
      data.nodes.foldl Lineup.add { g.lineup with slots := [], pairs := [] } :=
    addNodes_lineup hg.bare data.nodes
  rw [← hnodes]
  unfold lineup
  rw [toData_loaded hg hfits]
  rfl

theorem loadData_lineup (hg : g.WellFormed) (data : GraphData) :
    g.lineup.replaced data = (g.loadData data).map lineup := by
  unfold Lineup.replaced
  rcases hfind : data.edges.find? fun p => ¬p.Fits data.nodes.length with _ | p
  · have hfits : ∀ e ∈ data.edges, e.Fits data.nodes.length := by
      intro e he
      simpa using List.find?_eq_none.mp hfind e he
    rw [loadData_of_fits g hfits]
    simp only [hfind, Except.map, loaded_lineup hg hfits]
  · obtain ⟨hnot, before, after, hedges, hbefore⟩ := List.find?_eq_some_iff_append.mp hfind
    rw [loadData_of_not_fits g hedges (fun d hd => by simpa using hbefore d hd)
      (of_decide_eq_true hnot)]
    simp only [hfind, Except.map]

theorem load_lineup (hg : g.WellFormed) (text : String) :
    g.lineup.load text = (g.load text).map lineup := by
  unfold Lineup.load load
  rcases GraphData.read text with e | data
  · rfl
  · exact loadData_lineup hg data

theorem addEdgeAt_lineup (hg : g.WellFormed) (a b : Nat) :
    g.lineup.addPair a b = (g.addEdgeAt a b).map lineup := by
  unfold Lineup.addPair addEdgeAt
  rw [check_lineup, check_lineup]
  rcases hp : g.nodeAt a with e | p
  · rfl
  · rcases hc : g.nodeAt b with e | c
    · rfl
    · obtain ⟨producer, hproducer⟩ := exists_node_of_nodeAt hp
      obtain ⟨consumer, hconsumer⟩ := exists_node_of_nodeAt hc
      have hadd : g.addEdge p c = .ok { g with edges := g.edges ++ [⟨p, c⟩] } := by
        simp [addEdge, hproducer, hconsumer]
      have hedges : ({ g with edges := g.edges ++ [⟨p, c⟩] } : Graph).toData.edges =
          g.toData.edges ++ [⟨a, b⟩] := by
        refine edges_toData_eq (List.rel_append (edges_toData hg) (.cons ?_ .nil))
        exact ⟨indexOf?_of_nodeAt hg hp, indexOf?_of_nodeAt hg hc⟩
      change Except.ok _ = (g.addEdge p c).map lineup
      rw [hadd]
      simp only [Except.map, lineup, hedges]

theorem getElem_id_eq_iff (hg : g.WellFormed) (h : g.indexOf? id = some k) {i : Nat}
    (hi : i < g.nodes.length) : g.nodes[i].id = id ↔ i = k := by
  rw [← (place_injective hg).eq_iff, place_getElem hg hi, place_of_indexOf? h]

theorem setSourceAt_lineup (hg : g.WellFormed) (source : String) :
    g.lineup.setSource index source = (g.setSourceAt index source).map lineup := by
  unfold Lineup.setSource setSourceAt
  rw [check_lineup]
  rcases hi : g.nodeAt index with e | id
  · rfl
  · obtain ⟨node, hnode⟩ := exists_node_of_nodeAt hi
    have hset : g.setSource id source =
        .ok (g.modifyNode id fun node => { node with source }) := by
      simp [setSource, updateNode, hnode]
    have hpairs : (g.modifyNode id fun node => { node with source }).toData.edges =
        g.toData.edges := edges_toData_congr hg (map_nodes_modifyNode fun _ => rfl) rfl
    have hslots : (g.modifyNode id fun node => { node with source }).nodes.map Node.slot =
        (g.nodes.map Node.slot).modify index fun slot => { slot with source } := by
      refine List.ext_getElem (by simp [modifyNode]) fun i hlt _ => ?_
      have hi' : i < g.nodes.length := by simpa [modifyNode] using hlt
      have hiff := getElem_id_eq_iff hg (indexOf?_of_nodeAt hg hi) hi'
      simp only [modifyNode, List.getElem_map, List.getElem_modify, hiff, eq_comm (a := i)]
      split <;> rfl
    change Except.ok _ = (g.setSource id source).map lineup
    rw [hset]
    simp only [Except.map, lineup, hpairs, hslots]
    rfl

/-- The node at a place is the one that goes. -/
theorem filter_id_ne (hg : g.WellFormed) (h : g.indexOf? id = some k) :
    g.nodes.filter (·.id ≠ id) = g.nodes.eraseIdx k := by
  have hk := lt_of_indexOf? h
  have hbefore : ∀ node ∈ g.nodes.take k, decide (node.id ≠ id) = true := by
    intro node hnode
    obtain ⟨i, hi, rfl⟩ := List.mem_take_iff_getElem.mp hnode
    have hiff := getElem_id_eq_iff hg h (i := i) (by omega)
    exact decide_eq_true fun heq => by have := hiff.mp heq; omega
  have hafter : ∀ node ∈ g.nodes.drop (k + 1), decide (node.id ≠ id) = true := by
    intro node hnode
    obtain ⟨i, hi, rfl⟩ := List.mem_drop_iff_getElem.mp hnode
    have hiff := getElem_id_eq_iff hg h (i := k + 1 + i) (by omega)
    exact decide_eq_true fun heq => by have := hiff.mp heq; omega
  have hself : g.nodes[k].id = id := (getElem_id_eq_iff hg h hk).mpr rfl
  calc g.nodes.filter (·.id ≠ id)
      = (g.nodes.take k ++ g.nodes[k] :: g.nodes.drop (k + 1)).filter (·.id ≠ id) := by
        rw [List.getElem_cons_drop, List.take_append_drop]
    _ = g.nodes.take k ++ g.nodes.drop (k + 1) := by
        rw [List.filter_append, List.filter_cons_of_neg (by simp [hself]),
          List.filter_eq_self.mpr hbefore, List.filter_eq_self.mpr hafter]
    _ = g.nodes.eraseIdx k := (List.eraseIdx_eq_take_drop_succ g.nodes k).symm

theorem getElem?_eraseIdx_lowered {α : Type} (xs : List α) {i : Nat} (h : i ≠ k) :
    (xs.eraseIdx k)[lowered k i]? = xs[i]? := by
  unfold lowered
  rw [List.getElem?_eraseIdx]
  split
  case isTrue hlt =>
    have hi : i - 1 + 1 = i := by omega
    rw [if_neg (by omega), hi]
  case isFalse hge => rw [if_pos (by omega)]

/-- The nodes after one that goes move up. -/
theorem indexOf?_lowered {i : Nat} {m : NodeId} (hg : g.WellFormed) (hg' : g'.WellFormed)
    (hnodes : g'.nodes = g.nodes.eraseIdx k) (h : g.indexOf? m = some i) (hne : i ≠ k) :
    g'.indexOf? m = some (lowered k i) := by
  refine (nodeAt?_eq_some_iff hg' _).mp ?_
  have hat := (nodeAt?_eq_some_iff hg i).mpr h
  unfold nodeAt? at hat ⊢
  rw [hnodes, getElem?_eraseIdx_lowered _ hne, hat]

/-- Of related elements those that are kept on both sides are related, once they are mapped. -/
theorem forall₂_filter_map {α β γ : Type} {R : α → β → Prop} {S : α → γ → Prop} {p : α → Bool}
    {q : β → Bool} {f : β → γ} {xs : List α} {ys : List β} (h : List.Forall₂ R xs ys)
    (hkeep : ∀ x y, R x y → p x = q y) (hrel : ∀ x y, R x y → q y = true → S x (f y)) :
    List.Forall₂ S (xs.filter p) ((ys.filter q).map f) := by
  induction h with
  | nil => exact .nil
  | @cons x y xs ys hxy _ ih =>
    rw [List.filter_cons, List.filter_cons, hkeep x y hxy]
    split
    case isTrue hq => exact .cons (hrel x y hxy hq) ih
    case isFalse => exact ih

theorem exists_deleteNodeAt (hi : g.nodeAt index = .ok id) : ∃ g', g.deleteNodeAt index = .ok g' ∧
    g'.nodes = g.nodes.filter (·.id ≠ id) ∧ g'.store = g.store ∧ g'.root = g.root ∧
    g'.edges = g.edges.filter fun e => e.producer ≠ id && e.consumer ≠ id := by
  obtain ⟨node, hnode⟩ := exists_node_of_nodeAt hi
  have hdelete : g.deleteNode id = .ok (node, { g with
      nodes := g.nodes.filter (·.id ≠ id)
      edges := g.edges.filter fun e => e.producer ≠ id && e.consumer ≠ id }) := by
    unfold deleteNode
    rw [hnode]
  have hmap := congrArg (Except.map Prod.snd) hdelete
  exact ⟨_, bind_eq_ok.mpr ⟨id, hi, hmap⟩, rfl, rfl, rfl, rfl⟩

theorem deleteNodeAt_lineup (hg : g.WellFormed) (index : Nat) :
    g.lineup.delete index = (g.deleteNodeAt index).map lineup := by
  unfold Lineup.delete
  rw [check_lineup]
  rcases hi : g.nodeAt index with e | id
  · unfold deleteNodeAt
    rw [hi]
    rfl
  · obtain ⟨g', hdelete, hnodes, hstore, hroot, hedges⟩ := exists_deleteNodeAt hi
    have hplace := indexOf?_of_nodeAt hg hi
    have hbecomes : Becomes 0 g g' := deleteNodeAt_becomes hdelete
    have hg' : g'.WellFormed := hg.becomes hbecomes
    rw [filter_id_ne hg hplace] at hnodes
    -- An end of an edge is the node that goes where its place is the place that goes.
    have hend : ∀ m i, g.indexOf? m = some i → (m ≠ id ↔ i ≠ index) := by
      intro m i hm
      rw [← (place_injective hg).ne_iff, place_of_indexOf? hm, place_of_indexOf? hplace]
    have hpairs : g'.toData.edges = (g.toData.edges.filter fun p => p.a ≠ index && p.b ≠ index).map
        fun p => ⟨lowered index p.a, lowered index p.b⟩ := by
      refine edges_toData_eq ?_
      rw [hedges]
      refine forall₂_filter_map (edges_toData hg) (fun e p hp => ?_) fun e p hp hkept => ?_
      · simp only [hend _ _ hp.1, hend _ _ hp.2]
      · simp only [Bool.and_eq_true, decide_eq_true_eq] at hkept
        exact ⟨indexOf?_lowered hg hg' hnodes hp.1 hkept.1,
          indexOf?_lowered hg hg' hnodes hp.2 hkept.2⟩
    have hslots : g'.nodes.map Node.slot = (g.nodes.map Node.slot).eraseIdx index := by
      rw [hnodes, List.eraseIdx_map]
    rw [hdelete]
    simp only [Except.map]
    unfold lineup
    rw [hpairs, hslots, hstore, hroot]
    rfl

/-- Taking out a node leaves all other nodes as they are, with their values. -/
theorem deleteNodeAt_keeps (hg : g.WellFormed) (hk : k < g.nodes.length) :
    ∃ g', g.deleteNodeAt k = .ok g' ∧ g'.store = g.store ∧
      ∀ i, i ≠ k → g'.nodes[lowered k i]? = g.nodes[i]? := by
  have hi : g.nodeAt k = .ok g.nodes[k].id := by
    unfold nodeAt nodeAt?
    rw [List.getElem?_eq_getElem hk]
    rfl
  obtain ⟨g', hdelete, hnodes, hstore, -⟩ := exists_deleteNodeAt hi
  refine ⟨g', hdelete, hstore, fun i hne => ?_⟩
  rw [hnodes, filter_id_ne hg (indexOf?_of_nodeAt hg hi)]
  exact getElem?_eraseIdx_lowered g.nodes hne

end Graph

end Patchbay
