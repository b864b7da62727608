-- Sessions by places. An editor that speaks of places sees of a session what it would see of a
-- lineup, in whatever order it adds, deletes, loads and recomputes.
import Patchbay.Proofs.Lineup

namespace Patchbay

open Patchbay.Language (Wording)

namespace Graph

variable {g g' : Graph} {id : NodeId} {depth : Nat}

/-! ## Lineups after recomputes -/

theorem map_slot_renamed (f : NodeId → NodeId) (nodes : List Node) :
    (nodes.map (Node.renamed f)).map Node.slot = nodes.map Node.slot := by
  rw [List.map_map]
  rfl

/-- What a recompute leaves of a lineup. -/
theorem lineup_renamed (hg : g.WellFormed) (h : Frame (fun _ => True) g g') (f : NodeId → NodeId)
    (next : NodeId) : g.lineup.recomputed (g'.renamed f next) = g'.lineup := by
  unfold lineup Lineup.recomputed
  rw [edges_toData_congr hg h.nodeIds h.edges, h.root]
  simp only [renamed, map_slot_renamed]

theorem place_congr (h : g'.nodeIds = g.nodeIds) : g'.place = g.place := by
  have hlen : g'.nodes.length = g.nodes.length := by
    simpa [nodeIds] using congrArg List.length h
  funext id
  rw [place, place, indexOf?_congr h, hlen]

end Graph

/-! ## Answers -/

/-- A report with places in the place of numbers: cycles are told by a node. -/
def Status.placed (f : NodeId → Nat) : Status → Status
  | failed (.cycle n) => .failed (.cycle (f n))
  | status => status

def Answer.placed (f : NodeId → Nat) : Answer → Answer
  | status s => .status (s.placed f)
  | a => a

theorem Status.placed_failed {e : GraphError} (h : ∀ n, e ≠ .cycle n) (f : NodeId → Nat) :
    (Status.failed e).placed f = .failed e := by
  cases e with
  | cycle n => exact absurd rfl (h n)
  | _ => rfl

namespace Graph

variable {g g' : Graph} {depth index : Nat} {x y : Recompute Unit}

/-- A report on a graph and one on a lineup agree, and so does what is left. The node that a
cycle is told by is there. -/
structure Mirrored (r : Status × Graph) (r' : Status × Lineup) : Prop where
  eq : r' = (r.1.placed r.2.place, r.2.lineup)
  named : ∀ n, r.1 = .failed (.cycle n) → n ∈ r.2.nodeIds

/-- Recomputes of `g₁` that are the same but for the names of the nodes do the same to its
lineup. -/
theorem report_mirrored {g₁ : Graph} (hg₁ : g₁.WellFormed)
    (hxy : Renames g₁.place g₁.nodes.length (fun u => u) x y)
    (hkeeps : ∀ g', (x g₁).state? = some g' → Frame (fun _ => True) g₁ g')
    (hfails : ∀ e g', x g₁ = .failed e g' → ∃ n ∈ g₁.nodeIds, e = .cycle n) :
    Mirrored (g.report (x g₁)) (g.lineup.report g₁.lineup (y g₁.lineup.graph)) := by
  have hy := hxy g₁
  rw [← graph_lineup hg₁] at hy
  rw [hy]
  rcases hr : x g₁ with ⟨_, g'⟩ | ⟨e, g'⟩ | _
  · have hsame := hkeeps g' (by rw [hr]; rfl)
    exact ⟨Prod.ext rfl (lineup_renamed hg₁ hsame _ _), by rintro n ⟨⟩⟩
  · have hsame := hkeeps g' (by rw [hr]; rfl)
    obtain ⟨n, hn, rfl⟩ := hfails e g' hr
    refine ⟨Prod.ext ?_ (lineup_renamed hg₁ hsame _ _), ?_⟩
    · change Status.failed (.cycle (g₁.place n)) = .failed (.cycle (g'.place n))
      rw [place_congr hsame.nodeIds]
    · rintro _ ⟨⟩
      change n ∈ g'.nodeIds
      rwa [hsame.nodeIds]
  · exact ⟨rfl, by rintro n ⟨⟩⟩

/-- No edit tells of a cycle. -/
def NoCycle {α : Type} (r : Except GraphError α) : Prop := ∀ n, r ≠ .error (.cycle n)

namespace NoCycle

theorem bind {α β : Type} {r : Except GraphError α} {f : α → Except GraphError β}
    (hr : NoCycle r) (hf : ∀ a, NoCycle (f a)) : NoCycle (r >>= f) := by
  intro n h
  rcases bind_eq_error.mp h with hrn | ⟨a, -, hfn⟩
  · exact hr n hrn
  · exact hf a n hfn

theorem nodeAt (g : Graph) (index : Nat) : NoCycle (g.nodeAt index) := by
  intro n h
  unfold Graph.nodeAt at h
  split at h <;> cases h

theorem addEdgeAt (g : Graph) (a b : Nat) : NoCycle (g.addEdgeAt a b) := by
  refine bind (nodeAt g a) fun p => bind (nodeAt g b) fun c => ?_
  intro n h
  unfold addEdge at h
  split_ifs at h <;> cases h

theorem deleteNodeAt (g : Graph) (index : Nat) : NoCycle (g.deleteNodeAt index) := by
  refine bind (nodeAt g index) fun id => ?_
  intro n h
  unfold deleteNode at h
  split at h
  · cases h
  · cases h

theorem setSourceAt (g : Graph) (index : Nat) (source : String) :
    NoCycle (g.setSourceAt index source) := by
  refine bind (nodeAt g index) fun id => ?_
  intro n h
  unfold setSource updateNode at h
  split_ifs at h
  cases h

theorem load (g : Graph) (text : String) : NoCycle (g.load text) := by
  refine bind ?_ fun data => ?_
  · intro n h
    unfold GraphData.read at h
    split at h <;> cases h
  · intro n h
    unfold loadData at h
    dsimp only at h
    split at h
    · cases h
    · cases h

end NoCycle

/-- A refusal that tells of no cycle leaves the graph and its lineup alone. -/
theorem Mirrored.refused {e : GraphError} (h : ∀ n, e ≠ .cycle n) :
    Mirrored (.failed e, g) (.failed e, g.lineup) := by
  refine ⟨?_, fun n hn => absurd (Status.failed.inj hn) (h n)⟩
  rw [Status.placed_failed h]

theorem attempt_mirrored (f : Graph → Except GraphError Graph)
    (f' : Lineup → Except GraphError Lineup) (h : f' g.lineup = (f g).map lineup)
    (hno : NoCycle (f g)) : Mirrored (g.computing (attempt f)) (g.lineup.editing f') := by
  rw [computing_attempt]
  unfold Lineup.editing editing
  rw [h]
  rcases hf : f g with e | g'
  · exact Mirrored.refused fun n hn => hno n (by rw [hf, hn])
  · exact ⟨rfl, by rintro n ⟨⟩⟩

theorem openText_mirrored (hg : g.WellFormed) (depth : Nat) (text : String) :
    Mirrored (g.computing (openText depth text)) (g.lineup.loading depth text) := by
  unfold Lineup.loading computing
  rw [load_lineup hg]
  cases hload : g.load text with
  | error e =>
    rw [openText_of_error hg hload]
    exact Mirrored.refused fun n hn => NoCycle.load g text n (by rw [hload, hn])
  | ok g' =>
    have hbecomes : Becomes depth g g' := load_becomes hload
    have hg' : g'.WellFormed := hg.becomes hbecomes
    rw [openText_of_ok hg hload]
    exact report_mirrored hg' (recomputeAll_renames (place_injective hg') depth)
      (fun _ => frame_recomputeAll hg') fun _ _ => recomputeAll_fails hg'

theorem recomputeAt_mirrored (hg : g.WellFormed) (depth index : Nat) :
    Mirrored (g.computing (recomputeAt depth index)) (g.lineup.recomputing depth index) := by
  unfold Lineup.recomputing computing
  rw [check_lineup]
  cases hi : g.nodeAt index with
  | error e =>
    rw [recomputeAt_of_error hi]
    exact Mirrored.refused fun n hn => NoCycle.nodeAt g index n (by rw [hi, hn])
  | ok id =>
    have hrenames : Renames g.place g.nodes.length (fun u => u) (recomputeDownstream depth id)
        (recomputeDownstream depth (g.place id)) :=
      recomputeDownstream_renames (place_injective hg) depth id
    rw [place_of_indexOf? (indexOf?_of_nodeAt hg hi)] at hrenames
    rw [recomputeAt_of_ok hi]
    exact report_mirrored hg hrenames (fun _ => frame_recomputeDownstream hg)
      fun e g' h => (recomputeDownstream_finds depth (mem_of_nodeAt hi)).fails g e g'
        ⟨hg, rfl, rfl⟩ h

theorem indexOf?_addNode (hg : g.WellFormed) (source : String) :
    (g.addNode source).2.indexOf? (g.addNode source).1 = some g.nodes.length := by
  refine (nodeAt?_eq_some_iff (hg.addNode source) _).mp ?_
  simp [nodeAt?, addNode]

/-- What an operation answers on a graph, against what it answers on a lineup. -/
structure Reflected (r : Answer × Graph) (r' : Answer × Lineup) : Prop where
  answer : r'.1 = r.1.placed r.2.place
  lineup : r'.2 = r.2.lineup
  named : ∀ n, r.1 = .status (.failed (.cycle n)) → n ∈ r.2.nodeIds

theorem Mirrored.reflected {r : Status × Graph} {r' : Status × Lineup} (h : Mirrored r r') :
    Reflected (r.map Answer.status id) (r'.map Answer.status id) := by
  obtain ⟨rfl, hnamed⟩ := h
  exact ⟨rfl, rfl, fun n hn => hnamed n (Answer.status.inj hn)⟩

/-- One operation: the lineup answers as the graph does, with places for numbers, and it stays
the lineup of the graph. -/
theorem perform_reflected (hg : g.WellFormed) (w : Wording) (depth : Nat) (op : Operation) :
    Reflected (g.perform w depth op) (g.lineup.perform w depth op) := by
  cases op with
  | load bytes => exact (openText_mirrored hg depth (Text.utf8Lossy bytes)).reflected
  | save =>
    have hslots : (g.nodes.map Node.slot).map Slot.data = g.toData.nodes := by
      rw [List.map_map]
      rfl
    refine ⟨?_, rfl, by rintro n ⟨⟩⟩
    unfold Lineup.perform perform Lineup.save save lineup
    rw [hslots]
    rfl
  | addNode source =>
    refine ⟨?_, (addNode_lineup hg (Text.utf8Lossy source)).symm, by rintro n ⟨⟩⟩
    have hlen : g.lineup.slots.length = g.nodes.length := List.length_map _
    refine congrArg Answer.place ?_
    rw [hlen]
    exact (indexOf?_addNode hg (Text.utf8Lossy source)).symm
  | addEdge a b =>
    have hmirrored := attempt_mirrored (·.addEdgeAt a b) (·.addPair a b) (addEdgeAt_lineup hg a b)
      (NoCycle.addEdgeAt g a b)
    rw [← joinAt_eq] at hmirrored
    exact hmirrored.reflected
  | deleteNode index =>
    have hmirrored := attempt_mirrored (·.deleteNodeAt index) (·.delete index)
      (deleteNodeAt_lineup hg index) (NoCycle.deleteNodeAt g index)
    rw [← removeAt_eq] at hmirrored
    exact hmirrored.reflected
  | setSource index source =>
    have hmirrored := attempt_mirrored (·.setSourceAt index (Text.utf8Lossy source))
      (·.setSource index (Text.utf8Lossy source)) (setSourceAt_lineup hg _)
      (NoCycle.setSourceAt g index _)
    rw [← rewriteAt_eq] at hmirrored
    exact hmirrored.reflected
  | recompute index => exact (recomputeAt_mirrored hg depth index).reflected
  | output index =>
    have hout : (g.lineup.slots[index]?).bind Slot.output = g.outputAt? index := by
      unfold lineup outputAt?
      rw [List.getElem?_map, Option.bind_map]
      rfl
    refine ⟨congrArg (fun o => Answer.text (Output.toJson w o).compact) hout, rfl, ?_⟩
    rintro n ⟨⟩

end Graph

/-! ## One operation after the other -/

/-- The sessions after operations on session `s`. -/
def Sessions.performAll (w : Wording) (depth : Nat) (ss : Sessions) (s : Nat)
    (ops : List Operation) : Sessions :=
  ops.foldl (fun ss op => (ss.perform w depth s op).2) ss

def Lineup.performAll (w : Wording) (depth : Nat) (l : Lineup) (ops : List Operation) : Lineup :=
  ops.foldl (fun l op => (l.perform w depth op).2) l

/-- The graph of a session goes through what its lineup goes through. -/
theorem Sessions.performAll_lineup {w : Wording} {depth s : Nat} {ss : Sessions} {g : Graph}
    (hs : ss.graph? s = some g) (hg : g.WellFormed) (ops : List Operation) :
    ∃ g', (ss.performAll w depth s ops).graph? s = some g' ∧ g'.WellFormed ∧
      g'.lineup = g.lineup.performAll w depth ops := by
  induction ops generalizing ss g with
  | nil => exact ⟨g, hs, hg, rfl⟩
  | cons op ops ih =>
    have hnext : (ss.perform w depth s op).2.graph? s = some (g.perform w depth op).2 := by
      rw [perform_of_known hs]
      exact graph?_put_self (lt_of_graph? hs)
    obtain ⟨g', hs', hg', hlineup⟩ := ih hnext (hg.becomes (Graph.perform_becomes hg w depth op))
    refine ⟨g', hs', hg', hlineup.trans ?_⟩
    rw [← (Graph.perform_reflected hg w depth op).lineup]
    rfl

/-- An operation on a session answers as it does on the lineup: the answers are the same,
but for a cycle, where the session gives the number of a node and the lineup its place.
Taking out a node leaves each other one as it was, with its source and its output. -/
structure ToldByPlaces (w : Wording) (depth : Nat) (ss : Sessions) (s : Nat) (l : Lineup)
    (op : Operation) (g g' : Graph) : Prop where
  before : ss.graph? s = some g
  after : (ss.perform w depth s op).2.graph? s = some g'
  answer : (l.perform w depth op).1 = (ss.perform w depth s op).1.placed g'.place
  cycle : ∀ n, (ss.perform w depth s op).1 = .status (.failed (.cycle n)) →
    g'.nodeAt? (g'.place n) = some n
  lineup : g.lineup = l ∧ g'.lineup = (l.perform w depth op).2
  others : ∀ k, op = .deleteNode k → k < g.nodes.length →
    g'.store = g.store ∧ ∀ i, i ≠ k → g'.nodes[lowered k i]? = g.nodes[i]?

/-- A new session is a lineup to one who speaks of places: after any operations on it, each
operation is answered as the lineup answers it after the same operations. -/
theorem sessions_are_told_by_places (w : Wording) (depth : Nat) (ss : Sessions)
    (ops : List Operation) (op : Operation) :
    ∃ g g', ToldByPlaces w depth (ss.open?.2.performAll w depth ss.open?.1 ops) ss.open?.1
      (Lineup.empty.performAll w depth ops) op g g' := by
  have hopen : ss.open?.2.graph? ss.open?.1 = some .empty := by
    simp [Sessions.open?, Sessions.graph?]
  obtain ⟨g, hs, hg, hlineup⟩ := Sessions.performAll_lineup hopen Graph.empty_wellFormed ops
  have hempty : Graph.empty.lineup = Lineup.empty := rfl
  rw [hempty] at hlineup
  generalize ss.open?.2.performAll w depth ss.open?.1 ops = now at hs
  generalize ss.open?.1 = s at hs
  rw [← hlineup]
  have hnext := Graph.perform_reflected hg w depth op
  have hg' : (g.perform w depth op).2.WellFormed := hg.becomes (Graph.perform_becomes hg w depth op)
  refine ⟨g, (g.perform w depth op).2, hs, ?_, ?_, ?_, ⟨rfl, hnext.lineup.symm⟩, ?_⟩
  · rw [Sessions.perform_of_known hs]
    exact Sessions.graph?_put_self (Sessions.lt_of_graph? hs)
  · rw [Sessions.perform_of_known hs]
    exact hnext.answer
  · intro n hn
    rw [Sessions.perform_of_known hs] at hn
    obtain ⟨k, hk⟩ := Graph.exists_place (hnext.named n hn)
    rw [Graph.place_of_indexOf? hk]
    exact (Graph.nodeAt?_eq_some_iff hg' k).mpr hk
  · rintro k rfl hk
    obtain ⟨g₁, hdelete, hstore, hothers⟩ := Graph.deleteNodeAt_keeps hg hk
    have heq : (g.perform w depth (.deleteNode k)).2 = g₁ := by
      simp [Graph.perform, Graph.removeAt_eq, Graph.computing_attempt, Graph.editing, hdelete]
    rw [heq]
    exact ⟨hstore, hothers⟩

/-- A first node that goes, and a second one with an edge to itself. -/
def secondAlone : List Operation :=
  [.addNode [49], .addNode [97], .deleteNode 0, .addEdge 0 0]

/-- Numbers and places drift apart: the session tells of node 1, the lineup of place 0. -/
example :
    ((Sessions.performAll .silent 20 [some .empty] 0 secondAlone).perform .silent 20 0
      (.recompute 0)).1 = .status (.failed (.cycle 1)) ∧
    ((Lineup.empty.performAll .silent 20 secondAlone).perform .silent 20 (.recompute 0)).1 =
      .status (.failed (.cycle 0)) := by
  decide +kernel

end Patchbay
