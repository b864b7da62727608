-- Edits of a graph between recomputes: a new source for a node, or an edge into
-- it that comes or goes. No edit evaluates anything, so all outputs and all
-- scopes stay, and so does each node as a whole that the edits are not about.
import Patchbay.Proofs.WellFormed

namespace Patchbay

open Patchbay.Language

namespace Graph

/-! ## Edits -/

inductive Edit
  | setSource (id : NodeId) (source : String)
  | addEdge (producer consumer : NodeId)
  | removeEdge (producer consumer : NodeId)
  deriving DecidableEq, Repr

/-- The node that has a new source or other inputs. -/
def Edit.target : Edit → NodeId
  | setSource id _ => id
  | addEdge _ consumer => consumer
  | removeEdge _ consumer => consumer

/-- One edit. A refused edit changes nothing. -/
def edit (g : Graph) : Edit → Graph
  | .setSource id source => (g.setSource id source).toOption.getD g
  | .addEdge producer consumer => (g.addEdge producer consumer).toOption.getD g
  | .removeEdge producer consumer => (g.removeEdge producer consumer).2

/-- Edits one after the other. -/
def edited (g : Graph) (edits : List Edit) : Graph := edits.foldl edit g

/-- From `g` to `g'` at most the sources and the inputs of the nodes `xs` are other ones. -/
structure Edited (xs : List NodeId) (g g' : Graph) : Prop where
  store : g'.store = g.store
  root : g'.root = g.root
  scopes : g'.scopes = g.scopes
  nodeIds : g'.nodeIds = g.nodeIds
  output : ∀ n, g'.output? n = g.output? n
  node : ∀ n, n ∉ xs → g'.node? n = g.node? n
  inputs : ∀ n, n ∉ xs → g'.inputsOf n = g.inputsOf n
  wellFormed : g.WellFormed → g'.WellFormed

variable {g g' g'' : Graph} {xs : List NodeId} {a n p c : NodeId} {source : String}

theorem Edited.refl (xs : List NodeId) (g : Graph) : Edited xs g g := by
  constructor <;> simp

theorem Edited.trans (h : Edited xs g g') (k : Edited xs g' g'') : Edited xs g g'' where
  store := k.store.trans h.store
  root := k.root.trans h.root
  scopes := k.scopes.trans h.scopes
  nodeIds := k.nodeIds.trans h.nodeIds
  output m := (k.output m).trans (h.output m)
  node m hm := (k.node m hm).trans (h.node m hm)
  inputs m hm := (k.inputs m hm).trans (h.inputs m hm)
  wellFormed hg := k.wellFormed (h.wellFormed hg)

/-! ## What one edit changes -/

/-- The graph with another source for a node. -/
def withSource (g : Graph) (n : NodeId) (source : String) : Graph :=
  g.modifyNode n fun node => { node with source }

theorem edit_setSource (g : Graph) (n : NodeId) (source : String) :
    g.edit (.setSource n source) = g ∨ g.edit (.setSource n source) = g.withSource n source := by
  simp only [edit, setSource, updateNode]
  split
  · exact Or.inl rfl
  · exact Or.inr rfl

theorem edit_addEdge (g : Graph) (p c : NodeId) :
    g.edit (.addEdge p c) = g ∨ (p ∈ g.nodeIds ∧ c ∈ g.nodeIds ∧
      g.edit (.addEdge p c) = { g with edges := g.edges ++ [⟨p, c⟩] }) := by
  have hknown : ∀ m, ¬(g.node? m).isNone = true → m ∈ g.nodeIds := by
    intro m hm
    by_contra hno
    simp [node?_eq_none_iff.mpr hno] at hm
  simp only [edit, addEdge]
  split
  · exact Or.inl rfl
  case isFalse hp =>
    split
    · exact Or.inl rfl
    case isFalse hc => exact Or.inr ⟨hknown p hp, hknown c hc, rfl⟩

/-- A node with a new source keeps its output. -/
theorem output?_withSource (g : Graph) (n m : NodeId) (source : String) :
    (g.withSource n source).output? m = g.output? m := by
  unfold output? withSource
  rw [node?_modifyNode (f := fun node => { node with source }) fun _ => rfl]
  split
  · cases g.node? m <;> simp
  · rfl

theorem edited_setSource (hx : n ∈ xs) :
    Edited xs g (g.withSource n source) where
  store := rfl
  root := rfl
  scopes := map_nodes_modifyNode fun _ => rfl
  nodeIds := map_nodes_modifyNode fun _ => rfl
  output m := output?_withSource g n m source
  node m hm := by
    have hne : m ≠ n := fun heq => hm (heq ▸ hx)
    exact node?_modifyNode_ne (fun _ => rfl) hne
  inputs _ _ := rfl
  wellFormed hg := hg.modifyNode (fun _ => rfl) fun _ => rfl

/-- Other edges into `c` are no others into the other nodes. -/
theorem edited_edges {edges : List Edge} (hx : c ∈ xs)
    (hfilter : ∀ m, m ≠ c → edges.filter (·.consumer = m) = g.edges.filter (·.consumer = m))
    (hjoin : g.WellFormed → ∀ e ∈ edges, e.producer ∈ g.nodeIds ∧ e.consumer ∈ g.nodeIds) :
    Edited xs g { g with edges } where
  store := rfl
  root := rfl
  scopes := rfl
  nodeIds := rfl
  output _ := rfl
  node _ _ := rfl
  inputs m hm := by
    have hne : m ≠ c := fun heq => hm (heq ▸ hx)
    unfold inputsOf
    exact congrArg (List.map Edge.producer) (hfilter m hne)
  wellFormed hg := { hg with edges_join := hjoin hg }

theorem filter_consumer_erase (edges : List Edge) {m : NodeId} (hm : m ≠ c) :
    (edges.erase ⟨p, c⟩).filter (·.consumer = m) = edges.filter (·.consumer = m) := by
  induction edges with
  | nil => rfl
  | cons e edges ih =>
    by_cases he : e = ⟨p, c⟩
    · simp [he, Ne.symm hm]
    · simp [he, ih, List.filter_cons]

/-- An edit changes the node that it is about. -/
theorem edit_edited (g : Graph) (e : Edit) (hx : e.target ∈ xs) : Edited xs g (g.edit e) := by
  cases e with
  | setSource n source =>
    rcases edit_setSource g n source with h | h
    · rw [h]
      exact Edited.refl xs g
    · rw [h]
      exact edited_setSource hx
  | addEdge p c =>
    rcases edit_addEdge g p c with h | ⟨hp, hc, h⟩
    · rw [h]
      exact Edited.refl xs g
    · rw [h]
      refine edited_edges hx ?_ ?_
      · intro m hm
        have hne : c ≠ m := Ne.symm hm
        simp [hne]
      · intro hg e he
        rcases List.mem_append.mp he with he | he
        · exact hg.edges_join e he
        · rw [List.mem_singleton.mp he]
          exact ⟨hp, hc⟩
  | removeEdge p c =>
    refine edited_edges hx ?_ ?_
    · exact fun m hm => filter_consumer_erase g.edges hm
    · exact fun hg e he => hg.edges_join e (List.mem_of_mem_erase he)

/-- Edits change the nodes that they are about. -/
theorem edited_edited (g : Graph) (edits : List Edit) (hx : ∀ e ∈ edits, e.target ∈ xs) :
    Edited xs g (g.edited edits) := by
  induction edits generalizing g with
  | nil => exact Edited.refl xs g
  | cons e edits ih =>
    have hone := edit_edited g e (hx e List.mem_cons_self)
    exact hone.trans (ih (g.edit e) fun e he => hx e (List.mem_cons_of_mem _ he))

/-! ## Nodes off the edits -/

/-- Where no edited node leads to a node, all ways to it were there before. -/
theorem Edited.precedes (h : Edited xs g g') (hn : ∀ x ∈ xs, ¬g'.Leads x n)
    (ha : g'.Precedes a n) : g.Precedes a n := by
  have hfeeds : ∀ {p c}, g'.Feeds p c → g'.Leads c n → g.Feeds p c := by
    intro p c hpc hc
    have hx : c ∉ xs := fun hx => hn c hx hc
    rwa [feeds_of_inputsOf (h.inputs c hx)] at hpc
  induction ha using Relation.TransGen.head_induction_on with
  | single hp => exact (hfeeds hp (Leads.refl g' n)).precedes
  | head hab hb ih => exact (hfeeds hab (Precedes.leads hb)).precedes.trans ih

end Graph

end Patchbay
