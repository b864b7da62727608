-- Reuse. A recompute of one node, or of all that lies downstream of it, works
-- on these nodes and on the nodes before them that have no output. All other
-- nodes keep their output, what was read of their source, and their scope.
import Patchbay.Proofs.Recomputing

namespace Patchbay

open Patchbay.Language

namespace Graph

variable {W : NodeId → Prop} {g g' : Graph}

/-- From `g` to `g'` everything stays but the last runs of the nodes `W`: the nodes in
their order with titles, boxes, sources and scopes, the edges, what the root scope binds,
and each other node as a whole with what its scope binds. -/
structure Spares (W : NodeId → Prop) (g g' : Graph) : Prop where
  plans : g'.nodes.map Node.plan = g.nodes.map Node.plan
  edges : g'.edges = g.edges
  root : g'.root = g.root
  rootBindings : g'.store.bindings g.root = g.store.bindings g.root
  node : ∀ m node, g.node? m = some node → ¬W m →
    g'.node? m = some node ∧ g'.store.bindings node.scope = g.store.bindings node.scope

theorem Frame.spares (h : Frame W g g') (hg : g.WellFormed) : Spares W g g' := by
  refine ⟨h.plan, h.edges, h.root, Store.bindings_congr (h.root_same hg), ?_⟩
  intro m node hn hm
  constructor
  · rw [h.node m hm, hn]
  · exact h.bindings_same hg hn hm

/-- Whether it succeeds or fails, a recompute of a node touches nothing but the node and
the nodes without output before it; a recompute downstream of a node touches nothing
but what the node leads to and the nodes without output before that. -/
theorem recompute_spares_the_rest (depth : Nat) (g : Graph) (hg : g.WellFormed) (id : NodeId) :
    (∀ g', (recomputeWithInputs depth id g).state? = some g' →
      Spares (g.Touches fun n => n = id) g g') ∧
    ∀ g', (recomputeDownstream depth id g).state? = some g' →
      Spares (g.Touches fun n => g.Leads id n) g g' := by
  constructor
  · intro g' hs
    rw [← Journal.erase_recomputeWithInputs] at hs
    have hsteps := recomputeWithInputs_makes depth id g.edges g hg rfl g' hs
    exact hsteps.frame_touches.spares hg
  · intro g' hs
    rw [← Journal.erase_recomputeDownstream] at hs
    have hclosed : ∀ a b, g.Leads id a → ⟨a, b⟩ ∈ g.edges → g.Leads id b :=
      fun a b ha hab => (ha.trans_feeds hab).leads
    have hmakes := recomputeDownstream_makes depth hclosed (Leads.refl g id)
    exact (hmakes g hg rfl g' hs).frame_touches.spares hg

theorem sample_spares_the_rest : ∃ g', recomputeDownstream 20 1 sample = .done () g' ∧
    Spares (sample.Touches fun n => sample.Leads 1 n) sample g' := by
  obtain ⟨g', h⟩ := Outcome.eq_done (o := recomputeDownstream 20 1 sample) (by decide +kernel)
  exact ⟨g', h, (recompute_spares_the_rest 20 sample sample_wellFormed 1).2 g' (by rw [h]; rfl)⟩

end Graph

end Patchbay
