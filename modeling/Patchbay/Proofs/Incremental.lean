-- Recomputing what edits touch is as good as recomputing all. A full recompute
-- grounds every node; edits leave all nodes grounded but those that the edited
-- nodes lead to; and the passes downstream of the edited nodes ground these as
-- well. Where every node is grounded, it shows what a full recompute shows.
import Patchbay.Proofs.Agreement
import Patchbay.Proofs.Edits

namespace Patchbay

open Patchbay.Language

namespace Graph

/-- The passes downstream of several nodes, one after the other. -/
def recomputeEach (depth : Nat) : List NodeId → Recompute Unit :=
  Action.forEach (recomputeDownstream depth)

namespace Journal

def recomputeEach (depth : Nat) : List NodeId → Journal Unit := forEach (recomputeDownstream depth)

theorem erase_recomputeEach (depth : Nat) (xs : List NodeId) :
    erase (recomputeEach depth xs) = Graph.recomputeEach depth xs := by
  unfold recomputeEach Graph.recomputeEach
  simp only [erase_forEach, erase_recomputeDownstream]

end Journal

variable {depth limit : Nat} {g g' : Graph} {id n : NodeId} {log : List Event}
  {path xs : List NodeId}

/-! ## Success -/

/-- Passes come upon no cycle where no way leads back. -/
theorem recomputeEach_succeeds {top : Graph} (hac : top.Acyclic) (hg : SameWiring top g)
    (hxs : ∀ x ∈ xs, x ∈ top.nodeIds) :
    Succeeds depth (Journal.recomputeEach depth xs) g (SameWiring top) := by
  have hone : ∀ id ∈ top.nodeIds, ∀ g, SameWiring top g →
      Reports depth (Journal.recomputeWithInputs depth id) g (SameWiring top)
        fun n => top.Precedes n n := fun _ hid _ hg => recomputeWithInputs_reports hid hg
  have hall : Reports depth (Journal.recomputeEach depth xs) g (SameWiring top)
      fun n => top.Precedes n n :=
    Reports.forEach (fun x hx _ hg => recomputeDownstream_reports (fun _ h => h) hone
      (fun _ _ hp => hp) hg (hxs x hx)) hg
  exact hall.succeeds hac

/-! ## What edits leave -/

/-- A node that no edited node leads to has the same explanation. -/
theorem Grounded.edited (h : Grounded depth log g n) (he : Edited xs g g')
    (hn : ∀ x ∈ xs, ¬g'.Leads x n) : Grounded depth log g' n := by
  have hsame : ∀ {m}, g'.Leads m n → g'.node? m = g.node? m := by
    intro m hm
    exact he.node m fun hx => hn m hx hm
  have hself : n ∉ xs := fun hx => hn n hx (Leads.refl g' n)
  obtain ⟨⟨ev, hlast, hex⟩, hanchored⟩ := h
  refine ⟨⟨ev, hlast, hex.congr (he.inputs n hself) ?_ (he.output n) ?_⟩, ?_⟩
  · rw [he.node n hself]
  · intro p out _ hout
    rw [he.output p, hout]
  · intro start out st node hev hnode
    rw [hsame (Leads.refl g' n)] at hnode
    obtain ⟨hown, hbefore⟩ := hanchored start out st node hev hnode
    rw [he.store]
    refine ⟨hown, ?_⟩
    intro a start' out' st' other ha heva ho
    rw [hsame ha.leads] at ho
    exact hbefore a start' out' st' other (he.precedes hn ha) heva ho

/-! ## What the passes leave -/

theorem recomputeEach_steps (hg : g.WellFormed)
    (h : Journal.recomputeEach depth xs g = (log, .done () g')) :
    Steps depth (Allowed fun _ => True) g log g' := by
  have hmakes : ∀ x ∈ xs, Makes depth (Allowed fun _ => True) g.edges
      (Journal.recomputeDownstream depth x) :=
    fun x _ => recomputeDownstream_makes depth (fun _ _ _ _ => trivial) trivial
  exact (Makes.forEach hmakes).steps_of_done hg rfl h

/-- The passes ground the nodes that they come to, and keep the others grounded. -/
theorem recomputeEach_grounds {before : List Event} (hg : Complete depth g before g)
    (h : Journal.recomputeEach depth xs g = (log, .done () g'))
    (hn : (∃ x ∈ xs, g.Leads x n) ∨ Grounded depth before g n) :
    Grounded depth (before ++ log) g' n := by
  refine (grounded_lasting depth g).forEach ?_ hg h hn
  intro x _ before g₁ log₁ g₂ hI hone
  constructor
  · rw [← leads_congr hI.edges]
    exact propagate_steps hI.wellFormed hone
  · exact fun n hl => (grounded_lasting depth g).recomputeDownstream hI hone hl

theorem Complete.tracked {top : Graph} (h : Complete depth top log g) (hac : top.Acyclic)
    (hall : ∀ n ∈ g.nodeIds, Grounded depth log g n) : Tracked depth log g := by
  refine ⟨h.wellFormed, ?_, h.fits, ?_⟩
  · unfold Acyclic
    rw [precedes_congr h.edges]
    exact hac
  · intro n hn
    obtain ⟨out, hout⟩ := Option.isSome_iff_exists.mp hn
    obtain ⟨node, hnode, -⟩ := node_of_output? hout
    exact hall n (mem_nodeIds_of_node? hnode)

/-- After edits of a graph where every node is grounded, the passes ground every node again. -/
theorem Tracked.recomputeEach {top : Graph} {before : List Event} (h : Tracked depth before top)
    (hout : ∀ n ∈ top.nodeIds, (top.output? n).isSome) (he : Edited xs top g) (hac : g.Acyclic)
    (hx : Journal.recomputeEach depth xs g = (log, .done () g')) :
    Tracked depth (before ++ log) g' := by
  have hg : Complete depth g before g := by
    refine ⟨he.wellFormed h.wellFormed, rfl, h.fits.congr he.store he.root he.scopes, ?_⟩
    intro n hn
    rw [he.nodeIds] at hn
    rw [he.output]
    exact hout n hn
  have hsteps := recomputeEach_steps hg.wellFormed hx
  refine (hsteps.complete hg).tracked hac ?_
  intro n hn
  rw [hsteps.frame.nodeIds, he.nodeIds] at hn
  refine recomputeEach_grounds hg hx ?_
  by_cases hl : ∃ x ∈ xs, g.Leads x n
  · exact Or.inl hl
  · refine Or.inr ((h.grounded n (hout n hn)).edited he ?_)
    exact fun x hmem hlead => hl ⟨x, hmem, hlead⟩

/-! ## Two ways from one graph -/

/-- A full recompute works on the nodes, and on nothing else. -/
theorem recomputeAll_frame (hg : g.WellFormed) (h : recomputeAll depth g = .done () g') :
    Frame (fun _ => True) g g' := frame_recomputeAll hg (by rw [h]; rfl)

/-- However the nodes of a graph were worked on, where all of them are grounded
they show the same. -/
theorem shown_eq_of_tracked {left right : Graph} {log' : List Event} (hg : g.WellFormed)
    (hroot : g.RootHoldsBuiltins) (hl : Frame (fun _ => True) g left)
    (hr : Frame (fun _ => True) g right) (ht : Tracked depth log left)
    (ht' : Tracked depth log' right) (hout : ∀ n ∈ g.nodeIds, (left.output? n).isSome)
    (hout' : ∀ n ∈ g.nodeIds, (right.output? n).isSome) (hn : n ∈ g.nodeIds) :
    (right.output? n).map Output.shown = (left.output? n).map Output.shown := by
  have hbindings : ∀ {g'}, Frame (fun _ => True) g g' →
      g'.store.bindings g'.root = g.store.bindings g.root := by
    intro g' h
    rw [h.root]
    exact Store.bindings_congr (h.root_same hg)
  let T : Twins depth :=
    { log, left, log', right, partner := fun m => m, tracked := ht, tracked' := ht'
      outputs := by
        rw [hl.nodeIds]
        exact hout
      outputs' := by
        rw [hr.nodeIds]
        exact hout'
      injective := fun _ _ _ _ h => h
      source := by
        intro m node hm
        have hplan : right.nodes.map Node.plan = left.nodes.map Node.plan := by
          rw [hl.plan, hr.plan]
        obtain ⟨other, ho, hp⟩ := exists_plan_eq hplan.symm hm
        exact ⟨other, ho, (source_eq_of_plan hp).symm⟩
      inputs := by
        intro m _
        rw [List.map_id', hl.inputsOf, hr.inputsOf]
      builtins := by
        unfold RootHoldsBuiltins
        rw [hbindings hl]
        exact hroot
      root := by rw [hbindings hl, hbindings hr] }
  have hmem : n ∈ left.nodeIds := by rwa [hl.nodeIds]
  exact T.shown_eq n hmem

/-! ## Incremental and full -/

/-- After a full recompute and edits of the nodes `xs`, in any order, the passes downstream
of these, in any order, succeed and leave each node with the text or the message that a
full recompute leaves it with. -/
theorem incremental_equals_full (depth : Nat) (g g₁ : Graph) (hg : g.WellFormed) (hac : g.Acyclic)
    (hroot : g.RootHoldsBuiltins) (hfull : recomputeAll depth g = .done () g₁)
    (xs : List NodeId) (hxs : ∀ x ∈ xs, x ∈ g.nodeIds)
    (edits : List Edit) (htargets : ∀ e ∈ edits, e.target ∈ xs) (hac₁ : (g₁.edited edits).Acyclic)
    (hends : ∀ ev ∈ (Journal.recomputeEach depth xs (g₁.edited edits)).1, ev.Ends depth)
    (hends' : ∀ ev ∈ (Journal.recomputeAll depth (g₁.edited edits)).1, ev.Ends depth) :
    ∃ g₂ g₃, recomputeEach depth xs (g₁.edited edits) = .done () g₂ ∧
      recomputeAll depth (g₁.edited edits) = .done () g₃ ∧
      ∀ n ∈ g.nodeIds, ∃ shown, (g₂.output? n).map Output.shown = some shown ∧
        (g₃.output? n).map Output.shown = some shown := by
  have htracked := recomputeAll_tracked hg hac hfull
  have hframe := recomputeAll_frame hg hfull
  have hedited := edited_edited g₁ edits htargets
  have hset : ∀ n ∈ g₁.nodeIds, (g₁.output? n).isSome := by
    rw [hframe.nodeIds]
    exact recomputeAll_sets hg hfull
  have hids : (g₁.edited edits).nodeIds = g.nodeIds := hedited.nodeIds.trans hframe.nodeIds
  have hroot₁ : (g₁.edited edits).RootHoldsBuiltins := by
    unfold RootHoldsBuiltins
    rw [hedited.store, hedited.root, hframe.root, Store.bindings_congr (hframe.root_same hg)]
    exact hroot
  generalize g₁.edited edits = start at *
  rw [← hids] at hxs ⊢
  have hstart : start.WellFormed := hedited.wellFormed htracked.wellFormed
  -- Both computations succeed.
  obtain ⟨_, g₂, hdone, -⟩ := recomputeEach_succeeds hac₁ ⟨hstart, rfl, rfl⟩ hxs hends
  obtain ⟨g₃, hdone'⟩ := recomputeAll_done hstart hac₁ hends'
  have hpasses : Journal.recomputeEach depth xs start = (_, .done () g₂) := Prod.ext rfl hdone
  have hsteps := recomputeEach_steps hstart hpasses
  refine ⟨g₂, g₃, ?_, hdone', ?_⟩
  · rw [← Journal.erase_recomputeEach]
    exact hdone
  · intro n hn
    -- Both ground every node.
    have hleft := htracked.recomputeEach hset hedited hac₁ hpasses
    have hright := recomputeAll_tracked hstart hac₁ hdone'
    have hsome : ∀ n ∈ start.nodeIds, (g₂.output? n).isSome := by
      intro n hn
      rw [hedited.nodeIds] at hn
      refine hsteps.output_isSome ?_
      rw [hedited.output]
      exact hset n hn
    have hsome' := recomputeAll_sets hstart hdone'
    have heq := shown_eq_of_tracked hstart hroot₁ (hsteps.frame.mono fun _ _ => trivial)
      (recomputeAll_frame hstart hdone') hleft hright hsome hsome' hn
    obtain ⟨out, hout⟩ := Option.isSome_iff_exists.mp (hsome n hn)
    rw [hout] at heq
    exact ⟨out.shown, by rw [hout]; rfl, heq⟩

/-- The sample with all outputs. -/
def recomputedSample : Graph := (recomputeAll 20 sample).state?.getD sample

theorem recomputeAll_sample : recomputeAll 20 sample = .done () recomputedSample := by
  obtain ⟨g, h⟩ := Outcome.eq_done (o := recomputeAll 20 sample) (by decide +kernel)
  unfold recomputedSample
  rw [h]
  rfl

/-- Another function, and another order of the inputs of the third node. -/
def sampleEdits : List Edit :=
  [.setSource 0 "\\x: b", .removeEdge 0 2, .addEdge 0 2, .setSource 2 "b a"]

theorem sample_incremental_equals_full :
    ∃ g₂ g₃, recomputeEach 20 [2, 0] (recomputedSample.edited sampleEdits) = .done () g₂ ∧
      recomputeAll 20 (recomputedSample.edited sampleEdits) = .done () g₃ ∧
      ∀ n ∈ sample.nodeIds, ∃ shown, (g₂.output? n).map Output.shown = some shown ∧
        (g₃.output? n).map Output.shown = some shown :=
  incremental_equals_full 20 sample recomputedSample sample_wellFormed sample_acyclic
    (by decide +kernel) recomputeAll_sample [2, 0] (by decide +kernel) sampleEdits
    (by decide +kernel) (acyclic_of_rank (fun id => id) (by decide +kernel)) (by decide +kernel)
    (by decide +kernel)

end Graph

end Patchbay
