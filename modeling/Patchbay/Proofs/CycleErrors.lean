-- Errors of the recomputes. A node that an error names lies on a cycle, and nothing
-- else goes wrong; a pass downstream of a node fails on every cycle that the node
-- leads to, and on no other where all nodes have outputs.
import Patchbay.Proofs.Incremental

namespace Patchbay

open Patchbay.Language

namespace Graph

variable {depth limit : Nat} {g g' top : Graph} {id n : NodeId} {log : List Event}
  {path ps waiting : List NodeId}

/-! ## Where all nodes have outputs -/

/-- Producers that have outputs are not run. -/
theorem collect_of_set {r : NodeId → Journal Unit} (hps : ∀ p ∈ ps, (g.output? p).isSome) :
    ∃ found, Journal.collect r ps g = ([], .done found g) := by
  induction ps with
  | nil => exact ⟨some [], rfl⟩
  | cons p ps ih =>
    obtain ⟨found, hrest⟩ := ih fun q hq => hps q (List.mem_cons_of_mem _ hq)
    obtain ⟨out, hout⟩ := Option.isSome_iff_exists.mp (hps p List.mem_cons_self)
    obtain ⟨node, hn, ho⟩ := node_of_output? hout
    rw [Journal.collect_of_output hn (by simp [ho])]
    cases out with
    | fault f => exact ⟨none, Journal.prepend_of_fault hn ho⟩
    | value v =>
      rw [Journal.prepend_of_value hn ho, hrest]
      exact ⟨found.map (v :: ·), rfl⟩

/-- A node whose producers have outputs does not fail, though its evaluation may not end. -/
theorem resolve_of_set (hn : id ∈ g.nodeIds) (hfree : id ∉ waiting)
    (hps : ∀ p, g.Feeds p id → (g.output? p).isSome) (e : GraphError) (g' : Graph) :
    (Journal.resolve depth (limit + 1) waiting id g).2 ≠ .failed e g' := by
  obtain ⟨node, hnode⟩ := exists_node_of_mem hn
  have hset : ∀ p ∈ g.inputsOf id, ((g.emptied node).output? p).isSome :=
    fun p hp => hps p (mem_inputsOf.mp hp)
  obtain ⟨found, hcollect⟩ := collect_of_set
    (r := Journal.resolve depth limit (id :: waiting)) hset
  rw [Journal.resolve_of_node hfree hnode]
  change ((Journal.collect (Journal.resolve depth limit (id :: waiting)) (g.inputsOf id) >>=
    Journal.settle depth node id) (g.emptied node)).2 ≠ _
  rw [Journal.bind_of_done hcollect]
  cases found with
  | none =>
    intro h
    cases h
  | some vs =>
    have hbound : ((g.emptied node).bound node vs).node? id = some node := hnode
    change Graph.run depth id ((g.emptied node).bound node vs) ≠ _
    rw [run_eq hbound]
    rcases (((g.emptied node).bound node vs).evaluation depth id).result? with _ | ⟨out, st⟩ <;>
      simp

/-- The nodes and edges of `top`, and an output for each node. -/
structure AllSet (top g : Graph) : Prop where
  wiring : SameWiring top g
  outputs : ∀ n ∈ top.nodeIds, (g.output? n).isSome

theorem recomputeWithInputs_of_set {B : NodeId → Prop} (hid : id ∈ top.nodeIds)
    (hg : AllSet top g) :
    Reports depth (Journal.recomputeWithInputs depth id) g (AllSet top) B := by
  have hwiring := hg.wiring
  intro hends
  rcases recomputeWithInputs_reports hid hwiring hends with ⟨a, g', heq, -⟩ | ⟨n, g', heq, -⟩
  · have hsteps := recomputeWithInputs_steps hwiring.wellFormed (Prod.ext rfl heq)
    refine Or.inl ⟨a, g', heq, hsteps.sameWiring hwiring, ?_⟩
    exact fun n hn => hsteps.output_isSome (hg.outputs n hn)
  · have hset : ∀ p, g.Feeds p id → (g.output? p).isSome := by
      intro p hp
      have hmem := hwiring.wellFormed.producer_mem hp
      rw [hwiring.nodeIds] at hmem
      exact hg.outputs p hmem
    have hid' : id ∈ g.nodeIds := by rwa [hwiring.nodeIds]
    exact absurd heq (resolve_of_set hid' List.not_mem_nil hset (.cycle n) g')

/-! ## Cycles and errors -/

/-- A pass that succeeds comes upon no cycle. -/
theorem propagate_no_cycle (hg : g.WellFormed)
    (h : Journal.propagate depth limit path id g = (log, .done () g')) (hn : g.Leads id n) :
    ¬g.Precedes n n := by
  induction limit generalizing path id g log g' with
  | zero => cases h
  | succ limit ih =>
    rcases hn.eq_or_precedes with rfl | hp
    · exact propagate_no_way_back hg h
    · obtain ⟨c, hc, hl⟩ := hp.exists_consumer
      obtain ⟨g₂, log₂, g₃, hg₂, he₂, hnext⟩ := propagate_consumer hg h hc
      rw [← leads_congr he₂] at hl
      rw [← precedes_congr he₂]
      exact ih hg₂ hnext hl

/-- A computation on `g` ends. It succeeds, or it fails for a cycle, and the node that it
names lies on one; so it succeeds where no way leads back. -/
structure Truthful (g : Graph) (o : Outcome GraphError Graph Unit) : Prop where
  sound : (∃ g', o = .done () g') ∨ ∃ n g', o = .failed (.cycle n) g' ∧ g.Precedes n n
  acyclic : g.Acyclic → ∃ g', o = .done () g'

/-- A computation fails for a cycle. -/
def FailsByCycle (o : Outcome GraphError Graph Unit) : Prop := ∃ n g', o = .failed (.cycle n) g'

/-- The node leads to a cycle. -/
def LeadsToCycle (g : Graph) (id : NodeId) : Prop := ∃ n, g.Leads id n ∧ g.Precedes n n

theorem Reports.truthful {x : Journal Unit} {I : Graph → Prop}
    (hx : Reports depth x g I fun n => top.Precedes n n)
    (hends : ∀ ev ∈ (x g).1, ev.Ends depth) : Truthful top (x.erase g) := by
  rcases hx hends with ⟨_, g', heq, -⟩ | ⟨n, g', heq, hcycle⟩
  · exact ⟨Or.inl ⟨g', heq⟩, fun _ => ⟨g', heq⟩⟩
  · exact ⟨Or.inr ⟨n, g', heq, hcycle⟩, fun hac => absurd hcycle (hac n)⟩

theorem recomputeAll_truthful (hg : g.WellFormed)
    (hends : ∀ ev ∈ (Journal.recomputeAll depth g).1, ev.Ends depth) :
    Truthful g (recomputeAll depth g) := by
  have hids := nodeIds_clearOutputs g
  have hcleared : SameWiring g g.clearOutputs := ⟨hg.clearOutputs, rfl, hids⟩
  have hreports : Reports depth (Journal.recomputeUnset depth g.clearOutputs.nodeIds)
      g.clearOutputs (SameWiring g) fun n => g.Precedes n n :=
    recomputeUnset_reports (fun _ hx => hids ▸ hx) hcleared
  rw [← Journal.erase_recomputeAll]
  exact hreports.truthful hends

/-- A pass that succeeds has met no cycle, so where there is one the pass fails. -/
theorem Truthful.failsByCycle (hg : g.WellFormed)
    (h : Truthful g (recomputeDownstream depth id g)) (hcycle : g.LeadsToCycle id) :
    FailsByCycle (recomputeDownstream depth id g) := by
  rcases h.sound with ⟨g', hdone⟩ | ⟨n, g', hfailed, -⟩
  · obtain ⟨n, hl, hp⟩ := hcycle
    rw [← Journal.erase_recomputeDownstream] at hdone
    have hpass : Journal.recomputeDownstream depth id g = (_, .done () g') := Prod.ext rfl hdone
    exact absurd hp (propagate_no_cycle hg hpass hl)
  · exact ⟨n, g', hfailed⟩

/-- Where all nodes have outputs, no node but those downstream is looked at. -/
theorem leadsToCycle_of_set (hg : g.WellFormed) (hid : id ∈ g.nodeIds)
    (hset : ∀ n ∈ g.nodeIds, (g.output? n).isSome)
    (hends : ∀ ev ∈ (Journal.recomputeDownstream depth id g).1, ev.Ends depth)
    (h : FailsByCycle (recomputeDownstream depth id g)) : g.LeadsToCycle id := by
  have hall : AllSet g g := ⟨⟨hg, rfl, rfl⟩, hset⟩
  have hreports : Reports depth (Journal.recomputeDownstream depth id) g (AllSet g)
      fun n => g.Leads id n ∧ g.Precedes n n :=
    recomputeDownstream_reports (fun _ h => h.wiring)
      (fun _ hid _ h => recomputeWithInputs_of_set hid h) (fun _ hl hp => ⟨hl, hp⟩) hall hid
  obtain ⟨n, g', hfailed⟩ := h
  rw [← Journal.erase_recomputeDownstream] at hfailed
  rcases hreports hends with ⟨_, _, heq, -⟩ | ⟨m, _, -, hB⟩
  · exact absurd (hfailed.symm.trans heq) (by simp)
  · exact ⟨m, hB⟩

/-- Where the evaluations end, every recompute ends, and an error names a node on a cycle;
where no way leads back there is none. A pass downstream of a node fails if the node leads
to a cycle, and if all nodes have outputs it fails for no other reason. -/
theorem errors_report_cycles (depth : Nat) (g : Graph) (hg : g.WellFormed) :
    ((∀ ev ∈ (Journal.recomputeAll depth g).1, ev.Ends depth) →
      Truthful g (recomputeAll depth g)) ∧
    ∀ id ∈ g.nodeIds,
      ((∀ ev ∈ (Journal.recomputeWithInputs depth id g).1, ev.Ends depth) →
        Truthful g (recomputeWithInputs depth id g)) ∧
      ((∀ ev ∈ (Journal.recomputeDownstream depth id g).1, ev.Ends depth) →
        Truthful g (recomputeDownstream depth id g) ∧
        (g.LeadsToCycle id → FailsByCycle (recomputeDownstream depth id g)) ∧
        ((∀ n ∈ g.nodeIds, (g.output? n).isSome) →
          (FailsByCycle (recomputeDownstream depth id g) ↔ g.LeadsToCycle id))) := by
  have hself : SameWiring g g := ⟨hg, rfl, rfl⟩
  refine ⟨recomputeAll_truthful hg, fun id hid => ⟨?_, ?_⟩⟩
  · intro hends
    rw [← Journal.erase_recomputeWithInputs]
    exact (recomputeWithInputs_reports hid hself).truthful hends
  · intro hends
    have htruthful : Truthful g (recomputeDownstream depth id g) := by
      rw [← Journal.erase_recomputeDownstream]
      exact (recomputeDownstream_reports (fun _ h => h)
        (fun _ hid _ h => recomputeWithInputs_reports hid h) (fun _ _ hp => hp) hself
        hid).truthful hends
    exact ⟨htruthful, htruthful.failsByCycle hg,
      fun hset => ⟨leadsToCycle_of_set hg hid hset hends, htruthful.failsByCycle hg⟩⟩

/-- The sample with all outputs, and an edge back from the third node to the second. -/
def loopedSample : Graph := recomputedSample.edit (.addEdge 2 1)

/-- The first node leads to the cycle and does not lie on it; the fourth does not lead there. -/
theorem loopedSample_reports_its_cycle :
    Truthful loopedSample (recomputeAll 20 loopedSample) ∧
    FailsByCycle (recomputeDownstream 20 0 loopedSample) ∧
    (FailsByCycle (recomputeDownstream 20 3 loopedSample) ↔ loopedSample.LeadsToCycle 3) := by
  obtain ⟨hall, hnode⟩ := errors_report_cycles 20 loopedSample (by decide +kernel)
  have h₁ : loopedSample.Feeds 0 1 := by decide +kernel
  have h₂ : loopedSample.Feeds 1 2 := by decide +kernel
  have h₃ : loopedSample.Feeds 2 1 := by decide +kernel
  have hcycle : loopedSample.LeadsToCycle 0 := ⟨1, h₁.leads, h₂.precedes.trans h₃.precedes⟩
  refine ⟨hall (by decide +kernel), ?_, ?_⟩
  · exact ((hnode 0 (by decide +kernel)).2 (by decide +kernel)).2.1 hcycle
  · exact ((hnode 3 (by decide +kernel)).2 (by decide +kernel)).2.2 (by decide +kernel)

end Graph

end Patchbay
