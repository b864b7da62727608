-- Graphs whose edges were asked about before they were added. An edge that closes
-- no cycle leaves a graph without cycles, and no other request adds edges, so no
-- recompute of such a graph comes upon a cycle, whatever its sources do.
import Patchbay.Proofs.CycleErrors
import Patchbay.Proofs.CycleSearch
import Patchbay.Proofs.Histories

namespace Patchbay

open Patchbay.Language

namespace Graph

variable {depth : Nat} {g g' top : Graph} {a b c p : NodeId} {id n : NodeId}

/-! ## One more edge -/

/-- A way in a graph with one more edge is a way without it, or goes through it. -/
theorem precedes_joined (hsub : ∀ e ∈ g'.edges, e ∈ g.edges ∨ e = ⟨p, c⟩)
    (h : g'.Precedes a b) : g.Precedes a b ∨ g.Leads a p ∧ g.Leads c b := by
  have hedge : ∀ {x y}, g'.Feeds x y → g.Feeds x y ∨ x = p ∧ y = c := by
    intro x y hf
    rcases hsub _ hf with hf | heq
    · exact Or.inl hf
    · cases heq
      exact Or.inr ⟨rfl, rfl⟩
  induction h with
  | single hf =>
    rcases hedge hf with hf | ⟨rfl, rfl⟩
    · exact Or.inl hf.precedes
    · exact Or.inr ⟨Leads.refl g _, Leads.refl g _⟩
  | tail _ hf ih =>
    rcases hedge hf with hf | ⟨rfl, rfl⟩
    · rcases ih with ih | ⟨hp, hc⟩
      · exact Or.inl (ih.trans hf.precedes)
      · exact Or.inr ⟨hp, hc.trans hf.leads⟩
    · rcases ih with ih | ⟨hp, -⟩
      · exact Or.inr ⟨ih.leads, Leads.refl g _⟩
      · exact Or.inr ⟨hp, Leads.refl g _⟩

/-- The edge from `p` to `c` closes no cycle where no way leads from `c` to `p`. -/
theorem Acyclic.join (hac : g.Acyclic) (hsub : ∀ e ∈ g'.edges, e ∈ g.edges ∨ e = ⟨p, c⟩)
    (hno : ¬g.Leads c p) : g'.Acyclic := by
  intro id hid
  rcases precedes_joined hsub hid with h | ⟨hp, hc⟩
  · exact hac id h
  · exact hno (hc.trans hp)

theorem Acyclic.of_subset (hac : g.Acyclic) (hsub : g'.edges ⊆ g.edges) : g'.Acyclic :=
  fun id hid => hac id (Relation.TransGen.mono (fun _ _ hf => hsub hf) _ _ hid)

/-! ## Requests that keep the edges acyclic -/

/-- The request adds no edge but one that closes no cycle, and loads nothing. -/
def guards (g : Graph) : Request → Bool
  | .edit (.addEdge producer consumer) => !g.createsCycle producer consumer
  | .loadData _ | .load _ => false
  | _ => true

/-- Each of the requests does so in the graph that it finds. -/
def guarded (depth : Nat) : Graph → List Request → Bool
  | _, [] => true
  | g, r :: rest => g.guards r && guarded depth (g.after depth r) rest

theorem guarded_append {before later : List Request}
    (h : guarded depth g (before ++ later) = true) : guarded depth g before = true := by
  induction before generalizing g with
  | nil => rfl
  | cons r before ih =>
    obtain ⟨hguards, hrest⟩ := Bool.and_eq_true_iff.mp h
    exact Bool.and_eq_true_iff.mpr ⟨hguards, ih hrest⟩

theorem edges_getD {o : Option Graph} (h : ∀ g', o = some g' → g'.edges ⊆ g.edges) :
    (o.getD g).edges ⊆ g.edges := by
  cases o with
  | none => exact List.Subset.refl _
  | some g' => exact h g' rfl

theorem edges_updateNode {f : Node → Node} (h : g.updateNode id f = .ok g') :
    g'.edges ⊆ g.edges := by
  unfold updateNode at h
  split at h
  · cases h
  · cases h
    exact List.Subset.refl _

theorem edges_evaluateIn {s : ScopeId} {source : String}
    (h : (evaluateIn depth s source g).state? = some g') : g'.edges ⊆ g.edges := by
  unfold Graph.evaluateIn at h
  split at h
  case h_3 => cases h
  all_goals
    cases h
    exact List.Subset.refl _

/-- A request that is not about loading adds no edge but the one that it is about. -/
theorem edges_after (hg : g.WellFormed) (depth : Nat) {r : Request} (hr : g.guards r = true) :
    (g.after depth r).edges ⊆ g.edges ∨ ∃ p c, r = .edit (.addEdge p c) ∧
      (g.after depth r).edges = g.edges ++ [⟨p, c⟩] := by
  cases r with
  | addNode source => exact Or.inl (List.Subset.refl _)
  | deleteNode id =>
    refine Or.inl (edges_getD fun g' h => ?_)
    rcases hd : g.deleteNode id with e | ⟨node, g₁⟩
    · rw [hd] at h
      cases h
    · rw [hd] at h
      cases h
      unfold Graph.deleteNode at hd
      split at hd
      · cases hd
      · cases hd
        exact List.filter_subset_self _
  | edit e =>
    cases e with
    | setSource id source =>
      exact Or.inl (edges_getD fun g' h => edges_updateNode (ok_of_toOption h))
    | addEdge p c =>
      rcases edit_addEdge g p c with h | ⟨-, -, h⟩
      · have hsame : (g.after depth (.edit (.addEdge p c))).edges = g.edges :=
          congrArg Graph.edges h
        exact Or.inl (hsame ▸ List.Subset.refl _)
      · exact Or.inr ⟨p, c, rfl, congrArg Graph.edges h⟩
    | removeEdge p c => exact Or.inl List.erase_subset
  | setTitle | setPosition | setSize | clearOutput =>
    exact Or.inl (edges_getD fun g' h => edges_updateNode (ok_of_toOption h))
  | clearOutputs => exact Or.inl (List.Subset.refl _)
  | loadData => cases hr
  | load => cases hr
  | recomputeWithInputs id =>
    exact Or.inl (edges_getD fun g' h => (frame_recomputeWithInputs hg h).edges ▸ .refl _)
  | recomputeDownstream id =>
    exact Or.inl (edges_getD fun g' h => (frame_recomputeDownstream hg h).edges ▸ .refl _)
  | recomputeAll =>
    exact Or.inl (edges_getD fun g' h => (frame_recomputeAll hg h).edges ▸ .refl _)
  | evaluate s source => exact Or.inl (edges_getD fun g' h => edges_evaluateIn h)

/-- One request. -/
theorem Acyclic.after (hac : g.Acyclic) (hg : g.WellFormed) (depth : Nat) {r : Request}
    (hr : g.guards r = true) : (g.after depth r).Acyclic := by
  rcases edges_after hg depth hr with hsub | ⟨p, c, rfl, hedges⟩
  · exact hac.of_subset hsub
  · refine hac.join (p := p) (c := c) ?_ ?_
    · intro e he
      rw [hedges] at he
      exact (List.mem_append.mp he).imp_right List.mem_singleton.mp
    · have hno : g.createsCycle p c = false := by simpa [guards] using hr
      rw [← createsCycle_iff_leads, hno]
      exact Bool.false_ne_true

theorem history_acyclic (hac : g.Acyclic) (hg : g.WellFormed) {requests : List Request}
    (hr : guarded depth g requests = true) : (history depth g requests).Acyclic := by
  induction requests generalizing g with
  | nil => exact hac
  | cons r rest ih =>
    obtain ⟨hguards, hrest⟩ := Bool.and_eq_true_iff.mp hr
    exact ih (hac.after hg depth hguards) (hg.after depth r) hrest

theorem empty_acyclic : empty.Acyclic := acyclic_of_rank (fun _ => 0) nofun

/-! ## Recomputes of acyclic graphs -/

/-- The evaluations that a run of steps is made of came to an end. -/
theorem Steps.ends {ok : Graph → Event → Prop} {log : List Event}
    (h : Steps depth ok g log g') : ∀ ev ∈ log, ev.Ends depth := by
  induction h with
  | nil => exact List.forall_mem_nil _
  | cons hs _ _ ih =>
    refine List.forall_mem_cons.mpr ⟨?_, ih⟩
    cases hs with
    | opened => trivial
    | refused => trivial
    | ran _ _ _ hr =>
      intro hexhausted
      rw [hexhausted] at hr
      cases hr

/-- A computation that fails has made its steps, so its evaluations have ended, and it names a
node on a cycle. Where there is none, it does not fail for one. -/
theorem Reports.no_cycle {ok : Graph → Event → Prop} {x : Journal Unit} {I : Graph → Prop}
    (hx : Reports depth x g I fun n => top.Precedes n n) (hac : top.Acyclic)
    (hmakes : Makes depth ok g.edges x) (hg : g.WellFormed) (n : NodeId) (g' : Graph) :
    x.erase g ≠ .failed (.cycle n) g' := by
  intro h
  have hsteps := hmakes g hg rfl g' (congrArg Outcome.state? h)
  obtain ⟨g'', hdone⟩ := (hx.truthful hsteps.ends).acyclic hac
  rw [hdone] at h
  cases h

/-- No recompute fails for a cycle. -/
structure MeetsNoCycle (depth : Nat) (g : Graph) : Prop where
  withInputs : ∀ id n g', recomputeWithInputs depth id g ≠ .failed (.cycle n) g'
  downstream : ∀ id n g', recomputeDownstream depth id g ≠ .failed (.cycle n) g'
  all : ∀ n g', recomputeAll depth g ≠ .failed (.cycle n) g'

theorem recomputeWithInputs_of_unknown (depth : Nat) (hid : id ∉ g.nodeIds) :
    Journal.recomputeWithInputs depth id g = ([], .failed (.unknownNode id) g) :=
  Journal.resolve_of_unknown List.not_mem_nil (node?_eq_none_iff.mpr hid)

theorem recomputeDownstream_of_unknown (depth : Nat) (hid : id ∉ g.nodeIds) :
    Journal.recomputeDownstream depth id g = ([], .failed (.unknownNode id) g) :=
  (Journal.propagate_of_free List.not_mem_nil g).trans
    (Journal.bind_of_failed (recomputeWithInputs_of_unknown depth hid))

theorem Acyclic.meetsNoCycle (hac : g.Acyclic) (hg : g.WellFormed) (depth : Nat) :
    MeetsNoCycle depth g := by
  have hself : SameWiring g g := ⟨hg, rfl, rfl⟩
  refine ⟨fun id => ?_, fun id => ?_, ?_⟩
  · rw [← Journal.erase_recomputeWithInputs]
    by_cases hid : id ∈ g.nodeIds
    · exact (recomputeWithInputs_reports hid hself).no_cycle hac
        (recomputeWithInputs_makes depth id g.edges) hg
    · intro n g' h
      have hfails := congrArg Prod.snd (recomputeWithInputs_of_unknown depth hid)
      cases hfails.symm.trans h
  · rw [← Journal.erase_recomputeDownstream]
    by_cases hid : id ∈ g.nodeIds
    · have hreports : Reports depth (Journal.recomputeDownstream depth id) g (SameWiring g)
          fun n => g.Precedes n n :=
        recomputeDownstream_reports (fun _ h => h)
          (fun _ hid _ h => recomputeWithInputs_reports hid h) (fun _ _ hp => hp) hself hid
      have hmakes : Makes depth (Allowed fun _ => True) g.edges
          (Journal.recomputeDownstream depth id) :=
        recomputeDownstream_makes depth (fun _ _ _ _ => trivial) trivial
      exact hreports.no_cycle hac hmakes hg
    · intro n g' h
      have hfails := congrArg Prod.snd (recomputeDownstream_of_unknown depth hid)
      cases hfails.symm.trans h
  · intro n g'
    have hids := nodeIds_clearOutputs g
    have hreports : Reports depth (Journal.recomputeUnset depth g.clearOutputs.nodeIds)
        g.clearOutputs (SameWiring g) fun n => g.Precedes n n :=
      recomputeUnset_reports (fun _ hx => hids ▸ hx) ⟨hg.clearOutputs, rfl, hids⟩
    rw [← Journal.erase_recomputeAll]
    exact hreports.no_cycle hac (recomputeUnset_makes depth _ _) hg.clearOutputs n g'

/-! ## The question and what it is asked for -/

/-- The answer is yes exactly for an edge from a node to itself or back along a way. The search
may take the consumers of a node in any order: it ends after no more visits than there are
edges and one, and comes to the same answer. Where every edge was asked about before it was
added, at no point of the sequence does a way lead back to a node or a recompute fail for a
cycle. -/
theorem createsCycle_is_exact_and_guards :
    (∀ (g : Graph) (producer consumer : NodeId),
      (g.createsCycle producer consumer = true ↔
        producer = consumer ∨ g.Precedes consumer producer) ∧
      ∀ n s, Visits g producer n ⟨[consumer], []⟩ s →
        n ≤ g.edges.length + 1 ∧
        ((∀ t, ¬Visit g producer s t) →
          (s.stack.head? = some producer ↔ g.createsCycle producer consumer = true))) ∧
    ∀ (depth : Nat) (before later : List Request),
      guarded depth empty (before ++ later) = true →
        (history depth empty before).Acyclic ∧ MeetsNoCycle depth (history depth empty before) := by
  refine ⟨fun g producer consumer => ⟨?_, fun n s hvisits => ⟨?_, fun hstop => ?_⟩⟩, ?_⟩
  · rw [createsCycle_iff_leads]
    constructor
    · exact Leads.eq_or_precedes
    · rintro (rfl | hp)
      · exact Leads.refl g producer
      · exact hp.leads
  · have hwork := hvisits.work
    rw [work_start] at hwork
    omega
  · rw [createsCycle_iff_leads]
    exact ((covers_start g producer consumer).visits hvisits).head?_iff hstop
  · intro depth before later hguarded
    have hac := history_acyclic empty_acyclic empty_wellFormed (guarded_append hguarded)
    exact ⟨hac, hac.meetsNoCycle (history_wellFormed empty_wellFormed depth before) depth⟩

/-- Three nodes in a row, with an edge twice, and a recompute between the edges. -/
def askedRequests : List Request :=
  [.addNode "1", .addNode "a", .addNode "a", .edit (.addEdge 0 1), .recomputeAll,
    .edit (.addEdge 0 1), .edit (.addEdge 1 2)]

theorem askedRequests_close_no_cycle :
    (history 20 empty askedRequests).edges = [⟨0, 1⟩, ⟨0, 1⟩, ⟨1, 2⟩] ∧
      (history 20 empty askedRequests).createsCycle 2 0 = true ∧
      MeetsNoCycle 20 (history 20 empty askedRequests) := by
  obtain ⟨hexact, hguards⟩ := createsCycle_is_exact_and_guards
  have hedges : (history 20 empty askedRequests).edges = [⟨0, 1⟩, ⟨0, 1⟩, ⟨1, 2⟩] := by
    decide +kernel
  refine ⟨hedges, ?_, (hguards 20 askedRequests [] (by decide +kernel)).2⟩
  have h₁ : (history 20 empty askedRequests).Feeds 0 1 := by simp [Feeds, hedges]
  have h₂ : (history 20 empty askedRequests).Feeds 1 2 := by simp [Feeds, hedges]
  exact (hexact _ 2 0).1.mpr (Or.inr (h₁.precedes.trans h₂.precedes))

end Graph

end Patchbay
