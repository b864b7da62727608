-- The full recompute. Where no way leads back and the evaluations end, it
-- succeeds, evaluates each source once at most, after the producers of its
-- node are done, and leaves each node with the output that its source and the
-- outputs of its producers call for.
import Patchbay.Proofs.Reports

namespace Patchbay

open Patchbay.Language

namespace Graph

variable {depth : Nat} {g g' : Graph} {id m n p : NodeId} {ev : Event} {log : List Event}
  {xs : List NodeId}

/-! ## Success -/

/-- Where all evaluations in its journal end, `x` succeeds from `g`, and `I` holds then. -/
def Succeeds {α : Type} (depth : Nat) (x : Journal α) (g : Graph) (I : Graph → Prop) : Prop :=
  (∀ ev ∈ (x g).1, ev.Ends depth) → ∃ a g', (x g).2 = .done a g' ∧ I g'

/-- What reports only what cannot be succeeds. -/
theorem Reports.succeeds {α : Type} {x : Journal α} {I : Graph → Prop} {B : NodeId → Prop}
    (hx : Reports depth x g I B) (hB : ∀ n, ¬B n) : Succeeds depth x g I := by
  intro hends
  rcases hx hends with hdone | ⟨n, -, -, hn⟩
  · exact hdone
  · exact absurd hn (hB n)

theorem recomputeUnset_succeeds {top : Graph} (hac : top.Acyclic) (hg : SameWiring top g)
    (hxs : ∀ x ∈ xs, x ∈ top.nodeIds) :
    Succeeds depth (Journal.recomputeUnset depth xs) g (SameWiring top) :=
  (recomputeUnset_reports hxs hg).succeeds hac

theorem recomputeIfUnset_sets (hg : g.WellFormed)
    (h : Journal.recomputeIfUnset depth id g = (log, .done () g')) : (g'.output? id).isSome := by
  rcases hn : g.node? id with _ | node
  · rw [Journal.recomputeIfUnset_of_unknown hn] at h
    cases h
  · rcases ho : node.output with _ | out
    · have hres := recomputeWithInputs_resolves depth id hg
      rw [Journal.recomputeIfUnset_of_unset hn ho] at h
      rw [h] at hres
      obtain ⟨inner, g₁, ev, -, -, hstep, hset⟩ := hres
      exact hstep.output_of_settles hset
    · rw [Journal.recomputeIfUnset_of_output hn (by rw [ho]; rfl)] at h
      cases h
      rw [output?_of_node? hn, ho]
      rfl

/-- The nodes of the list have outputs in the end. -/
theorem recomputeUnset_sets (hg : g.WellFormed)
    (h : Journal.recomputeUnset depth xs g = (log, .done () g')) :
    ∀ x ∈ xs, (g'.output? x).isSome := by
  induction xs generalizing g log with
  | nil => simp
  | cons x xs ih =>
    obtain ⟨log₁, g₁, log₂, hone, hrest, -⟩ := Journal.forEach_cons_eq_done h
    have hsteps := (recomputeIfUnset_makes depth x g.edges).steps_of_done hg rfl hone
    have hg₁ := hsteps.frame.wellFormed hg
    have hlater := (recomputeUnset_makes depth xs g₁.edges).steps_of_done hg₁ rfl hrest
    intro y hy
    rcases List.mem_cons.mp hy with rfl | hy
    · exact hlater.output_isSome (recomputeIfUnset_sets hg hone)
    · exact ih hg₁ hrest y hy

/-! ## The specification -/

/-- Of a run over nodes without output, the event that settles a node is its latest one. -/
theorem latest?_of_nodup (hnd : (log.filterMap Event.settles?).Nodup) (hev : ev ∈ log)
    (hset : ev.settles? = some n) : latest? log n = some ev := by
  obtain ⟨before, after, rfl⟩ := List.append_of_mem hev
  rw [List.filterMap_append, List.filterMap_cons_some hset] at hnd
  have hafter : ∀ ev' ∈ after, ev'.settles? ≠ some n := by
    intro ev' hmem hset'
    have hn : n ∉ after.filterMap Event.settles? :=
      (List.nodup_cons.mp (List.nodup_append.mp hnd).2.1).1
    exact hn (List.mem_filterMap.mpr ⟨ev', hmem, hset'⟩)
  have hnone : latest? after n = none := by
    unfold latest?
    rw [List.find?_eq_none]
    intro ev' hmem
    simpa using hafter ev' (List.mem_reverse.mp hmem)
  have hsplit : before ++ ev :: after = (before ++ [ev]) ++ after := by simp
  rw [hsplit, latest?_append, hnone, latest?_concat_self _ hset]
  rfl

/-- A node that is evaluated is settled by it. -/
theorem Event.settles?_of_runs? (h : ev.runs? = some n) :
    ev.settles? = some n ∧ ∃ start, ev = .ran n start := by
  cases ev with
  | opened => cases h
  | refused => cases h
  | ran id start =>
    cases h
    exact ⟨rfl, start, rfl⟩

/-- Each node is evaluated once at most. -/
theorem Steps.runs_nodup (h : Steps depth Fresh g log g') : (log.filterMap Event.runs?).Nodup := by
  have hsub : (log.filterMap Event.runs?).Sublist (log.filterMap Event.settles?) := by
    clear h
    induction log with
    | nil => exact List.Sublist.slnil
    | cons ev log ih =>
      cases ev with
      | opened => exact ih
      | refused id => exact ih.cons id
      | ran id start => exact ih.cons_cons id
  exact h.settles_nodup.sublist hsub

/-- What a full recompute makes of `g`, where `log` is its journal. -/
structure Recomputed (depth : Nat) (g : Graph) (log : List Event) (g' : Graph) : Prop where
  /-- Every node has an output. -/
  settled : ∀ n ∈ g.nodeIds, (g'.output? n).isSome
  /-- No source is evaluated twice. -/
  once : (log.filterMap Event.runs?).Nodup
  /-- A source is evaluated when the producers of its node have their final outputs. -/
  afterProducers : ∀ n start, .ran n start ∈ log →
    ∀ p, g.Feeds p n → (start.output? p).isSome ∧ start.output? p = g'.output? p
  /-- A node is refused, and its source not evaluated, exactly when a producer has a fault. -/
  refused : ∀ n, (g'.output? n = some (.fault .input) ∧ n ∉ log.filterMap Event.runs?) ↔
    ∃ p f, g.Feeds p n ∧ g'.output? p = some (.fault f)
  /-- Otherwise its output is what its source evaluates to in its scope, which holds the
  final values of its producers under the names of the inputs and nothing else. -/
  evaluated : ∀ n node, g.node? n = some node →
    (¬∃ p f, g.Feeds p n ∧ g'.output? p = some (.fault f)) →
    ∃ start vs out st, .ran n start ∈ log ∧ g'.inputValues? n = some vs ∧
      start.store.bindings node.scope = inputBindings vs ∧
      (Language.evaluateIn depth node.scope node.source start.store).result? = some (out, st) ∧
      g'.output? n = some out

/-! ## Runs from a graph without outputs -/

/-- What settles a node explains its output in the end. -/
theorem Steps.explained (h : Steps depth Fresh g log g') (hg : g.WellFormed) (hev : ev ∈ log)
    (hset : ev.settles? = some n) : Explained depth g' n ev := by
  obtain ⟨ev', hlast, hex⟩ := h.settled hg [] (Or.inr ⟨ev, hev, hset⟩)
  rw [List.nil_append, latest?_of_nodup h.settles_nodup hev hset] at hlast
  cases hlast
  exact hex

/-- An output that was not there at first comes from some event. -/
theorem Steps.exists_settles {ok : Graph → Event → Prop} (h : Steps depth ok g log g')
    (hnone : g.output? n = none) (hn : (g'.output? n).isSome) :
    ∃ ev ∈ log, ev.settles? = some n := by
  by_contra hno
  rw [h.output?_of_not_settles fun ev hev hset => hno ⟨ev, hev, hset⟩] at hn
  simp [hnone] at hn

/-- Where a node is evaluated, its producers have values by then, which they keep. -/
theorem Steps.producers_final {start : Graph} (h : Steps depth Fresh g log g') (hg : g.WellFormed)
    (hev : .ran n start ∈ log) (hp : g'.Feeds p n) :
    (start.output? p).isSome ∧ start.output? p = g'.output? p := by
  obtain ⟨node, vs, out, st, -, hv, hstart, -⟩ := h.explained hg hev rfl
  have hedges : start.edges = g'.edges := (h.edges_of_ran hev).trans h.frame.edges.symm
  obtain ⟨v, hpv, hpv'⟩ := exists_value_both hv hstart hedges hp
  rw [hpv, hpv']
  exact ⟨rfl, rfl⟩

/-- A node that has an output is refused exactly when a producer has a fault. -/
theorem Steps.refused_iff (h : Steps depth Fresh g log g') (hg : g.WellFormed)
    (hev : ev ∈ log) (hset : ev.settles? = some n) :
    (g'.output? n = some (.fault .input) ∧ n ∉ log.filterMap Event.runs?) ↔
      ∃ p f, g'.Feeds p n ∧ g'.output? p = some (.fault f) := by
  have hex := h.explained hg hev hset
  constructor
  · rintro ⟨-, hnot⟩
    cases ev with
    | opened => exact absurd hex id
    | refused id => exact hex.1
    | ran id start =>
      cases hset
      have hmem : n ∈ log.filterMap Event.runs? := List.mem_filterMap.mpr ⟨.ran n start, hev, rfl⟩
      exact absurd hmem hnot
  · intro hfault
    cases ev with
    | opened => exact absurd hex id
    | refused id =>
      refine ⟨hex.2, ?_⟩
      intro hmem
      obtain ⟨ev', hev', hruns⟩ := List.mem_filterMap.mp hmem
      obtain ⟨hset', start, rfl⟩ := Event.settles?_of_runs? hruns
      exact (h.explained hg hev' hset').faultless hfault
    | ran id start =>
      cases hset
      exact absurd hfault hex.faultless

/-- A node without a faulty producer is evaluated on the final values of its producers. -/
theorem Steps.evaluated {node : Node} (h : Steps depth Fresh g log g') (hg : g.WellFormed)
    (hev : ev ∈ log) (hset : ev.settles? = some n) (hn : g.node? n = some node)
    (hno : ¬∃ p f, g'.Feeds p n ∧ g'.output? p = some (.fault f)) :
    ∃ start vs out st, .ran n start ∈ log ∧ g'.inputValues? n = some vs ∧
      start.store.bindings node.scope = inputBindings vs ∧
      (Language.evaluateIn depth node.scope node.source start.store).result? = some (out, st) ∧
      g'.output? n = some out := by
  have hex := h.explained hg hev hset
  cases ev with
  | opened => exact absurd hex id
  | refused id => exact absurd hex.1 hno
  | ran id start =>
    cases hset
    obtain ⟨node', vs, out, st, hn', hv, -, hb, heq, hr, hout⟩ := hex
    obtain ⟨node₀, hn₀, hp⟩ := h.frame.exists_node_before hn'
    obtain rfl : node₀ = node := Option.some.inj (hn₀.symm.trans hn)
    rw [heq, scope_eq_of_plan hp, source_eq_of_plan hp] at hr
    rw [scope_eq_of_plan hp] at hb
    exact ⟨start, vs, out, st, hev, hv, hb, hr, hout⟩

/-- Such a run leaves each node as the specification says. -/
theorem Steps.recomputed (h : Steps depth Fresh g log g') (hg : g.WellFormed)
    (hnone : ∀ n, g.output? n = none) (hall : ∀ n ∈ g.nodeIds, (g'.output? n).isSome) :
    Recomputed depth g log g' := by
  have hfeeds : g'.Feeds = g.Feeds := h.frame.feeds
  have hevent : ∀ n, (g'.output? n).isSome → ∃ ev ∈ log, ev.settles? = some n :=
    fun n hn => h.exists_settles (hnone n) hn
  refine ⟨hall, h.runs_nodup, ?_, ?_, ?_⟩
  · intro n start hev p hp
    rw [← hfeeds] at hp
    exact h.producers_final hg hev hp
  · intro n
    rw [← hfeeds]
    constructor
    · intro hrefused
      obtain ⟨ev, hev, hset⟩ := hevent n (by simp [hrefused.1])
      exact (h.refused_iff hg hev hset).mp hrefused
    · intro hfault
      have hmem : n ∈ g.nodeIds := by
        obtain ⟨p, f, hp, -⟩ := hfault
        rw [hfeeds] at hp
        exact hg.consumer_mem hp
      obtain ⟨ev, hev, hset⟩ := hevent n (hall n hmem)
      exact (h.refused_iff hg hev hset).mpr hfault
  · intro n node hn hno
    rw [← hfeeds] at hno
    obtain ⟨ev, hev, hset⟩ := hevent n (hall n (mem_nodeIds_of_node? hn))
    exact h.evaluated hg hev hset hn hno

/-! ## Clearing -/

theorem node?_clearOutputs (g : Graph) (m : NodeId) :
    g.clearOutputs.node? m = (g.node? m).map fun node => { node with output := none } := by
  unfold node? clearOutputs
  rw [List.find?_map]
  rfl

theorem output?_clearOutputs (g : Graph) (m : NodeId) : g.clearOutputs.output? m = none := by
  unfold output?
  rw [node?_clearOutputs]
  cases g.node? m <;> rfl

theorem frame_clearOutputs (g : Graph) : Frame (fun _ => True) g g.clearOutputs := by
  refine ⟨?_, rfl, rfl, rfl, fun _ hno => absurd trivial hno, Store.Within.refl _ _⟩
  unfold clearOutputs
  rw [List.map_map]
  rfl

theorem WellFormed.clearOutputs (hg : g.WellFormed) : g.clearOutputs.WellFormed :=
  (frame_clearOutputs g).wellFormed hg

theorem nodeIds_clearOutputs (g : Graph) : g.clearOutputs.nodeIds = g.nodeIds :=
  (frame_clearOutputs g).nodeIds

/-! ## What recomputes leave alone -/

/-- However a computation ends that makes steps, it works on the nodes, and on nothing else. -/
theorem Makes.frame {ok : Graph → Event → Prop} {x : Journal Unit}
    (hx : Makes depth ok g.edges x) (hg : g.WellFormed) (h : (x.erase g).state? = some g') :
    Frame (fun _ => True) g g' :=
  (hx g hg rfl g' h).frame.mono fun _ _ => trivial

theorem frame_recomputeWithInputs (hg : g.WellFormed)
    (h : (recomputeWithInputs depth id g).state? = some g') : Frame (fun _ => True) g g' := by
  rw [← Journal.erase_recomputeWithInputs] at h
  exact (recomputeWithInputs_makes depth id g.edges).frame hg h

theorem frame_recomputeDownstream (hg : g.WellFormed)
    (h : (recomputeDownstream depth id g).state? = some g') : Frame (fun _ => True) g g' := by
  rw [← Journal.erase_recomputeDownstream] at h
  have hmakes : Makes depth (Allowed fun _ => True) g.edges
      (Journal.recomputeDownstream depth id) :=
    recomputeDownstream_makes depth (fun _ _ _ _ => trivial) trivial
  exact hmakes.frame hg h

theorem frame_recomputeAll (hg : g.WellFormed) (h : (recomputeAll depth g).state? = some g') :
    Frame (fun _ => True) g g' := by
  rw [← Journal.erase_recomputeAll] at h
  have hmakes := recomputeUnset_makes depth g.clearOutputs.nodeIds g.clearOutputs.edges
  exact (frame_clearOutputs g).trans (hmakes.frame hg.clearOutputs h)

/-! ## The full recompute -/

theorem journal_recomputeAll_of_done (h : recomputeAll depth g = .done () g') :
    Journal.recomputeAll depth g = ((Journal.recomputeAll depth g).1, .done () g') := by
  rw [← Journal.erase_recomputeAll] at h
  exact Prod.ext rfl h

/-- A full recompute that succeeds makes its steps on nodes that have no output by then. -/
theorem recomputeAll_steps (hg : g.WellFormed) (h : recomputeAll depth g = .done () g') :
    Steps depth Fresh g.clearOutputs (Journal.recomputeAll depth g).1 g' :=
  (recomputeUnset_makes depth g.clearOutputs.nodeIds g.clearOutputs.edges).steps_of_done
    hg.clearOutputs rfl (journal_recomputeAll_of_done h)

theorem recomputeAll_sets (hg : g.WellFormed) (h : recomputeAll depth g = .done () g') :
    ∀ n ∈ g.nodeIds, (g'.output? n).isSome := by
  rw [← nodeIds_clearOutputs]
  exact recomputeUnset_sets hg.clearOutputs (journal_recomputeAll_of_done h)

theorem recomputeAll_done (hg : g.WellFormed) (hac : g.Acyclic)
    (hends : ∀ ev ∈ (Journal.recomputeAll depth g).1, ev.Ends depth) :
    ∃ g', recomputeAll depth g = .done () g' := by
  rw [← Journal.erase_recomputeAll]
  have hwiring : SameWiring g.clearOutputs g.clearOutputs := ⟨hg.clearOutputs, rfl, rfl⟩
  have hac₀ : g.clearOutputs.Acyclic := hac
  obtain ⟨u, g', hdone, -⟩ := recomputeUnset_succeeds hac₀ hwiring (fun _ hx => hx) hends
  exact ⟨g', hdone⟩

/-- Where no way leads back and the evaluations end, a full recompute succeeds, and
leaves the graph as the specification says, whatever outputs and names there were before. -/
theorem recomputeAll_meets_its_specification (depth : Nat) (g : Graph) (hg : g.WellFormed)
    (hac : g.Acyclic) (hends : ∀ ev ∈ (Journal.recomputeAll depth g).1, ev.Ends depth) :
    ∃ g', recomputeAll depth g = .done () g' ∧
      Recomputed depth g (Journal.recomputeAll depth g).1 g' := by
  obtain ⟨g', hdone⟩ := recomputeAll_done hg hac hends
  have hall := recomputeAll_sets hg hdone
  have hall₀ : ∀ n ∈ g.clearOutputs.nodeIds, (g'.output? n).isSome := by
    rw [nodeIds_clearOutputs]
    exact hall
  have hsteps := recomputeAll_steps hg hdone
  have hspec := hsteps.recomputed hg.clearOutputs (output?_clearOutputs g) hall₀
  refine ⟨g', hdone, hall, hspec.once, hspec.afterProducers, hspec.refused, ?_⟩
  intro n node hn hno
  have hn₀ : g.clearOutputs.node? n = some { node with output := none } := by
    rw [node?_clearOutputs, hn]
    rfl
  exact hspec.evaluated n { node with output := none } hn₀ hno

theorem sample_meets_its_specification : ∃ g', recomputeAll 20 sample = .done () g' ∧
    Recomputed 20 sample (Journal.recomputeAll 20 sample).1 g' :=
  recomputeAll_meets_its_specification 20 sample sample_wellFormed sample_acyclic
    (by decide +kernel)

end Graph

end Patchbay
