-- A pass downstream of a node. It runs some nodes more than once, along each
-- way to them, and on the way back along other edges it resolves nodes without
-- output. Where it succeeds, what the last turn of a node establishes lasts to
-- the end, so each node that the pass comes to is computed from the outputs
-- that its producers have in the end.
import Patchbay.Proofs.Recomputing

namespace Patchbay

open Patchbay.Language

namespace Graph

variable {depth limit : Nat} {g g' g₁ : Graph} {id m n : NodeId} {ev : Event}
  {log before : List Event} {path cs : List NodeId}

/-! ## Computations that succeed -/

namespace Journal

theorem propagate_eq_done (h : propagate depth (limit + 1) path id g = (log, .done () g')) :
    id ∉ path ∧ ∃ log₁ g₁ log₂, recomputeWithInputs depth id g = (log₁, .done () g₁) ∧
      forEach (propagate depth limit (id :: path)) (g₁.consumersOf id) g₁ = (log₂, .done () g') ∧
      log = log₁ ++ log₂ := by
  unfold propagate at h
  split at h
  · cases h
  case isFalse hpath =>
    refine ⟨fun hid => hpath (List.contains_iff_mem.mpr hid), ?_⟩
    obtain ⟨log₁, u, g₁, log₂, hx, hrest, rfl⟩ := bind_eq_done h
    exact ⟨log₁, g₁, log₂, hx, hrest, rfl⟩

end Journal

/-! ## Where a pass cannot succeed -/

/-- A pass makes its steps on nodes that it may touch. -/
theorem propagate_steps (hg : g.WellFormed)
    (h : Journal.propagate depth limit path id g = (log, .done () g')) :
    Steps depth (Allowed (g.Leads id)) g log g' := by
  have hclosed : ∀ a b, g.Leads id a → ⟨a, b⟩ ∈ g.edges → g.Leads id b :=
    fun a b ha hab => (ha.trans_feeds hab).leads
  exact (propagate_makes depth limit path hclosed (Leads.refl g id)).steps_of_done hg rfl h

theorem recomputeWithInputs_steps (hg : g.WellFormed)
    (h : Journal.recomputeWithInputs depth id g = (log, .done () g')) :
    Steps depth (Allowed (· = id)) g log g' :=
  (recomputeWithInputs_makes depth id g.edges).steps_of_done hg rfl h

/-- Where a list of computations succeeds, each of them does in some graph on the way. -/
theorem exists_turn {ok : Graph → Event → Prop} {edges : List Edge} {f : NodeId → Journal Unit}
    {c : NodeId} (hf : ∀ c ∈ cs, Makes depth ok edges (f c)) (hg : g.WellFormed)
    (he : g.edges = edges) (h : Journal.forEach f cs g = (log, .done () g')) (hc : c ∈ cs) :
    ∃ g₂ log₂ g₃, g₂.WellFormed ∧ g₂.edges = edges ∧ f c g₂ = (log₂, .done () g₃) := by
  induction cs generalizing g log with
  | nil => cases hc
  | cons d cs ih =>
    obtain ⟨log₁, g₁, log₂, hone, hrest, -⟩ := Journal.forEach_cons_eq_done h
    rcases List.mem_cons.mp hc with rfl | hc
    · exact ⟨g, log₁, g₁, hg, he, hone⟩
    · have hsteps := (hf d List.mem_cons_self).steps_of_done hg he hone
      exact ih (fun d hd => hf d (List.mem_cons_of_mem _ hd)) (hsteps.frame.wellFormed hg)
        (hsteps.frame.edges.trans he) hrest hc

/-- A pass that succeeds runs each consumer, and the node waits for it. -/
theorem propagate_consumer {c : NodeId} (hg : g.WellFormed)
    (h : Journal.propagate depth (limit + 1) path id g = (log, .done () g')) (hc : g.Feeds id c) :
    ∃ g₂ log₂ g₃, g₂.WellFormed ∧ g₂.edges = g.edges ∧
      Journal.propagate depth limit (id :: path) c g₂ = (log₂, .done () g₃) := by
  obtain ⟨-, log₁, g₁, log₂, hone, hrest, -⟩ := Journal.propagate_eq_done h
  have hsteps := recomputeWithInputs_steps hg hone
  have he₁ : g₁.edges = g.edges := hsteps.frame.edges
  rw [← feeds_congr he₁] at hc
  have hmakes : ∀ c ∈ g₁.consumersOf id, Makes depth (Allowed fun _ => True) g.edges
      (Journal.propagate depth limit (id :: path) c) :=
    fun c _ => propagate_makes depth limit (id :: path) (fun _ _ _ _ => trivial) trivial
  exact exists_turn hmakes (hsteps.frame.wellFormed hg) he₁ hrest (mem_consumersOf.mpr hc)

/-- A pass that succeeds comes upon no node that it is in the middle of. -/
theorem propagate_avoids_path (hg : g.WellFormed)
    (h : Journal.propagate depth limit path id g = (log, .done () g')) (hn : g.Leads id n) :
    n ∉ path := by
  induction limit generalizing path id g log g' with
  | zero => cases h
  | succ limit ih =>
    rcases hn.eq_or_precedes with rfl | hp
    · exact (Journal.propagate_eq_done h).1
    · obtain ⟨c, hc, hl⟩ := hp.exists_consumer
      obtain ⟨g₂, log₂, g₃, hg₂, he₂, hone⟩ := propagate_consumer hg h hc
      rw [← leads_congr he₂] at hl
      exact fun hpath => ih hg₂ hone hl (List.mem_cons_of_mem _ hpath)

/-- Where a pass succeeds, no way leads back to where it starts. -/
theorem propagate_no_way_back (hg : g.WellFormed)
    (h : Journal.propagate depth limit path id g = (log, .done () g')) : ¬g.Precedes id id := by
  intro hp
  cases limit with
  | zero => cases h
  | succ limit =>
    obtain ⟨c, hc, hl⟩ := hp.exists_consumer
    obtain ⟨g₂, log₂, g₃, hg₂, he₂, hone⟩ := propagate_consumer hg h hc
    rw [← leads_congr he₂] at hl
    exact propagate_avoids_path hg₂ hone hl List.mem_cons_self

/-! ## What lasts -/

/-- What holds of a node `n` from its turn on. `I` holds all the way, and in each graph
the ways are those of `top`. -/
structure Lasting (depth : Nat) (top : Graph) (I : List Event → Graph → Prop)
    (P : List Event → Graph → NodeId → Prop) : Prop where
  wellFormed : ∀ {before g}, I before g → g.WellFormed
  edges : ∀ {before g}, I before g → g.edges = top.edges
  step : ∀ {before g ev g'}, I before g → Step depth g ev g' → I (before ++ [ev]) g'
  /-- The turn of a node that does not come before itself brings it about. -/
  start : ∀ {before g log g' id}, I before g → ¬top.Precedes id id →
    Journal.recomputeWithInputs depth id g = (log, .done () g') → P (before ++ log) g' id
  /-- A pass downstream of `c` does not undo it for a node off that pass. -/
  keep : ∀ {before g ev g' c n}, I before g → P before g n → Step depth g ev g' →
    Allowed (top.Leads c) g ev → ¬top.Leads c n → P (before ++ [ev]) g' n

namespace Lasting

variable {top : Graph} {I : List Event → Graph → Prop} {P : List Event → Graph → NodeId → Prop}
  (hP : Lasting depth top I P)
include hP

theorem steps {ok : Graph → Event → Prop} (hI : I before g) (h : Steps depth ok g log g') :
    I (before ++ log) g' :=
  Steps.induction (fun _ _ _ _ hI _ hs => hP.step hI hs) h before hI

theorem keep_steps {c : NodeId} (hI : I before g) (hn : P before g n) (hc : ¬top.Leads c n)
    (h : Steps depth (Allowed (top.Leads c)) g log g') : P (before ++ log) g' n := by
  have hboth : I (before ++ log) g' ∧ P (before ++ log) g' n := by
    refine Steps.induction (P := fun log g => I log g ∧ P log g n) ?_ h before ⟨hI, hn⟩
    rintro log g ev g' ⟨hI, hn⟩ hok hs
    exact ⟨hP.step hI hs, hP.keep hI hn hs hok hc⟩
  exact hboth.2

/-- Passes downstream of several nodes, one after the other: it holds in the end of each
node on one of them, and of each other node where it held at first. -/
theorem forEach {f : NodeId → Journal Unit} {cs : List NodeId}
    (hf : ∀ c ∈ cs, ∀ {before g log g'}, I before g → f c g = (log, .done () g') →
      Steps depth (Allowed (top.Leads c)) g log g' ∧ ∀ n, top.Leads c n → P (before ++ log) g' n)
    (hI : I before g) (h : Journal.forEach f cs g = (log, .done () g'))
    (hn : (∃ c ∈ cs, top.Leads c n) ∨ P before g n) : P (before ++ log) g' n := by
  induction cs generalizing before g log with
  | nil =>
    cases h
    rw [List.append_nil]
    rcases hn with ⟨c, hc, -⟩ | hn
    · cases hc
    · exact hn
  | cons c cs ih =>
    obtain ⟨log₁, g₁, log₂, hone, hrest, rfl⟩ := Journal.forEach_cons_eq_done h
    obtain ⟨hsteps, hall⟩ := hf c List.mem_cons_self hI hone
    have hI₁ := hP.steps hI hsteps
    have hnext := ih (fun d hd => hf d (List.mem_cons_of_mem _ hd)) hI₁ hrest
    rw [List.append_assoc] at hnext
    apply hnext
    by_cases hc : top.Leads c n
    · exact Or.inr (hall n hc)
    · rcases hn with ⟨d, hd, hl⟩ | hn
      · rcases List.mem_cons.mp hd with rfl | hd
        · exact absurd hl hc
        · exact Or.inl ⟨d, hd, hl⟩
      · exact Or.inr (hP.keep_steps hI hn hc hsteps)

/-- It holds of each node that a pass comes to. -/
theorem propagate (hI : I before g)
    (h : Journal.propagate depth limit path id g = (log, .done () g')) (hn : top.Leads id n) :
    P (before ++ log) g' n := by
  induction limit generalizing path id before g log g' n with
  | zero => cases h
  | succ limit ih =>
    have hg := hP.wellFormed hI
    have hcycle : ¬top.Precedes id id := by
      rw [← precedes_congr (hP.edges hI)]
      exact propagate_no_way_back hg h
    obtain ⟨-, log₁, g₁, log₂, hone, hrest, rfl⟩ := Journal.propagate_eq_done h
    have hI₁ := hP.steps hI (recomputeWithInputs_steps hg hone)
    have hall := hP.forEach (n := n) (fun c _ before g log g' hI hc => ⟨?_, ?_⟩) hI₁ hrest
    · rw [List.append_assoc] at hall
      apply hall
      rcases hn.eq_or_precedes with rfl | hp
      · exact Or.inr (hP.start hI hcycle hone)
      · obtain ⟨c, hc, hl⟩ := hp.exists_consumer
        rw [← feeds_congr (hP.edges hI₁)] at hc
        exact Or.inl ⟨c, mem_consumersOf.mpr hc, hl⟩
    · rw [← leads_congr (hP.edges hI)]
      exact propagate_steps (hP.wellFormed hI) hc
    · exact fun n hn => ih hI hc hn

theorem recomputeDownstream (hI : I before g)
    (h : Journal.recomputeDownstream depth id g = (log, .done () g')) (hn : top.Leads id n) :
    P (before ++ log) g' n := hP.propagate hI h hn

end Lasting

/-! ## Nothing is left computed from a superseded output -/

theorem settled_lasting (depth : Nat) (top : Graph) :
    Lasting depth top (fun _ g => g.WellFormed ∧ g.edges = top.edges) (Settled depth) := by
  refine ⟨fun h => h.1, fun h => h.2, ?_, ?_, ?_⟩
  · rintro before g ev g' ⟨hg, he⟩ hs
    exact ⟨hs.frame.wellFormed hg, hs.frame.edges.trans he⟩
  · rintro before g log g' id ⟨hg, he⟩ hcycle h
    have hres := recomputeWithInputs_resolves depth id hg
    rw [h] at hres
    obtain ⟨inner, g₁, ev, rfl, hturn, hstep, hset⟩ := hres
    have he₁ : g₁.edges = top.edges := hturn.frame.edges.trans he
    have hself : g₁.Feeds id id → g₁.output? id = none := by
      intro hfeeds
      rw [feeds_congr he₁] at hfeeds
      exact absurd hfeeds.precedes hcycle
    have hsettled := hstep.settled (hturn.frame.wellFormed hg) hset hself
      (before ++ .opened id :: inner)
    rwa [List.append_assoc] at hsettled
  · rintro before g ev g' c n ⟨hg, he⟩ hn hs hok hc
    -- The step is on a node of the pass, which does not lead to `n`, or on one
    -- without output.
    rcases hok with hl | ⟨hnone, -⟩
    · refine hn.step hs ?_ ?_
      · rintro rfl
        exact hc hl
      · intro hfeeds
        rw [feeds_congr he] at hfeeds
        exact absurd (hl.trans_feeds hfeeds).leads hc
    · refine hn.step hs ?_ fun _ => hnone
      rintro rfl
      have hsome := hn.output_isSome
      rw [hnone] at hsome
      cases hsome

/-- What a pass leaves of a node that it came to, where `log` is its journal. -/
structure Current (depth : Nat) (log : List Event) (g : Graph) (n : NodeId) : Prop where
  /-- The node had a turn. -/
  processed : ∃ ev, latest? log n = some ev
  /-- A fault of a producer is the fault of the node. -/
  refused : (∃ p f, g.Feeds p n ∧ g.output? p = some (.fault f)) →
    g.output? n = some (.fault .input)
  /-- Otherwise the producers have values, these were bound as its inputs when it ran last,
  and what its source evaluated to then is its output. -/
  ran : (¬∃ p f, g.Feeds p n ∧ g.output? p = some (.fault f)) →
    (∀ p, g.Feeds p n → ∃ v, g.output? p = some (.value v)) ∧
    ∃ start node vs out st, latest? log n = some (.ran n start) ∧ g.node? n = some node ∧
      g.inputValues? n = some vs ∧ start.store.bindings node.scope = inputBindings vs ∧
      (Language.evaluateIn depth node.scope node.source start.store).result? = some (out, st) ∧
      g.output? n = some out

theorem Settled.current (h : Settled depth log g n) : Current depth log g n := by
  obtain ⟨ev, hlast, hex⟩ := h
  have hset := settles?_of_latest? hlast
  cases ev with
  | opened => exact absurd hex id
  | refused m =>
    obtain ⟨hfault, hout⟩ := hex
    exact ⟨⟨_, hlast⟩, fun _ => hout, fun hno => absurd hfault hno⟩
  | ran m start =>
    obtain rfl : m = n := Option.some.inj hset
    have hno := hex.faultless
    obtain ⟨node, vs, out, st, hn, hv, -, hb, heq, hr, hout⟩ := hex
    rw [heq] at hr
    refine ⟨⟨_, hlast⟩, fun hfault => absurd hfault hno, fun _ => ⟨?_, ?_⟩⟩
    · exact fun p hp => exists_value_of_feeds hv hp
    · exact ⟨start, node, vs, out, st, hlast, hn, hv, hb, hr, hout⟩

/-- Where a pass downstream of a node succeeds, each node that it leads to is computed from
the outputs that its producers have in the end, whatever outputs there were before. -/
theorem downstream_nodes_are_current (depth : Nat) (g g' : Graph) (hg : g.WellFormed) (id : NodeId)
    (h : recomputeDownstream depth id g = .done () g') (n : NodeId) (hn : g.Leads id n) :
    Current depth (Journal.recomputeDownstream depth id g).1 g' n := by
  rw [← Journal.erase_recomputeDownstream] at h
  have hdone : Journal.recomputeDownstream depth id g =
      ((Journal.recomputeDownstream depth id g).1, .done () g') := Prod.ext rfl h
  have hsettled : Settled depth ([] ++ (Journal.recomputeDownstream depth id g).1) g' n :=
    (settled_lasting depth g).recomputeDownstream ⟨hg, rfl⟩ hdone hn
  exact hsettled.current

/-- The third node is two edges after the first one. -/
theorem sample_nodes_are_current : ∃ g', recomputeDownstream 20 0 sample = .done () g' ∧
    Current 20 (Journal.recomputeDownstream 20 0 sample).1 g' 2 := by
  obtain ⟨g', h⟩ := Outcome.eq_done (o := recomputeDownstream 20 0 sample) (by decide +kernel)
  have h₁ : sample.Feeds 0 1 := by decide +kernel
  have h₂ : sample.Feeds 1 2 := by decide +kernel
  exact ⟨g', h, downstream_nodes_are_current 20 sample g' sample_wellFormed 0 h 2
    (h₁.leads.trans h₂.leads)⟩

end Graph

end Patchbay
