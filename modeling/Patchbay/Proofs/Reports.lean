-- What recomputes report. Where the evaluations end, each recompute ends, and either it
-- succeeds or its error names a node on a cycle.
import Patchbay.Proofs.Recomputing

namespace Patchbay

open Patchbay.Language

namespace Graph

namespace Journal

theorem propagate_of_free {depth limit : Nat} {path : List NodeId} {id : NodeId} (h : id ∉ path)
    (g : Graph) : propagate depth (limit + 1) path id g = (recomputeWithInputs depth id >>= fun _ =>
      quiet (Action.read fun g : Graph => g.consumersOf id) >>=
        forEach (propagate depth limit (id :: path))) g := by
  rw [propagate, if_neg fun hc => h (List.contains_iff_mem.mp hc)]

end Journal

variable {depth limit : Nat} {g g' top : Graph} {id n start : NodeId} {log : List Event}
  {path xs : List NodeId} {α β : Type}

/-! ## Computations that end -/

/-- Where all evaluations in its journal end, `x` ends from `g`: it succeeds, and `I` holds
then, or it fails for a cycle and names a node of which `B` holds. -/
def Reports (depth : Nat) (x : Journal α) (g : Graph) (I : Graph → Prop) (B : NodeId → Prop) :
    Prop :=
  (∀ ev ∈ (x g).1, ev.Ends depth) →
    (∃ a g', (x g).2 = .done a g' ∧ I g') ∨ ∃ n g', (x g).2 = .failed (.cycle n) g' ∧ B n

namespace Reports

variable {I J : Graph → Prop} {B : NodeId → Prop}

theorem bind {x : Journal α} {f : α → Journal β} (hx : Reports depth x g I B)
    (hf : ∀ a g', I g' → Reports depth (f a) g' J B) : Reports depth (x >>= f) g J B := by
  intro hends
  unfold Reports at hx hf
  rcases hr : x g with ⟨log, ⟨a, g₁⟩ | ⟨e, g₁⟩ | _⟩
  · rw [hr] at hx
    rw [Journal.bind_of_done hr] at hends ⊢
    simp only [List.mem_append] at hends
    rcases hx fun ev hev => hends ev (Or.inl hev) with ⟨a', g', heq, hI⟩ | ⟨n, g', heq, -⟩
    · cases heq
      exact hf a g₁ hI fun ev hev => hends ev (Or.inr hev)
    · cases heq
  · rw [hr] at hx
    rw [Journal.bind_of_failed hr] at hends ⊢
    rcases hx hends with ⟨a, g', heq, -⟩ | ⟨n, g', heq, hB⟩
    · cases heq
    · cases heq
      exact Or.inr ⟨n, g₁, rfl, hB⟩
  · rw [hr] at hx
    rw [Journal.bind_of_exhausted hr] at hends
    rcases hx hends with ⟨a, g', heq, -⟩ | ⟨n, g', heq, -⟩ <;> cases heq

theorem forEach {f : NodeId → Journal Unit}
    (h : ∀ x ∈ xs, ∀ g, I g → Reports depth (f x) g I B) (hI : I g) :
    Reports depth (Journal.forEach f xs) g I B := by
  induction xs generalizing g with
  | nil => exact fun _ => Or.inl ⟨(), g, rfl, hI⟩
  | cons x xs ih =>
    refine bind (h x List.mem_cons_self g hI) ?_
    intro _ g' hI'
    exact ih (fun y hy => h y (List.mem_cons_of_mem _ hy)) hI'

end Reports

/-! ## Single nodes -/

/-- A well-formed graph with the nodes and edges of `top`. -/
structure SameWiring (top g : Graph) : Prop where
  wellFormed : g.WellFormed
  edges : g.edges = top.edges
  nodeIds : g.nodeIds = top.nodeIds

theorem Steps.sameWiring {ok : Graph → Event → Prop} (h : Steps depth ok g log g')
    (hg : SameWiring top g) : SameWiring top g' :=
  ⟨h.frame.wellFormed hg.wellFormed, h.frame.edges.trans hg.edges,
    h.frame.nodeIds.trans hg.nodeIds⟩

/-- All nodes on the way to a node that is there are there. -/
theorem not_blames_unknown (hg : g.WellFormed) (hid : id ∈ g.nodeIds) (n : NodeId) :
    ¬g.Blames [] id (.unknownNode n) := by
  rintro ⟨hn, hl⟩
  rcases hl.eq_or_precedes with rfl | hp
  · exact hn hid
  · obtain ⟨c, hc, -⟩ := hp.exists_consumer
    exact hn (hg.producer_mem hc)

/-- Where the nodes and edges are those of `top`, a node with its producers fails for a cycle
of `top` only. -/
theorem recomputeWithInputs_reports (hid : id ∈ top.nodeIds) (hg : SameWiring top g) :
    Reports depth (Journal.recomputeWithInputs depth id) g (SameWiring top)
      (fun n => top.Precedes n n) := by
  intro hends
  have hid' : id ∈ g.nodeIds := by rwa [hg.nodeIds]
  have hres := recomputeWithInputs_resolves depth id hg.wellFormed
  have hmakes := recomputeWithInputs_makes depth id g.edges
  rcases hr : Journal.recomputeWithInputs depth id g with ⟨log, ⟨u, g₂⟩ | ⟨e, g₂⟩ | _⟩
  · exact Or.inl ⟨u, g₂, rfl, (hmakes.steps_of_done hg.wellFormed rfl hr).sameWiring hg⟩
  · rw [hr] at hres
    have hblames := hres.1
    cases e with
    | cycle n =>
      rw [← precedes_congr hg.edges]
      simp only [Blames, List.not_mem_nil, false_and, false_or] at hblames
      exact Or.inr ⟨n, g₂, rfl, hblames⟩
    | unknownNode n => exact absurd hblames (not_blames_unknown hg.wellFormed hid' n)
    | invalidEdge => exact False.elim hblames
    | indexOutOfRange => exact False.elim hblames
    | unreadable => exact False.elim hblames
  · rw [hr] at hres hends
    obtain ⟨ev, hev, hnot⟩ := hres (room_nil g)
    exact absurd (hends ev hev) hnot

theorem recomputeIfUnset_reports (hid : id ∈ top.nodeIds) (hg : SameWiring top g) :
    Reports depth (Journal.recomputeIfUnset depth id) g (SameWiring top)
      (fun n => top.Precedes n n) := by
  have hid' : id ∈ g.nodeIds := by rwa [hg.nodeIds]
  obtain ⟨node, hn⟩ := exists_node_of_mem hid'
  unfold Reports
  rcases ho : node.output with _ | out
  · rw [Journal.recomputeIfUnset_of_unset hn ho]
    exact recomputeWithInputs_reports hid hg
  · rw [Journal.recomputeIfUnset_of_output hn (by simp [ho])]
    exact fun _ => Or.inl ⟨(), g, rfl, hg⟩

theorem recomputeUnset_reports (hxs : ∀ x ∈ xs, x ∈ top.nodeIds) (hg : SameWiring top g) :
    Reports depth (Journal.recomputeUnset depth xs) g (SameWiring top)
      (fun n => top.Precedes n n) :=
  Reports.forEach (fun x hx _ hg => recomputeIfUnset_reports (hxs x hx) hg) hg

/-! ## Passes downstream -/

section Pass

variable {I : Graph → Prop} {B : NodeId → Prop} (hI : ∀ g, I g → SameWiring top g)
  (hone : ∀ id ∈ top.nodeIds, ∀ g, I g →
    Reports depth (Journal.recomputeWithInputs depth id) g I B)
include hI hone

/-- What each recompute of a single node reports, and the cycles that `start` leads to, a
pass downstream of `start` reports. The nodes on the way to `id` lie before it. -/
theorem propagate_reports (hback : ∀ n, top.Leads start n → top.Precedes n n → B n) (hg : I g)
    (hid : id ∈ top.nodeIds) (hlead : top.Leads start id) (hpath : ∀ n ∈ path, top.Precedes n id)
    (hroom : top.Room limit path) :
    Reports depth (Journal.propagate depth limit path id) g I B := by
  induction limit generalizing path id g with
  | zero => exact absurd hroom.pos (Nat.lt_irrefl 0)
  | succ limit ih =>
    by_cases hmem : id ∈ path
    · unfold Reports Journal.propagate
      rw [if_pos (List.contains_iff_mem.mpr hmem)]
      exact fun _ => Or.inr ⟨id, g, rfl, hback id hlead (hpath id hmem)⟩
    · obtain ⟨node, hn⟩ := exists_node_of_mem hid
      unfold Reports
      rw [Journal.propagate_of_free hmem]
      refine Reports.bind (hone id hid g hg) ?_
      intro _ g₁ hg₁
      have hall : ∀ c ∈ g₁.consumersOf id, ∀ g₂, I g₂ →
          Reports depth (Journal.propagate depth limit (id :: path) c) g₂ I B := by
        intro c hc g₂ hg₂
        have hfeeds₁ := mem_consumersOf.mp hc
        have hfeeds : top.Feeds id c := by rwa [← feeds_congr (hI g₁ hg₁).edges]
        refine ih hg₂ ?_ (hlead.trans hfeeds.leads) ?_ (hroom.wait hmem hn)
        · rw [← (hI g₁ hg₁).nodeIds]
          exact (hI g₁ hg₁).wellFormed.consumer_mem hfeeds₁
        · intro n hn
          rcases List.mem_cons.mp hn with rfl | hn
          · exact hfeeds.precedes
          · exact (hpath n hn).trans hfeeds.precedes
      exact Reports.forEach hall hg₁

theorem recomputeDownstream_reports (hback : ∀ n, top.Leads start n → top.Precedes n n → B n)
    (hg : I g) (hid : start ∈ top.nodeIds) :
    Reports depth (Journal.recomputeDownstream depth start) g I B := by
  have hroom : top.Room (g.nodes.length + 1) [] := (room_nil g).congr (hI g hg).nodeIds.symm
  exact propagate_reports hI hone hback hg hid (Leads.refl top start) (by simp) hroom

end Pass

end Graph

end Patchbay
