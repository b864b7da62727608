-- The ways along the edges of a graph: which nodes lie before or after
-- which. Where no way leads back, properties pass on from producers to
-- consumers by induction.
import Patchbay.Graph.Basic
import Mathlib.Data.Finset.Card
import Mathlib.Data.Finset.Filter
import Mathlib.Logic.Relation

namespace Patchbay

namespace Graph

/-- There is an edge from `p` to `c`. -/
def Feeds (g : Graph) (p c : NodeId) : Prop := ⟨p, c⟩ ∈ g.edges

instance (g : Graph) (p c : NodeId) : Decidable (g.Feeds p c) :=
  inferInstanceAs (Decidable (_ ∈ g.edges))

/-- A way of one edge or more leads from `a` to `b`. -/
def Precedes (g : Graph) : NodeId → NodeId → Prop := Relation.TransGen g.Feeds

/-- `b` is `a`, or a way leads from `a` to `b`. -/
def Leads (g : Graph) : NodeId → NodeId → Prop := Relation.ReflTransGen g.Feeds

/-- No way leads from a node back to it. -/
def Acyclic (g : Graph) : Prop := ∀ id, ¬g.Precedes id id

variable {g : Graph} {a b c : NodeId}

theorem mem_inputsOf : a ∈ g.inputsOf b ↔ g.Feeds a b := by
  unfold inputsOf Feeds
  rw [List.mem_map]
  constructor
  · rintro ⟨e, he, rfl⟩
    obtain ⟨hmem, hc⟩ := List.mem_filter.mp he
    obtain rfl : e.consumer = b := of_decide_eq_true hc
    exact hmem
  · intro h
    exact ⟨⟨a, b⟩, List.mem_filter.mpr ⟨h, decide_eq_true rfl⟩, rfl⟩

theorem mem_consumersOf : b ∈ g.consumersOf a ↔ g.Feeds a b := by
  unfold consumersOf Feeds
  rw [List.mem_map]
  constructor
  · rintro ⟨e, he, rfl⟩
    obtain ⟨hmem, hp⟩ := List.mem_filter.mp he
    obtain rfl : e.producer = a := of_decide_eq_true hp
    exact hmem
  · intro h
    exact ⟨⟨a, b⟩, List.mem_filter.mpr ⟨h, decide_eq_true rfl⟩, rfl⟩

theorem inputsOf_congr {g' : Graph} (h : g'.edges = g.edges) (id : NodeId) :
    g'.inputsOf id = g.inputsOf id := by
  unfold inputsOf
  rw [h]

theorem feeds_congr {g' : Graph} (h : g'.edges = g.edges) : g'.Feeds = g.Feeds := by
  unfold Feeds
  rw [h]

theorem feeds_of_inputsOf {g' : Graph} (h : g'.inputsOf b = g.inputsOf b) :
    g'.Feeds a b ↔ g.Feeds a b := by
  rw [← mem_inputsOf, ← mem_inputsOf, h]

theorem precedes_congr {g' : Graph} (h : g'.edges = g.edges) : g'.Precedes = g.Precedes := by
  unfold Precedes
  rw [feeds_congr h]

theorem leads_congr {g' : Graph} (h : g'.edges = g.edges) : g'.Leads = g.Leads := by
  unfold Leads
  rw [feeds_congr h]

/-! ## Ways put together -/

theorem Feeds.precedes (h : g.Feeds a b) : g.Precedes a b := Relation.TransGen.single h

theorem Feeds.leads (h : g.Feeds a b) : g.Leads a b := Relation.ReflTransGen.single h

theorem Leads.refl (g : Graph) (a : NodeId) : g.Leads a a := Relation.ReflTransGen.refl

theorem Leads.trans (h : g.Leads a b) (k : g.Leads b c) : g.Leads a c :=
  Relation.ReflTransGen.trans h k

theorem Precedes.leads (h : g.Precedes a b) : g.Leads a b := Relation.TransGen.to_reflTransGen h

theorem Precedes.trans (h : g.Precedes a b) (k : g.Precedes b c) : g.Precedes a c :=
  Relation.TransGen.trans h k

theorem Leads.trans_precedes (h : g.Leads a b) (k : g.Precedes b c) : g.Precedes a c :=
  Relation.TransGen.trans_right h k

theorem Leads.trans_feeds (h : g.Leads a b) (k : g.Feeds b c) : g.Precedes a c :=
  h.trans_precedes k.precedes

theorem Leads.eq_or_precedes (h : g.Leads a b) : b = a ∨ g.Precedes a b :=
  Relation.reflTransGen_iff_eq_or_transGen.mp h

/-- A way starts with an edge to a consumer. -/
theorem Precedes.exists_consumer (h : g.Precedes a b) : ∃ c, g.Feeds a c ∧ g.Leads c b :=
  Relation.TransGen.head'_iff.mp h

/-- A way ends with an edge from a producer. -/
theorem Precedes.exists_producer (h : g.Precedes a b) : ∃ p, g.Leads a p ∧ g.Feeds p b :=
  Relation.TransGen.tail'_iff.mp h

/-! ## Induction along the edges -/

/-- Where each edge goes up in some ranking, no way leads back. -/
theorem acyclic_of_rank (f : NodeId → Nat) (h : ∀ e ∈ g.edges, f e.producer < f e.consumer) :
    g.Acyclic := by
  have hup : ∀ {a b}, g.Precedes a b → f a < f b := by
    intro a b hab
    induction hab with
    | single hf => exact h _ hf
    | tail _ hf ih => exact Nat.lt_trans ih (h _ hf)
  exact fun id hid => Nat.lt_irrefl _ (hup hid)

open Classical in
/-- How many producers lie before a node. -/
noncomputable def rank (g : Graph) (n : NodeId) : Nat :=
  ((g.edges.map Edge.producer).toFinset.filter fun p => g.Precedes p n).card

theorem Acyclic.rank_lt (h : g.Acyclic) (hab : g.Feeds a b) : g.rank a < g.rank b := by
  classical
  unfold rank
  apply Finset.card_lt_card
  rw [Finset.ssubset_iff_of_subset]
  · -- `a` lies before `b`, but not before itself.
    refine ⟨a, ?_, ?_⟩
    · rw [Finset.mem_filter, List.mem_toFinset]
      exact ⟨List.mem_map.mpr ⟨⟨a, b⟩, hab, rfl⟩, hab.precedes⟩
    · rw [Finset.mem_filter]
      exact fun ha => h a ha.2
  · intro p hp
    rw [Finset.mem_filter] at hp ⊢
    exact ⟨hp.1, hp.2.trans hab.precedes⟩

/-- What passes on from all producers of a node to the node holds everywhere. -/
theorem Acyclic.induction {C : NodeId → Prop} (h : g.Acyclic)
    (step : ∀ n, (∀ p, g.Feeds p n → C p) → C n) (n : NodeId) : C n := by
  have hwf : WellFounded g.Feeds :=
    Subrelation.wf (fun hab => h.rank_lt hab) (InvImage.wf g.rank wellFounded_lt)
  exact hwf.induction n step

end Graph

end Patchbay
