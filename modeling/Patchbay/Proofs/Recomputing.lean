-- The computations on whole graphs. However one of them ends, its journal
-- holds the steps that lead to the graph it leaves, and each step is one
-- that it may make.
import Patchbay.Proofs.Resolution

namespace Patchbay

open Patchbay.Language

namespace Graph

variable {depth limit : Nat} {ok : Graph → Event → Prop} {g g' : Graph} {id m n : NodeId}
  {log : List Event} {edges : List Edge} {ids : NodeId → Prop} {α β : Type}

/-! ## What a journal holds -/

/-- However `x` ends in a well-formed graph with these edges, its journal holds the steps
that it made. -/
def Makes (depth : Nat) (ok : Graph → Event → Prop) (edges : List Edge) (x : Journal α) : Prop :=
  ∀ g, g.WellFormed → g.edges = edges →
    ∀ g', (x g).2.state? = some g' → Steps depth ok g (x g).1 g'

namespace Makes

theorem mono {ok' : Graph → Event → Prop} {x : Journal α} (h : Makes depth ok edges x)
    (hok : ∀ g ev, g.edges = edges → ok g ev → ok' g ev) : Makes depth ok' edges x := by
  intro g hg he g' hs
  have hsteps := h g hg he g' hs
  generalize (x g).1 = log at hsteps
  clear hs hg
  induction hsteps with
  | nil => exact .nil _
  | cons hstep ho _ ih => exact .cons hstep (hok _ _ he ho) (ih (hstep.frame.edges.trans he))

theorem read (f : Graph → α) : Makes depth ok edges (Journal.quiet (Action.read f)) := by
  intro g _ _ g' hs
  cases hs
  exact .nil g

theorem pure (a : α) : Makes depth ok edges (pure a : Journal α) := by
  intro g _ _ g' hs
  cases hs
  exact .nil g

theorem fail (e : GraphError) :
    Makes depth ok edges (Journal.quiet (Action.fail e) : Journal α) := by
  intro g _ _ g' hs
  cases hs
  exact .nil g

theorem exhausted : Makes depth ok edges (Journal.quiet Action.exhausted : Journal α) := by
  intro g _ _ g' hs
  cases hs

theorem bind {x : Journal α} {f : α → Journal β} (hx : Makes depth ok edges x)
    (hf : ∀ a, Makes depth ok edges (f a)) : Makes depth ok edges (x >>= f) := by
  intro g hg he g' hs
  have hsteps := hx g hg he
  rcases hr : x g with ⟨log, ⟨a, g₁⟩ | ⟨e, g₁⟩ | _⟩
  · rw [hr] at hsteps
    rw [Journal.bind_of_done hr] at hs ⊢
    have h₁ := hsteps g₁ rfl
    exact h₁.append (hf a g₁ (h₁.frame.wellFormed hg) (h₁.frame.edges.trans he) g' hs)
  · rw [hr] at hsteps
    rw [Journal.bind_of_failed hr] at hs ⊢
    exact hsteps g' hs
  · rw [Journal.bind_of_exhausted hr] at hs
    cases hs

theorem forEach {f : NodeId → Journal Unit} {xs : List NodeId}
    (h : ∀ x ∈ xs, Makes depth ok edges (f x)) : Makes depth ok edges (Journal.forEach f xs) := by
  induction xs with
  | nil => exact pure ()
  | cons x xs ih =>
    refine bind (h x List.mem_cons_self) fun _ => ih ?_
    intro y hy
    exact h y (List.mem_cons_of_mem _ hy)

end Makes

theorem Makes.steps_of_done {ok : Graph → Event → Prop} {edges : List Edge} {x : Journal Unit}
    (h : Makes depth ok edges x) (hg : g.WellFormed) (he : g.edges = edges)
    (hx : x g = (log, .done () g')) : Steps depth ok g log g' := by
  have hsteps := h g hg he g'
  rw [hx] at hsteps
  exact hsteps rfl

/-! ## What a recompute may touch -/

/-- Of the graph `g` a recompute of the nodes `ids` may touch these nodes, and the
nodes before them that have no output. -/
def Touches (g : Graph) (ids : NodeId → Prop) (m : NodeId) : Prop :=
  ids m ∨ (g.output? m = none ∧ ∃ n, ids n ∧ g.Precedes m n)

/-- A step on a node that may be touched. -/
def Allowed (ids : NodeId → Prop) (g : Graph) (ev : Event) : Prop := g.Touches ids ev.node

theorem Touches.mono {ids' : NodeId → Prop} (h : g.Touches ids m) (hsub : ∀ n, ids n → ids' n) :
    g.Touches ids' m := by
  rcases h with h | ⟨ho, n, hn, hp⟩
  · exact Or.inl (hsub m h)
  · exact Or.inr ⟨ho, n, hsub n hn, hp⟩

/-- A node that may be touched later may be touched at first. -/
theorem Touches.before (h : g'.Touches ids m) (hs : Steps depth ok g log g') :
    g.Touches ids m := by
  rcases h with h | ⟨ho, n, hn, hp⟩
  · exact Or.inl h
  · refine Or.inr ⟨?_, n, hn, ?_⟩
    · by_contra hne
      have hsome := hs.output_isSome (Option.isSome_iff_ne_none.mpr hne)
      rw [ho] at hsome
      cases hsome
    · rw [← precedes_congr hs.frame.edges]
      exact hp

theorem Steps.touches (h : Steps depth (Allowed ids) g log g') {ev : Event} (hev : ev ∈ log) :
    g.Touches ids ev.node := by
  induction h with
  | nil => cases hev
  | cons hs hok _ ih =>
    rcases List.mem_cons.mp hev with rfl | hin
    · exact hok
    · have hstep : Steps depth (Allowed ids) _ _ _ := hs.steps hok
      exact (ih hin).before hstep

/-- Such a run works on the nodes only that it may touch. -/
theorem Steps.frame_touches (h : Steps depth (Allowed ids) g log g') :
    Frame (g.Touches ids) g g' := by
  refine h.frame.mono ?_
  rintro m ⟨ev, hev, rfl⟩
  exact h.touches hev

/-! ## Recomputing one node -/

theorem recomputeWithInputs_resolves (depth : Nat) (id : NodeId) (hg : g.WellFormed) :
    Resolves depth (g.nodes.length + 1) [] id g (Journal.recomputeWithInputs depth id g) :=
  resolve_resolves depth (g.nodes.length + 1) [] id hg

theorem room_nil (g : Graph) : g.Room (g.nodes.length + 1) [] := by
  refine ⟨List.nodup_nil, ?_, ?_⟩
  · intro n hn
    cases hn
  · unfold nodeIds
    simp

/-- Nodes without output that lie before a node may be touched along with it. -/
theorem Turn.steps {waiting : List NodeId} (h : Turn depth waiting id g log g') :
    Steps depth (Allowed (· = id)) g (.opened id :: log) g' := by
  have hprecedes : ∀ ev ∈ log, g.Precedes ev.node id := fun ev hev => h.precedes hev
  obtain ⟨node, hn, hs⟩ := h.search
  refine .cons (.opened hn) (Or.inl rfl) ?_
  have hp : (g.emptied node).Precedes = g.Precedes := precedes_congr rfl
  rw [← hp] at hprecedes
  have hsteps := hs.steps
  clear h hs hp
  generalize g.emptied node = g₁ at hsteps hprecedes
  induction hsteps with
  | nil => exact .nil _
  | @cons g₁ g₂ g₃ ev log hstep hok _ ih =>
    refine .cons hstep (Or.inr ⟨hok, id, rfl, hprecedes ev List.mem_cons_self⟩) (ih ?_)
    intro ev' hev
    rw [precedes_congr hstep.frame.edges]
    exact hprecedes ev' (List.mem_cons_of_mem _ hev)

theorem recomputeWithInputs_makes (depth : Nat) (id : NodeId) (edges : List Edge) :
    Makes depth (Allowed (· = id)) edges (Journal.recomputeWithInputs depth id) := by
  intro g hg _ g' hs
  have hres := recomputeWithInputs_resolves depth id hg
  rcases hr : Journal.recomputeWithInputs depth id g with ⟨log, ⟨u, g₂⟩ | ⟨e, g₂⟩ | _⟩
  · rw [hr] at hres hs
    cases hs
    obtain ⟨inner, g₁, ev, rfl, hturn, hstep, hset⟩ := hres
    have hnode := Event.node_of_settles? hset
    exact hturn.steps.append (hstep.steps (Or.inl hnode))
  · rw [hr] at hres hs
    cases hs
    obtain ⟨-, ⟨rfl, rfl⟩ | ⟨inner, rfl, hturn⟩⟩ := hres
    · exact .nil _
    · exact hturn.steps
  · rw [hr] at hs
    cases hs

/-! ## Recomputing downstream -/

theorem propagate_makes (depth limit : Nat) (path : List NodeId)
    (hclosed : ∀ a b, ids a → ⟨a, b⟩ ∈ edges → ids b) (hid : ids id) :
    Makes depth (Allowed ids) edges (Journal.propagate depth limit path id) := by
  induction limit generalizing path id with
  | zero => exact Makes.exhausted
  | succ limit ih =>
    unfold Journal.propagate
    split
    · exact Makes.fail _
    · refine Makes.bind ((recomputeWithInputs_makes depth id edges).mono ?_) fun _ => ?_
      · intro g ev _ h
        refine h.mono ?_
        rintro n rfl
        exact hid
      · intro g hg he g' hs
        refine Makes.forEach ?_ g hg he g' hs
        intro c hc
        apply ih (id :: path)
        apply hclosed id c hid
        rw [← he]
        exact mem_consumersOf.mp hc

theorem recomputeDownstream_makes (depth : Nat)
    (hclosed : ∀ a b, ids a → ⟨a, b⟩ ∈ edges → ids b) (hid : ids id) :
    Makes depth (Allowed ids) edges (Journal.recomputeDownstream depth id) :=
  Makes.bind (Makes.read _) fun limit => propagate_makes depth limit [] hclosed hid

/-! ## Recomputing all nodes -/

/-- A node without output takes its turn, and so do nodes without output before it. -/
theorem recomputeIfUnset_makes (depth : Nat) (id : NodeId) (edges : List Edge) :
    Makes depth Fresh edges (Journal.recomputeIfUnset depth id) := by
  intro g hg he g' hs
  rcases hn : g.node? id with _ | node
  · rw [Journal.recomputeIfUnset_of_unknown hn] at hs ⊢
    cases hs
    exact .nil g
  · have hid : g.output? id = node.output := output?_of_node? hn
    rcases ho : node.output with _ | out
    · have hunset : g.output? id = none := by rw [hid, ho]
      have hres := recomputeWithInputs_resolves depth id hg
      rw [Journal.recomputeIfUnset_of_unset hn ho] at hs ⊢
      rcases hr : Journal.recomputeWithInputs depth id g with ⟨log, ⟨u, g₂⟩ | ⟨e, g₂⟩ | _⟩
      · rw [hr] at hres hs
        cases hs
        obtain ⟨inner, g₁, ev, rfl, hturn, hstep, hset⟩ := hres
        exact (hturn.to_search_last hunset hstep hset).steps
      · rw [hr] at hres hs
        cases hs
        obtain ⟨-, ⟨rfl, rfl⟩ | ⟨inner, rfl, hturn⟩⟩ := hres
        · exact .nil _
        · exact (hturn.to_search hunset).steps
      · rw [hr] at hs
        cases hs
    · rw [Journal.recomputeIfUnset_of_output hn (by rw [ho]; rfl)] at hs ⊢
      cases hs
      exact .nil g

theorem recomputeUnset_makes (depth : Nat) (xs : List NodeId) (edges : List Edge) :
    Makes depth Fresh edges (Journal.recomputeUnset depth xs) :=
  Makes.forEach fun id _ => recomputeIfUnset_makes depth id edges

/-! ## A graph to look at -/

/-- Nodes one after the other, with the edges between them. -/
def ofSources (sources : List String) (edges : List Edge) : Graph :=
  let g := sources.foldl (fun (g : Graph) source => (g.addNode source).2) empty
  { g with edges }

/-- A function, a node that calls it, a node that takes the result as its second input, a
node that cannot be read, and a node that this one feeds. -/
def sample : Graph :=
  ofSources ["\\x: x", "a \"hi\"", "b", "", "a"] [⟨0, 1⟩, ⟨0, 2⟩, ⟨1, 2⟩, ⟨3, 4⟩]

theorem sample_wellFormed : sample.WellFormed := by decide +kernel

theorem sample_acyclic : sample.Acyclic := acyclic_of_rank (fun id => id) (by decide +kernel)

end Graph

end Patchbay
