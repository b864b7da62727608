-- What evaluations leave in the store. An evaluation writes the scope of its
-- node and scopes that are new; these stay as they are while other nodes are
-- worked on, and so does all that it may have read.
import Patchbay.Proofs.Downstream
import Patchbay.Proofs.FullRecompute
import Mathlib.Data.List.Pairwise

namespace Patchbay

open Patchbay.Language

namespace Graph

variable {depth : Nat} {top g g' : Graph} {ev : Event} {log : List Event} {m n a : NodeId}
  {start start' : Graph} {out out' : Output} {st st' : Store} {node : Node} {s t : ScopeId}

/-! ## Evaluations in a journal -/

/-- The latest turn of `n` was an evaluation in `start`, which gave `out` and left the
store `st`. -/
structure Evaluated (depth : Nat) (log : List Event) (n : NodeId) (start : Graph) (out : Output)
    (st : Store) : Prop where
  latest : latest? log n = some (.ran n start)
  result : (start.evaluation depth n).result? = some (out, st)

/-- The scopes that an evaluation may have written: scope `s` of its node and the new ones. -/
def Region (s : ScopeId) (start : Graph) (st : Store) (t : ScopeId) : Prop :=
  t = s ∨ (start.store.size ≤ t ∧ t < st.size)

/-- The scopes `W` are the same in two stores. -/
def SameAt (W : ScopeId → Prop) (st st' : Store) : Prop :=
  ∀ t, W t → st'.scopes[t]? = st.scopes[t]?

/-- The evaluation `e` was over when the evaluation `e'` began, by the scopes there were. -/
def Event.OverBefore (depth : Nat) (e e' : Event) : Prop :=
  ∀ n start out st n' start', e = .ran n start →
    (start.evaluation depth n).result? = some (out, st) → e' = .ran n' start' →
      st.size ≤ start'.store.size

/-- The evaluations of a journal went on one after the other, in stores that already had
the scopes of all nodes, and `g` is what they led to. -/
structure LogFits (depth : Nat) (log : List Event) (g : Graph) : Prop where
  size_le : ∀ n start out st, .ran n start ∈ log →
    (start.evaluation depth n).result? = some (out, st) →
    start.store.size ≤ st.size ∧ st.size ≤ g.store.size
  scopes_lt : ∀ n start, .ran n start ∈ log → ∀ s ∈ g.root :: g.scopes, s < start.store.size
  /-- Nothing binds a name in the root scope. -/
  within : ∀ n start, .ran n start ∈ log → Store.Within (· ≠ g.root) start.store g.store
  ordered : log.Pairwise (Event.OverBefore depth)

namespace LogFits

theorem nil (depth : Nat) (g : Graph) : LogFits depth [] g := by
  refine ⟨?_, ?_, ?_, .nil⟩ <;> intros <;> contradiction

/-- A step adds its evaluation, if it is one, at the end. -/
theorem step (h : LogFits depth log g) (hg : g.WellFormed) (hs : Step depth g ev g') :
    LogFits depth (log ++ [ev]) g' := by
  have hframe := hs.frame
  have hcases : ∀ {n start}, .ran n start ∈ log ++ [ev] →
      .ran n start ∈ log ∨ ev = .ran n start := by
    intro n start hmem
    rcases List.mem_append.mp hmem with hmem | hmem
    · exact Or.inl hmem
    · exact Or.inr (List.mem_singleton.mp hmem).symm
  refine ⟨?_, ?_, ?_, ?_⟩
  · intro n start out st hmem hr
    rcases hcases hmem with hmem | rfl
    · obtain ⟨hle, hle'⟩ := h.size_le n start out st hmem hr
      exact ⟨hle, Nat.le_trans hle' hframe.store.size_le⟩
    · obtain ⟨hle, heq⟩ := hs.size_result hr
      exact ⟨hle, Nat.le_of_eq heq⟩
  · intro n start hmem s hscope
    rw [hframe.root, hframe.scopes] at hscope
    rcases hcases hmem with hmem | rfl
    · exact h.scopes_lt n start hmem s hscope
    · rw [hs.size_start]
      exact hg.scopes_lt s hscope
  · intro n start hmem
    rw [hframe.root]
    rcases hcases hmem with hmem | rfl
    · exact (h.within n start hmem).trans (hframe.off_root hg)
    · exact hs.ran_off_root hg
  · rw [List.pairwise_append]
    refine ⟨h.ordered, List.pairwise_singleton _ _, ?_⟩
    intro e he e' he' n start out st n' start' hen hr hen'
    subst hen
    have hev := (List.mem_singleton.mp he').symm.trans hen'
    subst hev
    have hle := (h.size_le n start out st he hr).2
    rw [hs.size_start]
    exact hle

/-- The journal says nothing of sources, titles and edges. -/
theorem congr (h : LogFits depth log g) (hstore : g'.store = g.store) (hroot : g'.root = g.root)
    (hscopes : g'.scopes = g.scopes) : LogFits depth log g' := by
  refine ⟨?_, ?_, ?_, h.ordered⟩
  · rw [hstore]
    exact h.size_le
  · rw [hroot, hscopes]
    exact h.scopes_lt
  · rw [hroot, hstore]
    exact h.within

end LogFits

namespace Evaluated

theorem mem (h : Evaluated depth log n start out st) : .ran n start ∈ log := mem_of_latest? h.latest

/-- The scopes that an evaluation has written are still there. -/
theorem region_lt (h : Evaluated depth log n start out st) (hfits : LogFits depth log g)
    (hg : g.WellFormed) (hn : g.node? n = some node) (ht : Region node.scope start st t) :
    t < g.store.size := by
  rcases ht with rfl | ⟨-, ht⟩
  · exact hg.scope_lt hn
  · exact Nat.lt_of_lt_of_le ht (hfits.size_le n start out st h.mem h.result).2

/-- The scope of another node is not among them. -/
theorem region_ne (h : Evaluated depth log n start out st) (hfits : LogFits depth log g)
    (hg : g.WellFormed) (hn : g.node? n = some node) {other : Node} (ho : g.node? m = some other)
    (hne : m ≠ n) (ht : Region node.scope start st t) : t ≠ other.scope := by
  rintro rfl
  rcases ht with heq | ⟨hle, -⟩
  · exact hne (hg.eq_of_scope_eq ho hn heq)
  · have hmem : other.scope ∈ g.root :: g.scopes :=
      List.mem_cons_of_mem _ (WellFormed.scope_mem ho)
    exact Nat.not_le_of_lt (hfits.scopes_lt n start h.mem _ hmem) hle

/-- A step on another node leaves them as they are. -/
theorem same_step (h : Evaluated depth log n start out st) (hfits : LogFits depth log g)
    (hg : g.WellFormed) (hn : g.node? n = some node) (hs : Step depth g ev g') (hne : ev.node ≠ n) :
    SameAt (Region node.scope start st) g.store g'.store := by
  intro t ht
  apply hs.frame.store.same t (h.region_lt hfits hg hn ht)
  rintro ⟨m, other, rfl, ho, rfl⟩
  exact h.region_ne hfits hg hn ho hne ht rfl

end Evaluated

/-- A journal has one latest turn of a node. -/
theorem Evaluated.unique (h : Evaluated depth log n start out st)
    (k : Evaluated depth log n start' out' st') : start' = start ∧ out' = out ∧ st' = st := by
  have hlatest := k.latest
  rw [h.latest] at hlatest
  cases hlatest
  have hres := k.result
  rw [h.result] at hres
  cases hres
  exact ⟨rfl, rfl, rfl⟩

theorem SameAt.trans {W : ScopeId → Prop} {st₁ st₂ st₃ : Store} (h : SameAt W st₁ st₂)
    (k : SameAt W st₂ st₃) : SameAt W st₁ st₃ := by
  intro t ht
  rw [k t ht, h t ht]

/-! ## Anchored nodes -/

/-- If the latest turn of `n` was an evaluation, the scopes that it wrote are as it left them,
and so are those that the evaluations of the nodes before it wrote, which were over by then. -/
def Anchored (depth : Nat) (log : List Event) (g : Graph) (n : NodeId) : Prop :=
  ∀ start out st node, Evaluated depth log n start out st → g.node? n = some node →
    SameAt (Region node.scope start st) st g.store ∧
    ∀ a start' out' st' other, g.Precedes a n → Evaluated depth log a start' out' st' →
      g.node? a = some other → st'.size ≤ start.store.size ∧
        SameAt (Region other.scope start' st') start.store g.store

theorem evaluated_concat_ne (h : Evaluated depth (log ++ [ev]) n start out st) (hne : ev.node ≠ n) :
    Evaluated depth log n start out st := by
  have hset : ev.settles? ≠ some n := fun hset => hne (Event.node_of_settles? hset)
  have hlatest := h.latest
  rw [latest?_concat_ne log hset] at hlatest
  exact ⟨hlatest, h.result⟩

/-- A step on a node that does not lead to `n` keeps it anchored. -/
theorem Anchored.step (h : Anchored depth log g n) (hfits : LogFits depth log g) (hg : g.WellFormed)
    (hs : Step depth g ev g') (hm : ¬g.Leads ev.node n) : Anchored depth (log ++ [ev]) g' n := by
  intro start out st node hev hn
  have hne : ev.node ≠ n := by
    rintro rfl
    exact hm (Leads.refl g _)
  have hev₀ := evaluated_concat_ne hev hne
  obtain ⟨node₀, hn₀, hplan⟩ := hs.frame.exists_node_before hn
  obtain ⟨hown, hbefore⟩ := h start out st node₀ hev₀ hn₀
  rw [scope_eq_of_plan hplan]
  refine ⟨hown.trans (hev₀.same_step hfits hg hn₀ hs hne), ?_⟩
  intro a start' out' st' other hprec heva ho
  rw [precedes_congr hs.frame.edges] at hprec
  have hnea : ev.node ≠ a := by
    rintro rfl
    exact hm hprec.leads
  have heva₀ := evaluated_concat_ne heva hnea
  obtain ⟨other₀, ho₀, hplana⟩ := hs.frame.exists_node_before ho
  obtain ⟨hsize, hsame⟩ := hbefore a start' out' st' other₀ hprec heva₀ ho₀
  rw [scope_eq_of_plan hplana]
  exact ⟨hsize, hsame.trans (heva₀.same_step hfits hg ho₀ hs hnea)⟩

/-- A step that settles a node anchors it. -/
theorem Step.anchored (hs : Step depth g ev g') (hfits : LogFits depth log g) (hg : g.WellFormed)
    (hset : ev.settles? = some n) (hcycle : ¬g.Precedes n n) :
    Anchored depth (log ++ [ev]) g' n := by
  intro start out st node hev hn
  have hlatest := hev.latest
  rw [latest?_concat_self log hset] at hlatest
  cases hlatest
  have hframe := hs.frame
  have hs' := hs
  cases hs with
  | @ran id node₀ vs out' st₀ hn₀ hv hempty hr =>
    have hres := hev.result
    rw [hr] at hres
    cases hres
    refine ⟨fun t _ => rfl, ?_⟩
    intro a start' out' st' other hprec heva ho
    rw [precedes_congr hframe.edges] at hprec
    have hne : n ≠ a := by
      rintro rfl
      exact hcycle hprec
    have heva₀ := evaluated_concat_ne heva hne
    obtain ⟨other₀, ho₀, hplan⟩ := hframe.exists_node_before ho
    rw [scope_eq_of_plan hplan]
    have hsize : (g.bound node₀ vs).store.size = g.store.size := size_bound _ _ _
    refine ⟨?_, ?_⟩
    · have := (hfits.size_le a start' out' st' heva₀.mem heva₀.result).2
      omega
    · -- The evaluation itself writes the scope of its node and new scopes only.
      intro t ht
      have hlt := heva₀.region_lt hfits hg ho₀ ht
      have hscope := heva₀.region_ne hfits hg ho₀ hn₀ hne ht
      have hwithin := evaluation_within (g := g.bound node₀ vs) hn₀ hr
      rw [← hsize] at hlt
      exact hwithin.same t hlt hscope

/-! ## Grounded nodes -/

/-- Settled and anchored. -/
def Grounded (depth : Nat) (log : List Event) (g : Graph) (n : NodeId) : Prop :=
  Settled depth log g n ∧ Anchored depth log g n

/-- A settled node with a value was evaluated to it. -/
theorem Settled.evaluated {v : Value} (h : Settled depth log g n)
    (hv : g.output? n = some (.value v)) :
    ∃ start st, Evaluated depth log n start (.value v) st := by
  obtain ⟨ev, hlast, hex⟩ := h
  have hset := settles?_of_latest? hlast
  cases ev with
  | opened => exact absurd hex id
  | refused m =>
    rw [hex.2] at hv
    cases hv
  | ran m start =>
    obtain rfl : m = n := Option.some.inj hset
    obtain ⟨node, vs, out, st, -, -, -, -, -, hres, hout⟩ := hex
    rw [hout] at hv
    cases hv
    exact ⟨start, st, hlast, hres⟩

/-- The producers of a node whose latest turn was an evaluation have values. -/
theorem Settled.producer_value (h : Settled depth log g n)
    (hev : Evaluated depth log n start out st) {p : NodeId} (hp : g.Feeds p n) :
    ∃ w, g.output? p = some (.value w) := by
  obtain ⟨ev, hlast, hex⟩ := h
  rw [hev.latest] at hlast
  cases hlast
  obtain ⟨node, vs, out, st, -, hvs, -⟩ := hex
  exact exists_value_of_feeds hvs hp

/-- All nodes before a node whose latest turn was an evaluation have values. -/
theorem value_of_precedes (hall : ∀ m, (g.output? m).isSome → Settled depth log g m)
    (hn : Settled depth log g n) (hev : Evaluated depth log n start out st)
    (ha : g.Precedes a n) : ∃ w, g.output? a = some (.value w) := by
  induction ha using Relation.TransGen.head_induction_on with
  | single hp => exact hn.producer_value hev hp
  | head hab _ ih =>
    obtain ⟨w, hw⟩ := ih
    have hsettled := hall _ (by rw [hw]; rfl)
    obtain ⟨start, st, hevb⟩ := hsettled.evaluated hw
    exact hsettled.producer_value hevb hab

/-- What holds all the way while nodes without output take their turns: the journal fits,
and each node that has an output is grounded. -/
structure Tracked (depth : Nat) (log : List Event) (g : Graph) : Prop where
  wellFormed : g.WellFormed
  acyclic : g.Acyclic
  fits : LogFits depth log g
  grounded : ∀ n, (g.output? n).isSome → Grounded depth log g n

theorem Tracked.step (h : Tracked depth log g) (hs : Step depth g ev g') (hfresh : Fresh g ev) :
    Tracked depth (log ++ [ev]) g' := by
  have hedges := hs.frame.edges
  refine ⟨hs.frame.wellFormed h.wellFormed, ?_, h.fits.step h.wellFormed hs, ?_⟩
  · unfold Acyclic
    rw [precedes_congr hedges]
    exact h.acyclic
  · intro n hn
    by_cases hset : ev.settles? = some n
    · have hself : g.Feeds n n → g.output? n = none := fun hf => absurd hf.precedes (h.acyclic n)
      exact ⟨hs.settled h.wellFormed hset hself log,
        hs.anchored h.fits h.wellFormed hset (h.acyclic n)⟩
    · rw [hs.output?_of_not_settles hset] at hn
      obtain ⟨hsettled, hanchored⟩ := h.grounded n hn
      have hne : ev.node ≠ n := by
        rintro rfl
        rw [hfresh] at hn
        cases hn
      refine ⟨hsettled.step hs hne fun _ => hfresh, ?_⟩
      by_cases hl : g.Leads ev.node n
      · -- Then `n` was refused, since the nodes before an evaluated one have values.
        intro start out st node hev hnode
        have hprec := (hl.eq_or_precedes).resolve_left hne.symm
        obtain ⟨w, hw⟩ := value_of_precedes (fun m hm => (h.grounded m hm).1) hsettled
          (evaluated_concat_ne hev hne) hprec
        rw [hfresh] at hw
        cases hw
      · exact hanchored.step h.fits h.wellFormed hs hl

theorem Steps.tracked (h : Steps depth Fresh g log g') (hg : Tracked depth [] g) :
    Tracked depth log g' := by
  have htracked := Steps.induction (P := Tracked depth) (fun _ _ _ _ hP hok hs => hP.step hs hok)
    h [] hg
  exact htracked

/-- After a full recompute every node is grounded. -/
theorem recomputeAll_tracked (hg : g.WellFormed) (hac : g.Acyclic)
    (h : recomputeAll depth g = .done () g') :
    Tracked depth (Journal.recomputeAll depth g).1 g' := by
  refine (recomputeAll_steps hg h).tracked ⟨hg.clearOutputs, hac, LogFits.nil depth _, ?_⟩
  intro n hn
  rw [output?_clearOutputs] at hn
  cases hn

/-! ## Scopes that evaluations own -/

/-- The latest turn of `n` was an evaluation that wrote scope `t`. -/
def Owns (depth : Nat) (log : List Event) (g : Graph) (n : NodeId) (t : ScopeId) : Prop :=
  ∃ start out st node, Evaluated depth log n start out st ∧ g.node? n = some node ∧
    Region node.scope start st t

namespace Tracked

variable (h : Tracked depth log g)
include h

theorem root_lt (hev : Evaluated depth log n start out st) : g.root < start.store.size :=
  h.fits.scopes_lt n start hev.mem _ List.mem_cons_self

/-- Nobody owns the root scope. -/
theorem owns_ne_root (ht : Owns depth log g n t) : t ≠ g.root := by
  obtain ⟨start, out, st, node, hev, hn, hregion⟩ := ht
  have hlt := h.root_lt hev
  rintro rfl
  rcases hregion with heq | ⟨hle, -⟩
  · exact h.wellFormed.scope_ne_root hn heq.symm
  · exact Nat.not_le_of_lt hlt hle

/-- Of two evaluations that are the latest ones of their nodes, one was over before the
other began. -/
theorem over_before (hm : Evaluated depth log m start out st)
    (hn : Evaluated depth log n start' out' st') (hne : m ≠ n) :
    st.size ≤ start'.store.size ∨ st'.size ≤ start.store.size := by
  let R (e e' : Event) := Event.OverBefore depth e e' ∨ Event.OverBefore depth e' e
  have hpair : log.Pairwise R := h.fits.ordered.imp Or.inl
  have hsymm : Std.Symm R := ⟨fun _ _ => Or.symm⟩
  have hevents : Event.ran m start ≠ Event.ran n start' := by
    intro heq
    cases heq
    exact hne rfl
  rcases hpair.forall hm.mem hn.mem hevents with hover | hover
  · exact Or.inl (hover m start out st n start' rfl hm.result rfl)
  · exact Or.inr (hover n start' out' st' m start rfl hn.result rfl)

/-- No two nodes own one scope. -/
theorem owner_unique (hm : Owns depth log g m t) (hn : Owns depth log g n t) : m = n := by
  by_contra hne
  obtain ⟨start, out, st, node, hevm, hnode, hregion⟩ := hm
  obtain ⟨start', out', st', other, hevn, hother, hregion'⟩ := hn
  rcases hregion' with rfl | ⟨hle', hlt'⟩
  · exact hevm.region_ne h.fits h.wellFormed hnode hother (Ne.symm hne) hregion rfl
  · rcases hregion with rfl | ⟨hle, hlt⟩
    · have hregion' : Region other.scope start' st' node.scope := Or.inr ⟨hle', hlt'⟩
      exact hevn.region_ne h.fits h.wellFormed hother hnode hne hregion' rfl
    · rcases h.over_before hevm hevn hne with hover | hover
      · exact Nat.not_lt_of_le (Nat.le_trans hover hle') hlt
      · exact Nat.not_lt_of_le (Nat.le_trans hover hle) hlt'

/-- What an evaluation could read before it began is as it was then: the root scope and the
scopes that the nodes before it own. -/
theorem same_before (hanchored : Anchored depth log g n) (hev : Evaluated depth log n start out st)
    (hn : g.node? n = some node) (ht : t = g.root ∨ ∃ m, g.Precedes m n ∧ Owns depth log g m t) :
    t < start.store.size ∧ g.store.scopes[t]? = start.store.scopes[t]? := by
  rcases ht with rfl | ⟨m, hprec, start', out', st', other, hevm, hother, hregion⟩
  · refine ⟨h.root_lt hev, ?_⟩
    exact (h.fits.within n start hev.mem).same _ (h.root_lt hev) fun hne => hne rfl
  · obtain ⟨hsize, hsame⟩ := (hanchored start out st node hev hn).2 m start' out' st' other hprec
      hevm hother
    refine ⟨?_, hsame t hregion⟩
    rcases hregion with rfl | ⟨-, hlt⟩
    · have hmem : other.scope ∈ g.root :: g.scopes :=
        List.mem_cons_of_mem _ (WellFormed.scope_mem hother)
      exact h.fits.scopes_lt n start hev.mem _ hmem
    · exact Nat.lt_of_lt_of_le hlt hsize

/-- What an evaluation could read when it was over is as it was then. -/
theorem same_after (hanchored : Anchored depth log g n) (hev : Evaluated depth log n start out st)
    (hn : g.node? n = some node) (hw : Store.Within (· = node.scope) start.store st)
    (ht : t = g.root ∨ ∃ m, g.Leads m n ∧ Owns depth log g m t) :
    g.store.scopes[t]? = st.scopes[t]? := by
  have hown : Owns depth log g n node.scope := ⟨start, out, st, node, hev, hn, Or.inl rfl⟩
  -- What came before the evaluation was not written by it.
  have hbefore : t ≠ node.scope → t = g.root ∨ (∃ m, g.Precedes m n ∧ Owns depth log g m t) →
      g.store.scopes[t]? = st.scopes[t]? := by
    intro hne ht
    obtain ⟨hlt, hsame⟩ := h.same_before hanchored hev hn ht
    rw [hsame, hw.same t hlt hne]
  rcases ht with ht | ⟨m, hm, hmt⟩
  · refine hbefore ?_ (Or.inl ht)
    rw [ht]
    exact (h.owns_ne_root hown).symm
  · rcases hm.eq_or_precedes with rfl | hprec
    · obtain ⟨start', out', st', node', hev', hn', hregion⟩ := hmt
      obtain ⟨rfl, rfl, rfl⟩ := hev.unique hev'
      obtain rfl : node = node' := Option.some.inj (hn.symm.trans hn')
      exact (hanchored start' out' st' node hev hn).1 t hregion
    · refine hbefore ?_ (Or.inr ⟨m, hprec, hmt⟩)
      rintro rfl
      obtain rfl := h.owner_unique hmt hown
      exact h.acyclic m hprec

end Tracked

/-! ## Passes downstream -/

/-- With the edges of `top`, a journal that fits, and an output for every node. -/
structure Complete (depth : Nat) (top : Graph) (log : List Event) (g : Graph) : Prop where
  wellFormed : g.WellFormed
  edges : g.edges = top.edges
  fits : LogFits depth log g
  outputs : ∀ n ∈ g.nodeIds, (g.output? n).isSome

theorem Complete.step (h : Complete depth top log g) (hs : Step depth g ev g') :
    Complete depth top (log ++ [ev]) g' := by
  refine ⟨hs.frame.wellFormed h.wellFormed, hs.frame.edges.trans h.edges,
    h.fits.step h.wellFormed hs, ?_⟩
  rw [hs.frame.nodeIds]
  exact fun n hn => hs.output_isSome (h.outputs n hn)

theorem Steps.complete {ok : Graph → Event → Prop} {before : List Event}
    (h : Steps depth ok g log g') (hg : Complete depth top before g) :
    Complete depth top (before ++ log) g' :=
  Steps.induction (fun _ _ _ _ hI _ hs => hI.step hs) h before hg

/-- Where all nodes have outputs, a pass downstream grounds the nodes that it comes to. -/
theorem grounded_lasting (depth : Nat) (top : Graph) :
    Lasting depth top (Complete depth top) (Grounded depth) := by
  refine ⟨fun h => h.wellFormed, fun h => h.edges, fun h hs => h.step hs, ?_, ?_⟩
  · intro before g log g' id hI hcycle h
    refine ⟨(settled_lasting depth top).start ⟨hI.wellFormed, hI.edges⟩ hcycle h, ?_⟩
    have hres := recomputeWithInputs_resolves depth id hI.wellFormed
    rw [h] at hres
    obtain ⟨inner, g₁, ev, rfl, hturn, hlast, hset⟩ := hres
    have hI₁ := hturn.steps.complete hI
    rw [← precedes_congr hI₁.edges] at hcycle
    have hanchored := hlast.anchored hI₁.fits hI₁.wellFormed hset hcycle
    rwa [List.append_assoc] at hanchored
  · rintro before g ev g' c n hI ⟨hsettled, hanchored⟩ hs hok hc
    refine ⟨(settled_lasting depth top).keep ⟨hI.wellFormed, hI.edges⟩ hsettled hs hok hc, ?_⟩
    have hl : top.Leads c ev.node := by
      rcases hok with hl | ⟨hnone, -⟩
      · exact hl
      · obtain ⟨node, hn⟩ := hs.exists_node
        have hsome := hI.outputs _ (mem_nodeIds_of_node? hn)
        simp [hnone] at hsome
    apply hanchored.step hI.fits hI.wellFormed hs
    intro hlead
    rw [leads_congr hI.edges] at hlead
    exact hc (hl.trans hlead)

end Graph

end Patchbay
