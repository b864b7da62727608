-- Cycles that a full recompute comes upon. A node looks at its producers in the order of
-- the edges, and no further than the first one without a value. A full recompute fails
-- exactly where nodes look at each other in a circle, so a cycle that a fault cuts off
-- goes unnoticed.
import Patchbay.Proofs.CycleErrors

namespace Patchbay

open Patchbay.Language

namespace Graph

variable {depth limit : Nat} {g g' g₁ h : Graph} {id n p : NodeId} {node : Node}
  {log : List Event} {ps waiting : List NodeId}

/-! ## What a node looks at -/

/-- Looking through `ps` in order comes to `p`: all that stand before it have values. -/
def ComesTo (g : Graph) (ps : List NodeId) (p : NodeId) : Prop :=
  ∃ before after, ps = before ++ p :: after ∧ ∀ q ∈ before, ∃ v, g.output? q = some (.value v)

/-- A run of `n` looks at its producer `p`. -/
def LooksAt (g : Graph) (p n : NodeId) : Prop := g.ComesTo (g.inputsOf n) p

/-- Some nodes look at each other in a circle. -/
def HasOpenCycle (g : Graph) : Prop := ∃ n, Relation.TransGen g.LooksAt n n

theorem comesTo_head (g : Graph) (p : NodeId) (ps : List NodeId) : g.ComesTo (p :: ps) p :=
  ⟨[], ps, rfl, fun _ hq => absurd hq List.not_mem_nil⟩

/-- Past a producer with a value. -/
theorem ComesTo.past {v : Value} (hp : g.output? p = some (.value v)) (hn : g.ComesTo ps n) :
    g.ComesTo (p :: ps) n := by
  obtain ⟨before, after, rfl, hbefore⟩ := hn
  refine ⟨p :: before, after, rfl, ?_⟩
  intro q hq
  rcases List.mem_cons.mp hq with rfl | hq
  · exact ⟨v, hp⟩
  · exact hbefore q hq

theorem comesTo_cons (h : g.ComesTo (p :: ps) n) :
    n = p ∨ (∃ v, g.output? p = some (.value v)) ∧ g.ComesTo ps n := by
  obtain ⟨before, after, heq, hbefore⟩ := h
  cases before with
  | nil =>
    obtain ⟨rfl, -⟩ := List.cons.inj heq
    exact Or.inl rfl
  | cons q before =>
    obtain ⟨rfl, hps⟩ := List.cons.inj heq
    exact Or.inr ⟨hbefore _ List.mem_cons_self, before, after, hps,
      fun r hr => hbefore r (List.mem_cons_of_mem _ hr)⟩

theorem LooksAt.feeds (h : g.LooksAt p n) : g.Feeds p n := by
  obtain ⟨before, after, heq, -⟩ := h
  apply mem_inputsOf.mp
  rw [heq]
  exact List.mem_append_right _ List.mem_cons_self

/-- Where all producers have values, each of them is looked at. -/
theorem Feeds.looksAt (h : g.Feeds p n)
    (hall : ∀ q, g.Feeds q n → ∃ v, g.output? q = some (.value v)) : g.LooksAt p n := by
  obtain ⟨before, after, heq⟩ := List.append_of_mem (mem_inputsOf.mpr h)
  refine ⟨before, after, heq, ?_⟩
  intro q hq
  apply hall
  apply mem_inputsOf.mp
  rw [heq]
  exact List.mem_append_left _ hq

/-! ## Outputs that stay -/

/-- From `g` to `g'` the edges stay, and so does each output that is there. -/
structure Retains (g g' : Graph) : Prop where
  edges : g'.edges = g.edges
  outputs : ∀ m, (g.output? m).isSome → g'.output? m = g.output? m

theorem Steps.retains (h : Steps depth Fresh g log g') : Retains g g' :=
  ⟨h.frame.edges, fun _ hm => h.output_eq_of_isSome hm⟩

theorem Step.retains {ev : Event} (h : Step depth g ev g') (hfresh : Fresh g ev) : Retains g g' :=
  (h.steps hfresh).retains

/-- Looking comes no further than before, if all that it came to had outputs. -/
theorem ComesTo.before (hr : Retains g g') (hset : ∀ q, g.ComesTo ps q → (g.output? q).isSome)
    (h : g'.ComesTo ps p) : g.ComesTo ps p := by
  induction ps with
  | nil =>
    obtain ⟨before, after, heq, -⟩ := h
    simp at heq
  | cons q ps ih =>
    rcases comesTo_cons h with rfl | ⟨⟨v, hv⟩, hp⟩
    · exact comesTo_head g _ ps
    · have hq : g.output? q = some (.value v) := by
        rw [← hr.outputs q (hset q (comesTo_head g q ps)), hv]
      exact (ih (fun r hr => hset r (hr.past hq)) hp).past hq

/-! ## Nodes with a foundation -/

/-- The node has an output, and so has all that it looks at, down to nodes that look at none. -/
inductive Founded (g : Graph) : NodeId → Prop
  | intro {n : NodeId} (set : (g.output? n).isSome)
    (producers : ∀ p, g.LooksAt p n → Founded g p) : Founded g n

/-- Each node with an output has a foundation. -/
def AllFounded (g : Graph) : Prop := ∀ n, (g.output? n).isSome → g.Founded n

theorem Founded.set (h : g.Founded n) : (g.output? n).isSome := by
  cases h with
  | intro set _ => exact set

/-- A foundation has no circles. -/
theorem Founded.not_circular (h : g.Founded n) : ¬Relation.TransGen g.LooksAt n n := by
  induction h with
  | @intro n set producers ih =>
    intro hn
    obtain ⟨p, hnp, hp⟩ := Relation.TransGen.tail'_iff.mp hn
    exact ih p hp (Relation.TransGen.head'_iff.mpr ⟨n, hp, hnp⟩)

theorem Founded.retained (hr : Retains g g') (h : g.Founded n) : g'.Founded n := by
  induction h with
  | @intro n set producers ih =>
    refine .intro (by rwa [hr.outputs n set]) ?_
    intro p hp
    unfold LooksAt at hp
    rw [inputsOf_congr hr.edges] at hp
    exact ih p (hp.before hr fun q hq => (producers q hq).set)

theorem AllFounded.emptied (hf : g.AllFounded) (node : Node) : (g.emptied node).AllFounded := by
  have hr : Retains g (g.emptied node) := ⟨rfl, fun _ _ => rfl⟩
  exact fun n hn => (hf n hn).retained hr

/-- A node gets an output after all that it looks at. -/
theorem AllFounded.step {ev : Event} (hf : g.AllFounded) (hs : Step depth g ev g')
    (hset : ev.settles? = some n) (hfresh : Fresh g ev)
    (hlooks : ∀ p, g.LooksAt p n → (g.output? p).isSome) : g'.AllFounded := by
  have hr := hs.retains hfresh
  have hold : ∀ m, (g.output? m).isSome → g'.Founded m := fun m hm => (hf m hm).retained hr
  intro m hm
  by_cases hev : ev.settles? = some m
  · obtain rfl : n = m := Option.some.inj (hset.symm.trans hev)
    refine .intro hm fun p hp => hold p (hlooks p ?_)
    unfold LooksAt at hp
    rw [inputsOf_congr hr.edges] at hp
    exact hp.before hr hlooks
  · rw [hs.output?_of_not_settles hev] at hm
    exact hold m hm

/-! ## Looking through the producers -/

/-- There is a circle, or `n` waits for `id` and the nodes from `n` to `id` look at each
other in turn. -/
def Circles (g : Graph) (waiting : List NodeId) (n id : NodeId) : Prop :=
  (n ∈ waiting ∧ Relation.ReflTransGen g.LooksAt n id) ∨ g.HasOpenCycle

/-- What looking through the producers `ps` comes to. -/
def LooksThrough (waiting ps : List NodeId) :
    Outcome GraphError Graph (Option (List Value)) → Prop
  | .done _ g' => g'.AllFounded ∧ ∀ p, g'.ComesTo ps p → (g'.output? p).isSome
  | .failed (.cycle n) g' => ∃ p, g'.ComesTo ps p ∧ g'.Circles waiting n p
  | _ => True

/-- What running a node without output comes to. -/
def Founds (waiting : List NodeId) (id : NodeId) : Outcome GraphError Graph Unit → Prop
  | .done _ g' => g'.AllFounded
  | .failed (.cycle n) g' => g'.Circles waiting n id
  | _ => True

/-- A circle on the way to a producer lies on the way to the consumer, which waits no more. -/
theorem Circles.consumer (h : g.Circles (id :: waiting) n p) (hp : g.LooksAt p id) :
    g.Circles waiting n id := by
  rcases h with ⟨hn, hl⟩ | hcircle
  · rcases List.mem_cons.mp hn with rfl | hn
    · exact Or.inr ⟨n, Relation.TransGen.tail' hl hp⟩
    · exact Or.inl ⟨hn, hl.tail hp⟩
  · exact Or.inr hcircle

section Collect

variable {r : NodeId → Journal Unit}

/-- A producer with an output in front of the others. -/
theorem prepend_looksThrough (hf : g.AllFounded) (hn : g.node? p = some node)
    (ho : node.output.isSome)
    (hc : Collects depth limit waiting ps g (Journal.collect r ps g))
    (hrest : LooksThrough waiting ps (Journal.collect r ps g).2) :
    LooksThrough waiting (p :: ps) (Journal.prepend p (Journal.collect r ps) g).2 := by
  obtain ⟨out, hout⟩ := Option.isSome_iff_exists.mp ho
  have hp : g.output? p = some out := by rw [output?_of_node? hn, hout]
  cases out with
  | fault f =>
    rw [Journal.prepend_of_fault hn hout]
    refine ⟨hf, ?_⟩
    intro q hq
    rcases comesTo_cons hq with rfl | ⟨⟨v, hv⟩, -⟩
    · simp [hp]
    · rw [hp] at hv
      cases hv
  | value v =>
    rw [Journal.prepend_of_value hn hout]
    rcases hr : Journal.collect r ps g with ⟨log, ⟨found, g'⟩ | ⟨e, g'⟩ | _⟩
    · rw [hr] at hc hrest
      have hp' : g'.output? p = some (.value v) := by
        rw [hc.1.steps.retains.outputs p (by simp [hp]), hp]
      refine ⟨hrest.1, ?_⟩
      intro q hq
      rcases comesTo_cons hq with rfl | ⟨-, hq⟩
      · simp [hp']
      · exact hrest.2 q hq
    · rw [hr] at hc hrest
      have hp' : g'.output? p = some (.value v) := by
        rw [hc.1.steps.retains.outputs p (by simp [hp]), hp]
      cases e with
      | cycle n =>
        obtain ⟨q, hq, hcircles⟩ := hrest
        exact ⟨q, hq.past hp', hcircles⟩
      | _ => trivial
    · trivial

/-- Where each producer without output is run as it should be, all are looked through so. -/
theorem collect_looksThrough
    (hr : ∀ p g, g.WellFormed → Resolves depth limit waiting p g (r p g))
    (hf : ∀ p g, g.WellFormed → g.AllFounded → g.output? p = none →
      Founds waiting p (r p g).2)
    (ps : List NodeId) {g : Graph} (hg : g.WellFormed) (hfounded : g.AllFounded) :
    LooksThrough waiting ps (Journal.collect r ps g).2 := by
  induction ps generalizing g with
  | nil =>
    refine ⟨hfounded, ?_⟩
    rintro p ⟨before, after, heq, -⟩
    simp at heq
  | cons p ps ih =>
    rcases hn : g.node? p with _ | node
    · rw [Journal.collect_of_unknown hn]
      trivial
    · rcases ho : node.output with _ | out
      · have hunset : g.output? p = none := by rw [output?_of_node? hn, ho]
        have hres := hr p g hg
        have hfounds := hf p g hg hfounded hunset
        rw [Journal.collect_of_unset hn ho]
        rcases hrun : r p g with ⟨log, ⟨u, g₂⟩ | ⟨e, g₂⟩ | _⟩
        · rw [hrun] at hres hfounds
          rw [Journal.bind_of_done hrun]
          obtain ⟨inner, g₁, ev, rfl, hturn, hstep, hset⟩ := hres
          have hg₂ := (hturn.to_search_last hunset hstep hset).frame.wellFormed hg
          obtain ⟨out, hout⟩ := Option.isSome_iff_exists.mp (hstep.output_of_settles hset)
          obtain ⟨node₂, hn₂, ho₂⟩ := node_of_output? hout
          exact prepend_looksThrough hfounds hn₂ (by simp [ho₂]) (collect_collects hr ps hg₂)
            (ih hg₂ hfounds)
        · rw [hrun] at hfounds
          rw [Journal.bind_of_failed hrun]
          cases e with
          | cycle n => exact ⟨p, comesTo_head g₂ p ps, hfounds⟩
          | _ => trivial
        · rw [Journal.bind_of_exhausted hrun]
          trivial
      · have hsome : node.output.isSome := by simp [ho]
        rw [Journal.collect_of_output hn hsome]
        exact prepend_looksThrough hfounded hn hsome (collect_collects hr ps hg) (ih hg hfounded)

end Collect

theorem resolve_founds (depth limit : Nat) (waiting : List NodeId) (id : NodeId) {g : Graph}
    (hg : g.WellFormed) (hf : g.AllFounded) (ho : g.output? id = none) :
    Founds waiting id (Journal.resolve depth limit waiting id g).2 := by
  induction limit generalizing waiting id g with
  | zero => trivial
  | succ limit ih =>
    have hcourse := resolve_course depth limit waiting id hg
    have hlooks : ∀ node, g.node? id = some node → LooksThrough (id :: waiting) (g.inputsOf id)
        (Journal.collect (Journal.resolve depth limit (id :: waiting)) (g.inputsOf id)
          (g.emptied node)).2 := by
      intro node hn
      exact collect_looksThrough
        (fun p g hg => resolve_resolves depth limit (id :: waiting) p hg)
        (fun p g hg hf ho => ih (id :: waiting) p hg hf ho) (g.inputsOf id)
        ((frame_emptied hn).wellFormed hg) (hf.emptied node)
    generalize Journal.resolve depth (limit + 1) waiting id g = result at hcourse
    cases hcourse with
    | waits hw => exact Or.inl ⟨hw, .refl⟩
    | missing => trivial
    | @settled node found log g₁ g₂ ev hn hturn hcollect hlast hset =>
      have hdone := hlooks node hn
      rw [hcollect, ← inputsOf_congr hturn.frame.edges] at hdone
      have hfresh : Fresh g₁ ev := by
        unfold Fresh
        rw [Event.node_of_settles? hset, output?_congr hturn.node?_eq, ho]
      exact hdone.1.step hlast hset hfresh hdone.2
    | @broken node e log g₁ hn hturn hcollect _ =>
      have hfailed := hlooks node hn
      rw [hcollect, ← inputsOf_congr hturn.frame.edges] at hfailed
      cases e with
      | cycle n =>
        obtain ⟨p, hp, hcircles⟩ := hfailed
        exact hcircles.consumer hp
      | _ => trivial
    | endless => trivial

/-! ## The full recompute -/

/-- From a well-formed graph whose nodes with outputs have foundations, `x` leads to such graphs,
and where it fails for a cycle it leaves nodes that look at each other in a circle. -/
def Detects (x : Journal Unit) : Prop :=
  ∀ g, g.WellFormed → g.AllFounded → ∀ g',
    ((x g).2 = .done () g' → g'.WellFormed ∧ g'.AllFounded) ∧
    ∀ n, (x g).2 = .failed (.cycle n) g' → g'.HasOpenCycle

theorem recomputeIfUnset_detects (depth : Nat) (id : NodeId) :
    Detects (Journal.recomputeIfUnset depth id) := by
  intro g hg hf g'
  rcases hn : g.node? id with _ | node
  · rw [Journal.recomputeIfUnset_of_unknown hn]
    simp
  · rcases ho : node.output with _ | out
    · rw [Journal.recomputeIfUnset_of_unset hn ho]
      have hunset : g.output? id = none := by rw [output?_of_node? hn, ho]
      have hfounds := resolve_founds depth (g.nodes.length + 1) [] id hg hf hunset
      change Founds [] id (Journal.recomputeWithInputs depth id g).2 at hfounds
      have hmakes := recomputeWithInputs_makes depth id g.edges g hg rfl g'
      constructor
      · intro hdone
        rw [hdone] at hfounds hmakes
        exact ⟨(hmakes rfl).frame.wellFormed hg, hfounds⟩
      · intro n hfailed
        rw [hfailed] at hfounds
        rcases hfounds with ⟨hn, -⟩ | hcircle
        · cases hn
        · exact hcircle
    · rw [Journal.recomputeIfUnset_of_output hn (by simp [ho])]
      constructor
      · intro hdone
        cases hdone
        exact ⟨hg, hf⟩
      · intro n hfailed
        cases hfailed

theorem Detects.forEach {f : NodeId → Journal Unit} {xs : List NodeId}
    (h : ∀ x ∈ xs, Detects (f x)) : Detects (Journal.forEach f xs) := by
  induction xs with
  | nil =>
    intro g hg hf g'
    constructor
    · intro hdone
      cases hdone
      exact ⟨hg, hf⟩
    · intro n hfailed
      cases hfailed
  | cons x xs ih =>
    intro g hg hf g'
    have hx := h x List.mem_cons_self g hg hf
    rw [Journal.forEach]
    rcases hr : f x g with ⟨log, ⟨u, g₁⟩ | ⟨e, g₁⟩ | _⟩
    · rw [hr] at hx
      rw [Journal.bind_of_done hr]
      obtain ⟨hg₁, hf₁⟩ := (hx g₁).1 rfl
      exact ih (fun y hy => h y (List.mem_cons_of_mem _ hy)) g₁ hg₁ hf₁ g'
    · rw [hr] at hx
      rw [Journal.bind_of_failed hr]
      exact hx g'
    · rw [Journal.bind_of_exhausted hr]
      simp

/-- The full recompute starts without outputs, so nothing lacks a foundation. -/
theorem recomputeAll_detects (hg : g.WellFormed) (g' : Graph) :
    (recomputeAll depth g = .done () g' → g'.AllFounded) ∧
    ∀ n, recomputeAll depth g = .failed (.cycle n) g' → g'.HasOpenCycle := by
  have hunset : g.clearOutputs.AllFounded := by
    intro n hn
    rw [output?_clearOutputs] at hn
    cases hn
  have hdetects : Detects (Journal.recomputeUnset depth g.clearOutputs.nodeIds) :=
    Detects.forEach fun id _ => recomputeIfUnset_detects depth id
  obtain ⟨hdone, hfailed⟩ := hdetects g.clearOutputs hg.clearOutputs hunset g'
  rw [← Journal.erase_recomputeAll]
  exact ⟨fun h => (hdone h).2, hfailed⟩

/-- Where all nodes have outputs and foundations, no nodes look at each other in a circle. -/
theorem AllFounded.not_hasOpenCycle (hg : g.WellFormed) (hf : g.AllFounded)
    (hset : ∀ n ∈ g.nodeIds, (g.output? n).isSome) : ¬g.HasOpenCycle := by
  rintro ⟨n, hn⟩
  obtain ⟨p, hnp, hp⟩ := Relation.TransGen.tail'_iff.mp hn
  exact (hf n (hset n (hg.consumer_mem hp.feeds))).not_circular hn

/-! ## Where no source fails -/

/-- The evaluation gives a value, if there is one. -/
def Event.Succeeds (depth : Nat) : Event → Prop
  | .ran id start => (start.evaluation depth id).succeeds = true
  | _ => True

instance (depth : Nat) (ev : Event) : Decidable (ev.Succeeds depth) :=
  match ev with
  | .opened _ => isTrue trivial
  | .refused _ => isTrue trivial
  | .ran id start => inferInstanceAs (Decidable ((start.evaluation depth id).succeeds = true))

theorem Event.Succeeds.ends {ev : Event} (h : ev.Succeeds depth) : ev.Ends depth := by
  cases ev with
  | ran id start =>
    intro hexhausted
    have hsucceeds : (start.evaluation depth id).succeeds = true := h
    rw [hexhausted] at hsucceeds
    cases hsucceeds
  | opened => trivial
  | refused => trivial

/-- All evaluations of a full recompute give values. -/
def NoSourceFails (depth : Nat) (g : Graph) : Prop :=
  ∀ ev ∈ (Journal.recomputeAll depth g).1, ev.Succeeds depth

instance (depth : Nat) (g : Graph) : Decidable (g.NoSourceFails depth) :=
  inferInstanceAs (Decidable (∀ ev ∈ (Journal.recomputeAll depth g).1, ev.Succeeds depth))

def Faultless (g : Graph) : Prop := ∀ n f, g.output? n ≠ some (.fault f)

/-- A step makes a fault only of an evaluation that fails, or of another fault. -/
theorem Step.faultless {ev : Event} (hs : Step depth g ev g') (hg : g.Faultless)
    (hev : ev.Succeeds depth) : g'.Faultless := by
  intro m f hm
  by_cases hset : ev.settles? = some m
  · cases hs with
    | opened => cases hset
    | refused hn hp hf => exact hg _ _ hf
    | @ran id node vs out st hn hv hempty hr =>
      obtain rfl := Option.some.inj hset
      have hn' : (g.bound node vs).node? id = some node := hn
      rw [output?_finished hn'] at hm
      obtain rfl := Option.some.inj hm
      have hsucceeds : ((g.bound node vs).evaluation depth id).succeeds = true := hev
      rcases he : (g.bound node vs).evaluation depth id with ⟨v, st'⟩ | ⟨cause, st'⟩ | _
      · rw [he] at hr
        cases hr
      · rw [he] at hsucceeds
        cases hsucceeds
      · rw [he] at hsucceeds
        cases hsucceeds
  · rw [hs.output?_of_not_settles hset] at hm
    exact hg m f hm

theorem Steps.faultless {ok : Graph → Event → Prop} (h : Steps depth ok g log g')
    (hg : g.Faultless) (hlog : ∀ ev ∈ log, ev.Succeeds depth) : g'.Faultless := by
  induction h with
  | nil => exact hg
  | cons hs _ _ ih =>
    exact ih (hs.faultless hg (hlog _ List.mem_cons_self))
      fun ev hev => hlog ev (List.mem_cons_of_mem _ hev)

/-- Where no source fails, a full recompute that succeeds has met no cycle. -/
theorem NoSourceFails.acyclic (hno : g.NoSourceFails depth) (hg : g.WellFormed)
    (hdone : recomputeAll depth g = .done () g') : g.Acyclic := by
  have hsteps := recomputeAll_steps hg hdone
  have hfaultless : g'.Faultless := by
    refine hsteps.faultless ?_ hno
    intro n f hn
    rw [output?_clearOutputs] at hn
    cases hn
  have hset := recomputeAll_sets hg hdone
  have hg' := hsteps.frame.wellFormed hg.clearOutputs
  have hids : g'.nodeIds = g.nodeIds := hsteps.frame.nodeIds.trans (nodeIds_clearOutputs g)
  rw [← hids] at hset
  have hvalue : ∀ q n, g'.Feeds q n → ∃ v, g'.output? q = some (.value v) := by
    intro q n hq
    obtain ⟨out, hout⟩ := Option.isSome_iff_exists.mp (hset q (hg'.producer_mem hq))
    cases out with
    | value v => exact ⟨v, hout⟩
    | fault f => exact absurd hout (hfaultless q f)
  have hnone := ((recomputeAll_detects hg g').1 hdone).not_hasOpenCycle hg' hset
  intro n hn
  have hedges : g'.edges = g.edges := hsteps.frame.edges
  rw [← precedes_congr hedges] at hn
  exact hnone ⟨n, Relation.TransGen.lift id
    (fun _ b hfeeds => hfeeds.looksAt fun q hq => hvalue q b hq) _ _ hn⟩

/-! ## Cycles that are come upon -/

/-- What a full recompute of `g` that leaves `g'` tells of the cycles of `g`. -/
structure TellsOfCycles (depth : Nat) (g g' : Graph) : Prop where
  /-- It fails exactly where nodes look at each other in a circle. -/
  fails_iff : FailsByCycle (recomputeAll depth g) ↔ g'.HasOpenCycle
  succeeds : ¬FailsByCycle (recomputeAll depth g) → recomputeAll depth g = .done () g'
  sound : FailsByCycle (recomputeAll depth g) → ¬g.Acyclic
  /-- Where no source fails, no cycle is cut off. -/
  complete : g.NoSourceFails depth → (FailsByCycle (recomputeAll depth g) ↔ ¬g.Acyclic)

/-- Where the evaluations end, a full recompute succeeds or fails for a cycle. -/
theorem recomputeAll_tellsOfCycles (hg : g.WellFormed)
    (hends : ∀ ev ∈ (Journal.recomputeAll depth g).1, ev.Ends depth) :
    ∃ g', (recomputeAll depth g).state? = some g' ∧ TellsOfCycles depth g g' := by
  rcases (recomputeAll_truthful hg hends).sound with ⟨g', hdone⟩ | ⟨n, g', hfailed, hcycle⟩
  · have hnot : ¬FailsByCycle (recomputeAll depth g) := by
      rintro ⟨n, g₂, hfailed⟩
      rw [hdone] at hfailed
      cases hfailed
    have hsteps := recomputeAll_steps hg hdone
    have hset := recomputeAll_sets hg hdone
    have hids : g'.nodeIds = g.nodeIds := hsteps.frame.nodeIds.trans (nodeIds_clearOutputs g)
    rw [← hids] at hset
    have hclosed := ((recomputeAll_detects hg g').1 hdone).not_hasOpenCycle
      (hsteps.frame.wellFormed hg.clearOutputs) hset
    refine ⟨g', by rw [hdone]; rfl, ?_, fun _ => hdone, fun h => absurd h hnot, ?_⟩
    · exact ⟨fun h => absurd h hnot, fun h => absurd h hclosed⟩
    · intro hno
      exact ⟨fun h => absurd h hnot, fun h => absurd (hno.acyclic hg hdone) h⟩
  · have hfails : FailsByCycle (recomputeAll depth g) := ⟨n, g', hfailed⟩
    have hcyclic : ¬g.Acyclic := fun hac => hac n hcycle
    have hopen := (recomputeAll_detects hg g').2 n hfailed
    exact ⟨g', by rw [hfailed]; rfl, ⟨fun _ => hopen, fun _ => hfails⟩,
      fun h => absurd hfails h, fun _ => hcyclic, fun _ => ⟨fun _ => hcyclic, fun _ => hfails⟩⟩

/-- Where the evaluations end, a full recompute fails for a cycle exactly if some nodes look at
each other in a circle, each at a producer before which all others have values. It does so
only where there is a cycle, and where no source fails it does so wherever there is one: the
answer is then the same for any two graphs with the same relation between producers and
consumers. -/
theorem full_recompute_fails_at_open_cycles (depth : Nat) (g : Graph) (hg : g.WellFormed)
    (hends : ∀ ev ∈ (Journal.recomputeAll depth g).1, ev.Ends depth) :
    (∃ g', (recomputeAll depth g).state? = some g' ∧ TellsOfCycles depth g g') ∧
    ∀ h : Graph, h.WellFormed → h.Feeds = g.Feeds → g.NoSourceFails depth →
      h.NoSourceFails depth →
      (FailsByCycle (recomputeAll depth h) ↔ FailsByCycle (recomputeAll depth g)) := by
  obtain ⟨g', hs, htells⟩ := recomputeAll_tellsOfCycles hg hends
  refine ⟨⟨g', hs, htells⟩, ?_⟩
  intro h hh hfeeds hno hno'
  obtain ⟨h', -, htells'⟩ := recomputeAll_tellsOfCycles hh fun ev hev => (hno' ev hev).ends
  have hacyclic : h.Acyclic ↔ g.Acyclic := by
    unfold Acyclic Precedes
    rw [hfeeds]
  rw [htells'.complete hno', htells.complete hno, hacyclic]

/-- A node that fails feeds the second one ahead of the third, and these two feed each other. -/
def maskedCycle : Graph := ofSources ["1 + \"x\"", "1", "2"] [⟨0, 1⟩, ⟨2, 1⟩, ⟨1, 2⟩]

/-- The same edges between nodes that do not fail. -/
def barefacedCycle : Graph := ofSources ["1", "1", "2"] [⟨0, 1⟩, ⟨2, 1⟩, ⟨1, 2⟩]

/-- Behind the fault no circle is open. Where nothing fails, the order of the edges makes no
difference. -/
theorem maskedCycle_is_closed_and_barefacedCycle_is_met :
    (∃ g', recomputeAll 20 maskedCycle = .done () g' ∧ ¬g'.HasOpenCycle) ∧
    (FailsByCycle (recomputeAll 20 barefacedCycle) ↔ ¬barefacedCycle.Acyclic) ∧
    (FailsByCycle (recomputeAll 20
        { barefacedCycle with edges := barefacedCycle.edges.reverse }) ↔
      FailsByCycle (recomputeAll 20 barefacedCycle)) := by
  obtain ⟨⟨g', hs, htells⟩, -⟩ := full_recompute_fails_at_open_cycles 20 maskedCycle
    (by decide +kernel) (by decide +kernel)
  obtain ⟨⟨h', -, htells'⟩, hsame⟩ := full_recompute_fails_at_open_cycles 20 barefacedCycle
    (by decide +kernel) (by decide +kernel)
  have hno : barefacedCycle.NoSourceFails 20 := by decide +kernel
  refine ⟨?_, htells'.complete hno, hsame _ (by decide +kernel) ?_ hno (by decide +kernel)⟩
  · obtain ⟨g₂, hdone⟩ := Outcome.eq_done (o := recomputeAll 20 maskedCycle) (by decide +kernel)
    obtain rfl : g₂ = g' := by
      rw [hdone] at hs
      exact Option.some.inj hs
    refine ⟨g₂, hdone, fun hopen => ?_⟩
    obtain ⟨n, g₃, hfailed⟩ := htells.fails_iff.mpr hopen
    rw [hdone] at hfailed
    cases hfailed
  · funext p c
    exact propext List.mem_reverse

/-- A cycle goes unnoticed behind a fault. With the same edges in another order it does not. -/
theorem masked_cycle_goes_unnoticed :
    maskedCycle.WellFormed ∧
    (∀ ev ∈ (Journal.recomputeAll 20 maskedCycle).1, ev.Ends 20) ∧
    maskedCycle.Precedes 1 1 ∧ ¬FailsByCycle (recomputeAll 20 maskedCycle) ∧
    FailsByCycle (recomputeAll 20 { maskedCycle with edges := [⟨2, 1⟩, ⟨0, 1⟩, ⟨1, 2⟩] }) := by
  have h₁ : maskedCycle.Feeds 1 2 := by decide +kernel
  have h₂ : maskedCycle.Feeds 2 1 := by decide +kernel
  refine ⟨by decide +kernel, by decide +kernel, h₁.precedes.trans h₂.precedes, ?_, ?_⟩
  · rintro ⟨n, g', hfailed⟩
    obtain ⟨g₂, hdone⟩ := Outcome.eq_done (o := recomputeAll 20 maskedCycle) (by decide +kernel)
    rw [hdone] at hfailed
    cases hfailed
  · have htruthful : Truthful { maskedCycle with edges := [⟨2, 1⟩, ⟨0, 1⟩, ⟨1, 2⟩] }
        (recomputeAll 20 { maskedCycle with edges := [⟨2, 1⟩, ⟨0, 1⟩, ⟨1, 2⟩] }) :=
      recomputeAll_truthful (by decide +kernel) (by decide +kernel)
    rcases htruthful.sound with ⟨g', hdone⟩ | ⟨n, g', hfailed, -⟩
    · have hsucceeds : (recomputeAll 20
          { maskedCycle with edges := [⟨2, 1⟩, ⟨0, 1⟩, ⟨1, 2⟩] }).succeeds = false := by
        decide +kernel
      rw [hdone] at hsucceeds
      cases hsucceeds
    · exact ⟨n, g', hfailed⟩

end Graph

end Patchbay
