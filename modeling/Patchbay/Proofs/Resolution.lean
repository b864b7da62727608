-- What it comes to when a node is run after its producers. The steps of a
-- turn are on nodes without output that lie before the node; a failure is a
-- cycle or an unknown node on the way to it; and depth only runs out in the
-- evaluation of a source.
import Patchbay.Proofs.Settled

namespace Patchbay

open Patchbay.Language

namespace Graph

variable {depth limit : Nat} {g g' g₁ : Graph} {id m n p : NodeId} {node : Node}
  {log : List Event} {waiting ps : List NodeId}

/-! ## Running one node -/

theorem modifyNode_modifyNode (g : Graph) {f k : Node → Node} (hf : ∀ n, (f n).id = n.id) :
    (g.modifyNode id f).modifyNode id k = g.modifyNode id fun n => k (f n) := by
  unfold modifyNode
  simp only [List.map_map, Graph.mk.injEq, true_and, and_true]
  apply List.map_congr_left
  intro n _
  by_cases h : n.id = id
  · simp [h, hf]
  · simp [h]

/-- A run finishes the node with the result of its evaluation. -/
theorem run_eq (hn : g.node? id = some node) : Graph.run depth id g =
    (g.evaluation depth id).result?.elim .exhausted
      fun r => .done () (g.finished node r.1 r.2) := by
  have hid := id_of_node? hn
  subst hid
  unfold evaluation Graph.run
  rw [hn, Action.bind_of_done (Journal.find_of_some hn)]
  unfold Language.evaluateIn finished
  dsimp only
  rcases hp : parseSource node.source with e | e
  · rfl
  · -- The two changes of the node are one, since the first keeps its id.
    have hset : ∀ (g : Graph) (out : Output),
        ((g.modifyNode node.id fun node => { node with compiled := some e }).modifyNode node.id
          fun node => { node with output := some out }) =
        g.modifyNode node.id fun node => { node with compiled := some e, output := some out } :=
      fun g out => modifyNode_modifyNode g fun _ => rfl
    have hstore : (g.modifyNode node.id fun node => { node with compiled := some e }).store =
        g.store := rfl
    dsimp only
    rw [Action.change_bind, Action.read_bind, hstore]
    rcases evaluate depth node.scope e g.store with ⟨v, st⟩ | ⟨cause, st⟩ | _
    · exact congrArg (Outcome.done ()) (hset { g with store := st } _)
    · exact congrArg (Outcome.done ()) (hset { g with store := st } _)
    · rfl

/-! ## What a recompute promises -/

/-- From `g` to `g'`, nodes without output take their turns that lead to one of
the nodes `ps`. None of them is among those that wait. -/
structure Search (depth : Nat) (waiting ps : List NodeId) (g : Graph) (log : List Event)
    (g' : Graph) : Prop where
  steps : Steps depth Fresh g log g'
  leads : ∀ ev ∈ log, ∃ p ∈ ps, g.Leads ev.node p
  free : ∀ ev ∈ log, ev.node ∉ waiting

/-- The turn of a node up to where its producers have been looked at. -/
structure Turn (depth : Nat) (waiting : List NodeId) (id : NodeId) (g : Graph) (log : List Event)
    (g' : Graph) : Prop where
  free : id ∉ waiting
  search : ∃ node, g.node? id = some node ∧
    Search depth (id :: waiting) (g.inputsOf id) (g.emptied node) log g'

/-- What a failure says of the graph, where the nodes `waiting` wait for node `id`. -/
def Blames (g : Graph) (waiting : List NodeId) (id : NodeId) : GraphError → Prop
  | .cycle n => (n ∈ waiting ∧ g.Leads n id) ∨ g.Precedes n n
  | .unknownNode n => n ∉ g.nodeIds ∧ g.Leads n id
  | _ => False

/-- All nodes that do not wait yet may still come to wait. -/
structure Room (g : Graph) (limit : Nat) (waiting : List NodeId) : Prop where
  nodup : waiting.Nodup
  known : ∀ n ∈ waiting, n ∈ g.nodeIds
  lt : g.nodeIds.length < limit + waiting.length

/-- The values of producers, or the news that one of them has a fault. -/
def Answers (g : Graph) (ps : List NodeId) : Option (List Value) → Prop
  | some vs => List.Forall₂ (fun p v => g.output? p = some (.value v)) ps vs
  | none => ∃ p ∈ ps, ∃ f, g.output? p = some (.fault f)

/-- What looking at the producers `ps` comes to. -/
def Collects (depth limit : Nat) (waiting ps : List NodeId) (g : Graph) :
    List Event × Outcome GraphError Graph (Option (List Value)) → Prop
  | (log, .done found g') => Search depth waiting ps g log g' ∧ g'.Answers ps found
  | (log, .failed e g') => Search depth waiting ps g log g' ∧ ∃ p ∈ ps, g.Blames waiting p e
  | (log, .exhausted) => g.Room limit waiting → ∃ ev ∈ log, ¬ev.Ends depth

/-- What running a node after its producers comes to. -/
def Resolves (depth limit : Nat) (waiting : List NodeId) (id : NodeId) (g : Graph) :
    List Event × Outcome GraphError Graph Unit → Prop
  | (log, .done _ g') => ∃ inner g₁ ev, log = .opened id :: (inner ++ [ev]) ∧
      Turn depth waiting id g inner g₁ ∧ Step depth g₁ ev g' ∧ ev.settles? = some id
  | (log, .failed e g') => g.Blames waiting id e ∧
      ((log = [] ∧ g' = g) ∨ ∃ inner, log = .opened id :: inner ∧ Turn depth waiting id g inner g')
  | (log, .exhausted) => g.Room limit waiting → ∃ ev ∈ log, ¬ev.Ends depth

/-! ## Searches -/

namespace Search

theorem nil (depth : Nat) (waiting ps : List NodeId) (g : Graph) :
    Search depth waiting ps g [] g := by
  refine ⟨.nil g, ?_, ?_⟩ <;> simp

theorem frame (h : Search depth waiting ps g log g') :
    Frame (fun m => ∃ ev ∈ log, ev.node = m) g g' := h.steps.frame

theorem mono {qs : List NodeId} (h : Search depth waiting ps g log g') (hsub : ∀ p ∈ ps, p ∈ qs) :
    Search depth waiting qs g log g' := by
  refine ⟨h.steps, ?_, h.free⟩
  intro ev hev
  obtain ⟨p, hp, hl⟩ := h.leads ev hev
  exact ⟨p, hsub p hp, hl⟩

theorem append {log' : List Event} (h : Search depth waiting ps g log g₁)
    (k : Search depth waiting ps g₁ log' g') : Search depth waiting ps g (log ++ log') g' := by
  have hkl := k.leads
  rw [leads_congr h.frame.edges] at hkl
  refine ⟨h.steps.append k.steps, ?_, ?_⟩
  · intro ev hev
    rcases List.mem_append.mp hev with hev | hev
    · exact h.leads ev hev
    · exact hkl ev hev
  · intro ev hev
    rcases List.mem_append.mp hev with hev | hev
    · exact h.free ev hev
    · exact k.free ev hev

end Search

theorem Blames.congr {e : GraphError} (he : g'.edges = g.edges) (hids : g'.nodeIds = g.nodeIds) :
    g'.Blames waiting id e ↔ g.Blames waiting id e := by
  unfold Blames
  rw [leads_congr he, precedes_congr he, hids]

/-- What is wrong on the way to a producer is wrong on the way to the consumer. -/
theorem Blames.consumer {e : GraphError} (h : g.Blames (id :: waiting) p e) (hp : g.Feeds p id) :
    g.Blames waiting id e := by
  cases e with
  | cycle n =>
    rcases h with ⟨hn, hl⟩ | hcycle
    · rcases List.mem_cons.mp hn with rfl | hn
      · exact Or.inr (hl.trans_feeds hp)
      · exact Or.inl ⟨hn, (hl.trans_feeds hp).leads⟩
    · exact Or.inr hcycle
  | unknownNode n => exact ⟨h.1, (h.2.trans_feeds hp).leads⟩
  | invalidEdge => exact h
  | indexOutOfRange => exact h
  | unreadable => exact h

namespace Turn

variable (h : Turn depth waiting id g log g')
include h

theorem frame : Frame (fun m => ∃ ev ∈ (.opened id :: log : List Event), ev.node = m) g g' := by
  obtain ⟨node, hn, hs⟩ := h.search
  refine ((frame_emptied hn).mono ?_).trans (hs.frame.mono ?_)
  · rintro m rfl
    exact ⟨_, List.mem_cons_self, rfl⟩
  · rintro m ⟨ev, hev, rfl⟩
    exact ⟨ev, List.mem_cons_of_mem _ hev, rfl⟩

/-- The nodes that take their turns in it lie before the node. -/
theorem precedes {ev : Event} (hev : ev ∈ log) : g.Precedes ev.node id := by
  obtain ⟨node, hn, hs⟩ := h.search
  obtain ⟨p, hp, hl⟩ := hs.leads ev hev
  exact Leads.trans_feeds hl (mem_inputsOf.mp hp)

theorem ne_of_mem {ev : Event} (hev : ev ∈ log) : ev.node ≠ id := by
  obtain ⟨node, hn, hs⟩ := h.search
  intro heq
  exact hs.free ev hev (heq ▸ List.mem_cons_self)

/-- The node itself is only opened. -/
theorem node?_eq : g'.node? id = g.node? id := by
  obtain ⟨node, hn, hs⟩ := h.search
  have hsame : g'.node? id = (g.emptied node).node? id := by
    apply hs.frame.node
    rintro ⟨ev, hev, heq⟩
    exact h.ne_of_mem hev heq
  exact hsame

/-- Its scope stays empty, since no other node binds in it. -/
theorem scope_empty (hg : g.WellFormed) {node : Node} (hn : g.node? id = some node) :
    g'.store.bindings node.scope = [] := by
  obtain ⟨node', hn', hs⟩ := h.search
  obtain rfl : node = node' := Option.some.inj (hn.symm.trans hn')
  have hg₁ := (frame_emptied hn).wellFormed hg
  have hsame : g'.store.bindings node.scope = (g.emptied node).store.bindings node.scope := by
    apply hs.frame.bindings_same (m := id) hg₁ hn
    rintro ⟨ev, hev, heq⟩
    exact h.ne_of_mem hev heq
  rw [hsame]
  exact Store.bindings_clear_self _ _

/-- The turn of a node without output, as a search for it. -/
theorem to_search (ho : g.output? id = none) :
    Search depth waiting [id] g (.opened id :: log) g' := by
  have hprecedes : ∀ ev ∈ log, g.Precedes ev.node id := fun ev hev => h.precedes hev
  obtain ⟨node, hn, hs⟩ := h.search
  refine ⟨.cons (.opened hn) ho hs.steps, ?_, ?_⟩
  · intro ev hev
    refine ⟨id, List.mem_singleton_self id, ?_⟩
    rcases List.mem_cons.mp hev with rfl | hev
    · exact Leads.refl g id
    · exact (hprecedes ev hev).leads
  · intro ev hev
    rcases List.mem_cons.mp hev with rfl | hev
    · exact h.free
    · exact fun hw => hs.free ev hev (List.mem_cons_of_mem _ hw)

/-- The node is without output up to the step that settles it. -/
theorem to_search_last {ev : Event} {g₂ : Graph} (ho : g.output? id = none)
    (hstep : Step depth g' ev g₂) (hset : ev.settles? = some id) :
    Search depth waiting [id] g (.opened id :: (log ++ [ev])) g₂ := by
  have hnode := Event.node_of_settles? hset
  have hfresh : Fresh g' ev := by
    unfold Fresh
    rw [hnode, output?_congr h.node?_eq, ho]
  have hlast : Search depth waiting [id] g' [ev] g₂ := by
    refine ⟨hstep.steps hfresh, ?_, ?_⟩
    · intro ev' hev
      rw [List.mem_singleton.mp hev, hnode]
      exact ⟨id, List.mem_singleton_self id, Leads.refl g' id⟩
    · intro ev' hev
      rw [List.mem_singleton.mp hev, hnode]
      exact h.free
  exact (h.to_search ho).append hlast

end Turn

/-! ## Room -/

theorem Room.congr (h : g.Room limit waiting) (hids : g'.nodeIds = g.nodeIds) :
    g'.Room limit waiting := by
  refine ⟨h.nodup, ?_, ?_⟩
  · rw [hids]; exact h.known
  · rw [hids]; exact h.lt

theorem Room.wait (h : g.Room (limit + 1) waiting) (hfree : id ∉ waiting)
    (hn : g.node? id = some node) : g.Room limit (id :: waiting) := by
  refine ⟨List.nodup_cons.mpr ⟨hfree, h.nodup⟩, ?_, ?_⟩
  · intro n hmem
    rcases List.mem_cons.mp hmem with rfl | hmem
    · exact mem_nodeIds_of_node? hn
    · exact h.known n hmem
  · have := h.lt
    rw [List.length_cons]
    omega

/-- Not more nodes than there are can wait. -/
theorem Room.pos (h : g.Room limit waiting) : 0 < limit := by
  have hle : waiting.length ≤ g.nodeIds.length := (h.nodup.subperm h.known).length_le
  have := h.lt
  omega

/-! ## Looking at the producers -/

section Collect

variable {r : NodeId → Journal Unit}

/-- A search in front of one that looks at the producers. -/
theorem Collects.after {log' : List Event} {o : Outcome GraphError Graph (Option (List Value))}
    (h : Search depth waiting ps g log g₁) (k : Collects depth limit waiting ps g₁ (log', o)) :
    Collects depth limit waiting ps g (log ++ log', o) := by
  cases o with
  | done found g' => exact ⟨h.append k.1, k.2⟩
  | failed e g' =>
    obtain ⟨hs, p, hp, hb⟩ := k
    exact ⟨h.append hs, p, hp, (Blames.congr h.frame.edges h.frame.nodeIds).mp hb⟩
  | exhausted =>
    intro hroom
    obtain ⟨ev, hev, hends⟩ := k (hroom.congr h.frame.nodeIds)
    exact ⟨ev, List.mem_append_right _ hev, hends⟩

/-- A producer with an output in front of the others. -/
theorem prepend_collects (hn : g.node? p = some node) (ho : node.output.isSome)
    (hrest : Collects depth limit waiting ps g (Journal.collect r ps g)) :
    Collects depth limit waiting (p :: ps) g (Journal.prepend p (Journal.collect r ps) g) := by
  have hsub : ∀ q ∈ ps, q ∈ p :: ps := fun q hq => List.mem_cons_of_mem p hq
  obtain ⟨out, hout⟩ := Option.isSome_iff_exists.mp ho
  have hp : g.output? p = some out := by rw [output?_of_node? hn, hout]
  cases out with
  | fault f =>
    rw [Journal.prepend_of_fault hn hout]
    exact ⟨Search.nil depth waiting (p :: ps) g, p, List.mem_cons_self, f, hp⟩
  | value v =>
    rw [Journal.prepend_of_value hn hout]
    rcases hr : Journal.collect r ps g with ⟨log, ⟨found, g'⟩ | ⟨e, g'⟩ | _⟩
    · rw [hr] at hrest
      obtain ⟨hs, ha⟩ := hrest
      refine ⟨hs.mono hsub, ?_⟩
      cases found with
      | none =>
        obtain ⟨q, hq, hf⟩ := ha
        exact ⟨q, hsub q hq, hf⟩
      | some vs =>
        have hkept := hs.steps.output_eq_of_isSome (m := p) (by rw [hp]; rfl)
        exact List.Forall₂.cons (hkept.trans hp) ha
    · rw [hr] at hrest
      obtain ⟨hs, q, hq, hb⟩ := hrest
      exact ⟨hs.mono hsub, q, hsub q hq, hb⟩
    · rw [hr] at hrest
      exact hrest

/-- Where running a producer keeps its promise, looking at all of them does. -/
theorem collect_collects
    (hr : ∀ p g, g.WellFormed → Resolves depth limit waiting p g (r p g)) (ps : List NodeId)
    {g : Graph} (hg : g.WellFormed) :
    Collects depth limit waiting ps g (Journal.collect r ps g) := by
  induction ps generalizing g with
  | nil => exact ⟨Search.nil depth waiting [] g, .nil⟩
  | cons p ps ih =>
    have hsub : ∀ q ∈ [p], q ∈ p :: ps := by
      intro q hq
      rw [List.mem_singleton.mp hq]
      exact List.mem_cons_self
    rcases hn : g.node? p with _ | node
    · rw [Journal.collect_of_unknown hn]
      exact ⟨Search.nil depth waiting (p :: ps) g, p, List.mem_cons_self,
        node?_eq_none_iff.mp hn, Leads.refl g p⟩
    · rcases ho : node.output with _ | out
      · have hunset : g.output? p = none := by rw [output?_of_node? hn, ho]
        have hp := hr p g hg
        rw [Journal.collect_of_unset hn ho]
        rcases hres : r p g with ⟨log, ⟨u, g₂⟩ | ⟨e, g₂⟩ | _⟩
        · rw [hres] at hp
          obtain ⟨inner, g₁, ev, rfl, hturn, hstep, hset⟩ := hp
          rw [Journal.bind_of_done hres]
          have hs := (hturn.to_search_last hunset hstep hset).mono hsub
          have hg₂ := hs.frame.wellFormed hg
          have hsome : (g₂.output? p).isSome := hstep.output_of_settles hset
          obtain ⟨out, hout⟩ := Option.isSome_iff_exists.mp hsome
          obtain ⟨node₂, hn₂, ho₂⟩ := node_of_output? hout
          exact Collects.after hs (prepend_collects hn₂ (by rw [ho₂]; rfl) (ih hg₂))
        · rw [hres] at hp
          rw [Journal.bind_of_failed hres]
          obtain ⟨hb, ⟨rfl, rfl⟩ | ⟨inner, rfl, hturn⟩⟩ := hp
          · exact ⟨Search.nil depth waiting (p :: ps) _, p, List.mem_cons_self, hb⟩
          · exact ⟨(hturn.to_search hunset).mono hsub, p, List.mem_cons_self, hb⟩
        · rw [hres] at hp
          rw [Journal.bind_of_exhausted hres]
          exact hp
      · have hsome : node.output.isSome := by rw [ho]; rfl
        rw [Journal.collect_of_output hn hsome]
        exact prepend_collects hn hsome (ih hg)

end Collect

/-! ## Running a node after its producers -/

/-- What settling node `id` comes to in `g`: its last step, unless the evaluation does not end. -/
def Finishes (depth : Nat) (id : NodeId) (g : Graph) :
    List Event × Outcome GraphError Graph Unit → Prop
  | (log, .done _ g') => ∃ ev, log = [ev] ∧ Step depth g ev g' ∧ ev.settles? = some id
  | (_, .failed ..) => False
  | (log, .exhausted) => ∃ ev ∈ log, ¬ev.Ends depth

theorem settle_finishes (depth : Nat) {found : Option (List Value)} (hn : g.node? id = some node)
    (hempty : g.store.bindings node.scope = []) (ha : g.Answers (g.inputsOf id) found) :
    Finishes depth id g (Journal.settle depth node id found g) := by
  cases found with
  | none =>
    obtain ⟨p, hp, f, hf⟩ := ha
    exact ⟨.refused id, rfl, .refused hn (mem_inputsOf.mp hp) hf, rfl⟩
  | some vs =>
    have hv : g.inputValues? id = some vs := inputValues?_eq_some_iff.mpr ha
    have hrun : Journal.settle depth node id (some vs) g =
        ([.ran id (g.bound node vs)], Graph.run depth id (g.bound node vs)) := rfl
    have hbound : (g.bound node vs).node? id = some node := hn
    rw [hrun, run_eq hbound]
    rcases hres : ((g.bound node vs).evaluation depth id).result? with _ | ⟨out, st⟩
    · exact ⟨.ran id (g.bound node vs), List.mem_singleton_self _,
        not_not.mpr (Outcome.result?_eq_none_iff.mp hres)⟩
    · exact ⟨.ran id (g.bound node vs), rfl, .ran hn hv hempty hres, rfl⟩

/-- The ways in which a node that waits for its producers comes to an end. -/
inductive Course (depth limit : Nat) (waiting : List NodeId) (id : NodeId) (g : Graph) :
    List Event × Outcome GraphError Graph Unit → Prop
  /-- The node waits for itself. -/
  | waits (hw : id ∈ waiting) : Course depth limit waiting id g ([], .failed (.cycle id) g)
  | missing (hn : g.node? id = none) :
      Course depth limit waiting id g ([], .failed (.unknownNode id) g)
  /-- All producers were looked at, or one without a value was found. -/
  | settled {node : Node} {found : Option (List Value)} {log : List Event} {g₁ g₂ : Graph}
      {ev : Event} (hn : g.node? id = some node) (hturn : Turn depth waiting id g log g₁)
      (hcollect : Journal.collect (Journal.resolve depth limit (id :: waiting)) (g.inputsOf id)
        (g.emptied node) = (log, .done found g₁))
      (hlast : Step depth g₁ ev g₂) (hset : ev.settles? = some id) :
      Course depth limit waiting id g (.opened id :: (log ++ [ev]), .done () g₂)
  /-- A producer failed. -/
  | broken {node : Node} {e : GraphError} {log : List Event} {g₁ : Graph}
      (hn : g.node? id = some node) (hturn : Turn depth waiting id g log g₁)
      (hcollect : Journal.collect (Journal.resolve depth limit (id :: waiting)) (g.inputsOf id)
        (g.emptied node) = (log, .failed e g₁))
      (hblames : g.Blames waiting id e) :
      Course depth limit waiting id g (.opened id :: log, .failed e g₁)
  /-- An evaluation did not end, or there was no room. -/
  | endless {log : List Event}
      (h : g.Room (limit + 1) waiting → ∃ ev ∈ log, ¬ev.Ends depth) :
      Course depth limit waiting id g (log, .exhausted)

theorem course_of_resolves
    (hr : ∀ p g, g.WellFormed → Resolves depth limit (id :: waiting) p g
      (Journal.resolve depth limit (id :: waiting) p g)) (hg : g.WellFormed) :
    Course depth limit waiting id g (Journal.resolve depth (limit + 1) waiting id g) := by
  by_cases hw : id ∈ waiting
  · rw [Journal.resolve_of_mem hw]
    exact .waits hw
  · rcases hn : g.node? id with _ | node
    · rw [Journal.resolve_of_unknown hw hn]
      exact .missing hn
    · rw [Journal.resolve_of_node hw hn]
      have hg₀ : (g.emptied node).WellFormed := (frame_emptied hn).wellFormed hg
      have hc := collect_collects hr (g.inputsOf id) hg₀
      -- The scope is emptied first; the rest happens in the graph that this leaves.
      change Course depth limit waiting id g
        (.opened id :: ((Journal.collect (Journal.resolve depth limit (id :: waiting))
            (g.inputsOf id) >>= Journal.settle depth node id) (g.emptied node)).1,
          ((Journal.collect (Journal.resolve depth limit (id :: waiting))
            (g.inputsOf id) >>= Journal.settle depth node id) (g.emptied node)).2)
      rcases hres : Journal.collect (Journal.resolve depth limit (id :: waiting)) (g.inputsOf id)
        (g.emptied node) with ⟨log, ⟨found, g₁⟩ | ⟨e, g₁⟩ | _⟩
      · rw [hres] at hc
        rw [Journal.bind_of_done hres]
        have hturn : Turn depth waiting id g log g₁ := ⟨hw, node, hn, hc.1⟩
        have hn₁ : g₁.node? id = some node := by rw [hturn.node?_eq, hn]
        have ha : g₁.Answers (g.inputsOf id) found := hc.2
        rw [← inputsOf_congr hturn.frame.edges] at ha
        have hfin := settle_finishes depth hn₁ (hturn.scope_empty hg hn) ha
        rcases hs : Journal.settle depth node id found g₁ with ⟨last, ⟨u, g₂⟩ | ⟨e, g₂⟩ | _⟩
        · rw [hs] at hfin
          obtain ⟨ev, rfl, hstep, hset⟩ := hfin
          exact .settled hn hturn hres hstep hset
        · rw [hs] at hfin
          exact False.elim hfin
        · rw [hs] at hfin
          obtain ⟨ev, hev, hends⟩ := hfin
          exact .endless fun _ => ⟨ev, List.mem_cons_of_mem _ (List.mem_append_right _ hev), hends⟩
      · rw [hres] at hc
        rw [Journal.bind_of_failed hres]
        obtain ⟨hs, p, hp, hb⟩ := hc
        have hblames : g.Blames (id :: waiting) p e := hb
        exact .broken hn ⟨hw, node, hn, hs⟩ hres (hblames.consumer (mem_inputsOf.mp hp))
      · rw [hres] at hc
        rw [Journal.bind_of_exhausted hres]
        refine .endless fun hroom => ?_
        obtain ⟨ev, hev, hends⟩ := hc ((hroom.wait hw hn).congr rfl)
        exact ⟨ev, List.mem_cons_of_mem _ hev, hends⟩

theorem resolve_resolves (depth limit : Nat) (waiting : List NodeId) (id : NodeId) {g : Graph}
    (hg : g.WellFormed) :
    Resolves depth limit waiting id g (Journal.resolve depth limit waiting id g) := by
  induction limit generalizing waiting id g with
  | zero =>
    intro hroom
    exact absurd hroom.pos (Nat.lt_irrefl 0)
  | succ limit ih =>
    have hcourse := course_of_resolves (fun p g hg => ih (id :: waiting) p hg) hg
    generalize Journal.resolve depth (limit + 1) waiting id g = result at hcourse
    cases hcourse with
    | waits hw => exact ⟨Or.inl ⟨hw, Leads.refl g id⟩, Or.inl ⟨rfl, rfl⟩⟩
    | missing hn => exact ⟨⟨node?_eq_none_iff.mp hn, Leads.refl g id⟩, Or.inl ⟨rfl, rfl⟩⟩
    | settled hn hturn hcollect hlast hset => exact ⟨_, _, _, rfl, hturn, hlast, hset⟩
    | broken hn hturn hcollect hblames => exact ⟨hblames, Or.inr ⟨_, rfl, hturn⟩⟩
    | endless h => exact h

theorem resolve_course (depth limit : Nat) (waiting : List NodeId) (id : NodeId) {g : Graph}
    (hg : g.WellFormed) :
    Course depth limit waiting id g (Journal.resolve depth (limit + 1) waiting id g) :=
  course_of_resolves (fun p _ hg => resolve_resolves depth limit (id :: waiting) p hg) hg

end Graph

end Patchbay
