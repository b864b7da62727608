-- What a recompute leaves when it fails. Its journal is made of turns, one within another:
-- a node is opened, its producers take their turns, and then it is settled. A failure
-- breaks off the turns that are not settled yet. All other nodes are as their last turn
-- left them, or as they were before.
import Patchbay.Proofs.CycleErrors

namespace Patchbay

open Patchbay.Language

namespace Graph

variable {depth limit : Nat} {ok : Graph → NodeId → Prop} {g g' g₁ g₂ : Graph} {id m n p : NodeId}
  {node : Node} {ev : Event} {log log' inner : List Event} {ps waiting : List NodeId}
  {edges : List Edge} {α β : Type}

/-! ## Turns -/

def Unset (g : Graph) (id : NodeId) : Prop := g.output? id = none

/-- Whole turns one after the other, of nodes that `ok` allows. The turns within a turn are of
nodes without output. -/
inductive Turns (depth : Nat) :
    (Graph → NodeId → Prop) → Graph → List Event → Graph → Prop
  | nil (ok : Graph → NodeId → Prop) (g : Graph) : Turns depth ok g [] g
  | turn {ok : Graph → NodeId → Prop} {g g₁ g₂ g₃ : Graph} {id : NodeId} {node : Node}
      {inner rest : List Event} {ev : Event} (hn : g.node? id = some node) (hok : ok g id)
      (hinner : Turns depth Unset (g.emptied node) inner g₁) (hfree : ∀ e ∈ inner, e.node ≠ id)
      (hlast : Step depth g₁ ev g₂) (hset : ev.settles? = some id)
      (hrest : Turns depth ok g₂ rest g₃) :
      Turns depth ok g (.opened id :: (inner ++ ev :: rest)) g₃

/-- Whole turns, and possibly one after them that is broken off, itself or in the turns within. -/
inductive Broken (depth : Nat) :
    (Graph → NodeId → Prop) → Graph → List Event → Graph → Prop
  | between {ok : Graph → NodeId → Prop} {g g' : Graph} {log : List Event}
      (h : Turns depth ok g log g') : Broken depth ok g log g'
  | within {ok : Graph → NodeId → Prop} {g g₁ g' : Graph} {id : NodeId} {node : Node}
      {log inner : List Event} (h : Turns depth ok g log g₁) (hn : g₁.node? id = some node)
      (hok : ok g₁ id) (hinner : Broken depth Unset (g₁.emptied node) inner g')
      (hfree : ∀ e ∈ inner, e.node ≠ id) : Broken depth ok g (log ++ .opened id :: inner) g'

theorem Turns.append (h : Turns depth ok g log g₁) (k : Turns depth ok g₁ log' g') :
    Turns depth ok g (log ++ log') g' := by
  induction h with
  | nil => exact k
  | turn hn hok hinner hfree hlast hset _ _ ih =>
    have hturn := Turns.turn hn hok hinner hfree hlast hset (ih k)
    rwa [List.cons_append, List.append_assoc, List.cons_append]

theorem Turns.broken (h : Turns depth ok g log g₁) (k : Broken depth ok g₁ log' g') :
    Broken depth ok g (log ++ log') g' := by
  cases k with
  | between k => exact .between (h.append k)
  | within k hn hok hinner hfree =>
    rw [← List.append_assoc]
    exact .within (h.append k) hn hok hinner hfree

theorem Turns.steps (h : Turns depth ok g log g') : Steps depth (fun _ _ => True) g log g' := by
  induction h with
  | nil => exact .nil _
  | turn hn hok _ hfree hlast hset _ ihinner ihrest =>
    exact .cons (.opened hn) trivial (ihinner.append (.cons hlast trivial ihrest))

theorem Broken.steps (h : Broken depth ok g log g') : Steps depth (fun _ _ => True) g log g' := by
  induction h with
  | between h => exact h.steps
  | within h hn _ _ _ ih => exact h.steps.append (.cons (.opened hn) trivial ih)

/-! ## The journals of recomputes -/

/-- However `x` ends from `g`, its journal is made of turns. A failure may break off the last. -/
def TakesTurns (depth : Nat) (ok : Graph → NodeId → Prop) (g : Graph) :
    List Event × Outcome GraphError Graph α → Prop
  | (log, .done _ g') => Turns depth ok g log g'
  | (log, .failed _ g') => Broken depth ok g log g'
  | (_, .exhausted) => True

namespace TakesTurns

/-- A computation that leaves the graph as it is. -/
theorem quiet {x : Recompute α} (hx : ∀ g', (x g).state? = some g' → g' = g) :
    TakesTurns depth ok g (Journal.quiet x g) := by
  unfold Journal.quiet
  rcases hr : x g with ⟨a, g'⟩ | ⟨e, g'⟩ | _
  · obtain rfl := hx g' (by rw [hr]; rfl)
    exact .nil ok g'
  · obtain rfl := hx g' (by rw [hr]; rfl)
    exact .between (.nil ok g')
  · trivial

theorem find (id : NodeId) : TakesTurns depth ok g (Journal.quiet (Graph.find id) g) := by
  refine quiet fun g' h => ?_
  rcases hn : g.node? id with _ | node
  · rw [Journal.find_of_none hn] at h
    exact (Option.some.inj h).symm
  · rw [Journal.find_of_some hn] at h
    exact (Option.some.inj h).symm

theorem pure (a : α) : TakesTurns depth ok g ((pure a : Journal α) g) := .nil ok g

theorem bind {x : Journal α} {f : α → Journal β} (hg : g.WellFormed) (he : g.edges = edges)
    (hx : TakesTurns depth ok g (x g))
    (hf : ∀ a g', g'.WellFormed → g'.edges = edges → TakesTurns depth ok g' (f a g')) :
    TakesTurns depth ok g ((x >>= f) g) := by
  rcases hr : x g with ⟨log, ⟨a, g₁⟩ | ⟨e, g₁⟩ | _⟩
  · rw [hr] at hx
    rw [Journal.bind_of_done hr]
    have hframe := hx.steps.frame
    have hnext := hf a g₁ (hframe.wellFormed hg) (hframe.edges.trans he)
    rcases hr₂ : f a g₁ with ⟨log₂, ⟨b, g₂⟩ | ⟨e, g₂⟩ | _⟩
    · rw [hr₂] at hnext
      exact hx.append hnext
    · rw [hr₂] at hnext
      exact hx.broken hnext
    · trivial
  · rw [hr] at hx
    rw [Journal.bind_of_failed hr]
    exact hx
  · rw [Journal.bind_of_exhausted hr]
    trivial

theorem forEach {f : NodeId → Journal Unit} {xs : List NodeId} (hg : g.WellFormed)
    (he : g.edges = edges)
    (h : ∀ x ∈ xs, ∀ g, g.WellFormed → g.edges = edges → TakesTurns depth ok g (f x g)) :
    TakesTurns depth ok g (Journal.forEach f xs g) := by
  induction xs generalizing g with
  | nil => exact .nil ok g
  | cons x xs ih =>
    exact bind hg he (h x List.mem_cons_self g hg he) fun _ g' hg' he' =>
      ih hg' he' fun y hy => h y (List.mem_cons_of_mem _ hy)

/-- Looking at the producers, those without output take their turns. -/
theorem collect {r : NodeId → Journal Unit}
    (hr : ∀ p g, g.WellFormed → g.output? p = none → TakesTurns depth Unset g (r p g))
    (ps : List NodeId) (hg : g.WellFormed) :
    TakesTurns depth Unset g (Journal.collect r ps g) := by
  induction ps generalizing g with
  | nil => exact .nil Unset g
  | cons p ps ih =>
    have hprepend : ∀ g, g.WellFormed →
        TakesTurns depth Unset g (Journal.prepend p (Journal.collect r ps) g) := by
      intro g hg
      refine bind hg rfl (find p) fun node g hg _ => ?_
      rcases node.output with _ | ⟨v | f⟩
      · exact pure none
      · refine bind hg rfl (ih hg) fun found g _ _ => ?_
        cases found <;> exact pure _
      · exact pure none
    rcases hn : g.node? p with _ | node
    · rw [Journal.collect_of_unknown hn]
      exact .between (.nil Unset g)
    · rcases ho : node.output with _ | out
      · have hunset : g.output? p = none := by rw [output?_of_node? hn, ho]
        rw [Journal.collect_of_unset hn ho]
        exact bind hg rfl (hr p g hg hunset) fun _ g hg _ => hprepend g hg
      · rw [Journal.collect_of_output hn (by simp [ho])]
        exact hprepend g hg

end TakesTurns

theorem resolve_takesTurns (depth limit : Nat) (waiting : List NodeId) (id : NodeId) {g : Graph}
    (hg : g.WellFormed) (hok : ok g id) :
    TakesTurns depth ok g (Journal.resolve depth limit waiting id g) := by
  induction limit generalizing ok waiting id g with
  | zero => trivial
  | succ limit ih =>
    have hcourse := resolve_course depth limit waiting id hg
    have hcollected : ∀ node, g.node? id = some node → TakesTurns depth Unset (g.emptied node)
        (Journal.collect (Journal.resolve depth limit (id :: waiting)) (g.inputsOf id)
          (g.emptied node)) := by
      intro node hn
      exact TakesTurns.collect (fun p g hg ho => ih (id :: waiting) p hg ho) (g.inputsOf id)
        ((frame_emptied hn).wellFormed hg)
    generalize Journal.resolve depth (limit + 1) waiting id g = result at hcourse
    cases hcourse with
    | waits => exact .between (.nil ok g)
    | missing => exact .between (.nil ok g)
    | @settled node found log g₁ g₂ ev hn hturn hcollect hlast hset =>
      have hinner := hcollected node hn
      rw [hcollect] at hinner
      exact .turn hn hok hinner (fun _ he => hturn.ne_of_mem he) hlast hset (.nil ok g₂)
    | @broken node e log g₁ hn hturn hcollect _ =>
      have hinner := hcollected node hn
      rw [hcollect] at hinner
      exact .within (.nil ok g) hn hok hinner fun _ he => hturn.ne_of_mem he
    | endless => trivial

theorem recomputeWithInputs_takesTurns (depth : Nat) (id : NodeId) (hg : g.WellFormed)
    (hok : ok g id) : TakesTurns depth ok g (Journal.recomputeWithInputs depth id g) :=
  resolve_takesTurns depth (g.nodes.length + 1) [] id hg hok

/-- Downstream of a node of a closed set the nodes that take turns are in the set. -/
theorem propagate_takesTurns {ids : NodeId → Prop} (depth limit : Nat) (path : List NodeId)
    (hclosed : ∀ a b, ids a → ⟨a, b⟩ ∈ edges → ids b) (hid : ids id) (hg : g.WellFormed)
    (he : g.edges = edges) :
    TakesTurns depth (fun _ => ids) g (Journal.propagate depth limit path id g) := by
  induction limit generalizing path id g with
  | zero => trivial
  | succ limit ih =>
    by_cases hp : id ∈ path
    · rw [Journal.propagate, if_pos (List.contains_iff_mem.mpr hp)]
      exact .between (.nil _ g)
    · rw [Journal.propagate_of_free hp]
      refine TakesTurns.bind hg he (recomputeWithInputs_takesTurns depth id hg hid)
        fun _ g₁ hg₁ he₁ => ?_
      refine TakesTurns.forEach hg₁ he₁ fun c hc g₂ hg₂ he₂ => ih (id :: path) ?_ hg₂ he₂
      apply hclosed id c hid
      rw [← he₁]
      exact mem_consumersOf.mp hc

/-! ## What a turn leaves -/

/-- What the scope of a node binds. -/
def locals? (g : Graph) (n : NodeId) : Option (Fields Value) :=
  (g.node? n).map fun node => g.store.bindings node.scope

/-- The node has the same record and the same scope bindings. -/
def AsBefore (g g' : Graph) (n : NodeId) : Prop :=
  g'.node? n = g.node? n ∧ g'.locals? n = g.locals? n

/-- The output of a node that an event settles, and what is bound in the scope of the node. -/
def Event.left? (depth : Nat) (scope : ScopeId) : Event → Option (Output × Fields Value)
  | .opened _ => none
  | .refused _ => some (.fault .input, [])
  | .ran id start =>
    ((start.evaluation depth id).result?).map fun (out, st) => (out, st.bindings scope)

/-- The output of the node comes from its latest run, and so does what its scope binds. -/
def Completed (depth : Nat) (log : List Event) (g : Graph) (n : NodeId) : Prop :=
  ∃ ev node out locals, latest? log n = some ev ∧ g.node? n = some node ∧
    ev.left? depth node.scope = some (out, locals) ∧ node.output = some out ∧
    g.locals? n = some locals

theorem AsBefore.trans (h : AsBefore g g₁ n) (k : AsBefore g₁ g' n) : AsBefore g g' n :=
  ⟨k.1.trans h.1, k.2.trans h.2⟩

theorem locals?_of_node? (h : g.node? n = some node) :
    g.locals? n = some (g.store.bindings node.scope) := by
  unfold locals?
  rw [h]
  rfl

/-- Work on other nodes leaves a node as it is. -/
theorem Frame.asBefore {W : NodeId → Prop} (h : Frame W g g') (hg : g.WellFormed) (hn : ¬W n) :
    AsBefore g g' n := by
  have hnode := h.node n hn
  refine ⟨hnode, ?_⟩
  rcases hnone : g.node? n with _ | node
  · unfold locals?
    rw [hnode, hnone]
    rfl
  · rw [locals?_of_node? hnone, locals?_of_node? (hnode.trans hnone), h.bindings_same hg hnone hn]

theorem Steps.asBefore {ok : Graph → Event → Prop} (h : Steps depth ok g log g') (hg : g.WellFormed)
    (hn : ∀ e ∈ log, e.node ≠ n) : AsBefore g g' n := by
  refine h.frame.asBefore hg ?_
  rintro ⟨e, he, heq⟩
  exact hn e he heq

theorem latest?_of_free (h : ∀ e ∈ log, e.node ≠ n) : latest? log n = none := by
  rcases hlast : latest? log n with _ | ev
  · rfl
  · exact absurd (Event.node_of_settles? (settles?_of_latest? hlast)) (h ev (mem_of_latest? hlast))

namespace Completed

/-- What comes before the latest run makes no difference. -/
theorem prepend (h : Completed depth log' g n) (log : List Event) :
    Completed depth (log ++ log') g n := by
  obtain ⟨ev, node, out, locals, hlast, hrest⟩ := h
  exact ⟨ev, node, out, locals, by rw [latest?_append, hlast]; rfl, hrest⟩

/-- Nothing that is done with other nodes makes a difference. -/
theorem append (h : Completed depth log g n) (k : AsBefore g g' n)
    (hfree : ∀ e ∈ log', e.node ≠ n) : Completed depth (log ++ log') g' n := by
  obtain ⟨ev, node, out, locals, hlast, hn, hleft, hout, hlocals⟩ := h
  refine ⟨ev, node, out, locals, ?_, k.1.trans hn, hleft, hout, k.2.trans hlocals⟩
  rw [latest?_append, latest?_of_free hfree, hlast]
  rfl

theorem output_isSome (h : Completed depth log g n) : (g.output? n).isSome := by
  obtain ⟨ev, node, out, locals, -, hn, -, hout, -⟩ := h
  simp [output?_of_node? hn, hout]

end Completed

theorem locals?_emptied (hn : g.node? id = some node) :
    (g.emptied node).locals? id = some [] := by
  have hn' : (g.emptied node).node? id = some node := hn
  rw [locals?_of_node? hn']
  exact congrArg some (Store.bindings_clear_self _ _)

/-- A node is settled on an empty scope. -/
theorem Step.completed (hs : Step depth g ev g') (hset : ev.settles? = some n)
    (hempty : g.locals? n = some []) : Completed depth [ev] g' n := by
  have hlast : latest? [ev] n = some ev := latest?_concat_self [] hset
  cases hs with
  | opened => cases hset
  | @refused id p node f hn hp hf =>
    obtain rfl := Option.some.inj hset
    have hn' : (g.refusing id).node? id = some { node with output := some (.fault .input) } :=
      node?_modifyNode_self (f := fun node => { node with output := some (.fault .input) })
        (fun _ => rfl) hn
    refine ⟨_, _, .fault .input, [], hlast, hn', rfl, rfl, ?_⟩
    rw [locals?_of_node? hn']
    rw [locals?_of_node? hn] at hempty
    exact hempty
  | @ran id node vs out st hn hv hscope hr =>
    obtain rfl := Option.some.inj hset
    have hn' : (g.bound node vs).node? id = some node := hn
    refine ⟨_, _, out, st.bindings node.scope, hlast, node?_finished hn', ?_, rfl, ?_⟩
    · simp [Event.left?, hr]
    · rw [locals?_of_node? (node?_finished hn')]
      rfl

/-- After whole turns each node that was worked on is as its latest run left it. -/
theorem Turns.completed (h : Turns depth ok g log g') (hg : g.WellFormed)
    (hn : ∃ e ∈ log, e.node = n) : Completed depth log g' n := by
  induction h with
  | nil =>
    obtain ⟨e, he, -⟩ := hn
    cases he
  | @turn ok g g₁ g₂ g₃ id node inner rest ev hnode _ hinner hfree hlast hset hrest ihinner
      ihrest =>
    have hg₀ : (g.emptied node).WellFormed := (frame_emptied hnode).wellFormed hg
    have hg₁ : g₁.WellFormed := hinner.steps.frame.wellFormed hg₀
    have hg₂ : g₂.WellFormed := hlast.frame.wellFormed hg₁
    have hev : ev.node = id := Event.node_of_settles? hset
    have hsplit : (.opened id :: (inner ++ ev :: rest) : List Event) =
        (.opened id :: (inner ++ [ev])) ++ rest := by simp
    rw [hsplit]
    by_cases hlater : ∃ e ∈ rest, e.node = n
    · exact (ihrest hg₂ hlater).prepend _
    · have hno : ∀ e ∈ rest, e.node ≠ n := fun e he heq => hlater ⟨e, he, heq⟩
      refine Completed.append (g := g₂) ?_ (hrest.steps.asBefore hg₂ hno) hno
      by_cases hid : n = id
      · subst hid
        have hempty : g₁.locals? n = some [] :=
          (hinner.steps.asBefore hg₀ hfree).2.trans (locals?_emptied hnode)
        exact (hlast.completed hset hempty).prepend (.opened n :: inner)
      · -- The node took its turn within the turn of `id`.
        have hinside : ∃ e ∈ inner, e.node = n := by
          obtain ⟨e, he, rfl⟩ := hn
          rw [hsplit, List.mem_append, List.mem_cons, List.mem_append, List.mem_singleton] at he
          rcases he with (rfl | he | rfl) | he
          · exact absurd rfl hid
          · exact ⟨e, he, rfl⟩
          · exact absurd hev hid
          · exact absurd rfl (hno e he)
        have hother : ∀ e ∈ [ev], e.node ≠ n := by
          intro e he heq
          rw [List.mem_singleton.mp he, hev] at heq
          exact hid heq.symm
        have hafter := (ihinner hg₀ hinside).append
          (hlast.frame.asBefore hg₁ fun heq => hid (heq.trans hev)) hother
        exact hafter.prepend [.opened id]

/-! ## What a failure leaves -/

/-- What becomes of a node whose own turn is not the one that is broken off. -/
inductive Fate (depth : Nat) (g : Graph) (log : List Event) (g' : Graph) (n : NodeId) : Prop
  /-- Nothing is done with it. -/
  | untouched (free : ∀ e ∈ log, e.node ≠ n) (same : AsBefore g g' n)
  /-- It completed a run, and what that run left is there. -/
  | completed (run : Completed depth log g' n)
  /-- It had no output and was to get one first. It has none still, and its scope is empty. -/
  | waiting (unset : g.output? n = none) (node : g'.node? n = g.node? n)
    (locals : g'.locals? n = some [])

/-- What becomes of the node whose own turn is broken off: its scope is empty, and the rest of
it is as before, or as its latest run in the journal left it. -/
def Halted (depth : Nat) (g : Graph) (log : List Event) (g' : Graph) (n : NodeId) : Prop :=
  g'.locals? n = some [] ∧ (g'.node? n = g.node? n ∨
    ∃ ev node out locals, latest? log n = some ev ∧ g'.node? n = some node ∧
      ev.left? depth node.scope = some (out, locals) ∧ node.output = some out)

/-- After whole turns and the opening of another node. -/
theorem Fate.within (hfate : Fate depth (g₁.emptied node) inner g' n)
    (h : Turns depth ok g log g₁) (hg : g.WellFormed) (hn : g₁.node? id = some node)
    (hne : n ≠ id) : Fate depth g (log ++ .opened id :: inner) g' n := by
  have hg₁ : g₁.WellFormed := h.steps.frame.wellFormed hg
  have hopened : AsBefore g₁ (g₁.emptied node) n := (frame_emptied hn).asBefore hg₁ hne
  by_cases hmem : ∃ e ∈ log, e.node = n
  · have hdone := h.completed hg hmem
    cases hfate with
    | untouched free same =>
      refine .completed (hdone.append (hopened.trans same) ?_)
      intro e he
      rcases List.mem_cons.mp he with rfl | he
      · exact fun heq => hne heq.symm
      · exact free e he
    | completed run => exact .completed ((run.prepend [.opened id]).prepend log)
    | waiting unset _ _ =>
      have hsome : (g₁.output? n).isSome := hdone.output_isSome
      rw [show g₁.output? n = none from unset] at hsome
      cases hsome
  · have hno : ∀ e ∈ log, e.node ≠ n := fun e he heq => hmem ⟨e, he, heq⟩
    have hbefore : AsBefore g (g₁.emptied node) n := (h.steps.asBefore hg hno).trans hopened
    cases hfate with
    | untouched free same =>
      refine .untouched ?_ (hbefore.trans same)
      intro e he
      rcases List.mem_append.mp he with he | he
      · exact hno e he
      · rcases List.mem_cons.mp he with rfl | he
        · exact fun heq => hne heq.symm
        · exact free e he
    | completed run => exact .completed ((run.prepend [.opened id]).prepend log)
    | waiting unset node locals =>
      exact .waiting ((output?_congr hbefore.1).symm.trans unset) (node.trans hbefore.1) locals

/-- After whole turns, a node whose turn is broken off keeps its record and loses its bindings. -/
theorem halted_within (h : Turns depth ok g log g₁) (hg : g.WellFormed)
    (hn : g₁.node? id = some node) (hinner : Broken depth Unset (g₁.emptied node) inner g')
    (hfree : ∀ e ∈ inner, e.node ≠ id) : Halted depth g (log ++ .opened id :: inner) g' id := by
  have hg₁ : g₁.WellFormed := h.steps.frame.wellFormed hg
  have hinside : AsBefore (g₁.emptied node) g' id :=
    hinner.steps.asBefore ((frame_emptied hn).wellFormed hg₁) hfree
  have hnode : g'.node? id = g₁.node? id := hinside.1
  refine ⟨hinside.2.trans (locals?_emptied hn), ?_⟩
  by_cases hmem : ∃ e ∈ log, e.node = id
  · obtain ⟨ev, node', out, locals, hlast, hn', hleft, hout, -⟩ := h.completed hg hmem
    refine Or.inr ⟨ev, node', out, locals, ?_, hnode.trans hn', hleft, hout⟩
    have hopened : latest? (.opened id :: inner) id = none := by
      have hinner : latest? ([.opened id] ++ inner) id = none := by
        rw [latest?_append, latest?_of_free hfree]
        rfl
      exact hinner
    rw [latest?_append, hopened, hlast]
    rfl
  · have hno : ∀ e ∈ log, e.node ≠ id := fun e he heq => hmem ⟨e, he, heq⟩
    exact Or.inl (hnode.trans (h.steps.asBefore hg hno).1)

theorem Turns.fate (h : Turns depth ok g log g') (hg : g.WellFormed) (n : NodeId) :
    Fate depth g log g' n := by
  by_cases hmem : ∃ e ∈ log, e.node = n
  · exact .completed (h.completed hg hmem)
  · have hno : ∀ e ∈ log, e.node ≠ n := fun e he heq => hmem ⟨e, he, heq⟩
    exact .untouched hno (h.steps.asBefore hg hno)

/-- Of nodes without output that take their turns, those broken off are waiting. -/
theorem Broken.fate_of_unset (h : Broken depth ok g log g') (hok : ok = Unset) (hg : g.WellFormed)
    (n : NodeId) : Fate depth g log g' n := by
  induction h with
  | between h => exact h.fate hg n
  | @within ok g g₁ g' id node log inner h hn hopen hinner hfree ih =>
    have hg₁ : g₁.WellFormed := h.steps.frame.wellFormed hg
    by_cases hid : n = id
    · subst hid
      rw [hok] at hopen
      have hunset : g₁.output? n = none := hopen
      have hno : ∀ e ∈ log, e.node ≠ n := by
        intro e he heq
        have hsome := (h.completed hg ⟨e, he, heq⟩).output_isSome
        rw [hunset] at hsome
        cases hsome
      have hbefore := h.steps.asBefore hg hno
      obtain ⟨hlocals, -⟩ := halted_within h hg hn hinner hfree
      have hinside := hinner.steps.asBefore ((frame_emptied hn).wellFormed hg₁) hfree
      exact .waiting ((output?_congr hbefore.1).symm.trans hunset)
        (hinside.1.trans hbefore.1) hlocals
    · exact (ih rfl ((frame_emptied hn).wellFormed hg₁)).within h hg hn hid

/-- At most one node is halted, and it is one whose turn `ok` allows. -/
theorem Broken.fates (h : Broken depth ok g log g') (hg : g.WellFormed) :
    (∀ n, Fate depth g log g' n) ∨
    ∃ m g₁, ok g₁ m ∧ Halted depth g log g' m ∧ ∀ n, n ≠ m → Fate depth g log g' n := by
  cases h with
  | between h => exact Or.inl (h.fate hg)
  | within h hn hopen hinner hfree =>
    have hg₁ := (frame_emptied hn).wellFormed (h.steps.frame.wellFormed hg)
    refine Or.inr ⟨_, _, hopen, halted_within h hg hn hinner hfree, ?_⟩
    intro n hne
    exact (hinner.fate_of_unset rfl hg₁ n).within h hg hn hne

/-- A node that is there is opened before anything else. -/
theorem recomputeWithInputs_opens (depth : Nat) (hn : g.node? id = some node) :
    ∃ inner, (Journal.recomputeWithInputs depth id g).1 = .opened id :: inner := by
  unfold Journal.recomputeWithInputs
  exact ⟨_, congrArg Prod.fst (Journal.resolve_of_node List.not_mem_nil hn)⟩

/-- The node that fails keeps its record, and its scope is empty. -/
theorem recomputeWithInputs_halts {e : GraphError} (hg : g.WellFormed) (hid : id ∈ g.nodeIds)
    (h : recomputeWithInputs depth id g = .failed e g') :
    g'.node? id = g.node? id ∧ g'.locals? id = some [] := by
  obtain ⟨node, hn⟩ := exists_node_of_mem hid
  have hres := recomputeWithInputs_resolves depth id hg
  rw [← Journal.erase_recomputeWithInputs] at h
  have hfailed : Journal.recomputeWithInputs depth id g =
      ((Journal.recomputeWithInputs depth id g).1, .failed e g') := Prod.ext rfl h
  rw [hfailed] at hres
  obtain ⟨inner, hopens⟩ := recomputeWithInputs_opens depth hn
  obtain ⟨-, ⟨hnil, -⟩ | ⟨inner, -, hturn⟩⟩ := hres
  · rw [hopens] at hnil
    cases hnil
  · have hn' : g'.node? id = some node := hturn.node?_eq.trans hn
    refine ⟨hturn.node?_eq, ?_⟩
    rw [locals?_of_node? hn', hturn.scope_empty hg hn]

/-- Downstream of a node at most one node is halted, and the node leads to it. -/
theorem recomputeDownstream_fates {e : GraphError} (hg : g.WellFormed)
    (h : recomputeDownstream depth id g = .failed e g') :
    ∃ halted : Option NodeId,
      (∀ m, halted = some m → g.Leads id m ∧
        Halted depth g (Journal.recomputeDownstream depth id g).1 g' m) ∧
      ∀ n, halted ≠ some n → Fate depth g (Journal.recomputeDownstream depth id g).1 g' n := by
  have hturns : TakesTurns depth (fun _ => g.Leads id) g (Journal.recomputeDownstream depth id g) :=
    propagate_takesTurns depth (g.nodes.length + 1) []
      (fun a b ha hab => (ha.trans_feeds hab).leads) (Leads.refl g id) hg rfl
  rw [← Journal.erase_recomputeDownstream] at h
  have hfailed : Journal.recomputeDownstream depth id g =
      ((Journal.recomputeDownstream depth id g).1, .failed e g') := Prod.ext rfl h
  rw [hfailed] at hturns
  rcases Broken.fates hturns hg with hall | ⟨m, _, hm, hhalted, hall⟩
  · exact ⟨none, by rintro m ⟨⟩, fun n _ => hall n⟩
  · refine ⟨some m, ?_, fun n hne => hall n fun heq => hne (congrArg some heq.symm)⟩
    rintro _ ⟨⟩
    exact ⟨hm, hhalted⟩

/-- Where a recompute of a node fails, this node keeps its record, and its scope is empty.
Where a pass downstream of a node fails, there is at most one such node, and it may have
completed a run earlier in the pass. All other nodes are as before, or as a run that they
completed left them, or they had no output and have none still. -/
theorem failures_halt_one_node_at_most (depth : Nat) (g : Graph) (hg : g.WellFormed) (id : NodeId)
    (e : GraphError) (g' : Graph) :
    (recomputeWithInputs depth id g = .failed e g' →
      (id ∈ g.nodeIds → g'.node? id = g.node? id ∧ g'.locals? id = some []) ∧
      ∀ n, n ≠ id → Fate depth g (Journal.recomputeWithInputs depth id g).1 g' n) ∧
    (recomputeDownstream depth id g = .failed e g' →
      ∃ halted : Option NodeId,
        (∀ m, halted = some m → g.Leads id m ∧
          Halted depth g (Journal.recomputeDownstream depth id g).1 g' m) ∧
        ∀ n, halted ≠ some n →
          Fate depth g (Journal.recomputeDownstream depth id g).1 g' n) := by
  refine ⟨fun h => ⟨fun hid => recomputeWithInputs_halts hg hid h, ?_⟩,
    recomputeDownstream_fates hg⟩
  intro n hne
  have hturns : TakesTurns depth (fun _ m => m = id) g (Journal.recomputeWithInputs depth id g) :=
    recomputeWithInputs_takesTurns depth id hg rfl
  rw [← Journal.erase_recomputeWithInputs] at h
  have hfailed : Journal.recomputeWithInputs depth id g =
      ((Journal.recomputeWithInputs depth id g).1, .failed e g') := Prod.ext rfl h
  rw [hfailed] at hturns
  rcases Broken.fates hturns hg with hall | ⟨m, _, hm, -, hall⟩
  · exact hall n
  · exact hall n fun heq => hne (heq.trans hm)

/-- A function whose closure reads a name of its scope, as computed when nothing fed the node.
Then a node that feeds itself is put before it. -/
def severed : Graph :=
  let g := ofSources ["let y = 5; \\x: y", "a"] []
  { (recomputeWithInputs 20 0 g).state?.getD g with edges := [⟨1, 1⟩, ⟨1, 0⟩] }

theorem severed_wellFormed : severed.WellFormed := by decide +kernel

theorem severed_fails : ∃ g', recomputeWithInputs 20 0 severed = .failed (.cycle 1) g' :=
  Outcome.eq_failed (by decide +kernel)

/-- The function is halted, and the node that it waits for is waiting. A pass downstream of the
function halts one node at most too. -/
theorem severed_is_halted :
    (∃ g', recomputeWithInputs 20 0 severed = .failed (.cycle 1) g' ∧
      g'.node? 0 = severed.node? 0 ∧ g'.locals? 0 = some [] ∧
      Fate 20 severed (Journal.recomputeWithInputs 20 0 severed).1 g' 1) ∧
    ∃ g', recomputeDownstream 20 0 severed = .failed (.cycle 1) g' ∧
      ∃ halted : Option NodeId, ∀ n, halted ≠ some n →
        Fate 20 severed (Journal.recomputeDownstream 20 0 severed).1 g' n := by
  constructor
  · obtain ⟨g', h⟩ := severed_fails
    obtain ⟨hself, hothers⟩ :=
      (failures_halt_one_node_at_most 20 severed severed_wellFormed 0 (.cycle 1) g').1 h
    obtain ⟨hnode, hlocals⟩ := hself (by decide +kernel)
    exact ⟨g', h, hnode, hlocals, hothers 1 (by decide)⟩
  · obtain ⟨g', h⟩ := Outcome.eq_failed (o := recomputeDownstream 20 0 severed) (e := .cycle 1)
      (by decide +kernel)
    obtain ⟨halted, -, hfates⟩ :=
      (failures_halt_one_node_at_most 20 severed severed_wellFormed 0 (.cycle 1) g').2 h
    exact ⟨g', h, halted, hfates⟩

/-- The function still shows its value after the failure, and the name that the value reads is
gone from the scope. No run of the node is in the journal. -/
theorem severed_loses_its_bindings :
    severed.WellFormed ∧
    (severed.locals? 0).map Fields.names = some ["y"] ∧
    ∃ g', recomputeWithInputs 20 0 severed = .failed (.cycle 1) g' ∧
      (g'.output? 0).map (Output.text .silent) = some "lambda<x>" ∧ g'.locals? 0 = some [] ∧
      ¬AsBefore severed g' 0 ∧
      ¬Completed 20 (Journal.recomputeWithInputs 20 0 severed).1 g' 0 := by
  have hnames : (severed.locals? 0).map Fields.names = some ["y"] := by decide +kernel
  obtain ⟨g', h⟩ := severed_fails
  obtain ⟨hnode, hlocals⟩ := recomputeWithInputs_halts severed_wellFormed (by decide +kernel) h
  refine ⟨severed_wellFormed, hnames, g', h, ?_, hlocals, ?_, ?_⟩
  · rw [output?_congr hnode]
    decide +kernel
  · rintro ⟨-, hsame⟩
    rw [← hsame, hlocals] at hnames
    cases hnames
  · rintro ⟨ev, -, -, -, hlast, -⟩
    have hnone : (latest? (Journal.recomputeWithInputs 20 0 severed).1 0).isNone := by
      decide +kernel
    rw [hlast] at hnone
    cases hnone

end Graph

end Patchbay
