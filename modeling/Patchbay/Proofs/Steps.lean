-- What a recompute does, step by step. Every computation on a graph is a list
-- of three kinds of steps, each on one node: its scope is emptied, or it is
-- refused, or its source is evaluated on its inputs.
import Patchbay.Proofs.EvaluationFrame
import Patchbay.Proofs.Inputs
import Patchbay.Proofs.Journal
import Patchbay.Proofs.NodeFrame

namespace Patchbay

open Patchbay.Language

/-- The output that the end of an evaluation gives, and the store that it leaves. -/
def Outcome.result? : Outcome SourceError Store Value → Option (Output × Store)
  | .done v st => some (.value v, st)
  | .failed cause st => some (.fault (.source cause), st)
  | .exhausted => none

theorem Outcome.result?_eq_none_iff {o : Outcome SourceError Store Value} :
    o.result? = none ↔ o = .exhausted := by
  cases o <;> simp [Outcome.result?]

theorem Outcome.state?_of_result? {o : Outcome SourceError Store Value} {out : Output}
    {st : Store} (h : o.result? = some (out, st)) : o.state? = some st := by
  cases o with
  | done v t =>
    cases h
    rfl
  | failed cause t =>
    cases h
    rfl
  | exhausted => cases h

/-- Whether a computation succeeds. -/
def Outcome.succeeds {ε σ α : Type} : Outcome ε σ α → Bool
  | .done .. => true
  | _ => false

theorem Outcome.eq_done {ε σ : Type} {o : Outcome ε σ Unit} (h : o.succeeds = true) :
    ∃ s, o = .done () s := by
  cases o with
  | done u s => exact ⟨s, rfl⟩
  | failed => simp [Outcome.succeeds] at h
  | exhausted => simp [Outcome.succeeds] at h

def Outcome.cause? {ε σ α : Type} : Outcome ε σ α → Option ε
  | .failed e _ => some e
  | _ => none

theorem Outcome.eq_failed {ε σ α : Type} {o : Outcome ε σ α} {e : ε} (h : o.cause? = some e) :
    ∃ s, o = .failed e s := by
  cases o with
  | done => cases h
  | failed e' s => exact ⟨s, congrArg (Outcome.failed · s) (Option.some.inj h)⟩
  | exhausted => cases h

namespace Graph

instance (depth : Nat) (ev : Event) : Decidable (ev.Ends depth) :=
  match ev with
  | .opened _ => isTrue trivial
  | .refused _ => isTrue trivial
  | .ran id start => decidable_of_iff ((start.evaluation depth id).result? ≠ none)
      (not_congr Outcome.result?_eq_none_iff)

/-! ## What the steps make of a graph -/

/-- The scope of a node emptied. -/
def emptied (g : Graph) (node : Node) : Graph := { g with store := g.store.clear node.scope }

/-- Values bound as the inputs of a node. -/
def bound (g : Graph) (node : Node) (vs : List Value) : Graph :=
  { g with store := bindInputs node.scope 0 vs g.store }

/-- A node that gets no value, since a producer has none. -/
def refusing (g : Graph) (id : NodeId) : Graph :=
  g.modifyNode id fun node => { node with output := some (.fault .input) }

/-- A node whose evaluation gave `out` and left `st`. -/
def finished (g : Graph) (node : Node) (out : Output) (st : Store) : Graph :=
  ({ g with store := st } : Graph).modifyNode node.id fun n =>
    { n with compiled := (parseSource node.source).toOption.or n.compiled, output := some out }

/-- One step. What it needs of the graph before it is part of it. -/
inductive Step (depth : Nat) : Graph → Event → Graph → Prop
  | opened {g : Graph} {id : NodeId} {node : Node} (hn : g.node? id = some node) :
    Step depth g (.opened id) (g.emptied node)
  /-- Some producer has a fault. -/
  | refused {g : Graph} {id p : NodeId} {node : Node} {f : Fault} (hn : g.node? id = some node)
      (hp : g.Feeds p id) (hf : g.output? p = some (.fault f)) :
    Step depth g (.refused id) (g.refusing id)
  /-- All producers have values, the scope is empty, and the evaluation ends. -/
  | ran {g : Graph} {id : NodeId} {node : Node} {vs : List Value} {out : Output} {st : Store}
      (hn : g.node? id = some node) (hv : g.inputValues? id = some vs)
      (hempty : g.store.bindings node.scope = [])
      (hr : ((g.bound node vs).evaluation depth id).result? = some (out, st)) :
    Step depth g (.ran id (g.bound node vs)) ((g.bound node vs).finished node out st)

/-- Steps one after the other, each of which `ok` allows. -/
inductive Steps (depth : Nat) (ok : Graph → Event → Prop) : Graph → List Event → Graph → Prop
  | nil (g : Graph) : Steps depth ok g [] g
  | cons {g g₁ g₂ : Graph} {ev : Event} {log : List Event} (hs : Step depth g ev g₁)
      (hok : ok g ev) (hrest : Steps depth ok g₁ log g₂) : Steps depth ok g (ev :: log) g₂

/-- The node has no output yet. -/
def Fresh (g : Graph) (ev : Event) : Prop := g.output? ev.node = none

variable {depth : Nat} {ok : Graph → Event → Prop} {g g₁ g₂ g' : Graph} {ev : Event}
  {log log₁ log₂ : List Event} {id m n : NodeId}

@[simp] theorem size_bound (g : Graph) (node : Node) (vs : List Value) :
    (g.bound node vs).store.size = g.store.size := size_bindInputs _ _ _ _

theorem Step.exists_node (hs : Step depth g ev g') : ∃ node, g.node? ev.node = some node := by
  cases hs with
  | opened hn => exact ⟨_, hn⟩
  | refused hn => exact ⟨_, hn⟩
  | ran hn => exact ⟨_, hn⟩

/-- An evaluation starts with the scopes that there are. -/
theorem Step.size_start {start : Graph} (hs : Step depth g (.ran n start) g') :
    start.store.size = g.store.size := by
  cases hs
  exact size_bound _ _ _

/-! ## Lists of steps -/

theorem Step.steps (hs : Step depth g ev g') (hok : ok g ev) : Steps depth ok g [ev] g' :=
  .cons hs hok (.nil g')

theorem Steps.append (h : Steps depth ok g log₁ g₁) (k : Steps depth ok g₁ log₂ g₂) :
    Steps depth ok g (log₁ ++ log₂) g₂ := by
  induction h with
  | nil => exact k
  | cons hs hok _ ih => exact .cons hs hok (ih k)

/-- What each step keeps, with the journal up to there, a whole run keeps. -/
theorem Steps.induction {P : List Event → Graph → Prop}
    (step : ∀ log g ev g', P log g → ok g ev → Step depth g ev g' → P (log ++ [ev]) g')
    (h : Steps depth ok g log g') (before : List Event) (h₀ : P before g) :
    P (before ++ log) g' := by
  induction h generalizing before with
  | nil => rwa [List.append_nil]
  | @cons g g₁ g₂ ev log hs hok _ ih =>
    have hnext := ih (before ++ [ev]) (step before g ev g₁ h₀ hok hs)
    rwa [List.append_assoc] at hnext

/-! ## Frames -/

theorem evaluation_within {node : Node} {out : Output} {st : Store} (hn : g.node? id = some node)
    (hr : (g.evaluation depth id).result? = some (out, st)) :
    Store.Within (· = node.scope) g.store st := by
  unfold evaluation at hr
  rw [hn] at hr
  exact evaluateIn_within depth node.scope node.source g.store st (Outcome.state?_of_result? hr)

theorem frame_emptied {node : Node} (hn : g.node? id = some node) :
    Frame (· = id) g (g.emptied node) := Frame.withStore hn (Store.Within.clear _ _)

theorem frame_bound {node : Node} (hn : g.node? id = some node) (vs : List Value) :
    Frame (· = id) g (g.bound node vs) := Frame.withStore hn (bindInputs_within _ vs 0 _)

theorem frame_finished {node : Node} {out : Output} {st : Store} (hn : g.node? id = some node)
    (hw : Store.Within (· = node.scope) g.store st) :
    Frame (· = id) g (g.finished node out st) := by
  have hid := id_of_node? hn
  subst hid
  exact (Frame.withStore hn hw).trans (Frame.modifyNode _ _ fun _ => rfl)

theorem Step.frame (hs : Step depth g ev g') : Frame (· = ev.node) g g' := by
  cases hs with
  | opened hn => exact frame_emptied hn
  | refused hn hp hf => exact Frame.modifyNode _ _ fun _ => rfl
  | ran hn hv hempty hr =>
    exact (frame_bound hn _).trans (frame_finished (g := g.bound _ _) hn (evaluation_within hn hr))

/-- The evaluation of a step leaves the scopes that are there after the step. -/
theorem Step.size_result {start : Graph} {out : Output} {st : Store}
    (hs : Step depth g (.ran n start) g')
    (hr : (start.evaluation depth n).result? = some (out, st)) :
    start.store.size ≤ st.size ∧ st.size = g'.store.size := by
  cases hs with
  | @ran _ node vs _ _ hn hv hempty hr' =>
    rw [hr'] at hr
    cases hr
    exact ⟨(evaluation_within (g := g.bound node vs) hn hr').size_le, rfl⟩

/-- The evaluation of a step binds no name in the root scope. -/
theorem Step.ran_off_root {start : Graph} (hs : Step depth g (.ran n start) g')
    (hg : g.WellFormed) : Store.Within (· ≠ g.root) start.store g'.store := by
  cases hs with
  | @ran _ node vs _ _ hn hv hempty hr =>
    refine (evaluation_within (g := g.bound node vs) hn hr).mono ?_
    rintro s _ rfl
    exact hg.scope_ne_root hn

/-- A run works on the nodes of its journal and on no other. -/
theorem Steps.frame (h : Steps depth ok g log g') :
    Frame (fun m => ∃ ev ∈ log, ev.node = m) g g' := by
  induction h with
  | nil => exact Frame.refl _ _
  | cons hs _ _ ih =>
    refine Frame.trans (hs.frame.mono ?_) (ih.mono ?_)
    · rintro m rfl
      exact ⟨_, List.mem_cons_self, rfl⟩
    · rintro m ⟨ev, hev, rfl⟩
      exact ⟨ev, List.mem_cons_of_mem _ hev, rfl⟩

/-- An evaluation starts in a graph with the same edges. -/
theorem Steps.edges_of_ran {start : Graph} (h : Steps depth ok g log g')
    (hev : .ran n start ∈ log) : start.edges = g.edges := by
  induction h with
  | nil => cases hev
  | cons hs _ _ ih =>
    rcases List.mem_cons.mp hev with rfl | hin
    · cases hs
      rfl
    · rw [ih hin, hs.frame.edges]

/-! ## Outputs -/

theorem node?_finished {node : Node} {out : Output} {st : Store} (hn : g.node? id = some node) :
    (g.finished node out st).node? id = some { node with
      compiled := (parseSource node.source).toOption.or node.compiled, output := some out } := by
  have hid := id_of_node? hn
  subst hid
  exact node?_modifyNode_self (fun _ => rfl) hn

theorem output?_finished {node : Node} {out : Output} {st : Store} (hn : g.node? id = some node) :
    (g.finished node out st).output? id = some out := output?_of_node? (node?_finished hn)

theorem output?_refusing {node : Node} (hn : g.node? id = some node) :
    (g.refusing id).output? id = some (.fault .input) :=
  output?_of_node? (node?_modifyNode_self
    (f := fun node => { node with output := some (.fault .input) }) (fun _ => rfl) hn)

/-- Only a step that settles a node changes its output. -/
theorem Step.output?_of_not_settles (hs : Step depth g ev g') (h : ev.settles? ≠ some m) :
    g'.output? m = g.output? m := by
  cases hs with
  | opened hn => rfl
  | refused hn hp hf =>
    have hne : m ≠ _ := fun heq => h (heq ▸ rfl)
    exact output?_congr (node?_modifyNode_ne (fun _ => rfl) hne)
  | ran hn hv hempty hr =>
    have hs' : Step depth g _ _ := .ran hn hv hempty hr
    have hne : m ≠ _ := fun heq => h (heq ▸ rfl)
    exact output?_congr (hs'.frame.node m hne)

theorem Step.output_of_settles (hs : Step depth g ev g') (h : ev.settles? = some m) :
    (g'.output? m).isSome := by
  cases hs with
  | opened hn => cases h
  | refused hn hp hf =>
    cases h
    rw [output?_refusing hn]
    rfl
  | ran hn hv hempty hr =>
    cases h
    rw [output?_finished (g := g.bound _ _) hn]
    rfl

theorem Steps.output?_of_not_settles (h : Steps depth ok g log g')
    (hm : ∀ ev ∈ log, ev.settles? ≠ some m) : g'.output? m = g.output? m := by
  induction h with
  | nil => rfl
  | cons hs _ _ ih =>
    rw [ih fun ev hev => hm ev (List.mem_cons_of_mem _ hev),
      hs.output?_of_not_settles (hm _ List.mem_cons_self)]

/-- A node that has an output keeps one. -/
theorem Step.output_isSome (hs : Step depth g ev g') (h : (g.output? m).isSome) :
    (g'.output? m).isSome := by
  by_cases hm : ev.settles? = some m
  · exact hs.output_of_settles hm
  · rwa [hs.output?_of_not_settles hm]

theorem Steps.output_isSome (h : Steps depth ok g log g') (hm : (g.output? m).isSome) :
    (g'.output? m).isSome := by
  induction h with
  | nil => exact hm
  | cons hs _ _ ih => exact ih (hs.output_isSome hm)

/-! ## Runs over nodes without output -/

/-- Such a run leaves each node that had an output alone. -/
theorem Steps.fresh (h : Steps depth Fresh g log g') (hev : ev ∈ log) : Fresh g ev := by
  induction h with
  | nil => cases hev
  | cons hs hok _ ih =>
    rcases List.mem_cons.mp hev with rfl | hin
    · exact hok
    · unfold Fresh at *
      by_contra hne
      have hsome := hs.output_isSome (Option.isSome_iff_ne_none.mpr hne)
      rw [ih hin] at hsome
      cases hsome

theorem Steps.node_eq_of_isSome (h : Steps depth Fresh g log g') (hm : (g.output? m).isSome) :
    g'.node? m = g.node? m := by
  apply h.frame.node
  rintro ⟨ev, hev, rfl⟩
  rw [h.fresh hev] at hm
  cases hm

theorem Steps.output_eq_of_isSome (h : Steps depth Fresh g log g') (hm : (g.output? m).isSome) :
    g'.output? m = g.output? m := output?_congr (h.node_eq_of_isSome hm)

theorem Event.node_of_settles? (h : ev.settles? = some n) : ev.node = n := by
  cases ev with
  | opened => cases h
  | refused => exact Option.some.inj h
  | ran => exact Option.some.inj h

/-- Each node is settled once at most. -/
theorem Steps.settles_nodup (h : Steps depth Fresh g log g') :
    (log.filterMap Event.settles?).Nodup := by
  induction h with
  | nil => exact List.nodup_nil
  | @cons g g₁ g₂ ev log hs hok hrest ih =>
    rcases hev : ev.settles? with _ | n
    · rwa [List.filterMap_cons_none hev]
    · rw [List.filterMap_cons_some hev, List.nodup_cons]
      refine ⟨?_, ih⟩
      intro hmem
      obtain ⟨ev', hin, hev'⟩ := List.mem_filterMap.mp hmem
      have hnone := hrest.fresh hin
      have hsome := hs.output_of_settles hev
      unfold Fresh at hnone
      rw [Event.node_of_settles? hev'] at hnone
      rw [hnone] at hsome
      cases hsome

end Graph

end Patchbay
