-- Recomputing with a journal: the same computations, which also write down
-- what they do with each node. The journal is kept however they end, and
-- without it they are the computations on graphs themselves.
import Patchbay.Graph.Recompute

namespace Patchbay

open Patchbay.Language

namespace Graph

/-- What is done with a node. -/
inductive Event
  /-- Its scope is emptied, since its turn has come. -/
  | opened (id : NodeId)
  /-- Its source is not evaluated, since a producer has no value. -/
  | refused (id : NodeId)
  /-- Its source is evaluated in the graph `start`, where its inputs are bound. -/
  | ran (id : NodeId) (start : Graph)

namespace Event

def node : Event → NodeId
  | opened id => id
  | refused id => id
  | ran id _ => id

/-- The node that has an output after this event. -/
def settles? : Event → Option NodeId
  | opened _ => none
  | refused id => some id
  | ran id _ => some id

/-- The node whose source is evaluated. -/
def runs? : Event → Option NodeId
  | opened _ => none
  | refused _ => none
  | ran id _ => some id

end Event

/-- The evaluation of the source of a node in its own scope. -/
def evaluation (depth : Nat) (g : Graph) (id : NodeId) : Outcome SourceError Store Value :=
  match g.node? id with
  | some node => Language.evaluateIn depth node.scope node.source g.store
  | none => .exhausted

/-- The evaluation ends, if there is one. -/
def Event.Ends (depth : Nat) : Event → Prop
  | ran id start => start.evaluation depth id ≠ .exhausted
  | _ => True

/-! ## Journals -/

/-- A computation over the graph that says what it does on the way. -/
def Journal (α : Type) : Type := Graph → List Event × Outcome GraphError Graph α

namespace Journal

variable {α β : Type}

/-- Runs `x`, then `f` on its value; the second journal follows the first one. -/
def andThen (x : Journal α) (f : α → Journal β) : Journal β := fun g =>
  match x g with
  | (log, .done a g') => (log ++ (f a g').1, (f a g').2)
  | (log, .failed e g') => (log, .failed e g')
  | (log, .exhausted) => (log, .exhausted)

instance : Monad Journal where
  pure a := fun g => ([], .done a g)
  bind := andThen

/-- A computation that has nothing to write down. -/
def quiet (x : Recompute α) : Journal α := fun g => ([], x g)

/-- Writes down an event at the present graph. -/
def note (event : Graph → Event) : Journal Unit := fun g => ([event g], .done () g)

/-- The computation without its journal. -/
def erase (x : Journal α) : Recompute α := fun g => (x g).2

@[simp] theorem erase_quiet (x : Recompute α) : erase (quiet x) = x := rfl

@[simp] theorem erase_note (event : Graph → Event) : erase (note event) = pure () := rfl

@[simp] theorem erase_bind (x : Journal α) (f : α → Journal β) :
    erase (x >>= f) = erase x >>= fun a => erase (f a) := by
  funext g
  change (x.andThen f g).2 = (erase x).andThen (fun a => erase (f a)) g
  unfold andThen Action.andThen erase
  rcases x g with ⟨log, _ | _ | _⟩ <;> rfl

/-- Runs `f` on each element from the left. -/
def forEach (f : α → Journal Unit) : List α → Journal Unit
  | [] => pure ()
  | x :: xs => do
    f x
    forEach f xs

theorem erase_forEach (f : α → Journal Unit) (xs : List α) :
    erase (forEach f xs) = Action.forEach (fun x => erase (f x)) xs := by
  induction xs with
  | nil => rfl
  | cons x xs ih => rw [forEach, erase_bind, ih, Action.forEach]

/-! ## Recomputing -/

/-- As `Graph.run`, with the evaluation in the journal. -/
def run (depth : Nat) (id : NodeId) : Journal Unit := do
  note (.ran id)
  quiet (Graph.run depth id)

/-- The value of a producer in front of those of the others. -/
def prepend (id : NodeId) (rest : Journal (Option (List Value))) :
    Journal (Option (List Value)) := do
  match (← quiet (find id)).output with
  | some (.value v) =>
    match ← rest with
    | some vs => pure (some (v :: vs))
    | none => pure none
  | _ => pure none

def collect (resolve : NodeId → Journal Unit) : List NodeId → Journal (Option (List Value))
  | [] => pure (some [])
  | id :: ids => do
    if (← quiet (find id)).output.isNone then resolve id
    prepend id (collect resolve ids)

def resolve (depth : Nat) : Nat → List NodeId → NodeId → Journal Unit
  | 0, _, _ => quiet Action.exhausted
  | limit + 1, resolving, id => do
    if resolving.contains id then quiet (Action.fail (.cycle id))
    else
      let node ← quiet (find id)
      note fun _ => .opened id
      quiet (Action.change fun g => { g with store := g.store.clear node.scope })
      let producers ← quiet (Action.read fun g : Graph => g.inputsOf id)
      match ← collect (resolve depth limit (id :: resolving)) producers with
      | none =>
        note fun _ => .refused id
        quiet (putOutput id (.fault .input))
      | some values =>
        quiet (Action.change fun g => { g with store := bindInputs node.scope 0 values g.store })
        run depth id

def recomputeWithInputs (depth : Nat) (id : NodeId) : Journal Unit := do
  resolve depth (← quiet nesting) [] id

def propagate (depth : Nat) : Nat → List NodeId → NodeId → Journal Unit
  | 0, _, _ => quiet Action.exhausted
  | limit + 1, path, id => do
    if path.contains id then quiet (Action.fail (.cycle id))
    else
      recomputeWithInputs depth id
      let consumers ← quiet (Action.read fun g : Graph => g.consumersOf id)
      forEach (propagate depth limit (id :: path)) consumers

def recomputeDownstream (depth : Nat) (id : NodeId) : Journal Unit := do
  propagate depth (← quiet nesting) [] id

/-- One node of a list, when it has no output yet. -/
def recomputeIfUnset (depth : Nat) (id : NodeId) : Journal Unit := do
  if (← quiet (find id)).output.isNone then recomputeWithInputs depth id

def recomputeUnset (depth : Nat) : List NodeId → Journal Unit := forEach (recomputeIfUnset depth)

def recomputeAll (depth : Nat) : Journal Unit := do
  quiet (Action.change clearOutputs)
  let ids ← quiet (Action.read nodeIds)
  recomputeUnset depth ids

/-! ## Results by cases -/

section Results

variable {x : Journal α} {f : α → Journal β} {g g' : Graph} {log : List Event} {a : α}
  {e : GraphError}

theorem bind_of_done (h : x g = (log, .done a g')) :
    (x >>= f) g = (log ++ (f a g').1, (f a g').2) := by
  change x.andThen f g = _
  unfold andThen
  rw [h]

theorem bind_of_failed (h : x g = (log, .failed e g')) : (x >>= f) g = (log, .failed e g') := by
  change x.andThen f g = _
  unfold andThen
  rw [h]

theorem bind_of_exhausted (h : x g = (log, .exhausted)) : (x >>= f) g = (log, .exhausted) := by
  change x.andThen f g = _
  unfold andThen
  rw [h]

theorem quiet_bind_of_done {y : Recompute α} (h : y g = .done a g') :
    (quiet y >>= f) g = f a g' :=
  bind_of_done (x := quiet y) (show quiet y g = ([], .done a g') by unfold quiet; rw [h])

theorem quiet_bind_of_failed {y : Recompute α} (h : y g = .failed e g') :
    (quiet y >>= f) g = ([], .failed e g') :=
  bind_of_failed (x := quiet y) (by unfold quiet; rw [h])

theorem bind_eq_done {b : β}
    (h : (x >>= f) g = (log, .done b g')) :
    ∃ log₁ a g₁ log₂, x g = (log₁, .done a g₁) ∧ f a g₁ = (log₂, .done b g') ∧
      log = log₁ ++ log₂ := by
  rcases hr : x g with ⟨log₁, ⟨a, g₁⟩ | ⟨e, g₁⟩ | _⟩
  · rw [bind_of_done hr] at h
    obtain ⟨hlog, hout⟩ := Prod.mk.inj h
    exact ⟨log₁, a, g₁, (f a g₁).1, rfl, Prod.ext rfl hout, hlog.symm⟩
  · rw [bind_of_failed hr] at h
    cases h
  · rw [bind_of_exhausted hr] at h
    cases h

end Results

variable {depth limit : Nat} {g g' : Graph} {id : NodeId} {node : Node}
  {ids resolving : List NodeId} {log : List Event} {r : NodeId → Journal Unit}

theorem forEach_cons_eq_done {f : NodeId → Journal Unit} {x : NodeId} {xs : List NodeId}
    (h : forEach f (x :: xs) g = (log, .done () g')) :
    ∃ log₁ g₁ log₂, f x g = (log₁, .done () g₁) ∧ forEach f xs g₁ = (log₂, .done () g') ∧
      log = log₁ ++ log₂ := by
  obtain ⟨log₁, u, g₁, log₂, hx, hrest, rfl⟩ := bind_eq_done (x := f x) h
  exact ⟨log₁, g₁, log₂, hx, hrest, rfl⟩

theorem find_of_some (hn : g.node? id = some node) : find id g = .done node g := by
  change (Action.ofOption (.unknownNode id) (g.node? id) : Recompute Node) g = _
  rw [hn]
  rfl

theorem find_of_none (hn : g.node? id = none) : find id g = .failed (.unknownNode id) g := by
  change (Action.ofOption (.unknownNode id) (g.node? id) : Recompute Node) g = _
  rw [hn]
  rfl

theorem prepend_of_fault {f : Fault} {rest : Journal (Option (List Value))}
    (hn : g.node? id = some node) (ho : node.output = some (.fault f)) :
    prepend id rest g = ([], .done none g) := by
  unfold prepend
  rw [quiet_bind_of_done (find_of_some hn), ho]
  rfl

theorem prepend_of_value {v : Value} {rest : Journal (Option (List Value))}
    (hn : g.node? id = some node) (ho : node.output = some (.value v)) :
    prepend id rest g = match rest g with
      | (log, .done found g') => (log, .done (found.map (v :: ·)) g')
      | (log, .failed e g') => (log, .failed e g')
      | (log, .exhausted) => (log, .exhausted) := by
  unfold prepend
  rw [quiet_bind_of_done (find_of_some hn), ho]
  dsimp only
  rcases hr : rest g with ⟨log, ⟨found, g'⟩ | ⟨e, g'⟩ | _⟩
  · rw [bind_of_done hr]
    cases found <;> exact congrArg (·, _) (List.append_nil log)
  · rw [bind_of_failed hr]
  · rw [bind_of_exhausted hr]

theorem collect_of_unknown (hn : g.node? id = none) :
    collect r (id :: ids) g = ([], .failed (.unknownNode id) g) := by
  unfold collect
  rw [quiet_bind_of_failed (find_of_none hn)]

theorem collect_of_output (hn : g.node? id = some node) (ho : node.output.isSome) :
    collect r (id :: ids) g = prepend id (collect r ids) g := by
  have hsome : ¬node.output.isNone = true := by
    rw [Option.isNone_iff_eq_none]
    exact Option.isSome_iff_ne_none.mp ho
  rw [collect, quiet_bind_of_done (find_of_some hn)]
  dsimp only
  rw [if_neg hsome]

theorem collect_of_unset (hn : g.node? id = some node) (ho : node.output = none) :
    collect r (id :: ids) g = (r id >>= fun _ => prepend id (collect r ids)) g := by
  rw [collect, quiet_bind_of_done (find_of_some hn)]
  dsimp only
  rw [if_pos (Option.isNone_iff_eq_none.mpr ho)]

theorem resolve_of_mem (h : id ∈ resolving) :
    resolve depth (limit + 1) resolving id g = ([], .failed (.cycle id) g) := by
  rw [resolve, if_pos (List.contains_iff_mem.mpr h)]
  rfl

theorem resolve_of_unknown (h : id ∉ resolving) (hn : g.node? id = none) :
    resolve depth (limit + 1) resolving id g = ([], .failed (.unknownNode id) g) := by
  rw [resolve, if_neg (fun hc => h (List.contains_iff_mem.mp hc)),
    quiet_bind_of_failed (find_of_none hn)]

theorem recomputeIfUnset_of_unknown (hn : g.node? id = none) :
    recomputeIfUnset depth id g = ([], .failed (.unknownNode id) g) := by
  unfold recomputeIfUnset
  rw [quiet_bind_of_failed (find_of_none hn)]

theorem recomputeIfUnset_of_output (hn : g.node? id = some node) (ho : node.output.isSome) :
    recomputeIfUnset depth id g = ([], .done () g) := by
  have hsome : ¬node.output.isNone = true := by
    rw [Option.isNone_iff_eq_none]
    exact Option.isSome_iff_ne_none.mp ho
  unfold recomputeIfUnset
  rw [quiet_bind_of_done (find_of_some hn)]
  rw [if_neg hsome]
  rfl

theorem recomputeIfUnset_of_unset (hn : g.node? id = some node) (ho : node.output = none) :
    recomputeIfUnset depth id g = recomputeWithInputs depth id g := by
  unfold recomputeIfUnset
  rw [quiet_bind_of_done (find_of_some hn)]
  rw [if_pos (Option.isNone_iff_eq_none.mpr ho)]

/-- What becomes of a node once its producers have been looked at. -/
def settle (depth : Nat) (node : Node) (id : NodeId) : Option (List Value) → Journal Unit
  | none => do
    note fun _ => .refused id
    quiet (putOutput id (.fault .input))
  | some values => do
    quiet (Action.change fun g => { g with store := bindInputs node.scope 0 values g.store })
    run depth id

theorem resolve_of_node (h : id ∉ resolving) (hn : g.node? id = some node) :
    resolve depth (limit + 1) resolving id g = (note (fun _ => .opened id) >>= fun _ =>
      quiet (Action.change fun g => { g with store := g.store.clear node.scope }) >>= fun _ =>
      quiet (Action.read fun g : Graph => g.inputsOf id) >>= fun producers =>
      collect (resolve depth limit (id :: resolving)) producers >>= settle depth node id) g := by
  rw [resolve, if_neg (fun hc => h (List.contains_iff_mem.mp hc)),
    quiet_bind_of_done (find_of_some hn)]
  congr

/-! ## Without the journal -/

theorem erase_run (depth : Nat) (id : NodeId) : erase (run depth id) = Graph.run depth id := by
  unfold run
  rw [erase_bind, erase_note, erase_quiet, pure_bind]

theorem erase_prepend (id : NodeId) (rest : Journal (Option (List Value))) :
    erase (prepend id rest) = (do
      match (← find id).output with
      | some (.value v) =>
        match ← erase rest with
        | some vs => pure (some (v :: vs))
        | none => pure none
      | _ => pure none) := by
  unfold prepend
  rw [erase_bind, erase_quiet]
  congr 1
  funext node
  split
  · rw [erase_bind]
    congr 1
    funext found
    cases found <;> rfl
  · rfl

theorem erase_collect (resolve : NodeId → Journal Unit) (ids : List NodeId) :
    erase (collect resolve ids) = Graph.collect (fun id => erase (resolve id)) ids := by
  induction ids with
  | nil => rfl
  | cons id ids ih =>
    unfold collect Graph.collect
    rw [erase_bind, erase_quiet]
    congr 1
    funext node
    have hrest := erase_prepend id (collect resolve ids)
    rw [ih] at hrest
    dsimp only
    split
    · rw [erase_bind]
      exact congrArg (fun rest => erase (resolve id) >>= fun _ => rest) hrest
    · exact hrest

theorem erase_resolve (depth limit : Nat) (resolving : List NodeId) (id : NodeId) :
    erase (resolve depth limit resolving id) = Graph.resolve depth limit resolving id := by
  induction limit generalizing resolving id with
  | zero => rfl
  | succ limit ih =>
    unfold resolve Graph.resolve
    split
    · rfl
    · simp only [erase_bind, erase_quiet, erase_note, pure_bind, erase_collect, ih]
      congr 1
      funext node
      congr 1
      funext _
      congr 1
      funext producers
      congr 1
      funext found
      cases found with
      | none => rfl
      | some values => rw [erase_bind, erase_quiet, erase_run]

theorem erase_recomputeWithInputs (depth : Nat) (id : NodeId) :
    erase (recomputeWithInputs depth id) = Graph.recomputeWithInputs depth id := by
  unfold recomputeWithInputs Graph.recomputeWithInputs
  simp only [erase_bind, erase_quiet, erase_resolve]

theorem erase_propagate (depth limit : Nat) (path : List NodeId) (id : NodeId) :
    erase (propagate depth limit path id) = Graph.propagate depth limit path id := by
  induction limit generalizing path id with
  | zero => rfl
  | succ limit ih =>
    unfold propagate Graph.propagate
    split
    · rfl
    · simp only [erase_bind, erase_quiet, erase_recomputeWithInputs, erase_forEach, ih]

theorem erase_recomputeDownstream (depth : Nat) (id : NodeId) :
    erase (recomputeDownstream depth id) = Graph.recomputeDownstream depth id := by
  unfold recomputeDownstream Graph.recomputeDownstream
  simp only [erase_bind, erase_quiet, erase_propagate]

theorem erase_recomputeUnset (depth : Nat) (ids : List NodeId) :
    erase (recomputeUnset depth ids) = Graph.recomputeUnset depth ids := by
  unfold recomputeUnset Graph.recomputeUnset
  rw [erase_forEach]
  congr 1
  funext id
  unfold recomputeIfUnset
  rw [erase_bind, erase_quiet]
  congr 1
  funext node
  split
  · exact erase_recomputeWithInputs depth id
  · rfl

theorem erase_recomputeAll (depth : Nat) :
    erase (recomputeAll depth) = Graph.recomputeAll depth := by
  unfold recomputeAll Graph.recomputeAll
  simp only [erase_bind, erase_quiet, erase_recomputeUnset]

end Journal

end Graph

end Patchbay
