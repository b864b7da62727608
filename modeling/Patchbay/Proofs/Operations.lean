-- Operations on the graph of a session. Each changes the graph in place, yet what they do with
-- it are requests, and one that is refused leaves the graph as it was.
import Patchbay.Sessions
import Patchbay.Proofs.Loading

namespace Patchbay

open Patchbay.Language (Wording)

/-! ## Operations -/

/-- What can be asked of the graph of a session. -/
inductive Operation
  | load (bytes : List UInt8)
  | save
  | addNode (source : List UInt8)
  | addEdge (a b : Nat)
  | deleteNode (index : Nat)
  | setSource (index : Nat) (source : List UInt8)
  | recompute (index : Nat)
  | output (index : Nat)

inductive Answer
  /-- The number of a new session. -/
  | session (s : Nat)
  | status (status : Status)
  | text (text : String)
  /-- The place of a new node, where there is one. -/
  | place (index : Option Nat)
  | freed
  deriving DecidableEq

/-- The answer where there is no such session. -/
def Operation.unknown : Operation → Answer
  | save => .text "\x7b\x7d"
  | addNode _ => .place none
  | output _ => .text "null"
  | _ => .status .unknownSession

/-- Reports of operations that have acted on the graph. -/
inductive Status.Acted : Status → Prop
  | ok : Acted .ok
  | cycle (n : NodeId) : Acted (.failed (.cycle n))
  | tooDeep : Acted .tooDeep

namespace Sessions

def perform (w : Wording) (depth : Nat) (ss : Sessions) (s : Nat) : Operation → Answer × Sessions
  | .load bytes => (ss.load depth s bytes).map Answer.status id
  | .save => (.text (ss.save s), ss)
  | .addNode source => (ss.addNode s source).map Answer.place id
  | .addEdge a b => (ss.addEdge s a b).map Answer.status id
  | .deleteNode index => (ss.deleteNode s index).map Answer.status id
  | .setSource index source => (ss.setSource s index source).map Answer.status id
  | .recompute index => (ss.recompute depth s index).map Answer.status id
  | .output index => (.text (ss.output w s index), ss)

end Sessions

/-! ## Operations on one graph -/

namespace Graph

/-- How a change of the graph ended, as it is reported. -/
def report (g : Graph) : Outcome GraphError Graph Unit → Status × Graph
  | .done _ g' => (.ok, g')
  | .failed e g' => (.failed e, g')
  | .exhausted => (.tooDeep, g)

/-- A change in place, as it is reported. What was done before a failure stays. -/
def computing (g : Graph) (x : Recompute Unit) : Status × Graph := g.report (x g)

/-- What an operation on a session does with the graph of the session. -/
def perform (w : Wording) (depth : Nat) (g : Graph) : Operation → Answer × Graph
  | .load bytes => (g.computing (openText depth (Text.utf8Lossy bytes))).map Answer.status id
  | .save => (.text g.save, g)
  | .addNode source =>
    let (id, g') := g.addNode (Text.utf8Lossy source)
    (.place (g'.indexOf? id), g')
  | .addEdge a b => (g.computing (joinAt a b)).map Answer.status id
  | .deleteNode index => (g.computing (removeAt index)).map Answer.status id
  | .setSource index source =>
    (g.computing (rewriteAt index (Text.utf8Lossy source))).map Answer.status id
  | .recompute index => (g.computing (recomputeAt depth index)).map Answer.status id
  | .output index => (.text (Output.toJson w (g.outputAt? index)).compact, g)

end Graph

namespace Sessions

variable {w : Wording} {depth : Nat} {ss : Sessions} {s t : Nat} {g : Graph} {α : Type}

/-- An answer, with the sessions where session `s` has the graph that comes with it. -/
def keeping (ss : Sessions) (s : Nat) (r : α × Graph) : α × Sessions := (r.1, ss.put s r.2)

theorem getElem?_of_graph? (h : ss.graph? s = some g) : ss[s]? = some (some g) :=
  Option.join_eq_some_iff.mp h

theorem lt_of_graph? (h : ss.graph? s = some g) : s < ss.length :=
  (List.getElem?_eq_some_iff.mp (getElem?_of_graph? h)).1

theorem put_self (h : ss.graph? s = some g) : ss.put s g = ss := by
  obtain ⟨hs, heq⟩ := List.getElem?_eq_some_iff.mp (getElem?_of_graph? h)
  unfold put
  rw [← heq, List.set_getElem_self]

theorem graph?_put_self (h : s < ss.length) : (ss.put s g).graph? s = some g := by
  simp [graph?, put, h]

theorem graph?_put_ne (h : t ≠ s) : (ss.put s g).graph? t = ss.graph? t := by
  simp [graph?, put, List.getElem?_set_ne h.symm]

theorem perform_of_unknown (h : ss.graph? s = none) (op : Operation) :
    ss.perform w depth s op = (op.unknown, ss) := by
  have hcompute : ∀ x, ss.compute s x = (.unknownSession, ss) := by
    intro x
    unfold compute
    rw [h]
  cases op with
  | save => simp [perform, save, h, Operation.unknown]
  | addNode => simp [perform, addNode, h, Operation.unknown]
  | output => simp [perform, output, h, Operation.unknown]; rfl
  | _ => exact congrArg (Prod.map Answer.status id) (hcompute _)

theorem compute_of_known (h : ss.graph? s = some g) (x : Graph.Recompute Unit) :
    ss.compute s x = ss.keeping s (g.computing x) := by
  unfold compute keeping Graph.computing
  rcases hx : x g with ⟨_, g'⟩ | ⟨e, g'⟩ | _
  · simp [h, hx, Graph.report]
  · simp [h, hx, Graph.report]
  · simp [h, hx, Graph.report, put_self h]

/-- On a known session the graph of the session is acted on, and nothing else. -/
theorem perform_of_known (h : ss.graph? s = some g) (op : Operation) :
    ss.perform w depth s op = ss.keeping s (g.perform w depth op) := by
  cases op with
  | save => simp [perform, Graph.perform, save, keeping, h, put_self h]
  | addNode source => simp [perform, Graph.perform, addNode, keeping, h]
  | output index => simp [perform, Graph.perform, output, keeping, h, put_self h]
  | _ => exact congrArg (Prod.map Answer.status id) (compute_of_known h _)

end Sessions

/-! ## Edits at once -/

namespace Graph

variable {depth index : Nat} {g g' : Graph} {id : NodeId} {e : GraphError}
  {f : Graph → Except GraphError Graph} {x : Recompute Unit}

def addEdgeAt (g : Graph) (a b : Nat) : Except GraphError Graph := do
  let producer ← g.nodeAt a
  let consumer ← g.nodeAt b
  g.addEdge producer consumer

def deleteNodeAt (g : Graph) (index : Nat) : Except GraphError Graph := do
  let id ← g.nodeAt index
  (g.deleteNode id).map Prod.snd

def setSourceAt (g : Graph) (index : Nat) (source : String) : Except GraphError Graph := do
  let id ← g.nodeAt index
  g.setSource id source

/-- An edit, as it is reported. A refused edit leaves the graph as it was. -/
def editing (g : Graph) (f : Graph → Except GraphError Graph) : Status × Graph :=
  match f g with
  | .ok g' => (.ok, g')
  | .error e => (.failed e, g)

/-- To ask first and change then is one change. -/
theorem ask_attempt {α : Type} (f : Graph → Except GraphError α)
    (change : α → Graph → Except GraphError Graph) :
    (ask f >>= fun a => attempt (change a)) = attempt fun g => f g >>= fun a => change a g := by
  funext g
  cases hf : f g with
  | error e =>
    have hask : ask f g = .failed e g := by simp [ask, hf]
    refine (Action.bind_of_failed hask).trans (attempt_of_error ?_).symm
    rw [hf]
    rfl
  | ok a =>
    have hask : ask f g = .done a g := by simp [ask, hf]
    refine (Action.bind_of_done hask).trans ?_
    unfold attempt
    dsimp only
    rw [hf]
    rfl

theorem joinAt_eq (a b : Nat) : joinAt a b = attempt (·.addEdgeAt a b) := by
  unfold joinAt
  simp only [ask_attempt]
  rfl

theorem removeAt_eq (index : Nat) : removeAt index = attempt (·.deleteNodeAt index) :=
  ask_attempt _ _

theorem rewriteAt_eq (index : Nat) (source : String) :
    rewriteAt index source = attempt (·.setSourceAt index source) := ask_attempt _ _

theorem computing_attempt (g : Graph) (f : Graph → Except GraphError Graph) :
    g.computing (attempt f) = g.editing f := by
  unfold computing editing attempt
  rcases f g with e | g' <;> rfl

/-- A recompute from a place is refused where no node is there. -/
theorem recomputeAt_of_error (h : g.nodeAt index = .error e) :
    recomputeAt depth index g = .failed e g := by
  have hask : ask (·.nodeAt index) g = .failed e g := by simp [ask, h]
  exact Action.bind_of_failed hask

theorem recomputeAt_of_ok (h : g.nodeAt index = .ok id) :
    recomputeAt depth index g = recomputeDownstream depth id g := by
  have hask : ask (·.nodeAt index) g = .done id g := by simp [ask, h]
  exact Action.bind_of_done hask

theorem loadTextInSteps_eq (hg : g.WellFormed) (text : String) :
    loadTextInSteps text g = attempt (·.load text) g := by
  unfold loadTextInSteps attempt load
  rcases GraphData.read text with e | data
  · rfl
  · exact loadInSteps_eq hg data

/-- A load in steps is refused before it changes anything. -/
theorem openText_of_error {text : String} (hg : g.WellFormed) (h : g.load text = .error e) :
    openText depth text g = .failed e g :=
  Action.bind_of_failed ((loadTextInSteps_eq hg text).trans (attempt_of_error h))

theorem openText_of_ok {text : String} (hg : g.WellFormed) (h : g.load text = .ok g') :
    openText depth text g = recomputeAll depth g' :=
  Action.bind_of_done ((loadTextInSteps_eq hg text).trans (attempt_of_ok h))

/-! ## Graphs of sessions -/

theorem mem_of_nodeAt (h : g.nodeAt index = .ok id) : id ∈ g.nodeIds := by
  unfold nodeAt at h
  rcases hid : g.nodeAt? index with _ | id'
  · rw [hid] at h
    cases h
  · rw [hid] at h
    cases h
    obtain ⟨node, hnode, rfl⟩ := Option.map_eq_some_iff.mp hid
    exact List.mem_map_of_mem (List.mem_of_getElem? hnode)

/-- Requests make `g'` of `g`. -/
def Becomes (depth : Nat) (g g' : Graph) : Prop := ∃ requests, g' = history depth g requests

theorem Becomes.refl (depth : Nat) (g : Graph) : Becomes depth g g := ⟨[], rfl⟩

theorem Becomes.of_after (r : Request) (h : g.after depth r = g') : Becomes depth g g' :=
  ⟨[r], h.symm⟩

theorem Becomes.trans {g'' : Graph} (h : Becomes depth g g') (k : Becomes depth g' g'') :
    Becomes depth g g'' := by
  obtain ⟨requests, rfl⟩ := h
  obtain ⟨more, rfl⟩ := k
  exact ⟨requests ++ more, List.foldl_append.symm⟩

theorem editing_becomes (h : ∀ g', f g = .ok g' → Becomes depth g g') :
    Becomes depth g (g.editing f).2 := by
  unfold editing
  rcases hf : f g with e | g'
  · exact Becomes.refl depth g
  · exact h g' hf

theorem report_becomes {o : Outcome GraphError Graph Unit}
    (h : ∀ g', o.state? = some g' → Becomes depth g g') : Becomes depth g (g.report o).2 := by
  cases o with
  | done _ g' => exact h g' rfl
  | failed e g' => exact h g' rfl
  | exhausted => exact Becomes.refl depth g

theorem load_becomes {text : String} (h : g.load text = .ok g') : Becomes depth g g' := by
  refine Becomes.of_after (.load text) ?_
  simp [after, h, Except.toOption]

theorem addEdgeAt_becomes {a b : Nat} (h : g.addEdgeAt a b = .ok g') : Becomes depth g g' := by
  obtain ⟨p, -, hp⟩ := bind_eq_ok.mp h
  obtain ⟨c, -, hc⟩ := bind_eq_ok.mp hp
  refine Becomes.of_after (.edit (.addEdge p c)) ?_
  simp [after, edit, hc, Except.toOption]

theorem deleteNodeAt_becomes (h : g.deleteNodeAt index = .ok g') : Becomes depth g g' := by
  obtain ⟨id, -, hid⟩ := bind_eq_ok.mp h
  refine Becomes.of_after (.deleteNode id) ?_
  simp [after, hid, Except.toOption]

theorem setSourceAt_becomes {source : String} (h : g.setSourceAt index source = .ok g') :
    Becomes depth g g' := by
  obtain ⟨id, -, hid⟩ := bind_eq_ok.mp h
  refine Becomes.of_after (.edit (.setSource id source)) ?_
  simp [after, edit, hid, Except.toOption]

theorem recomputeAt_becomes (depth : Nat) (g : Graph) (index : Nat) :
    Becomes depth g (g.computing (recomputeAt depth index)).2 := by
  refine report_becomes fun g' h => ?_
  cases hid : g.nodeAt index with
  | error e =>
    rw [recomputeAt_of_error hid] at h
    cases h
    exact Becomes.refl depth g
  | ok id =>
    rw [recomputeAt_of_ok hid] at h
    refine Becomes.of_after (.recomputeDownstream id) ?_
    simp [after, h]

theorem openText_becomes (hg : g.WellFormed) (depth : Nat) (text : String) :
    Becomes depth g (g.computing (openText depth text)).2 := by
  refine report_becomes fun g' h => ?_
  cases hload : g.load text with
  | error e =>
    rw [openText_of_error hg hload] at h
    cases h
    exact Becomes.refl depth g
  | ok g₁ =>
    rw [openText_of_ok hg hload] at h
    refine (load_becomes hload).trans (Becomes.of_after .recomputeAll ?_)
    simp [after, h]

/-- What a session does with its graph are requests. -/
theorem perform_becomes (hg : g.WellFormed) (w : Wording) (depth : Nat) (op : Operation) :
    Becomes depth g (g.perform w depth op).2 := by
  cases op with
  | load bytes => exact openText_becomes hg depth (Text.utf8Lossy bytes)
  | save => exact Becomes.refl depth g
  | addNode source => exact Becomes.of_after (.addNode (Text.utf8Lossy source)) rfl
  | addEdge a b =>
    have hedit : Becomes depth g (g.editing (·.addEdgeAt a b)).2 :=
      editing_becomes fun _ h => addEdgeAt_becomes h
    rwa [← computing_attempt, ← joinAt_eq] at hedit
  | deleteNode index =>
    have hedit : Becomes depth g (g.editing (·.deleteNodeAt index)).2 :=
      editing_becomes fun _ h => deleteNodeAt_becomes h
    rwa [← computing_attempt, ← removeAt_eq] at hedit
  | setSource index source =>
    have hedit : Becomes depth g (g.editing (·.setSourceAt index (Text.utf8Lossy source))).2 :=
      editing_becomes fun _ h => setSourceAt_becomes h
    rwa [← computing_attempt, ← rewriteAt_eq] at hedit
  | recompute index => exact recomputeAt_becomes depth g index
  | output index => exact Becomes.refl depth g

theorem WellFormed.becomes (hg : g.WellFormed) (h : Becomes depth g g') : g'.WellFormed := by
  obtain ⟨requests, rfl⟩ := h
  exact history_wellFormed hg depth requests

/-! ## Refusals -/

/-- A report of success, of a cycle or of too deep a nesting, or one for which the graph
stays as it was. -/
def RefusesWhole (g : Graph) (r : Status × Graph) : Prop := r.1.Acted ∨ r.2 = g

theorem editing_refusesWhole (g : Graph) (f : Graph → Except GraphError Graph) :
    g.RefusesWhole (g.editing f) := by
  unfold editing
  rcases f g with e | g'
  · exact Or.inr rfl
  · exact Or.inl .ok

theorem report_acted {o : Outcome GraphError Graph Unit} {ids : List NodeId}
    (ho : ∀ e g', o = .failed e g' → ∃ n ∈ ids, e = .cycle n) : (g.report o).1.Acted := by
  cases o with
  | done _ g' => exact .ok
  | failed e g' =>
    obtain ⟨n, -, rfl⟩ := ho e g' rfl
    exact .cycle n
  | exhausted => exact .tooDeep

/-- A load is refused before it takes anything away. -/
theorem openText_refusesWhole (hg : g.WellFormed) (depth : Nat) (text : String) :
    g.RefusesWhole (g.computing (openText depth text)) := by
  unfold computing
  cases hload : g.load text with
  | error e =>
    rw [openText_of_error hg hload]
    exact Or.inr rfl
  | ok g' =>
    have hbecomes : Becomes depth g g' := load_becomes hload
    rw [openText_of_ok hg hload]
    exact Or.inl (report_acted fun _ _ => recomputeAll_fails (hg.becomes hbecomes))

theorem recomputeAt_refusesWhole (hg : g.WellFormed) (depth index : Nat) :
    g.RefusesWhole (g.computing (recomputeAt depth index)) := by
  unfold computing
  cases hid : g.nodeAt index with
  | error e =>
    rw [recomputeAt_of_error hid]
    exact Or.inr rfl
  | ok id =>
    rw [recomputeAt_of_ok hid]
    exact Or.inl (report_acted fun e g' h =>
      (recomputeDownstream_finds depth (mem_of_nodeAt hid)).fails g e g' ⟨hg, rfl, rfl⟩ h)

theorem perform_refuses {w : Wording} {status : Status} (hg : g.WellFormed) (depth : Nat)
    (op : Operation) (h : (g.perform w depth op).1 = .status status) :
    status.Acted ∨ (g.perform w depth op).2 = g := by
  cases op with
  | load bytes =>
    exact Answer.status.inj h ▸ openText_refusesWhole hg depth (Text.utf8Lossy bytes)
  | save => exact Or.inr rfl
  | addNode source => cases h
  | addEdge a b =>
    have hedit := editing_refusesWhole g (·.addEdgeAt a b)
    rw [← computing_attempt, ← joinAt_eq] at hedit
    exact Answer.status.inj h ▸ hedit
  | deleteNode index =>
    have hedit := editing_refusesWhole g (·.deleteNodeAt index)
    rw [← computing_attempt, ← removeAt_eq] at hedit
    exact Answer.status.inj h ▸ hedit
  | setSource index source =>
    have hedit := editing_refusesWhole g (·.setSourceAt index (Text.utf8Lossy source))
    rw [← computing_attempt, ← rewriteAt_eq] at hedit
    exact Answer.status.inj h ▸ hedit
  | recompute index => exact Answer.status.inj h ▸ recomputeAt_refusesWhole hg depth index
  | output index => exact Or.inr rfl

end Graph

end Patchbay
