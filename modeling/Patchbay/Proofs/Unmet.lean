-- What a recompute never meets. Called on a node that is there, it finds every
-- node that it looks for; and a producer that it has run has an output.
import Patchbay.Proofs.FullRecompute

namespace Patchbay

open Patchbay.Language Patchbay.Action

namespace Graph

variable {depth : Nat} {g g' top : Graph} {id n : NodeId} {α β : Type}

/-! ## Unknown nodes -/

/-- From a graph with the nodes and edges of `top`, `x` leads to graphs with these nodes and
edges. What it fails for is a cycle, and it names one of the nodes; so it does not fail for
want of a node. -/
structure Finds (top : Graph) (x : Recompute α) : Prop where
  wiring : ∀ g a g', SameWiring top g → x g = .done a g' → SameWiring top g'
  fails : ∀ g e g', SameWiring top g → x g = .failed e g' → ∃ n ∈ top.nodeIds, e = .cycle n

namespace Finds

theorem known {x : Recompute α} (hx : Finds top x) (g : Graph) (n : NodeId) (g' : Graph)
    (hg : SameWiring top g) : x g ≠ .failed (.unknownNode n) g' := by
  intro h
  obtain ⟨m, -, hm⟩ := hx.fails g _ g' hg h
  cases hm

theorem pure (a : α) : Finds top (pure a : Recompute α) := by
  constructor
  · intro g a' g' hg h
    cases h
    exact hg
  · intro g e g' _ h
    cases h

theorem cycle (hid : id ∈ top.nodeIds) : Finds top (Action.fail (.cycle id) : Recompute α) := by
  constructor
  · intro g a g' _ h
    cases h
  · intro g e g' _ h
    cases h
    exact ⟨id, hid, rfl⟩

theorem exhausted : Finds top (Action.exhausted : Recompute α) := by
  constructor
  · intro g a g' _ h
    cases h
  · intro g e g' _ h
    cases h

theorem bind {x : Recompute α} {f : α → Recompute β} (hx : Finds top x)
    (hf : ∀ a, Finds top (f a)) : Finds top (x >>= f) := by
  constructor
  · intro g b g' hg h
    obtain ⟨a, g₁, hxg, hfg⟩ := Action.bind_eq_done.mp h
    exact (hf a).wiring g₁ b g' (hx.wiring g a g₁ hg hxg) hfg
  · intro g e g' hg h
    rcases Action.bind_eq_failed.mp h with hxg | ⟨a, g₁, hxg, hfg⟩
    · exact hx.fails g e g' hg hxg
    · exact (hf a).fails g₁ e g' (hx.wiring g a g₁ hg hxg) hfg

/-- What goes on with something that the graph tells. -/
theorem read {r : Graph → α} {f : α → Recompute β}
    (hf : ∀ g, SameWiring top g → Finds top (f (r g))) : Finds top (Action.read r >>= f) := by
  constructor
  · intro g b g' hg h
    exact (hf g hg).wiring g b g' hg h
  · intro g e g' hg h
    exact (hf g hg).fails g e g' hg h

theorem forEach {f : NodeId → Recompute Unit} {xs : List NodeId}
    (h : ∀ x ∈ xs, Finds top (f x)) : Finds top (Action.forEach f xs) := by
  induction xs with
  | nil => exact pure ()
  | cons x xs ih =>
    refine bind (h x List.mem_cons_self) fun _ => ih ?_
    intro y hy
    exact h y (List.mem_cons_of_mem _ hy)

theorem find (hid : id ∈ top.nodeIds) : Finds top (Graph.find id) := by
  have hfound : ∀ g, SameWiring top g → ∃ node, Graph.find id g = .done node g := by
    intro g hg
    obtain ⟨node, hn⟩ := exists_node_of_mem (show id ∈ g.nodeIds by rwa [hg.nodeIds])
    exact ⟨node, Journal.find_of_some hn⟩
  constructor
  · intro g a g' hg h
    obtain ⟨node, hnode⟩ := hfound g hg
    rw [hnode] at h
    cases h
    exact hg
  · intro g e g' hg h
    obtain ⟨node, hnode⟩ := hfound g hg
    rw [hnode] at h
    cases h

end Finds

/-- Of all that a recompute of a node that is there may be blamed on, cycles are left. -/
theorem Blames.exists_cycle {e : GraphError} (h : g.Blames [] id e) (hg : g.WellFormed)
    (hid : id ∈ g.nodeIds) : ∃ n ∈ g.nodeIds, e = .cycle n := by
  cases e with
  | cycle n =>
    simp only [Blames, List.not_mem_nil, false_and, false_or] at h
    obtain ⟨c, hc, -⟩ := h.exists_consumer
    exact ⟨n, hg.producer_mem hc, rfl⟩
  | unknownNode n => exact absurd h (not_blames_unknown hg hid n)
  | invalidEdge => exact False.elim h
  | indexOutOfRange => exact False.elim h
  | unreadable => exact False.elim h

theorem recomputeWithInputs_finds (hid : id ∈ top.nodeIds) :
    Finds top (recomputeWithInputs depth id) := by
  constructor
  · intro g _ g' hg h
    rw [← Journal.erase_recomputeWithInputs] at h
    have hsteps := (recomputeWithInputs_makes depth id g.edges).steps_of_done hg.wellFormed rfl
      (Prod.ext rfl h)
    exact hsteps.sameWiring hg
  · intro g e g' hg h
    have hres := recomputeWithInputs_resolves depth id hg.wellFormed
    rw [← Journal.erase_recomputeWithInputs] at h
    have hfail : Journal.recomputeWithInputs depth id g =
        ((Journal.recomputeWithInputs depth id g).1, .failed e g') := Prod.ext rfl h
    rw [hfail] at hres
    rw [← hg.nodeIds] at hid ⊢
    exact Blames.exists_cycle hres.1 hg.wellFormed hid

theorem propagate_finds (depth limit : Nat) (path : List NodeId) (hid : id ∈ top.nodeIds) :
    Finds top (propagate depth limit path id) := by
  induction limit generalizing path id with
  | zero => exact Finds.exhausted
  | succ limit ih =>
    unfold propagate
    split
    · exact Finds.cycle hid
    · refine Finds.bind (recomputeWithInputs_finds hid) fun _ => Finds.read fun g hg => ?_
      refine Finds.forEach fun c hc => ih (id :: path) ?_
      rw [← hg.nodeIds]
      exact hg.wellFormed.consumer_mem (mem_consumersOf.mp hc)

theorem recomputeDownstream_finds (depth : Nat) (hid : id ∈ top.nodeIds) :
    Finds top (recomputeDownstream depth id) :=
  Finds.read fun _ _ => propagate_finds depth _ [] hid

theorem recomputeUnset_finds (depth : Nat) {xs : List NodeId} (hxs : ∀ x ∈ xs, x ∈ top.nodeIds) :
    Finds top (recomputeUnset depth xs) := by
  refine Finds.forEach fun x hx => Finds.bind (Finds.find (hxs x hx)) fun node => ?_
  split
  · exact recomputeWithInputs_finds (hxs x hx)
  · exact Finds.pure ()

theorem recomputeAll_fails {e : GraphError} (hg : g.WellFormed)
    (h : recomputeAll depth g = .failed e g') : ∃ n ∈ g.nodeIds, e = .cycle n := by
  have hids := nodeIds_clearOutputs g
  have hcleared : SameWiring g g.clearOutputs := ⟨hg.clearOutputs, rfl, hids⟩
  have hfinds : Finds g (recomputeUnset depth g.clearOutputs.nodeIds) := by
    rw [hids]
    exact recomputeUnset_finds depth fun x hx => hx
  exact hfinds.fails g.clearOutputs e g' hcleared h

theorem recomputeAll_ne_unknown (depth : Nat) (hg : g.WellFormed) :
    recomputeAll depth g ≠ .failed (.unknownNode n) g' := by
  intro h
  obtain ⟨m, -, hm⟩ := recomputeAll_fails hg h
  cases hm

/-! ## Producers without output -/

/-- Runs a producer that has no output yet. -/
def ready (resolve : NodeId → Recompute Unit) (id : NodeId) : Recompute Unit := do
  if (← find id).output.isNone then resolve id

/-- As `collect`, with `unset` in the place of what is done about a producer that has no
output although it was run. -/
def collectOr (unset : Recompute (Option (List Value))) (resolve : NodeId → Recompute Unit) :
    List NodeId → Recompute (Option (List Value))
  | [] => pure (some [])
  | id :: ids => do
    ready resolve id
    match (← find id).output with
    | some (.value v) =>
      match ← collectOr unset resolve ids with
      | some vs => pure (some (v :: vs))
      | none => pure none
    | some (.fault _) => pure none
    | none => unset

/-- As `resolve`, with `unset` in the place of what is done about a producer that has no
output although it was run. -/
def resolveOr (unset : Recompute (Option (List Value))) (depth : Nat) :
    Nat → List NodeId → NodeId → Recompute Unit
  | 0, _, _ => Action.exhausted
  | limit + 1, resolving, id => do
    if resolving.contains id then Action.fail (.cycle id)
    else
      let node ← find id
      Action.change fun g => { g with store := g.store.clear node.scope }
      let producers ← Action.read fun g : Graph => g.inputsOf id
      match ← collectOr unset (resolveOr unset depth limit (id :: resolving)) producers with
      | none => putOutput id (.fault .input)
      | some values =>
        Action.change fun g => { g with store := bindInputs node.scope 0 values g.store }
        run depth id

variable {r : NodeId → Recompute Unit} {ids : List NodeId}

theorem collect_cons (r : NodeId → Recompute Unit) (id : NodeId) (ids : List NodeId) :
    collect r (id :: ids) = ready r id >>= fun _ => find id >>= fun node =>
      match node.output with
      | some (.value v) => collect r ids >>= fun found =>
        match found with
        | some vs => pure (some (v :: vs))
        | none => pure none
      | _ => pure none := by
  rw [collect]
  unfold ready
  rw [bind_assoc]
  congr 1
  funext node
  dsimp only
  split <;> rfl

/-- No node comes or goes. -/
def SameNodes (g g' : Graph) : Prop := g'.nodeIds = g.nodeIds

theorem SameNodes.chains : Chains SameNodes := ⟨fun _ => rfl, fun h k => k.trans h⟩

theorem find_keeps (id : NodeId) : Keeps SameNodes (find id) :=
  Keeps.bind SameNodes.chains (Keeps.read SameNodes.chains _) fun _ =>
    Keeps.ofOption SameNodes.chains _ _

theorem modifyNode_keeps (id : NodeId) {f : Node → Node} (hf : ∀ n, (f n).id = n.id) :
    Keeps SameNodes (Action.change fun g => g.modifyNode id f : Recompute Unit) :=
  Keeps.change fun _ => map_nodes_modifyNode hf

theorem run_keeps (depth : Nat) (id : NodeId) : Keeps SameNodes (run depth id) := by
  have hc := SameNodes.chains
  unfold run
  refine Keeps.bind hc (find_keeps id) fun node => ?_
  split
  · exact modifyNode_keeps id fun _ => rfl
  · refine Keeps.bind hc (modifyNode_keeps id fun _ => rfl) fun _ =>
      Keeps.bind hc (Keeps.read hc _) fun store => ?_
    split
    · exact Keeps.bind hc (Keeps.change fun _ => rfl) fun _ => modifyNode_keeps id fun _ => rfl
    · exact Keeps.bind hc (Keeps.change fun _ => rfl) fun _ => modifyNode_keeps id fun _ => rfl
    · exact Keeps.exhausted

theorem collect_keeps (hr : ∀ p, Keeps SameNodes (r p)) (ids : List NodeId) :
    Keeps SameNodes (collect r ids) := by
  have hc := SameNodes.chains
  induction ids with
  | nil => exact Keeps.pure hc _
  | cons id ids ih =>
    rw [collect_cons]
    refine Keeps.bind hc (Keeps.bind hc (find_keeps id) fun node => ?_) fun _ =>
      Keeps.bind hc (find_keeps id) fun node => ?_
    · split
      · exact hr id
      · exact Keeps.pure hc _
    · split
      · refine Keeps.bind hc ih fun found => ?_
        split
        · exact Keeps.pure hc _
        · exact Keeps.pure hc _
      · exact Keeps.pure hc _

theorem resolve_keeps (depth limit : Nat) (resolving : List NodeId) (id : NodeId) :
    Keeps SameNodes (resolve depth limit resolving id) := by
  have hc := SameNodes.chains
  induction limit generalizing resolving id with
  | zero => exact Keeps.exhausted
  | succ limit ih =>
    unfold resolve
    split
    · exact Keeps.fail hc _
    · refine Keeps.bind hc (find_keeps id) fun node => Keeps.bind hc (Keeps.change fun _ => rfl)
        fun _ => Keeps.bind hc (Keeps.read hc _) fun producers =>
        Keeps.bind hc (collect_keeps (ih (id :: resolving)) producers) fun found => ?_
      split
      · exact modifyNode_keeps id fun _ => rfl
      · exact Keeps.bind hc (Keeps.change fun _ => rfl) fun _ => run_keeps depth id

theorem find_eq_done {node : Node} (h : find id g = .done node g') :
    g.node? id = some node ∧ g' = g := by
  rcases hn : g.node? id with _ | found
  · rw [Journal.find_of_none hn] at h
    cases h
  · rw [Journal.find_of_some hn] at h
    cases h
    exact ⟨rfl, rfl⟩

theorem exists_node_of_sameNodes {node : Node} (h : SameNodes g g')
    (hn : g.node? id = some node) : ∃ node', g'.node? id = some node' := by
  apply exists_node_of_mem
  rw [h]
  exact mem_nodeIds_of_node? hn

theorem run_sets {node : Node} (hn : g.node? id = some node)
    (h : run depth id g = .done () g') : (g'.output? id).isSome := by
  rw [run_eq hn] at h
  rcases hres : (g.evaluation depth id).result? with _ | ⟨out, st⟩
  · rw [hres] at h
    cases h
  · rw [hres] at h
    cases h
    rw [output?_finished hn]
    rfl

/-- A node that was run after its producers has an output. -/
theorem resolve_sets {limit : Nat} {resolving : List NodeId}
    (h : resolve depth limit resolving id g = .done () g') : (g'.output? id).isSome := by
  cases limit with
  | zero => cases h
  | succ limit =>
    unfold resolve at h
    split at h
    · cases h
    · obtain ⟨node, g₁, hfind, hrest⟩ := bind_eq_done.mp h
      obtain ⟨hn, rfl⟩ := find_eq_done hfind
      rw [change_bind, read_bind] at hrest
      obtain ⟨found, g₂, hcollect, hlast⟩ := bind_eq_done.mp hrest
      have hsame : SameNodes (g₁.emptied node) g₂ :=
        collect_keeps (resolve_keeps depth limit (id :: resolving)) _ (g₁.emptied node) g₂
          (congrArg Outcome.state? hcollect)
      have hn₁ : (g₁.emptied node).node? id = some node := hn
      obtain ⟨node₂, hn₂⟩ := exists_node_of_sameNodes hsame hn₁
      cases found with
      | none =>
        cases hlast
        change ((g₂.refusing id).output? id).isSome
        rw [output?_refusing hn₂]
        rfl
      | some values =>
        have hbound : (g₂.bound node values).node? id = some node₂ := hn₂
        exact run_sets hbound hlast

theorem ready_sets (hr : ∀ g g', r id g = .done () g' → (g'.output? id).isSome)
    (h : ready r id g = .done () g') : ∃ node, g'.node? id = some node ∧ node.output.isSome := by
  have hsome : (g'.output? id).isSome := by
    obtain ⟨node, g₁, hfind, hrest⟩ := bind_eq_done.mp h
    obtain ⟨hn, rfl⟩ := find_eq_done hfind
    split at hrest
    case isTrue => exact hr g₁ g' hrest
    case isFalse hset =>
      cases hrest
      rw [output?_of_node? hn]
      exact Option.isSome_iff_ne_none.mpr fun hnone => hset (Option.isNone_iff_eq_none.mpr hnone)
  obtain ⟨out, hout⟩ := Option.isSome_iff_exists.mp hsome
  obtain ⟨node, hn, ho⟩ := node_of_output? hout
  exact ⟨node, hn, by rw [ho]; rfl⟩

theorem collectOr_eq (unset : Recompute (Option (List Value)))
    (hr : ∀ id g g', r id g = .done () g' → (g'.output? id).isSome) (ids : List NodeId) :
    collectOr unset r ids = collect r ids := by
  induction ids with
  | nil => rfl
  | cons id ids ih =>
    rw [collect_cons, collectOr, ih]
    funext g
    rcases hready : ready r id g with ⟨u, g₁⟩ | ⟨e, g₁⟩ | _
    · rw [bind_of_done hready, bind_of_done hready]
      obtain ⟨node, hn, ho⟩ := ready_sets (hr id) hready
      rw [bind_of_done (Journal.find_of_some hn), bind_of_done (Journal.find_of_some hn)]
      rcases hout : node.output with _ | ⟨v | f⟩
      · rw [hout] at ho
        cases ho
      · rfl
      · rfl
    · rw [bind_of_failed hready, bind_of_failed hready]
    · rw [bind_of_exhausted hready, bind_of_exhausted hready]

/-- Whatever is done about a producer that has no output after it was run, a recompute does
the same: there is no such producer. -/
theorem resolveOr_eq (unset : Recompute (Option (List Value))) (depth limit : Nat)
    (resolving : List NodeId) (id : NodeId) :
    resolveOr unset depth limit resolving id = resolve depth limit resolving id := by
  induction limit generalizing resolving id with
  | zero => rfl
  | succ limit ih =>
    have hinner : resolveOr unset depth limit (id :: resolving) =
        resolve depth limit (id :: resolving) := funext fun p => ih (id :: resolving) p
    have hcollect : collectOr unset (resolveOr unset depth limit (id :: resolving)) =
        collect (resolve depth limit (id :: resolving)) := by
      rw [hinner]
      exact funext (collectOr_eq unset fun p g g' h => resolve_sets h)
    unfold resolveOr
    rw [hcollect]
    rfl

end Graph

end Patchbay
