-- What a source finds in its scope when its evaluation starts: the values of
-- all producers in edge order, each under a name of its own, and nothing else.
-- This is so for every evaluation that a recompute starts, however it ends.
import Patchbay.Proofs.FullRecompute
import Patchbay.Proofs.LexerSteps

namespace Patchbay

open Patchbay.Language

/-! ## Names of one letter -/

/-- The name is a small letter, which is a name of the language. -/
def IsLetter (name : String) : Prop :=
  ∃ c : Char, c.isLower = true ∧ name = c.toString ∧ tokenize name = .ok [.ident name]

theorem tokenize_letter {c : Char} (hc : c.isLower = true) :
    tokenize c.toString = .ok [.ident c.toString] := by
  have htext : c.toString.toList = [c] := by simp
  have hne : ∀ word : String, word.toList.length ≠ 1 → c.toString ≠ word := by
    rintro _ hlength rfl
    exact hlength (congrArg List.length htext)
  have hfree : Symbol.ofWord? c.toString = none := by
    unfold Symbol.ofWord?
    rw [if_neg (hne "let" (by decide)), if_neg (hne "if" (by decide)),
      if_neg (hne "then" (by decide)), if_neg (hne "else" (by decide))]
  have hname : IsName c.toString := ⟨⟨c, [], htext, hc, List.forall_mem_nil _⟩, hfree⟩
  have hspells := Spells.name hname Ends.nil.endsWord Spells.nil
  rw [List.append_nil] at hspells
  exact spells_iff.mp hspells

theorem inputName_isLetter {index : Nat} (h : index < 26) : IsLetter (inputName index) := by
  have hall : ∀ k < 26, inputName k = (Char.ofNat (97 + k)).toString ∧
      (Char.ofNat (97 + k)).isLower = true := by decide
  obtain ⟨hname, hlower⟩ := hall index h
  exact ⟨_, hlower, hname, hname ▸ tokenize_letter hlower⟩

/-! ## Bindings -/

theorem names_inputBindings (vs : List Value) :
    (inputBindings vs).names = (List.range vs.length).map inputName := by
  unfold Fields.names inputBindings
  exact List.ext_getElem (by simp) (by simp)

theorem inputBindings_nodup (vs : List Value) : (inputBindings vs).names.Nodup := by
  rw [names_inputBindings]
  exact List.nodup_range.map fun i j h => inputName_injective h

theorem get?_inputBindings {vs : List Value} {k : Nat} {v : Value} (h : vs[k]? = some v) :
    (inputBindings vs).get? (inputName k) = some v := by
  have hmem : (inputName k, v) ∈ inputBindings vs := by
    refine List.mem_of_getElem? (i := k) ?_
    simp [inputBindings, h]
  exact Fields.get?_of_mem (inputBindings_nodup vs) hmem

theorem Store.lookup?_of_bindings {st : Store} {s : ScopeId} {name : String} {v : Value}
    (h : (st.bindings s).get? name = some v) : st.lookup? s name = some v := by
  simp [Store.lookup?, h]

namespace Graph

variable {depth limit : Nat} {g g' : Graph} {id n : NodeId} {node : Node} {waiting : List NodeId}
  {α β : Type}

/-- The scope of the node binds the values of all its producers, in edge order and each under a
name of its own, and nothing else. -/
structure HoldsInputs (g : Graph) (node : Node) (vs : List Value) : Prop where
  values : List.Forall₂ (fun p v => g.output? p = some (.value v)) (g.inputsOf node.id) vs
  bindings : g.store.bindings node.scope = vs.mapIdx fun k v => (inputName k, v)
  nodup : (Fields.names (g.store.bindings node.scope)).Nodup
  lookup : ∀ k v, vs[k]? = some v → g.store.lookup? node.scope (inputName k) = some v

/-- Where the scope was empty and all producers have values, binding them comes to that. -/
theorem bound_holdsInputs {vs : List Value} (hlt : node.scope < g.store.size)
    (hempty : g.store.bindings node.scope = []) (ha : g.Answers (g.inputsOf node.id) (some vs)) :
    (g.bound node vs).HoldsInputs node vs := by
  have hbindings : (g.bound node vs).store.bindings node.scope = inputBindings vs :=
    bindings_bindInputs vs hlt hempty
  refine ⟨ha, hbindings, hbindings ▸ inputBindings_nodup vs, fun k v hk => ?_⟩
  exact Store.lookup?_of_bindings (hbindings ▸ get?_inputBindings hk)

/-! ## Where evaluations start -/

/-- An evaluation starts with the inputs of its node. -/
def Event.StartsBound : Event → Prop
  | .ran id start => ∃ node vs, start.node? id = some node ∧ start.HoldsInputs node vs
  | _ => True

/-- However `x` ends, each evaluation that it starts has its inputs bound. -/
def StartsBound (x : Journal α) : Prop :=
  ∀ g, g.WellFormed → (∀ ev ∈ (x g).1, ev.StartsBound) ∧
    ∀ a g', (x g).2 = .done a g' → g'.WellFormed

namespace StartsBound

theorem quiet {x : Recompute α}
    (h : ∀ g a g', g.WellFormed → x g = .done a g' → g'.WellFormed) :
    StartsBound (Journal.quiet x) :=
  fun g hg => ⟨List.forall_mem_nil _, fun a g' => h g a g' hg⟩

theorem read (f : Graph → α) : StartsBound (Journal.quiet (Action.read f)) :=
  quiet fun g a g' hg h => by
    cases h
    exact hg

theorem pure (a : α) : StartsBound (pure a : Journal α) :=
  fun g hg => ⟨List.forall_mem_nil _, fun b g' h => by
    cases h
    exact hg⟩

theorem fail (e : GraphError) : StartsBound (Journal.quiet (Action.fail e) : Journal α) :=
  quiet fun g a g' _ h => by cases h

theorem exhausted : StartsBound (Journal.quiet Action.exhausted : Journal α) :=
  quiet fun g a g' _ h => by cases h

theorem find (id : NodeId) : StartsBound (Journal.quiet (Graph.find id)) := by
  refine quiet fun g a g' hg h => ?_
  rcases hn : g.node? id with _ | node
  · rw [Journal.find_of_none hn] at h
    cases h
  · rw [Journal.find_of_some hn] at h
    cases h
    exact hg

theorem bind {x : Journal α} {f : α → Journal β} (hx : StartsBound x)
    (hf : ∀ a, StartsBound (f a)) : StartsBound (x >>= f) := by
  intro g hg
  obtain ⟨hlog, hdone⟩ := hx g hg
  rcases hr : x g with ⟨log, ⟨a, g₁⟩ | ⟨e, g₁⟩ | _⟩
  · rw [hr] at hlog hdone
    obtain ⟨hlog', hdone'⟩ := hf a g₁ (hdone a g₁ rfl)
    rw [Journal.bind_of_done hr]
    exact ⟨List.forall_mem_append.mpr ⟨hlog, hlog'⟩, hdone'⟩
  · rw [hr] at hlog
    rw [Journal.bind_of_failed hr]
    exact ⟨hlog, fun b g' h => by cases h⟩
  · rw [hr] at hlog
    rw [Journal.bind_of_exhausted hr]
    exact ⟨hlog, fun b g' h => by cases h⟩

theorem forEach {f : NodeId → Journal Unit} (h : ∀ id, StartsBound (f id)) (ids : List NodeId) :
    StartsBound (Journal.forEach f ids) := by
  induction ids with
  | nil => exact pure ()
  | cons id ids ih => exact bind (h id) fun _ => ih

theorem prepend (id : NodeId) {rest : Journal (Option (List Value))} (h : StartsBound rest) :
    StartsBound (Journal.prepend id rest) := by
  refine bind (find id) fun node => ?_
  split
  · refine bind h fun found => ?_
    cases found <;> exact pure _
  · exact pure none

theorem collect {r : NodeId → Journal Unit} (h : ∀ id, StartsBound (r id)) (ids : List NodeId) :
    StartsBound (Journal.collect r ids) := by
  induction ids with
  | nil => exact pure _
  | cons id ids ih =>
    refine bind (find id) fun node => ?_
    split
    · exact bind (h id) fun _ => prepend id ih
    · exact prepend id ih

end StartsBound

/-! ## Recomputing -/

theorem settle_startsBound (hn : g.node? id = some node) (hg : g.WellFormed)
    (hempty : g.store.bindings node.scope = []) {found : Option (List Value)}
    (ha : g.Answers (g.inputsOf id) found) :
    ∀ ev ∈ (Journal.settle depth node id found g).1, ev.StartsBound := by
  have hid := id_of_node? hn
  subst hid
  cases found with
  | none =>
    intro ev hev
    obtain rfl := List.mem_singleton.mp hev
    trivial
  | some vs =>
    intro ev hev
    obtain rfl := List.mem_singleton.mp hev
    exact ⟨node, vs, hn, bound_holdsInputs (hg.scope_lt hn) hempty ha⟩

theorem resolve_startsBound (depth limit : Nat) (waiting : List NodeId) (id : NodeId) :
    StartsBound (Journal.resolve depth limit waiting id) := by
  induction limit generalizing waiting id with
  | zero => exact StartsBound.exhausted
  | succ limit ih =>
    intro g hg
    refine ⟨?_, fun a g' hdone => ?_⟩
    · by_cases hw : id ∈ waiting
      · rw [Journal.resolve_of_mem hw]
        exact List.forall_mem_nil _
      · rcases hn : g.node? id with _ | node
        · rw [Journal.resolve_of_unknown hw hn]
          exact List.forall_mem_nil _
        · rw [Journal.resolve_of_node hw hn]
          have hg₀ : (g.emptied node).WellFormed := (frame_emptied hn).wellFormed hg
          have hc := collect_collects
            (fun p _ hg => resolve_resolves depth limit (id :: waiting) p hg) (g.inputsOf id) hg₀
          obtain ⟨hlog, -⟩ := StartsBound.collect (ih (id :: waiting)) (g.inputsOf id) _ hg₀
          -- The scope is emptied first; the rest happens in the graph that this leaves.
          change ∀ ev ∈ .opened id ::
            ((Journal.collect (Journal.resolve depth limit (id :: waiting)) (g.inputsOf id) >>=
              Journal.settle depth node id) (g.emptied node)).1, ev.StartsBound
          refine List.forall_mem_cons.mpr ⟨trivial, ?_⟩
          rcases hr : Journal.collect (Journal.resolve depth limit (id :: waiting))
            (g.inputsOf id) (g.emptied node) with ⟨log, ⟨found, g₁⟩ | ⟨e, g₁⟩ | _⟩
          · rw [hr] at hc hlog
            rw [Journal.bind_of_done hr]
            have hturn : Turn depth waiting id g log g₁ := ⟨hw, node, hn, hc.1⟩
            have hn₁ : g₁.node? id = some node := by rw [hturn.node?_eq, hn]
            have ha : g₁.Answers (g.inputsOf id) found := hc.2
            rw [← inputsOf_congr hturn.frame.edges] at ha
            exact List.forall_mem_append.mpr ⟨hlog, settle_startsBound hn₁
              (hturn.frame.wellFormed hg) (hturn.scope_empty hg hn) ha⟩
          · rw [hr] at hlog
            rw [Journal.bind_of_failed hr]
            exact hlog
          · rw [hr] at hlog
            rw [Journal.bind_of_exhausted hr]
            exact hlog
    · have hres := resolve_resolves depth (limit + 1) waiting id hg
      rw [show Journal.resolve depth (limit + 1) waiting id g = (_, .done a g') from
        Prod.ext rfl hdone] at hres
      obtain ⟨inner, g₁, ev, -, hturn, hstep, -⟩ := hres
      exact hstep.frame.wellFormed (hturn.frame.wellFormed hg)

theorem recomputeWithInputs_startsBound (depth : Nat) (id : NodeId) :
    StartsBound (Journal.recomputeWithInputs depth id) :=
  .bind (.read _) fun limit => resolve_startsBound depth limit [] id

theorem propagate_startsBound (depth limit : Nat) (path : List NodeId) (id : NodeId) :
    StartsBound (Journal.propagate depth limit path id) := by
  induction limit generalizing path id with
  | zero => exact .exhausted
  | succ limit ih =>
    unfold Journal.propagate
    split
    · exact .fail _
    · refine .bind (recomputeWithInputs_startsBound depth id) fun _ => ?_
      exact .bind (.read _) fun consumers => .forEach (ih (id :: path)) consumers

theorem recomputeDownstream_startsBound (depth : Nat) (id : NodeId) :
    StartsBound (Journal.recomputeDownstream depth id) :=
  .bind (.read _) fun limit => propagate_startsBound depth limit [] id

theorem recomputeIfUnset_startsBound (depth : Nat) (id : NodeId) :
    StartsBound (Journal.recomputeIfUnset depth id) := by
  refine .bind (.find id) fun node => ?_
  split
  · exact recomputeWithInputs_startsBound depth id
  · exact .pure ()

theorem recomputeAll_startsBound (depth : Nat) : StartsBound (Journal.recomputeAll depth) := by
  refine .bind (.quiet ?_) fun _ => .bind (.read _) fun ids =>
    .forEach (recomputeIfUnset_startsBound depth) ids
  intro g a g' hg h
  cases h
  exact hg.clearOutputs

/-- No two indices have one name, and the first ones are named by small letters, which the lexer
reads as names. So an empty scope that gets any number of inputs binds each under a name of its
own, in their order, and when a recompute starts to evaluate the source of a node, the scope of the
node binds the value of each producer like that, in edge order, and binds nothing else. -/
theorem inputs_have_names_of_their_own :
    (∀ i j, i < 2 ^ 53 → j < 2 ^ 53 → i ≠ j → inputName i ≠ inputName j) ∧
      (∀ i < 26, IsLetter (inputName i)) ∧
      (∀ (s : ScopeId) (vs : List Value) (st : Store), s < st.size → st.bindings s = [] →
        (bindInputs s 0 vs st).bindings s = vs.mapIdx fun k v => (inputName k, v)) ∧
      ∀ (depth : Nat) (g : Graph) (id : NodeId), g.WellFormed →
        ((Journal.recomputeWithInputs depth id g).2 = recomputeWithInputs depth id g ∧
          ∀ ev ∈ (Journal.recomputeWithInputs depth id g).1, ev.StartsBound) ∧
        ((Journal.recomputeDownstream depth id g).2 = recomputeDownstream depth id g ∧
          ∀ ev ∈ (Journal.recomputeDownstream depth id g).1, ev.StartsBound) ∧
        (Journal.recomputeAll depth g).2 = recomputeAll depth g ∧
          ∀ ev ∈ (Journal.recomputeAll depth g).1, ev.StartsBound := by
  refine ⟨fun i j _ _ hne heq => hne (inputName_injective heq), fun i => inputName_isLetter,
    fun s vs st => bindings_bindInputs vs, fun depth g id hg => ⟨⟨?_, ?_⟩, ⟨?_, ?_⟩, ?_, ?_⟩⟩
  · exact congrFun (Journal.erase_recomputeWithInputs depth id) g
  · exact (recomputeWithInputs_startsBound depth id g hg).1
  · exact congrFun (Journal.erase_recomputeDownstream depth id) g
  · exact (recomputeDownstream_startsBound depth id g hg).1
  · exact congrFun (Journal.erase_recomputeAll depth) g
  · exact (recomputeAll_startsBound depth g hg).1

/-- Four sources are evaluated, that of node 2 with two inputs. -/
theorem sample_inputs_have_names :
    inputName 0 ≠ inputName 0xD7A0 ∧ IsLetter (inputName 25) ∧
      (bindInputs 0 0 [.number 7.0, .text "x"] ⟨#[⟨[], []⟩]⟩).bindings 0 =
        [("a", .number 7.0), ("b", .text "x")] ∧
      (Journal.recomputeAll 20 sample).1.filterMap Event.runs? = [0, 1, 2, 3] ∧
      ∀ ev ∈ (Journal.recomputeAll 20 sample).1, ev.StartsBound := by
  obtain ⟨hnames, hletters, hbinds, hstarts⟩ := inputs_have_names_of_their_own
  exact ⟨hnames 0 0xD7A0 (by decide) (by decide) (by decide), hletters 25 (by decide),
    hbinds 0 _ _ (by decide) rfl, by decide +kernel,
    (hstarts 20 sample 2 sample_wellFormed).2.2.2⟩

end Graph

end Patchbay
