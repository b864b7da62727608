-- Two graphs in which every node is grounded, and whose nodes correspond: the
-- same sources, and corresponding inputs in the same order. Then corresponding
-- nodes show the same text. From the producers to the consumers, the scopes
-- that evaluations made on one side pair up with those on the other side, so
-- the next evaluation starts in stores that are alike.
import Patchbay.Proofs.Anchored
import Patchbay.Proofs.EvaluationLikeness

namespace Patchbay

open Patchbay.Language

/-! ## Outputs -/

/-- The same fault, or values that are alike. -/
inductive OutputLike (R : Pairing) : Output → Output → Prop
  | value {v w : Value} (h : Value.Like R v w) : OutputLike R (.value v) (.value w)
  | fault (f : Fault) : OutputLike R (.fault f) (.fault f)

/-- What is seen of an output: the text of a value, or the message of a fault, whatever the words
of others in it. -/
def Output.shown : Output → Wording → Except String String
  | .value v, _ => .ok v.display
  | .fault f, w => .error (f.message w)

theorem OutputLike.shown {R : Pairing} {out out' : Output} (h : OutputLike R out out') :
    out.shown = out'.shown := by
  cases h with
  | value h => exact funext fun _ => congrArg Except.ok h.display
  | fault f => rfl

/-- Evaluations that end alike give outputs that are alike. -/
theorem EndsAlike.result {R : Pairing} {st st' t t' : Store}
    {o o' : Outcome SourceError Store Value} {out out' : Output}
    (h : EndsAlike R Value.Like st st' o o') (ho : o.result? = some (out, t))
    (ho' : o'.result? = some (out', t')) :
    ∃ k, t.size = st.size + k ∧ t'.size = st'.size + k ∧
      StoreLike (R.grown st.size st'.size k) t t' ∧
      OutputLike (R.grown st.size st'.size k) out out' := by
  cases h with
  | done k hsize hsize' hst hab =>
    cases ho
    cases ho'
    exact ⟨k, hsize, hsize', hst, .value hab⟩
  | failed cause k hsize hsize' hst =>
    cases ho
    cases ho'
    exact ⟨k, hsize, hsize', hst, .fault _⟩
  | exhausted => cases ho

namespace Graph

variable {depth : Nat} {g : Graph} {m n p : NodeId}

/-- The root scope binds nothing but built-in functions that hold no arguments yet. -/
def RootHoldsBuiltins (g : Graph) : Prop :=
  ∀ entry ∈ g.store.bindings g.root, ∃ b, entry.2 = .builtin b []

instance (v : Value) : Decidable (∃ b, v = .builtin b []) :=
  match v with
  | .builtin b [] => isTrue ⟨b, rfl⟩
  | .builtin _ (_ :: _) => isFalse (by simp)
  | .number _ | .text _ | .list _ | .record _ | .closure .. => isFalse (by simp)

instance (g : Graph) : Decidable g.RootHoldsBuiltins :=
  inferInstanceAs (Decidable (∀ entry ∈ g.store.bindings g.root, _))

theorem fieldsLike_builtins {R : Pairing} {fields : Fields Value}
    (h : ∀ entry ∈ fields, ∃ b, entry.2 = .builtin b []) : FieldsLike R fields fields := by
  induction fields with
  | nil => exact .nil
  | cons entry fields ih =>
    obtain ⟨name, v⟩ := entry
    obtain ⟨b, hb⟩ := h (name, v) List.mem_cons_self
    dsimp only at hb
    subst hb
    exact .cons name (.builtin b .nil) (ih fun entry he => h entry (List.mem_cons_of_mem _ he))

theorem fieldsLike_mapIdx {R : Pairing} {vs ws : List Value} (h : ItemsLike R vs ws)
    (name : Nat → String) :
    FieldsLike R (vs.mapIdx fun k v => (name k, v)) (ws.mapIdx fun k v => (name k, v)) := by
  induction vs generalizing ws name with
  | nil =>
    cases h
    exact .nil
  | cons v vs ih =>
    cases h with
    | cons h hrest =>
      rw [List.mapIdx_cons, List.mapIdx_cons]
      exact .cons (name 0) h (ih hrest fun k => name (k + 1))

/-! ## Corresponding graphs -/

/-- Two graphs, each with a journal that led to it. Each node on the left has a partner on
the right with the same source, and the inputs of the partner are the partners of its inputs. -/
structure Twins (depth : Nat) where
  log : List Event
  left : Graph
  log' : List Event
  right : Graph
  partner : NodeId → NodeId
  tracked : Tracked depth log left
  tracked' : Tracked depth log' right
  outputs : ∀ n ∈ left.nodeIds, (left.output? n).isSome
  outputs' : ∀ n ∈ right.nodeIds, (right.output? n).isSome
  injective : ∀ m ∈ left.nodeIds, ∀ n ∈ left.nodeIds, partner m = partner n → m = n
  source : ∀ n node, left.node? n = some node →
    ∃ other, right.node? (partner n) = some other ∧ other.source = node.source
  inputs : ∀ n ∈ left.nodeIds, right.inputsOf (partner n) = (left.inputsOf n).map partner
  builtins : left.RootHoldsBuiltins
  root : right.store.bindings right.root = left.store.bindings left.root

namespace Twins

variable (T : Twins depth)

theorem feeds_partner (h : T.left.Feeds m n) : T.right.Feeds (T.partner m) (T.partner n) := by
  have hmem := T.tracked.wellFormed.consumer_mem h
  apply mem_inputsOf.mp
  rw [T.inputs n hmem]
  exact List.mem_map_of_mem (mem_inputsOf.mpr h)

/-- A producer of a partner is the partner of a producer. -/
theorem producer_of_partner (hn : n ∈ T.left.nodeIds) (h : T.right.Feeds p (T.partner n)) :
    ∃ q, T.left.Feeds q n ∧ T.partner q = p := by
  have hmem := mem_inputsOf.mpr h
  rw [T.inputs n hn] at hmem
  obtain ⟨q, hq, rfl⟩ := List.mem_map.mp hmem
  exact ⟨q, mem_inputsOf.mp hq, rfl⟩

theorem precedes_partner (h : T.left.Precedes m n) :
    T.right.Precedes (T.partner m) (T.partner n) :=
  Relation.TransGen.lift T.partner (fun _ _ hf => T.feeds_partner hf) _ _ h

theorem leads_partner (h : T.left.Leads m n) : T.right.Leads (T.partner m) (T.partner n) :=
  Relation.ReflTransGen.lift T.partner (fun _ _ hf => T.feeds_partner hf) _ _ h

/-! ### Pairs of scopes -/

/-- The scopes that the latest evaluations of a node and its partner wrote, in pairs: the
scopes of the two nodes, and the new scopes in their order. -/
def Pairs (m : NodeId) (a b : Nat) : Prop :=
  ∃ start out st node start' out' st' other,
    Evaluated depth T.log m start out st ∧ T.left.node? m = some node ∧
    Evaluated depth T.log' (T.partner m) start' out' st' ∧
    T.right.node? (T.partner m) = some other ∧
    ((a = node.scope ∧ b = other.scope) ∨
      ∃ i, a = start.store.size + i ∧ b = start'.store.size + i ∧ a < st.size ∧ b < st'.size)

/-- The root scopes, and the scopes of the nodes `ids`. -/
def Paired (ids : NodeId → Prop) (a b : Nat) : Prop :=
  (a = T.left.root ∧ b = T.right.root) ∨ ∃ m, ids m ∧ T.Pairs m a b

variable {T}

theorem Paired.mono {ids ids' : NodeId → Prop} (h : ∀ m, ids m → ids' m) :
    Pairing.Le (T.Paired ids) (T.Paired ids') := by
  rintro a b (hroot | ⟨m, hm, hpair⟩)
  · exact Or.inl hroot
  · exact Or.inr ⟨m, h m hm, hpair⟩

theorem Pairs.owns {a b : Nat} (h : T.Pairs m a b) :
    Owns depth T.log T.left m a ∧ Owns depth T.log' T.right (T.partner m) b := by
  obtain ⟨start, out, st, node, start', out', st', other, hev, hn, hev', ho, hab⟩ := h
  refine ⟨⟨start, out, st, node, hev, hn, ?_⟩, ⟨start', out', st', other, hev', ho, ?_⟩⟩
  · rcases hab with ⟨rfl, -⟩ | ⟨i, rfl, -, hlt, -⟩
    · exact Or.inl rfl
    · exact Or.inr ⟨Nat.le_add_right _ _, hlt⟩
  · rcases hab with ⟨-, rfl⟩ | ⟨i, -, rfl, -, hlt⟩
    · exact Or.inl rfl
    · exact Or.inr ⟨Nat.le_add_right _ _, hlt⟩

theorem Pairs.mem {a b : Nat} (h : T.Pairs m a b) : m ∈ T.left.nodeIds := by
  obtain ⟨start, out, st, node, start', out', st', other, hev, hn, -⟩ := h
  exact mem_nodeIds_of_node? hn

end Twins

/-- Of pairs of one block each, below which one more pair lies, each side tells the other. -/
theorem pair_iff (s s' base base' : Nat) {a b c d : Nat} (hs : s < base) (hs' : s' < base')
    (hab : (a = s ∧ b = s') ∨ ∃ i, a = base + i ∧ b = base' + i)
    (hcd : (c = s ∧ d = s') ∨ ∃ i, c = base + i ∧ d = base' + i) : a = c ↔ b = d := by
  rcases hab with ⟨rfl, rfl⟩ | ⟨i, rfl, rfl⟩ <;>
    rcases hcd with ⟨rfl, rfl⟩ | ⟨j, rfl, rfl⟩ <;> omega

namespace Twins

variable {T : Twins depth}

/-- The two sides of a pair that a node has determine each other. -/
theorem Pairs.iff_eq {a b c d : Nat} (h : T.Pairs m a b) (k : T.Pairs m c d) : a = c ↔ b = d := by
  obtain ⟨start, out, st, node, start', out', st', other, hev, hn, hev', ho, hab⟩ := h
  obtain ⟨start₁, out₁, st₁, node₁, start₁', out₁', st₁', other₁, hev₁, hn₁, hev₁', ho₁, hcd⟩ := k
  obtain ⟨rfl, rfl, rfl⟩ := hev.unique hev₁
  obtain ⟨rfl, rfl, rfl⟩ := hev'.unique hev₁'
  obtain rfl : node = node₁ := Option.some.inj (hn.symm.trans hn₁)
  obtain rfl : other = other₁ := Option.some.inj (ho.symm.trans ho₁)
  refine pair_iff node.scope other.scope start₁.store.size start₁'.store.size ?_ ?_ ?_ ?_
  · exact T.tracked.fits.scopes_lt m start₁ hev.mem _
      (List.mem_cons_of_mem _ (WellFormed.scope_mem hn))
  · exact T.tracked'.fits.scopes_lt _ start₁' hev'.mem _
      (List.mem_cons_of_mem _ (WellFormed.scope_mem ho))
  · exact hab.imp_right fun ⟨i, ha, hb, _⟩ => ⟨i, ha, hb⟩
  · exact hcd.imp_right fun ⟨i, hc, hd, _⟩ => ⟨i, hc, hd⟩

theorem paired_right_unique {ids : NodeId → Prop} {a b c : Nat} (h : T.Paired ids a b)
    (k : T.Paired ids a c) : b = c := by
  rcases h with ⟨rfl, rfl⟩ | ⟨m, -, hm⟩ <;> rcases k with ⟨hroot, rfl⟩ | ⟨n, -, hn⟩
  · rfl
  · exact absurd rfl (T.tracked.owns_ne_root hn.owns.1)
  · exact absurd hroot (T.tracked.owns_ne_root hm.owns.1)
  · obtain rfl := T.tracked.owner_unique hm.owns.1 hn.owns.1
    exact (hm.iff_eq hn).mp rfl

theorem paired_left_unique {ids : NodeId → Prop} {a b c : Nat} (h : T.Paired ids a c)
    (k : T.Paired ids b c) : a = b := by
  rcases h with ⟨rfl, rfl⟩ | ⟨m, -, hm⟩ <;> rcases k with ⟨rfl, hroot⟩ | ⟨n, -, hn⟩
  · rfl
  · exact absurd rfl (T.tracked'.owns_ne_root hn.owns.2)
  · exact absurd hroot (T.tracked'.owns_ne_root hm.owns.2)
  · have hpartner := T.tracked'.owner_unique hm.owns.2 hn.owns.2
    obtain rfl := T.injective m hm.mem n hn.mem hpartner
    exact (hm.iff_eq hn).mpr rfl

/-! ### Agreement passes on along the edges -/

variable (T) in
/-- The pairs that the evaluation of `n` and those of the nodes before it have. -/
abbrev Cone (n : NodeId) : Pairing := T.Paired fun m => T.left.Leads m n

variable (T) in
abbrev Before (n : NodeId) : Pairing := T.Paired fun m => T.left.Precedes m n

variable (T) in
/-- A node and its partner have outputs that are alike, and where they were evaluated the
pairs of scopes that are theirs or come before bind what is alike. -/
structure Agrees (n : NodeId) : Prop where
  outputs : ∃ out out', T.left.output? n = some out ∧
    T.right.output? (T.partner n) = some out' ∧ OutputLike (T.Cone n) out out'
  bindings : ∀ {start out st a b}, Evaluated depth T.log n start out st → T.Cone n a b →
    FieldsLike (T.Cone n) (T.left.store.bindings a) (T.right.store.bindings b)
  outward : ∀ {start out st a b}, Evaluated depth T.log n start out st → T.Cone n a b →
    List.Forall₂ (T.Cone n) (T.left.store.outward a) (T.right.store.outward b)

theorem before_le_cone (T : Twins depth) (n : NodeId) : Pairing.Le (T.Before n) (T.Cone n) :=
  Paired.mono fun _ h => h.leads

/-- What comes before a consumer is what its producers have. -/
theorem cone_le_before (T : Twins depth) (hp : T.left.Feeds p n) :
    Pairing.Le (T.Cone p) (T.Before n) :=
  Paired.mono fun _ h => h.trans_feeds hp

/-- The values of the inputs are alike. -/
theorem inputs_like {ps : List NodeId} {vs ws : List Value} {R : Pairing}
    (hps : ∀ p ∈ ps, Pairing.Le (T.Cone p) R ∧ T.Agrees p)
    (hvs : List.Forall₂ (fun p v => T.left.output? p = some (.value v)) ps vs)
    (hws : List.Forall₂ (fun p v => T.right.output? p = some (.value v)) (ps.map T.partner) ws) :
    ItemsLike R vs ws := by
  induction hvs generalizing ws with
  | nil =>
    cases hws
    exact .nil
  | @cons p v ps vs hv _ ih =>
    cases hws with
    | cons hw hrest =>
      refine .cons ?_ (ih (fun q hq => hps q (List.mem_cons_of_mem _ hq)) hrest)
      obtain ⟨hle, hagrees⟩ := hps p List.mem_cons_self
      obtain ⟨out, out', ho, ho', hlike⟩ := hagrees.outputs
      rw [hv] at ho
      rw [hw] at ho'
      cases ho
      cases ho'
      cases hlike with
      | value h => exact h.mono hle

section Step

variable {start start' : Graph} {out out' : Output} {st st' : Store} {node other : Node}
  {vs ws : List Value}

/-- The pair of scopes in which a node and its partner are evaluated, with all pairs before. -/
def Ready (T : Twins depth) (n : NodeId) (node other : Node) : Pairing :=
  fun a b => T.Before n a b ∨ (a = node.scope ∧ b = other.scope)

theorem ready_le_cone (hev : Evaluated depth T.log n start out st)
    (hev' : Evaluated depth T.log' (T.partner n) start' out' st') (hn : T.left.node? n = some node)
    (ho : T.right.node? (T.partner n) = some other) :
    Pairing.Le (T.Ready n node other) (T.Cone n) := by
  rintro a b (hbefore | hscope)
  · exact T.before_le_cone n a b hbefore
  · exact Or.inr ⟨n, Leads.refl _ n, start, out, st, node, start', out', st', other, hev, hn, hev',
      ho, Or.inl hscope⟩

/-- What is paired before was there, and as it is now, when the two evaluations began. -/
theorem before_same (hev : Evaluated depth T.log n start out st)
    (hev' : Evaluated depth T.log' (T.partner n) start' out' st') (hn : T.left.node? n = some node)
    (ho : T.right.node? (T.partner n) = some other) {a b : Nat} (hab : T.Before n a b) :
    (a < start.store.size ∧ T.left.store.scopes[a]? = start.store.scopes[a]?) ∧
      b < start'.store.size ∧ T.right.store.scopes[b]? = start'.store.scopes[b]? := by
  have hmem := mem_nodeIds_of_node? hn
  have hmem' := mem_nodeIds_of_node? ho
  have hanchored := (T.tracked.grounded n (T.outputs n hmem)).2
  have hanchored' := (T.tracked'.grounded _ (T.outputs' _ hmem')).2
  constructor
  · apply T.tracked.same_before hanchored hev hn
    rcases hab with ⟨ha, -⟩ | ⟨m, hm, hpair⟩
    · exact Or.inl ha
    · exact Or.inr ⟨m, hm, hpair.owns.1⟩
  · apply T.tracked'.same_before hanchored' hev' ho
    rcases hab with ⟨-, hb⟩ | ⟨m, hm, hpair⟩
    · exact Or.inl hb
    · exact Or.inr ⟨T.partner m, T.precedes_partner hm, hpair.owns.2⟩

/-- What a node and its partner have in pairs is as the two evaluations left it. -/
theorem after_same (hev : Evaluated depth T.log n start out st)
    (hev' : Evaluated depth T.log' (T.partner n) start' out' st') (hn : T.left.node? n = some node)
    (ho : T.right.node? (T.partner n) = some other)
    (hw : Store.Within (· = node.scope) start.store st)
    (hw' : Store.Within (· = other.scope) start'.store st') {a b : Nat} (hab : T.Cone n a b) :
    T.left.store.scopes[a]? = st.scopes[a]? ∧ T.right.store.scopes[b]? = st'.scopes[b]? := by
  have hmem := mem_nodeIds_of_node? hn
  have hmem' := mem_nodeIds_of_node? ho
  have hanchored := (T.tracked.grounded n (T.outputs n hmem)).2
  have hanchored' := (T.tracked'.grounded _ (T.outputs' _ hmem')).2
  constructor
  · apply T.tracked.same_after hanchored hev hn hw
    rcases hab with ⟨ha, -⟩ | ⟨m, hm, hpair⟩
    · exact Or.inl ha
    · exact Or.inr ⟨m, hm, hpair.owns.1⟩
  · apply T.tracked'.same_after hanchored' hev' ho hw'
    rcases hab with ⟨-, hb⟩ | ⟨m, hm, hpair⟩
    · exact Or.inl hb
    · exact Or.inr ⟨T.partner m, T.leads_partner hm, hpair.owns.2⟩

/-- What is paired before a node binds what is alike, if its producers agree and have values. -/
theorem before_like (hps : ∀ p, T.left.Feeds p n → T.Agrees p)
    (hevs : ∀ p, T.left.Feeds p n → ∃ start out st, Evaluated depth T.log p start out st)
    {a b : Nat} (hab : T.Before n a b) :
    FieldsLike (T.Before n) (T.left.store.bindings a) (T.right.store.bindings b) ∧
      List.Forall₂ (T.Before n) (T.left.store.outward a) (T.right.store.outward b) := by
  rcases hab with ⟨rfl, rfl⟩ | ⟨m, hm, hpair⟩
  · rw [T.root, T.tracked.wellFormed.root_outward, T.tracked'.wellFormed.root_outward]
    exact ⟨fieldsLike_builtins T.builtins, .nil⟩
  · obtain ⟨p, hmp, hp⟩ := Precedes.exists_producer hm
    obtain ⟨start, out, st, hev⟩ := hevs p hp
    have hcone : T.Cone p a b := Or.inr ⟨m, hmp, hpair⟩
    have hle := T.cone_le_before hp
    exact ⟨((hps p hp).bindings hev hcone).mono hle, ((hps p hp).outward hev hcone).imp hle⟩

/-- The two evaluations began in stores that are alike. -/
theorem start_like (hps : ∀ p, T.left.Feeds p n → T.Agrees p)
    (hevs : ∀ p, T.left.Feeds p n → ∃ start out st, Evaluated depth T.log p start out st)
    (hev : Evaluated depth T.log n start out st)
    (hev' : Evaluated depth T.log' (T.partner n) start' out' st') (hn : T.left.node? n = some node)
    (ho : T.right.node? (T.partner n) = some other) (hvs : T.left.inputValues? n = some vs)
    (hws : T.right.inputValues? (T.partner n) = some ws)
    (hb : start.store.bindings node.scope = inputBindings vs)
    (hb' : start'.store.bindings other.scope = inputBindings ws) :
    StoreLike (T.Ready n node other) start.store start'.store := by
  have hcone := ready_le_cone hev hev' hn ho
  have hle : Pairing.Le (T.Before n) (T.Ready n node other) := fun _ _ h => Or.inl h
  have hlt : node.scope < start.store.size := T.tracked.fits.scopes_lt n start hev.mem _
    (List.mem_cons_of_mem _ (WellFormed.scope_mem hn))
  have hlt' : other.scope < start'.store.size := T.tracked'.fits.scopes_lt _ start' hev'.mem _
    (List.mem_cons_of_mem _ (WellFormed.scope_mem ho))
  refine ⟨?_, ?_, ?_, ?_, ?_, ?_⟩
  · rintro a b (hab | ⟨rfl, rfl⟩)
    · exact (before_same hev hev' hn ho hab).1.1
    · exact hlt
  · rintro a b (hab | ⟨rfl, rfl⟩)
    · exact (before_same hev hev' hn ho hab).2.1
    · exact hlt'
  · exact fun hab hac => paired_right_unique (hcone _ _ hab) (hcone _ _ hac)
  · exact fun hac hbc => paired_left_unique (hcone _ _ hac) (hcone _ _ hbc)
  · rintro a b (hab | ⟨rfl, rfl⟩)
    · obtain ⟨⟨-, hsame⟩, -, hsame'⟩ := before_same hev hev' hn ho hab
      have hlike := (before_like hps hevs hab).1
      rw [Store.bindings_congr hsame, Store.bindings_congr hsame'] at hlike
      exact hlike.mono hle
    · rw [hb, hb']
      have hinputs := inputValues?_eq_some_iff.mp hws
      rw [T.inputs n (mem_nodeIds_of_node? hn)] at hinputs
      refine fieldsLike_mapIdx (inputs_like ?_ (inputValues?_eq_some_iff.mp hvs) hinputs) inputName
      intro p hp
      have hfeeds := mem_inputsOf.mp hp
      exact ⟨(T.cone_le_before hfeeds).trans hle, hps p hfeeds⟩
  · rintro a b (hab | ⟨rfl, rfl⟩)
    · obtain ⟨⟨-, hsame⟩, -, hsame'⟩ := before_same hev hev' hn ho hab
      have hlike := (before_like hps hevs hab).2
      rw [Store.outward_congr hsame, Store.outward_congr hsame'] at hlike
      exact hlike.imp hle
    · have hout := (T.tracked.fits.within n start hev.mem).outward _ hlt
      have hout' := (T.tracked'.fits.within _ start' hev'.mem).outward _ hlt'
      rw [← hout, ← hout', T.tracked.wellFormed.outward _ (WellFormed.scope_mem hn),
        T.tracked'.wellFormed.outward _ (WellFormed.scope_mem ho)]
      exact .cons (hle _ _ (Or.inl ⟨rfl, rfl⟩)) .nil

/-- With the new scopes of both evaluations in pairs, all pairs of the node are there. -/
theorem cone_eq_grown {k : Nat} (hev : Evaluated depth T.log n start out st)
    (hev' : Evaluated depth T.log' (T.partner n) start' out' st') (hn : T.left.node? n = some node)
    (ho : T.right.node? (T.partner n) = some other) (hsize : st.size = start.store.size + k)
    (hsize' : st'.size = start'.store.size + k) :
    (T.Ready n node other).grown start.store.size start'.store.size k = T.Cone n := by
  funext a b
  apply propext
  constructor
  · rintro (hab | ⟨i, hi, rfl, rfl⟩)
    · exact ready_le_cone hev hev' hn ho a b hab
    · refine Or.inr ⟨n, Leads.refl _ n, start, out, st, node, start', out', st', other, hev, hn,
        hev', ho, Or.inr ⟨i, rfl, rfl, ?_, ?_⟩⟩ <;> omega
  · rintro (hroot | ⟨m, hm, hpair⟩)
    · exact Or.inl (Or.inl (Or.inl hroot))
    · rcases Leads.eq_or_precedes hm with rfl | hprec
      · obtain ⟨start₁, out₁, st₁, node₁, start₁', out₁', st₁', other₁, hev₁, hn₁, hev₁', ho₁,
          hab⟩ := hpair
        obtain ⟨rfl, rfl, rfl⟩ := hev.unique hev₁
        obtain ⟨rfl, rfl, rfl⟩ := hev'.unique hev₁'
        obtain rfl : node = node₁ := Option.some.inj (hn.symm.trans hn₁)
        obtain rfl : other = other₁ := Option.some.inj (ho.symm.trans ho₁)
        rcases hab with hscope | ⟨i, rfl, rfl, hlt, -⟩
        · exact Or.inl (Or.inr hscope)
        · exact Or.inr ⟨i, by omega, rfl, rfl⟩
      · exact Or.inl (Or.inl (Or.inr ⟨m, hprec, hpair⟩))

/-- A node and its partner that were both evaluated agree, if the producers do. -/
theorem agrees_of_evaluated (hps : ∀ p, T.left.Feeds p n → T.Agrees p)
    (hex : Explained depth T.left n (.ran n start))
    (hex' : Explained depth T.right (T.partner n) (.ran (T.partner n) start'))
    (hlatest : latest? T.log n = some (.ran n start))
    (hlatest' : latest? T.log' (T.partner n) = some (.ran (T.partner n) start')) : T.Agrees n := by
  obtain ⟨node, vs, out, st, hn, hvs, -, hb, heq, hres, hout⟩ := hex
  obtain ⟨other, ws, out', st', ho, hws, -, hb', heq', hres', hout'⟩ := hex'
  have hev : Evaluated depth T.log n start out st := ⟨hlatest, hres⟩
  have hev' : Evaluated depth T.log' (T.partner n) start' out' st' := ⟨hlatest', hres'⟩
  have hsettled := T.tracked.grounded n (T.outputs n (mem_nodeIds_of_node? hn))
  have hevs : ∀ p, T.left.Feeds p n → ∃ start out st, Evaluated depth T.log p start out st := by
    intro p hp
    obtain ⟨v, hv⟩ := hsettled.1.producer_value hev hp
    have hmem := T.tracked.wellFormed.producer_mem hp
    obtain ⟨start, st, hevp⟩ := (T.tracked.grounded p (T.outputs p hmem)).1.evaluated hv
    exact ⟨start, _, st, hevp⟩
  -- The same source is evaluated in stores that are alike.
  have hstart := start_like hps hevs hev hev' hn ho hvs hws hb hb'
  obtain ⟨other', ho', hsource⟩ := T.source n node hn
  obtain rfl : other = other' := Option.some.inj (ho.symm.trans ho')
  have hready : T.Ready n node other node.scope other.scope := Or.inr ⟨rfl, rfl⟩
  have hends := evaluateIn_alike depth hready node.source _ (Pairing.Le.refl _) _ _ hstart
  rw [heq] at hres
  rw [heq', hsource] at hres'
  obtain ⟨k, hsize, hsize', hstore, hlike⟩ := EndsAlike.result hends hres hres'
  rw [cone_eq_grown hev hev' hn ho hsize hsize'] at hstore hlike
  -- What the two evaluations left is still there.
  have hwithin := evaluateIn_within depth node.scope node.source start.store st
    (Outcome.state?_of_result? hres)
  have hwithin' := evaluateIn_within depth other.scope node.source start'.store st'
    (Outcome.state?_of_result? hres')
  refine ⟨⟨out, out', hout, hout', hlike⟩, ?_, ?_⟩
  · intro _ _ _ a b _ hab
    obtain ⟨hsame, hsame'⟩ := after_same hev hev' hn ho hwithin hwithin' hab
    rw [Store.bindings_congr hsame, Store.bindings_congr hsame']
    exact hstore.bindings hab
  · intro _ _ _ a b _ hab
    obtain ⟨hsame, hsame'⟩ := after_same hev hev' hn ho hwithin hwithin' hab
    rw [Store.outward_congr hsame, Store.outward_congr hsame']
    exact hstore.outward hab

end Step

/-- Where the producers agree, one of them has a fault on both sides or on neither. -/
theorem fault_iff (hn : n ∈ T.left.nodeIds) (hps : ∀ p, T.left.Feeds p n → T.Agrees p) :
    (∃ p f, T.left.Feeds p n ∧ T.left.output? p = some (.fault f)) ↔
      ∃ p f, T.right.Feeds p (T.partner n) ∧ T.right.output? p = some (.fault f) := by
  constructor
  · rintro ⟨p, f, hp, hf⟩
    obtain ⟨out, out', hout, hout', hlike⟩ := (hps p hp).outputs
    rw [hf] at hout
    cases hout
    cases hlike
    exact ⟨T.partner p, f, T.feeds_partner hp, hout'⟩
  · rintro ⟨p', f, hp', hf⟩
    obtain ⟨p, hp, rfl⟩ := T.producer_of_partner hn hp'
    obtain ⟨out, out', hout, hout', hlike⟩ := (hps p hp).outputs
    rw [hf] at hout'
    cases hout'
    cases hlike
    exact ⟨p, f, hp, hout⟩

/-- A node and its partner that were both refused agree. -/
theorem agrees_of_refused (hout : T.left.output? n = some (.fault .input))
    (hout' : T.right.output? (T.partner n) = some (.fault .input))
    (hlatest : latest? T.log n = some (.refused n)) : T.Agrees n := by
  have hno : ∀ {start out st}, ¬Evaluated depth T.log n start out st := by
    intro start out st hev
    have hran := hev.latest
    simp [hlatest] at hran
  exact ⟨⟨_, _, hout, hout', .fault .input⟩, fun hev => absurd hev hno, fun hev => absurd hev hno⟩

/-- Corresponding nodes agree, from the producers on. -/
theorem agrees (T : Twins depth) (n : NodeId) (hn : n ∈ T.left.nodeIds) : T.Agrees n := by
  induction n using T.tracked.acyclic.induction with
  | step n ih =>
    have hps : ∀ p, T.left.Feeds p n → T.Agrees p :=
      fun p hp => ih p hp (T.tracked.wellFormed.producer_mem hp)
    have hfault := fault_iff hn hps
    obtain ⟨node, hnode⟩ := exists_node_of_mem hn
    obtain ⟨other, ho, -⟩ := T.source n node hnode
    obtain ⟨⟨ev, hlast, hex⟩, -⟩ := T.tracked.grounded n (T.outputs n hn)
    obtain ⟨⟨ev', hlast', hex'⟩, -⟩ :=
      T.tracked'.grounded _ (T.outputs' _ (mem_nodeIds_of_node? ho))
    have hset := settles?_of_latest? hlast
    have hset' := settles?_of_latest? hlast'
    cases ev with
    | opened => exact absurd hex id
    | refused k =>
      obtain rfl : k = n := Option.some.inj hset
      cases ev' with
      | opened => exact absurd hex' id
      | refused k' => exact agrees_of_refused hex.2 hex'.2 hlast
      | ran k' start' =>
        obtain rfl : k' = T.partner k := Option.some.inj hset'
        exact absurd (hfault.mp hex.1) hex'.faultless
    | ran k start =>
      obtain rfl : k = n := Option.some.inj hset
      cases ev' with
      | opened => exact absurd hex' id
      | refused k' => exact absurd (hfault.mpr hex'.1) hex.faultless
      | ran k' start' =>
        obtain rfl : k' = T.partner k := Option.some.inj hset'
        exact agrees_of_evaluated hps hex hex' hlast hlast'

/-- Corresponding nodes show the same text. -/
theorem shown_eq (T : Twins depth) (n : NodeId) (hn : n ∈ T.left.nodeIds) :
    (T.right.output? (T.partner n)).map Output.shown = (T.left.output? n).map Output.shown := by
  obtain ⟨out, out', hout, hout', hlike⟩ := (T.agrees n hn).outputs
  rw [hout, hout', Option.map_some, Option.map_some, hlike.shown]

end Twins

end Graph

end Patchbay
