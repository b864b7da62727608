-- What an evaluation binds. In its own scope it binds the names of the lets of
-- the expression, outside the bodies of functions; a name that was there keeps
-- its place. In all other scopes, and in every scope on a call, it binds nothing.
import Patchbay.Proofs.EvaluationFrame

namespace Patchbay.Language

open Patchbay.Action

/-! ## The lets of an expression -/

mutual

/-- The names that the lets of an expression bind. The body of a function is
evaluated in another scope, so its lets do not count. -/
def Expr.letNames : Expr → List String
  | .number _ | .text _ | .ident _ | .field .. | .lambda .. => []
  | .bind name value next => value.letNames ++ name :: next.letNames
  | .record fields => Expr.letNamesOfFields fields
  | .list items => Expr.letNamesOfItems items
  | .cond test yes no => test.letNames ++ yes.letNames ++ no.letNames
  | .apply callee args => callee.letNames ++ Expr.letNamesOfItems args
  | .pipe seed stages => seed.letNames ++ Expr.letNamesOfItems stages
  | .binary _ left right => left.letNames ++ right.letNames

def Expr.letNamesOfFields : List (String × Expr) → List String
  | [] => []
  | (_, e) :: rest => e.letNames ++ Expr.letNamesOfFields rest

def Expr.letNamesOfItems : List Expr → List String
  | [] => []
  | e :: rest => e.letNames ++ Expr.letNamesOfItems rest

end

theorem Expr.mem_letNamesOfFields {name : String} {entry : String × Expr}
    {fields : List (String × Expr)} (hmem : entry ∈ fields) (h : name ∈ entry.2.letNames) :
    name ∈ letNamesOfFields fields := by
  induction fields with
  | nil => cases hmem
  | cons first rest ih =>
    rw [letNamesOfFields, List.mem_append]
    rcases List.mem_cons.mp hmem with rfl | hmem
    · exact Or.inl h
    · exact Or.inr (ih hmem)

theorem Expr.mem_letNamesOfItems {name : String} {e : Expr} {items : List Expr}
    (hmem : e ∈ items) (h : name ∈ e.letNames) : name ∈ letNamesOfItems items := by
  induction items with
  | nil => cases hmem
  | cons first rest ih =>
    rw [letNamesOfItems, List.mem_append]
    rcases List.mem_cons.mp hmem with rfl | hmem
    · exact Or.inl h
    · exact Or.inr (ih hmem)

/-! ## Binding some names in one scope -/

/-- From `st` to `st'`, of the scopes that were there at most `s` is bound anew. The names
that it bound keep their places, and only names in `N` are new or have another value. -/
structure Store.Binds (N : String → Prop) (s : ScopeId) (st st' : Store) : Prop where
  within : Store.Within (· = s) st st'
  names : s < st.size → (st.bindings s).names <+: (st'.bindings s).names
  same : s < st.size → ∀ name, ¬N name →
    (st'.bindings s).get? name = (st.bindings s).get? name

namespace Store.Binds

variable {N M : String → Prop} {s : ScopeId} {a b c : Store}

theorem trans (h : Binds N s a b) (k : Binds N s b c) : Binds N s a c := by
  refine ⟨h.within.trans k.within, ?_, ?_⟩
  · intro hs
    exact (h.names hs).trans (k.names (Nat.lt_of_lt_of_le hs h.within.size_le))
  · intro hs name hn
    rw [k.same (Nat.lt_of_lt_of_le hs h.within.size_le) name hn, h.same hs name hn]

theorem mono (h : Binds N s a b) (hnm : ∀ name, N name → M name) : Binds M s a b :=
  ⟨h.within, h.names, fun hs name hm => h.same hs name fun hn => hm (hnm name hn)⟩

/-- Where nothing that was there is bound anew, no name of any scope is. -/
theorem of_within (N : String → Prop) (s : ScopeId) (h : Store.Within (fun _ => False) a b) :
    Binds N s a b := by
  have hsame : s < a.size → b.bindings s = a.bindings s := fun hs => h.bindings hs id
  refine ⟨h.mono fun _ _ => False.elim, ?_, ?_⟩
  · intro hs
    exact hsame hs ▸ List.prefix_refl _
  · intro hs name _
    rw [hsame hs]

theorem chains (N : String → Prop) (s : ScopeId) : Chains (Binds N s) :=
  ⟨fun st => of_within N s (Store.Within.refl _ st), trans⟩

theorem define (st : Store) (s : ScopeId) {name : String} (value : Value) (hn : N name) :
    Binds N s st (st.define s name value) := by
  refine ⟨Store.Within.define st s name value, ?_, ?_⟩
  · intro hs
    rw [Store.bindings_define_self st name value hs, Fields.names_set]
    split
    · exact List.prefix_refl _
    · exact List.prefix_append _ _
  · intro hs other ho
    have hne : ¬name = other := fun h => ho (h ▸ hn)
    rw [Store.bindings_define_self st name value hs, Fields.get?_set, if_neg hne]

end Store.Binds

/-! ## Evaluation -/

/-- At one depth, an evaluation binds the names of the lets of the expression. -/
def BindsAt (depth : Nat) : Prop :=
  ∀ s e, Keeps (Store.Binds (· ∈ e.letNames) s) (evaluate depth s e)

namespace BindsAt

variable {depth : Nat} (h : BindsAt depth) {N : String → Prop} {s : ScopeId}
include h

/-- A part of an expression, as a part of its evaluation. -/
theorem part {e : Expr} (hsub : ∀ name ∈ e.letNames, N name) :
    Keeps (Store.Binds N s) (Language.evaluate depth s e) :=
  (h s e).mono fun _ _ hb => hb.mono hsub

omit h in
theorem call (f arg : Value) : Keeps (Store.Binds N s) (Language.apply depth s f arg) :=
  ((withinAt depth).apply s f arg).mono fun _ _ hw => Store.Binds.of_within N s hw

omit h in
theorem lookup (name : String) : Keeps (Store.Binds N s) (Eval.lookup s name) :=
  (Eval.within_lookup _ s name).mono fun _ _ hw => Store.Binds.of_within N s hw

/-- Evaluation one level deeper. -/
theorem succ : BindsAt (depth + 1) := by
  intro s e
  have hc := Store.Binds.chains (· ∈ e.letNames) s
  cases e with
  | number x => exact Keeps.pure hc _
  | text t => exact Keeps.pure hc _
  | ident name => exact lookup name
  | field base fields =>
    exact Keeps.bind hc (lookup base) fun v =>
      Keeps.foldList hc (fun v name => v.keeps_field hc name) fields v
  | bind name value next =>
    have hvalue : ∀ other ∈ value.letNames, other ∈ (Expr.bind name value next).letNames :=
      fun other ho => List.mem_append_left _ ho
    have hnext : ∀ other ∈ next.letNames, other ∈ (Expr.bind name value next).letNames :=
      fun other ho => List.mem_append_right _ (List.mem_cons_of_mem _ ho)
    have hname : name ∈ (Expr.bind name value next).letNames :=
      List.mem_append_right _ List.mem_cons_self
    refine Keeps.bind hc (h.part hvalue) fun v => Keeps.bind hc ?_ fun _ => h.part hnext
    exact Keeps.change fun st => Store.Binds.define st s v hname
  | lambda param body => exact Keeps.pure hc _
  | record fields =>
    have hfield : ∀ entry ∈ fields, ∀ name ∈ entry.2.letNames,
        name ∈ (Expr.record fields).letNames :=
      fun entry hmem name => Expr.mem_letNamesOfFields hmem
    refine Keeps.bind hc (Keeps.mapList_of_mem hc fun entry hmem => ?_) fun vs => Keeps.pure hc _
    exact Keeps.bind hc (h.part (hfield entry hmem)) fun v => Keeps.pure hc _
  | list items =>
    have hitem : ∀ e ∈ items, ∀ name ∈ e.letNames, name ∈ (Expr.list items).letNames :=
      fun e hmem name => Expr.mem_letNamesOfItems hmem
    exact Keeps.bind hc (Keeps.mapList_of_mem hc fun e hmem => h.part (hitem e hmem)) fun vs =>
      Keeps.pure hc _
  | cond test yes no =>
    have hsub : ∀ e ∈ [test, yes, no], ∀ name ∈ e.letNames,
        name ∈ (Expr.cond test yes no).letNames := by
      intro e hmem name hn
      simp only [List.mem_cons, List.not_mem_nil, or_false] at hmem
      simp only [Expr.letNames, List.mem_append]
      rcases hmem with rfl | rfl | rfl <;> simp [hn]
    refine Keeps.bind hc (h.part (hsub test (by simp))) fun v => ?_
    split
    · split
      · exact h.part (hsub yes (by simp))
      · exact h.part (hsub no (by simp))
    · exact Keeps.fail hc _
  | apply callee args =>
    have harg : ∀ e ∈ args, ∀ name ∈ e.letNames, name ∈ (Expr.apply callee args).letNames :=
      fun e hmem name hn => List.mem_append_right _ (Expr.mem_letNamesOfItems hmem hn)
    refine Keeps.bind hc (h.part fun name hn => List.mem_append_left _ hn) fun f =>
      Keeps.foldList_of_mem hc (fun f arg hmem => ?_) f
    split
    · exact Keeps.bind hc (h.part (harg arg hmem)) fun v => call f v
    · exact Keeps.fail hc _
  | pipe seed stages =>
    have hstage : ∀ e ∈ stages, ∀ name ∈ e.letNames, name ∈ (Expr.pipe seed stages).letNames :=
      fun e hmem name hn => List.mem_append_right _ (Expr.mem_letNamesOfItems hmem hn)
    refine Keeps.bind hc (h.part fun name hn => List.mem_append_left _ hn) fun v =>
      Keeps.foldList_of_mem hc (fun v stage hmem => ?_) v
    exact Keeps.bind hc (h.part (hstage stage hmem)) fun f => call f v
  | binary op left right =>
    exact Keeps.bind hc (h.part fun name hn => List.mem_append_left _ hn) fun a =>
      Keeps.bind hc (h.part fun name hn => List.mem_append_right _ hn) fun b =>
        op.keeps_apply hc a b

end BindsAt

theorem bindsAt (depth : Nat) : BindsAt depth := by
  induction depth with
  | zero => exact fun s e => Keeps.exhausted
  | succ depth ih => exact ih.succ

/-- However it ends, an evaluation in `s` leaves every other scope that was there as it
was. The names of `s` stay in front in their order, and a name of `s` that is new or has
another value is the name of a let of the expression. A call leaves every scope that
was there as it was, the calling one as well. -/
theorem evaluation_binds_its_own_lets (depth : Nat) (st : Store) (s : ScopeId)
    (hs : s < st.size) :
    (∀ e st', (evaluate depth s e st).state? = some st' →
      (∀ t, t < st.size → t ≠ s → st'.scopes[t]? = st.scopes[t]?) ∧
      (st.bindings s).names <+: (st'.bindings s).names ∧
      ∀ name, (st'.bindings s).get? name ≠ (st.bindings s).get? name → name ∈ e.letNames) ∧
    ∀ f arg st', (apply depth s f arg st).state? = some st' →
      ∀ t, t < st.size → st'.scopes[t]? = st.scopes[t]? := by
  constructor
  · intro e st' h
    have hb := bindsAt depth s e st st' h
    refine ⟨hb.within.same, hb.names hs, ?_⟩
    intro name hne
    exact Decidable.byContradiction fun hmem => hne (hb.same hs name hmem)
  · intro f arg st' h t ht
    exact ((withinAt depth).apply s f arg st st' h).same t ht id

/-- Two scopes, the second inside the first, and both bind a name. -/
def twoScopes : Store :=
  let (outer, st) := Store.empty.root
  let (inner, st) := (st.define outer "x" (.text "outer")).child outer
  st.define inner "y" (.text "inner")

/-- `let x = (\p: let z = p; z) y; let y = x; y` -/
def rebinding : Expr :=
  .bind "x" (.apply (.lambda "p" (.bind "z" (.ident "p") (.ident "z"))) [.ident "y"])
    (.bind "y" (.ident "x") (.ident "y"))

theorem rebinding_binds_its_own_lets :
    (∃ st', (evaluate 9 1 rebinding twoScopes).state? = some st' ∧
      st'.scopes[0]? = twoScopes.scopes[0]? ∧
      (twoScopes.bindings 1).names <+: (st'.bindings 1).names ∧
      ∀ name, (st'.bindings 1).get? name ≠ (twoScopes.bindings 1).get? name →
        name ∈ ["x", "y"]) ∧
    ∃ st', (apply 9 1 (.closure "y" (.ident "y") 0) (.text "argument") twoScopes).state? =
        some st' ∧ st'.scopes[1]? = twoScopes.scopes[1]? := by
  have hlaw := evaluation_binds_its_own_lets 9 twoScopes 1 (by decide)
  obtain ⟨st', h⟩ := Option.isSome_iff_exists.mp
    (show (evaluate 9 1 rebinding twoScopes).state?.isSome = true by decide)
  obtain ⟨st'', h'⟩ := Option.isSome_iff_exists.mp
    (show (apply 9 1 (.closure "y" (.ident "y") 0) (.text "argument") twoScopes).state?.isSome =
      true by decide)
  obtain ⟨hother, hnames, hlets⟩ := hlaw.1 rebinding st' h
  exact ⟨⟨st', h, hother 0 (by decide) (by decide), hnames, hlets⟩,
    st'', h', hlaw.2 _ _ st'' h' 1 (by decide)⟩

end Patchbay.Language
