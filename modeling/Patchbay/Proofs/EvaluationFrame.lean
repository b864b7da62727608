-- An evaluation writes its own scope and no other one that was there: a call
-- binds in a new scope, and nothing binds in a scope that a function keeps.
import Patchbay.Language.Eval
import Patchbay.Proofs.Actions
import Patchbay.Proofs.Scopes

namespace Patchbay.Language

open Patchbay.Action

theorem Store.Within.chains (W : ScopeId → Prop) : Chains (Store.Within W) :=
  ⟨Store.Within.refl W, Store.Within.trans⟩

/-! ## Steps on values -/

section Steps

variable {P : Store → Store → Prop} (h : Chains P)
include h

theorem Value.keeps_field (v : Value) (name : String) : Keeps P (v.field name) := by
  unfold Value.field
  split
  · exact Keeps.ofOption h _ _
  · exact Keeps.fail h _

theorem Value.keeps_operand (v : Value) (side : Side) (op : BinaryOp) :
    Keeps P (v.operand side op) := by
  unfold Value.operand
  split
  · exact Keeps.pure h _
  · exact Keeps.fail h _

theorem BinaryOp.keeps_apply (op : BinaryOp) (a b : Value) : Keeps P (op.apply a b) := by
  unfold BinaryOp.apply
  split
  · exact Keeps.pure h _
  · exact Keeps.pure h _
  · exact Keeps.bind h (Value.keeps_operand h _ _ _) fun x =>
      Keeps.bind h (Value.keeps_operand h _ _ _) fun y => Keeps.pure h _

namespace Builtin

theorem keeps_step (b : Builtin) (v : Value) : Keeps P (b.step v) := by
  unfold Builtin.step
  split
  · exact Keeps.pure h _
  · exact Keeps.fail h _

theorem keeps_accept (b : Builtin) (held : List Value) (arg : Value) :
    Keeps P (b.accept held arg) := by
  unfold Builtin.accept
  split
  · split
    · exact Keeps.pure h _
    · exact Keeps.fail h _
  · exact Keeps.pure h _

theorem keeps_scanOffset (v : Value) : Keeps P (scanOffset v) := by
  unfold scanOffset
  split
  · split
    · exact Keeps.pure h _
    · exact Keeps.fail h _
    · exact Keeps.fail h _
  · exact Keeps.fail h _

variable {apply : Value → Value → Eval Value} (ha : ∀ f v, Keeps P (apply f v))
include ha

theorem keeps_foldStep (f carried item : Value) : Keeps P (foldStep apply f carried item) :=
  Keeps.bind h (ha f carried) fun _ => Keeps.bind h (keeps_step h _ _) fun g => ha g item

theorem keeps_scanFrom (f : Value) (text : List Char) (limit : Nat) (offset : Float)
    (state : Value) : Keeps P (scanFrom apply f text limit offset state) := by
  induction limit generalizing offset state with
  | zero => exact Keeps.exhausted
  | succ limit ih =>
    unfold scanFrom
    split
    · refine Keeps.bind h (ha f state) fun _ => Keeps.bind h (keeps_step h _ _) fun g => ?_
      refine Keeps.bind h (Keeps.demand h _) fun rest => Keeps.bind h (ha g _) fun state' => ?_
      exact Keeps.bind h (keeps_scanOffset h _) fun offset' => ih offset' state'
    · exact Keeps.pure h _

/-- A built-in function does nothing to the store but what the functions do
that it calls. -/
theorem keeps_call (limit : Nat) (op : Builtin) (held : List Value) :
    Keeps P (op.call apply limit held) := by
  unfold Builtin.call
  split
  case h_4 => exact Keeps.bind h (Keeps.demand h _) fun front => Keeps.pure h _
  case h_5 => exact Keeps.bind h (Keeps.demand h _) fun back => Keeps.pure h _
  case h_6 =>
    split
    · exact Keeps.demand h _
    · exact Keeps.fail h _
  case h_7 =>
    exact Keeps.bind h (Keeps.mapList h (ha _) _) fun ys => Keeps.pure h _
  case h_8 =>
    refine Keeps.bind h (Keeps.filterList h (fun x => ?_) _) fun kept => Keeps.pure h _
    exact Keeps.bind h (ha _ x) fun verdict => Keeps.pure h _
  case h_9 => exact Keeps.foldList h (keeps_foldStep h ha _) _ _
  case h_12 => exact Keeps.bind h (Keeps.ofOption h _ _) fun p => Keeps.pure h _
  case h_16 => exact keeps_scanFrom h ha _ _ _ _ _
  all_goals first
    | exact Keeps.pure h _
    | exact Keeps.ofOption h _ _

end Builtin

end Steps

/-! ## Evaluation -/

namespace Eval

theorem within_lookup (W : ScopeId → Prop) (s : ScopeId) (name : String) :
    Keeps (Store.Within W) (lookup s name) :=
  Keeps.bind (Store.Within.chains W) (Keeps.read (Store.Within.chains W) _) fun _ =>
    Keeps.ofOption (Store.Within.chains W) _ _

theorem within_define (s : ScopeId) (name : String) (value : Value) :
    Keeps (Store.Within (· = s)) (define s name value) :=
  Keeps.change fun st => Store.Within.define st s name value

end Eval

/-- A call binds in a new scope, so all scopes that were there stay. -/
theorem within_frame {depth : Nat}
    (ih : ∀ s e, Keeps (Store.Within (· = s)) (evaluate depth s e)) (param : String)
    (body : Expr) (home : ScopeId) (arg : Value) :
    Keeps (Store.Within fun _ => False) (do
      let frame ← Eval.child home
      Eval.define frame param arg
      evaluate depth frame body) := by
  intro st st' hs
  have hbody := ih st.size body ((st.child home).2.define st.size param arg) st' hs
  have hbound := (Store.Within.define (st.child home).2 st.size param arg).trans hbody
  exact (Store.Within.child st home).trans_new hbound fun t ht => Nat.le_of_eq ht.symm

/-- At one depth, evaluation binds in its scope and in new scopes only, and calls in new
scopes only. -/
structure WithinAt (depth : Nat) : Prop where
  evaluate : ∀ s e, Keeps (Store.Within (· = s)) (evaluate depth s e)
  apply : ∀ caller f arg, Keeps (Store.Within fun _ => False) (apply depth caller f arg)

namespace WithinAt

variable {depth : Nat} (h : WithinAt depth)
include h

/-- A call from a scope, as a part of an evaluation in it. -/
theorem call (s : ScopeId) (f arg : Value) :
    Keeps (Store.Within (· = s)) (Language.apply depth s f arg) :=
  (h.apply s f arg).mono fun _ _ hw => hw.mono fun _ _ => False.elim

/-- Evaluation one level deeper. -/
theorem evaluate_succ (s : ScopeId) (e : Expr) :
    Keeps (Store.Within (· = s)) (Language.evaluate (depth + 1) s e) := by
  have hc := Store.Within.chains (· = s)
  cases e with
  | number x => exact Keeps.pure hc _
  | text t => exact Keeps.pure hc _
  | ident name => exact Eval.within_lookup _ s name
  | field base fields =>
    exact Keeps.bind hc (Eval.within_lookup _ s base) fun v =>
      Keeps.foldList hc (fun v name => v.keeps_field hc name) fields v
  | bind name value next =>
    exact Keeps.bind hc (h.evaluate s value) fun v =>
      Keeps.bind hc (Eval.within_define s name v) fun _ => h.evaluate s next
  | lambda param body => exact Keeps.pure hc _
  | record fields =>
    refine Keeps.bind hc (Keeps.mapList hc (fun entry => ?_) fields) fun vs => Keeps.pure hc _
    exact Keeps.bind hc (h.evaluate s entry.2) fun v => Keeps.pure hc _
  | list items =>
    exact Keeps.bind hc (Keeps.mapList hc (h.evaluate s) items) fun vs => Keeps.pure hc _
  | cond test yes no =>
    refine Keeps.bind hc (h.evaluate s test) fun v => ?_
    split
    · split
      · exact h.evaluate s yes
      · exact h.evaluate s no
    · exact Keeps.fail hc _
  | apply callee args =>
    refine Keeps.bind hc (h.evaluate s callee) fun f => Keeps.foldList hc (fun f arg => ?_) args f
    split
    · exact Keeps.bind hc (h.evaluate s arg) fun v => h.call s f v
    · exact Keeps.fail hc _
  | pipe seed stages =>
    refine Keeps.bind hc (h.evaluate s seed) fun v => Keeps.foldList hc (fun v stage => ?_) stages v
    exact Keeps.bind hc (h.evaluate s stage) fun f => h.call s f v
  | binary op left right =>
    exact Keeps.bind hc (h.evaluate s left) fun a =>
      Keeps.bind hc (h.evaluate s right) fun b => op.keeps_apply hc a b

/-- Calls one level deeper. -/
theorem apply_succ (caller : ScopeId) (f arg : Value) :
    Keeps (Store.Within fun _ => False) (Language.apply (depth + 1) caller f arg) := by
  have hc := Store.Within.chains fun _ => False
  cases f with
  | closure param body home => exact within_frame h.evaluate param body home arg
  | builtin op held =>
    exact Keeps.bind hc (op.keeps_accept hc held arg) fun args =>
      op.keeps_call hc (h.apply caller) depth args
  | _ => exact Keeps.fail hc _

end WithinAt

theorem withinAt (depth : Nat) : WithinAt depth := by
  induction depth with
  | zero => exact ⟨fun s e => Keeps.exhausted, fun caller f arg => Keeps.exhausted⟩
  | succ depth ih => exact ⟨ih.evaluate_succ, ih.apply_succ⟩

/-- Evaluation in `s` binds names in `s` and in new scopes only. -/
theorem evaluate_within (depth : Nat) (s : ScopeId) (e : Expr) :
    Keeps (Store.Within (· = s)) (evaluate depth s e) := (withinAt depth).evaluate s e

theorem evaluateIn_within (depth : Nat) (s : ScopeId) (source : String) :
    Keeps (Store.Within (· = s)) (evaluateIn depth s source) := by
  intro st st' hs
  unfold evaluateIn at hs
  cases hp : parseSource source with
  | error e =>
    rw [hp] at hs
    cases hs
    exact Store.Within.refl _ _
  | ok e =>
    have he := evaluate_within depth s e st
    simp only [hp] at hs
    cases hr : evaluate depth s e st with
    | done v t =>
      rw [hr] at hs he
      exact he st' hs
    | failed cause t =>
      rw [hr] at hs he
      exact he st' hs
    | exhausted =>
      rw [hr] at hs
      cases hs

end Patchbay.Language
