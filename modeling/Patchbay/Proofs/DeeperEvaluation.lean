-- More depth. It changes no evaluation that ends, so how one ends can be said
-- without a depth.
import Patchbay.Language.Eval
import Patchbay.Proofs.Actions

namespace Patchbay

namespace Outcome

variable {ε σ α : Type} {a : α} {cause : ε} {s : σ}

theorem done_ne_exhausted : (done a s : Outcome ε σ α) ≠ exhausted := nofun

theorem failed_ne_exhausted : (failed cause s : Outcome ε σ α) ≠ exhausted := nofun

end Outcome

namespace Action

variable {ε σ α β : Type}

/-- However `x` ends, short of running out of depth, `y` ends the same way. -/
def Extends (x y : Action ε σ α) : Prop := ∀ s o, o ≠ .exhausted → x s = o → y s = o

namespace Extends

theorem refl (x : Action ε σ α) : Extends x x := fun _ _ _ h => h

theorem exhausted (y : Action ε σ α) : Extends exhausted y := by
  rintro s o hends rfl
  exact absurd rfl hends

theorem bind {x y : Action ε σ α} {f g : α → Action ε σ β} (hx : Extends x y)
    (hf : ∀ a, Extends (f a) (g a)) : Extends (x >>= f) (y >>= g) := by
  intro s o hends h
  cases hxs : x s with
  | done a t =>
    rw [bind_of_done hxs] at h
    rw [bind_of_done (hx s _ Outcome.done_ne_exhausted hxs)]
    exact hf a t o hends h
  | failed cause t =>
    rw [bind_of_failed hxs] at h
    rw [bind_of_failed (hx s _ Outcome.failed_ne_exhausted hxs)]
    exact h
  | exhausted =>
    rw [bind_of_exhausted hxs] at h
    exact absurd h.symm hends

theorem mapList {f g : α → Action ε σ β} (h : ∀ a, Extends (f a) (g a)) (xs : List α) :
    Extends (mapList f xs) (mapList g xs) := by
  induction xs with
  | nil => exact refl _
  | cons x xs ih => exact bind (h x) fun y => bind ih fun ys => refl _

theorem foldList {f g : β → α → Action ε σ β} (h : ∀ b a, Extends (f b a) (g b a)) (b : β)
    (xs : List α) : Extends (foldList f b xs) (foldList g b xs) := by
  induction xs generalizing b with
  | nil => exact refl _
  | cons x xs ih => exact bind (h b x) fun b' => ih b'

theorem filterList {f g : α → Action ε σ Bool} (h : ∀ a, Extends (f a) (g a)) (xs : List α) :
    Extends (filterList f xs) (filterList g xs) := by
  induction xs with
  | nil => exact refl _
  | cons x xs ih => exact bind (h x) fun keep => bind ih fun rest => refl _

end Extends

/-! ## Ends at all depths from one on -/

/-- The computation ends so at each depth from some one on. -/
structure Concludes (x : Nat → Action ε σ α) (s : σ) (o : Outcome ε σ α) : Prop where
  ends : o ≠ .exhausted
  enough : ∃ depth, ∀ deeper, depth ≤ deeper → x deeper s = o

namespace Concludes

variable {x : Nat → Action ε σ α} {f : α → Nat → Action ε σ β} {s t : σ}

/-- One depth at which it ends is enough when more depth changes no end. -/
theorem of_ends {depth : Nat} {o : Outcome ε σ α}
    (hx : ∀ deeper, depth ≤ deeper → Extends (x depth) (x deeper)) (hends : o ≠ .exhausted)
    (h : x depth s = o) : Concludes x s o :=
  ⟨hends, depth, fun deeper hle => hx deeper hle s o hends h⟩

/-- It ends in one way only. -/
theorem unique {o o' : Outcome ε σ α} (h : Concludes x s o) (h' : Concludes x s o') : o = o' := by
  obtain ⟨depth, hall⟩ := h.enough
  obtain ⟨depth', hall'⟩ := h'.enough
  rw [← hall _ (Nat.le_max_left depth depth'), hall' _ (Nat.le_max_right depth depth')]

theorem pure (a : α) (s : σ) : Concludes (fun _ => (pure a : Action ε σ α)) s (.done a s) :=
  ⟨Outcome.done_ne_exhausted, 0, fun _ _ => rfl⟩

/-- The depth at the start may be anything. -/
theorem of_succ {o : Outcome ε σ α} (h : Concludes (fun depth => x (depth + 1)) s o) :
    Concludes x s o := by
  obtain ⟨hends, depth, hall⟩ := h
  refine ⟨hends, depth + 1, fun deeper hle => ?_⟩
  obtain ⟨more, rfl⟩ := Nat.exists_eq_add_of_le hle
  rw [Nat.add_right_comm]
  exact hall _ (Nat.le_add_right _ _)

theorem bind {a : α} {o : Outcome ε σ β} (hx : Concludes x s (.done a t))
    (hf : Concludes (f a) t o) : Concludes (fun depth => x depth >>= fun a => f a depth) s o := by
  obtain ⟨-, depth, hall⟩ := hx
  obtain ⟨hends, depth', hall'⟩ := hf
  refine ⟨hends, max depth depth', fun deeper hle => ?_⟩
  rw [bind_of_done (hall deeper (Nat.le_trans (Nat.le_max_left _ _) hle))]
  exact hall' deeper (Nat.le_trans (Nat.le_max_right _ _) hle)

theorem bind_failed {cause : ε} (hx : Concludes x s (.failed cause t)) :
    Concludes (fun depth => x depth >>= fun a => f a depth) s (.failed cause t) := by
  obtain ⟨-, depth, hall⟩ := hx
  exact ⟨Outcome.failed_ne_exhausted, depth, fun deeper hle => bind_of_failed (hall deeper hle)⟩

end Concludes

end Action

namespace Language

open Patchbay.Action

/-! ## Built-in functions -/

namespace Builtin

variable {call call' : Value → Value → Eval Value} (h : ∀ f v, Extends (call f v) (call' f v))
include h

theorem extends_foldStep (f carried item : Value) :
    Extends (foldStep call f carried item) (foldStep call' f carried item) :=
  .bind (h f carried) fun _ => .bind (.refl _) fun next => h next item

theorem extends_scanFrom (f : Value) (text : List Char) {limit limit' : Nat}
    (hle : limit ≤ limit') (offset : Float) (state : Value) :
    Extends (scanFrom call f text limit offset state)
      (scanFrom call' f text limit' offset state) := by
  induction limit generalizing limit' offset state with
  | zero => exact .exhausted _
  | succ limit ih =>
    obtain ⟨limit', rfl⟩ := Nat.exists_eq_succ_of_ne_zero (Nat.ne_zero_of_lt hle)
    unfold scanFrom
    split
    · refine .bind (h f state) fun _ => .bind (.refl _) fun next => .bind (.refl _) fun rest => ?_
      refine .bind (h next _) fun state => .bind (.refl _) fun offset => ?_
      exact ih (Nat.le_of_succ_le_succ hle) offset state
    · exact .refl _

theorem extends_call {limit limit' : Nat} (hle : limit ≤ limit') (op : Builtin)
    (held : List Value) : Extends (op.call call limit held) (op.call call' limit' held) := by
  unfold Builtin.call
  split
  case h_7 => exact .bind (.mapList (h _) _) fun ys => .refl _
  case h_8 =>
    exact .bind (.filterList (fun x => .bind (h _ x) fun _ => .refl _) _) fun kept => .refl _
  case h_9 => exact .foldList (extends_foldStep h _) _ _
  case h_16 => exact extends_scanFrom h _ _ hle _ _
  all_goals exact .refl _

end Builtin

/-! ## Evaluation -/

/-- What ends at one depth ends the same way at the other one. -/
structure ExtendsAt (depth deeper : Nat) : Prop where
  evaluate : ∀ s e, Extends (evaluate depth s e) (evaluate deeper s e)
  apply : ∀ caller f arg, Extends (apply depth caller f arg) (apply deeper caller f arg)

namespace ExtendsAt

variable {depth deeper : Nat} (h : ExtendsAt depth deeper)
include h

/-- Evaluation, both one level deeper. -/
theorem evaluate_succ (s : ScopeId) (e : Expr) :
    Extends (Language.evaluate (depth + 1) s e) (Language.evaluate (deeper + 1) s e) := by
  cases e with
  | bind name value next =>
    exact .bind (h.evaluate s value) fun v => .bind (.refl _) fun _ => h.evaluate s next
  | record fields =>
    refine .bind (.mapList (fun entry => ?_) fields) fun vs => .refl _
    exact .bind (h.evaluate s entry.2) fun v => .refl _
  | list items => exact .bind (.mapList (h.evaluate s) items) fun vs => .refl _
  | cond test yes no =>
    refine .bind (h.evaluate s test) fun v => ?_
    split
    · split
      · exact h.evaluate s yes
      · exact h.evaluate s no
    · exact .refl _
  | apply callee args =>
    refine .bind (h.evaluate s callee) fun f => .foldList (fun f arg => ?_) f args
    split
    · exact .bind (h.evaluate s arg) fun v => h.apply s f v
    · exact .refl _
  | pipe seed stages =>
    refine .bind (h.evaluate s seed) fun v => .foldList (fun v stage => ?_) v stages
    exact .bind (h.evaluate s stage) fun f => h.apply s f v
  | binary op left right =>
    exact .bind (h.evaluate s left) fun a => .bind (h.evaluate s right) fun b => .refl _
  | _ => exact .refl _

/-- Calls, both one level deeper. -/
theorem apply_succ (hle : depth ≤ deeper) (caller : ScopeId) (f arg : Value) :
    Extends (Language.apply (depth + 1) caller f arg)
      (Language.apply (deeper + 1) caller f arg) := by
  cases f with
  | closure param body home =>
    exact .bind (.refl _) fun frame => .bind (.refl _) fun _ => h.evaluate frame body
  | builtin op held =>
    exact .bind (.refl _) fun args => op.extends_call (h.apply caller) hle args
  | _ => exact .refl _

end ExtendsAt

theorem extendsAt {depth deeper : Nat} (hle : depth ≤ deeper) : ExtendsAt depth deeper := by
  induction depth generalizing deeper with
  | zero => exact ⟨fun s e => .exhausted _, fun caller f arg => .exhausted _⟩
  | succ depth ih =>
    obtain ⟨deeper, rfl⟩ := Nat.exists_eq_succ_of_ne_zero (Nat.ne_zero_of_lt hle)
    have hle := Nat.le_of_succ_le_succ hle
    exact ⟨(ih hle).evaluate_succ, (ih hle).apply_succ hle⟩

/-- A call that ends at one depth ends so from there on. -/
theorem apply_concludes (depth : Nat) {caller : ScopeId} {f arg : Value} {st : Store}
    {o : Outcome EvalError Store Value} (hends : o ≠ .exhausted)
    (h : apply depth caller f arg st = o) :
    Concludes (fun depth => apply depth caller f arg) st o :=
  .of_ends (fun _ hle => (extendsAt hle).apply caller f arg) hends h

/-! ## Evaluation by its parts -/

variable {s : ScopeId} {st t u : Store} {f g v : Value} {o : Outcome EvalError Store Value}

theorem ident_concludes {name : String} (h : st.lookup? s name = some v) :
    Concludes (fun depth => evaluate depth s (.ident name)) st (.done v st) := by
  refine .of_succ ⟨Outcome.done_ne_exhausted, 0, fun depth _ => ?_⟩
  change ofOption (EvalError.undefinedVariable name) (st.lookup? s name) st = _
  rw [h]
  rfl

theorem lambda_concludes (param : String) (body : Expr) (s : ScopeId) (st : Store) :
    Concludes (fun depth => evaluate depth s (.lambda param body)) st
      (.done (.closure param body s) st) := .of_succ (.pure _ _)

/-- What a call in the program does with one argument. -/
def argument (depth : Nat) (s : ScopeId) (f : Value) (arg : Expr) : Eval Value := do
  if f.kind = .lambda then
    let v ← evaluate depth s arg
    apply depth s f v
  else Action.fail (.applyNonFunction f.kind)

theorem call_concludes {callee : Expr} {args : List Expr}
    (hcallee : Concludes (fun depth => evaluate depth s callee) st (.done f t))
    (hargs : Concludes (fun depth => foldList (argument depth s) f args) t o) :
    Concludes (fun depth => evaluate depth s (.apply callee args)) st o :=
  .of_succ (hcallee.bind hargs)

/-- The value of the first argument is given to the function before the others are looked at. -/
theorem arguments_cons_concludes {arg : Expr} {args : List Expr}
    (hf : f.kind = .lambda) (harg : Concludes (fun depth => evaluate depth s arg) st (.done v t))
    (hcall : Concludes (fun depth => apply depth s f v) t (.done g u))
    (hargs : Concludes (fun depth => foldList (argument depth s) g args) u o) :
    Concludes (fun depth => foldList (argument depth s) f (arg :: args)) st o := by
  refine .bind (f := fun g depth => foldList (argument depth s) g args) ?_ hargs
  unfold argument
  simp only [if_pos hf]
  exact harg.bind hcall

theorem last_argument_concludes {arg : Expr} (hf : f.kind = .lambda)
    (harg : Concludes (fun depth => evaluate depth s arg) st (.done v t))
    (hcall : Concludes (fun depth => apply depth s f v) t o) :
    Concludes (fun depth => foldList (argument depth s) f [arg]) st o := by
  unfold foldList foldList argument
  simp only [if_pos hf, bind_pure]
  exact harg.bind hcall

theorem argument_failed_concludes {arg : Expr} {args : List Expr} {cause : EvalError}
    (hf : f.kind = .lambda)
    (harg : Concludes (fun depth => evaluate depth s arg) st (.failed cause t)) :
    Concludes (fun depth => foldList (argument depth s) f (arg :: args)) st (.failed cause t) := by
  refine .bind_failed (f := fun g depth => foldList (argument depth s) g args) ?_
  unfold argument
  simp only [if_pos hf]
  exact harg.bind_failed

theorem cond_concludes {test yes no : Expr} {x : Float}
    (htest : Concludes (fun depth => evaluate depth s test) st (.done (.number x) t))
    (hbranch : Concludes (fun depth => evaluate depth s (if x != 0.0 then yes else no)) t o) :
    Concludes (fun depth => evaluate depth s (.cond test yes no)) st o := by
  obtain ⟨-, depth, hall⟩ := htest
  obtain ⟨hends, depth', hall'⟩ := hbranch
  refine .of_succ ⟨hends, max depth depth', fun deeper hle => ?_⟩
  refine (bind_of_done (hall deeper (Nat.le_trans (Nat.le_max_left _ _) hle))).trans ?_
  rw [← hall' deeper (Nat.le_trans (Nat.le_max_right _ _) hle)]
  dsimp only
  split <;> rfl

theorem cond_failed_concludes {test yes no : Expr} {cause : EvalError}
    (htest : Concludes (fun depth => evaluate depth s test) st (.failed cause t)) :
    Concludes (fun depth => evaluate depth s (.cond test yes no)) st (.failed cause t) :=
  .of_succ htest.bind_failed

/-- A built-in function on one more argument, of a kind that it takes. -/
theorem builtin_concludes {op : Builtin} {held args : List Value} {arg : Value}
    (haccept : op.accept held arg = pure args)
    (hcall : Concludes (fun depth => op.call (apply depth s) depth args) st o) :
    Concludes (fun depth => apply depth s (.builtin op held) arg) st o := by
  refine .of_succ ?_
  change Concludes (fun depth => op.accept held arg >>= op.call (apply depth s) depth) st o
  rw [haccept]
  exact hcall

theorem evaluateIn_concludes {source : String} {e : Expr} (hparse : parseSource source = .ok e)
    (h : Concludes (fun depth => evaluate depth s e) st (.done v t)) :
    Concludes (fun depth => evaluateIn depth s source) st (.done v t) := by
  obtain ⟨-, depth, hall⟩ := h
  refine ⟨Outcome.done_ne_exhausted, depth, fun deeper hle => ?_⟩
  unfold evaluateIn
  rw [hparse]
  dsimp only
  rw [hall deeper hle]

theorem evaluateIn_failed_concludes {source : String} {e : Expr} {cause : EvalError}
    (hparse : parseSource source = .ok e)
    (h : Concludes (fun depth => evaluate depth s e) st (.failed cause t)) :
    Concludes (fun depth => evaluateIn depth s source) st (.failed (.eval cause) t) := by
  obtain ⟨-, depth, hall⟩ := h
  refine ⟨Outcome.failed_ne_exhausted, depth, fun deeper hle => ?_⟩
  unfold evaluateIn
  rw [hparse]
  dsimp only
  rw [hall deeper hle]

end Language

end Patchbay
