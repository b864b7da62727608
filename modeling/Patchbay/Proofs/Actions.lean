-- What a computation does to the state, whether it ends with a value or
-- with a failure. A relation that a chain of steps keeps is kept by every
-- computation that is put together from such steps.
import Patchbay.Outcome

namespace Patchbay

/-- The state in which a computation ends. -/
def Outcome.state? {ε σ α : Type} : Outcome ε σ α → Option σ
  | .done _ s => some s
  | .failed _ s => some s
  | .exhausted => none

/-- A computation that ends with a value ends as `D` says. It fails only where `F` holds, and
it runs out of depth only where `X` holds. -/
def Outcome.Meets {ε σ α : Type} (D : α → σ → Prop) (F X : Prop) : Outcome ε σ α → Prop
  | .done a s => D a s
  | .failed _ _ => F
  | .exhausted => X

/-! ## Chains of results -/

theorem bind_eq_ok {ε α β : Type} {x : Except ε α} {f : α → Except ε β} {b : β} :
    (x >>= f) = .ok b ↔ ∃ a, x = .ok a ∧ f a = .ok b := by
  cases x with
  | error e => simp [bind, Except.bind]
  | ok a => simp [bind, Except.bind]

theorem bind_eq_error {ε α β : Type} {x : Except ε α} {f : α → Except ε β} {e : ε} :
    (x >>= f) = .error e ↔ x = .error e ∨ ∃ a, x = .ok a ∧ f a = .error e := by
  cases x with
  | error e => simp [bind, Except.bind]
  | ok a => simp [bind, Except.bind]

/-! ## Chains of computations -/

namespace Action

variable {ε σ α β : Type} {P : σ → σ → Prop}

theorem bind_of_done {x : Action ε σ α} {f : α → Action ε σ β} {s s' : σ} {a : α}
    (h : x s = .done a s') : (x >>= f) s = f a s' := by
  change x.andThen f s = _
  unfold andThen
  rw [h]

theorem bind_of_failed {x : Action ε σ α} {f : α → Action ε σ β} {s s' : σ} {e : ε}
    (h : x s = .failed e s') : (x >>= f) s = .failed e s' := by
  change x.andThen f s = _
  unfold andThen
  rw [h]

theorem bind_of_exhausted {x : Action ε σ α} {f : α → Action ε σ β} {s : σ}
    (h : x s = .exhausted) : (x >>= f) s = .exhausted := by
  change x.andThen f s = _
  unfold andThen
  rw [h]

theorem demand_of_some {o : Option α} {a : α} (h : o = some a) (s : σ) :
    (demand o : Action ε σ α) s = .done a s := by
  rw [h]
  rfl

theorem mapList_cons_of_done {f : α → Action ε σ β} {a : α} {as : List α} {b : β} {bs : List β}
    {s s' s'' : σ} (h : f a s = .done b s') (hs : mapList f as s' = .done bs s'') :
    mapList f (a :: as) s = .done (b :: bs) s'' :=
  (bind_of_done h).trans ((bind_of_done hs).trans rfl)

theorem bind_eq_done {x : Action ε σ α} {f : α → Action ε σ β} {s s' : σ} {b : β} :
    (x >>= f) s = .done b s' ↔ ∃ a t, x s = .done a t ∧ f a t = .done b s' := by
  change x.andThen f s = _ ↔ _
  unfold andThen
  cases x s <;> simp [and_assoc]

/-- A chain fails where its first part fails, or where the second one does after it. -/
theorem bind_eq_failed {x : Action ε σ α} {f : α → Action ε σ β} {s s' : σ} {e : ε} :
    (x >>= f) s = .failed e s' ↔
      x s = .failed e s' ∨ ∃ a t, x s = .done a t ∧ f a t = .failed e s' := by
  change x.andThen f s = _ ↔ _
  unfold andThen
  cases x s <;> simp [and_assoc]

theorem change_bind (c : σ → σ) (f : Unit → Action ε σ β) (s : σ) :
    (change c >>= f) s = f () (c s) := rfl

theorem read_bind (r : σ → α) (f : α → Action ε σ β) (s : σ) : (read r >>= f) s = f (r s) s := rfl

/-! ## Computations that end as they should -/

namespace Meets

variable {D : β → σ → Prop} {F X : Prop}

theorem bind {x : Action ε σ α} {f : α → Action ε σ β} {s : σ}
    (h : (x s).Meets (fun a t => (f a t).Meets D F X) F X) : ((x >>= f) s).Meets D F X := by
  change (x.andThen f s).Meets D F X
  unfold andThen
  cases hx : x s with
  | done a t =>
    rw [hx] at h
    exact h
  | failed e t =>
    rw [hx] at h
    exact h
  | exhausted =>
    rw [hx] at h
    exact h

theorem mono {D' : β → σ → Prop} {F' X' : Prop} {o : Outcome ε σ β} (h : o.Meets D F X)
    (hd : ∀ b s, D b s → D' b s) (hf : F → F') (hx : X → X') : o.Meets D' F' X' := by
  cases o with
  | done b s => exact hd b s h
  | failed e s => exact hf h
  | exhausted => exact hx h

/-- The rule for a chain whose first part is known. -/
theorem andThen {C : α → σ → Prop} {x : Action ε σ α} {f : α → Action ε σ β} {s : σ}
    (hx : (x s).Meets C F X) (hf : ∀ a t, C a t → (f a t).Meets D F X) :
    ((x >>= f) s).Meets D F X := bind (mono hx hf id id)

/-- What does not fail, and does not run out of depth, ends with a value. -/
theorem exists_done {C D : β → σ → Prop} {o : Outcome ε σ β} (h : o.Meets D False True)
    (hend : o.Meets C True False) : ∃ b s, o = .done b s ∧ D b s := by
  cases o with
  | done b s => exact ⟨b, s, rfl, h⟩
  | failed e s => exact False.elim h
  | exhausted => exact False.elim hend

end Meets

/-! ## Computations that keep a relation -/

/-- However `x` ends, `P` holds between the state before it and the one after it. -/
def Keeps (P : σ → σ → Prop) (x : Action ε σ α) : Prop :=
  ∀ s s', (x s).state? = some s' → P s s'

/-- `P` holds over no step at all, and over two steps one after the other. -/
structure Chains (P : σ → σ → Prop) : Prop where
  refl : ∀ s, P s s
  trans : ∀ {a b c}, P a b → P b c → P a c

namespace Keeps

theorem mono {Q : σ → σ → Prop} {x : Action ε σ α} (hx : Keeps P x) (h : ∀ s s', P s s' → Q s s') :
    Keeps Q x := fun s s' hs => h s s' (hx s s' hs)

theorem pure (h : Chains P) (a : α) : Keeps P (pure a : Action ε σ α) := by
  intro s s' hs
  cases hs
  exact h.refl s

theorem fail (h : Chains P) (cause : ε) : Keeps P (fail cause : Action ε σ α) := by
  intro s s' hs
  cases hs
  exact h.refl s

theorem exhausted : Keeps P (exhausted : Action ε σ α) := by
  intro s s' hs
  cases hs

theorem read (h : Chains P) (f : σ → α) : Keeps P (read f : Action ε σ α) := by
  intro s s' hs
  cases hs
  exact h.refl s

theorem change {f : σ → σ} (h : ∀ s, P s (f s)) : Keeps P (change f : Action ε σ Unit) := by
  intro s s' hs
  cases hs
  exact h s

theorem ofOption (h : Chains P) (cause : ε) (o : Option α) :
    Keeps P (ofOption cause o : Action ε σ α) := by
  cases o with
  | none => exact fail h cause
  | some a => exact pure h a

theorem demand (h : Chains P) (o : Option α) : Keeps P (demand o : Action ε σ α) := by
  cases o with
  | none => exact exhausted
  | some a => exact pure h a

theorem bind (h : Chains P) {x : Action ε σ α} {f : α → Action ε σ β} (hx : Keeps P x)
    (hf : ∀ a, Keeps P (f a)) : Keeps P (x >>= f) := by
  intro s s' hs
  change ((x.andThen f) s).state? = some s' at hs
  unfold andThen at hs
  have hxs := hx s
  cases hr : x s with
  | done a t =>
    rw [hr] at hs hxs
    exact h.trans (hxs t rfl) (hf a t s' hs)
  | failed e t =>
    rw [hr] at hs hxs
    exact hxs s' hs
  | exhausted =>
    rw [hr] at hs
    cases hs

theorem mapList_of_mem (h : Chains P) {f : α → Action ε σ β} {xs : List α}
    (hf : ∀ a ∈ xs, Keeps P (f a)) : Keeps P (mapList f xs) := by
  induction xs with
  | nil => exact pure h []
  | cons x xs ih =>
    have hrest := ih fun a ha => hf a (List.mem_cons_of_mem x ha)
    exact bind h (hf x List.mem_cons_self) fun y => bind h hrest fun ys => pure h (y :: ys)

theorem mapList (h : Chains P) {f : α → Action ε σ β} (hf : ∀ a, Keeps P (f a)) (xs : List α) :
    Keeps P (mapList f xs) := mapList_of_mem h fun a _ => hf a

theorem foldList_of_mem (h : Chains P) {f : β → α → Action ε σ β} {xs : List α}
    (hf : ∀ b, ∀ a ∈ xs, Keeps P (f b a)) (b : β) : Keeps P (foldList f b xs) := by
  induction xs generalizing b with
  | nil => exact pure h b
  | cons x xs ih =>
    have hrest := ih fun b a ha => hf b a (List.mem_cons_of_mem x ha)
    exact bind h (hf b x List.mem_cons_self) fun b' => hrest b'

theorem foldList (h : Chains P) {f : β → α → Action ε σ β} (hf : ∀ b a, Keeps P (f b a))
    (xs : List α) (b : β) : Keeps P (foldList f b xs) := foldList_of_mem h (fun b a _ => hf b a) b

theorem filterList (h : Chains P) {f : α → Action ε σ Bool} (hf : ∀ a, Keeps P (f a))
    (xs : List α) : Keeps P (filterList f xs) := by
  induction xs with
  | nil => exact pure h []
  | cons x xs ih => exact bind h (hf x) fun keep => bind h ih fun rest => pure h _

end Keeps

end Action

end Patchbay
