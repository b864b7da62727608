-- Computations over a state that may fail, and that may run out of depth or
-- break off. A failure keeps the state that was reached, so what happened
-- before it stays visible.
namespace Patchbay

/-- How a computation over states `σ` ends. One that is exhausted gives no answer: the depth was
too small for it, or it broke off at a place that is not there. -/
inductive Outcome (ε σ α : Type)
  | done (value : α) (state : σ)
  | failed (cause : ε) (state : σ)
  | exhausted

/-- A computation that starts in a state. -/
def Action (ε σ α : Type) : Type := σ → Outcome ε σ α

namespace Action

variable {ε σ α β : Type}

instance : Inhabited (Action ε σ α) := ⟨fun _ => .exhausted⟩

/-- Runs `x`, then `f` on its value, in the state that `x` leaves. -/
@[inline] def andThen (x : Action ε σ α) (f : α → Action ε σ β) : Action ε σ β := fun s =>
  match x s with
  | .done a s' => f a s'
  | .failed e s' => .failed e s'
  | .exhausted => .exhausted

instance : Monad (Action ε σ) where
  pure a := fun s => .done a s
  bind := andThen

theorem andThen_done (x : Action ε σ α) : (x.andThen fun a s => .done a s) = x := by
  funext s
  unfold andThen
  cases x s <;> rfl

theorem andThen_andThen {γ : Type} (x : Action ε σ α) (f : α → Action ε σ β)
    (g : β → Action ε σ γ) : (x.andThen f).andThen g = x.andThen fun a => (f a).andThen g := by
  funext s
  unfold andThen
  cases x s <;> rfl

instance : LawfulMonad (Action ε σ) :=
  LawfulMonad.mk' _ andThen_done (fun _ _ => rfl) andThen_andThen

/-! ## Steps -/

@[inline] def fail (cause : ε) : Action ε σ α := fun s => .failed cause s

/-- No depth is left. -/
@[inline] def exhausted : Action ε σ α := fun _ => .exhausted

@[inline] def read (f : σ → α) : Action ε σ α := fun s => .done (f s) s

@[inline] def change (f : σ → σ) : Action ε σ Unit := fun s => .done () (f s)

/-- The answer when there is one, else a failure. -/
@[inline] def ofOption (cause : ε) : Option α → Action ε σ α
  | some a => fun s => .done a s
  | none => fail cause

/-- What must be there. Where it is not, the computation breaks off. -/
@[inline] def demand : Option α → Action ε σ α
  | some a => fun s => .done a s
  | none => exhausted

/-! ## Lists -/

/-- Runs `f` on each element from the left and keeps the values. -/
def mapList (f : α → Action ε σ β) : List α → Action ε σ (List β)
  | [] => pure []
  | x :: xs => do
    let y ← f x
    let ys ← mapList f xs
    pure (y :: ys)

/-- Runs `f` on each element from the left, carrying a value along. -/
def foldList (f : β → α → Action ε σ β) : β → List α → Action ε σ β
  | b, [] => pure b
  | b, x :: xs => do
    let b' ← f b x
    foldList f b' xs

/-- Keeps the elements on which `f` answers true. -/
def filterList (f : α → Action ε σ Bool) : List α → Action ε σ (List α)
  | [] => pure []
  | x :: xs => do
    let keep ← f x
    let rest ← filterList f xs
    pure (if keep then x :: rest else rest)

/-- Runs `f` on each element from the left. -/
def forEach (f : α → Action ε σ Unit) : List α → Action ε σ Unit
  | [] => pure ()
  | x :: xs => do
    f x
    forEach f xs

end Action

end Patchbay
