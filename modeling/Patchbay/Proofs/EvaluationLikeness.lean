-- Evaluation in stores that are alike. It ends alike: with values that are
-- alike or with the same error, and with as many new scopes in both stores,
-- which pair up in their order. So nothing but the places of scopes depends on
-- where scopes lie.
import Patchbay.Language.Eval
import Patchbay.Proofs.Actions
import Patchbay.Proofs.Likeness

namespace Patchbay.Language

open Patchbay.Action

/-- All pairs of `R` are pairs of `V`. -/
def Pairing.Le (R V : Pairing) : Prop := ∀ a b, R a b → V a b

theorem Pairing.Le.refl (R : Pairing) : R.Le R := fun _ _ h => h

theorem Pairing.Le.trans {R V W : Pairing} (h : R.Le V) (k : V.Le W) : R.Le W :=
  fun a b hab => k a b (h a b hab)

theorem Pairing.Le.grown {R : Pairing} (n m k : Nat) : R.Le (R.grown n m k) := fun _ _ h => Or.inl h

/-- What is alike stays alike when more scopes are partners. -/
def Persists {α : Type} (S : Pairing → α → α → Prop) : Prop :=
  ∀ {R V : Pairing}, R.Le V → ∀ {a b : α}, S R a b → S V a b

theorem Value.Like.persists : Persists Value.Like := fun hle _ _ h => h.mono hle

theorem ItemsLike.persists : Persists ItemsLike := fun hle _ _ h => h.mono hle

theorem persists_eq {α : Type} : Persists fun (_ : Pairing) (a b : α) => a = b := fun _ _ _ h => h

/-! ## Ends that are alike -/

/-- Both computations ended in the same way, and made `k` new scopes, which are partners. -/
inductive EndsAlike {ε α : Type} (R : Pairing) (S : Pairing → α → α → Prop) (st st' : Store) :
    Outcome ε Store α → Outcome ε Store α → Prop
  | done {a b : α} {t t' : Store} (k : Nat) (hsize : t.size = st.size + k)
      (hsize' : t'.size = st'.size + k) (hst : StoreLike (R.grown st.size st'.size k) t t')
      (hab : S (R.grown st.size st'.size k) a b) : EndsAlike R S st st' (.done a t) (.done b t')
  | failed {t t' : Store} (cause : ε) (k : Nat) (hsize : t.size = st.size + k)
      (hsize' : t'.size = st'.size + k) (hst : StoreLike (R.grown st.size st'.size k) t t') :
    EndsAlike R S st st' (.failed cause t) (.failed cause t')
  | exhausted : EndsAlike R S st st' .exhausted .exhausted

/-- Started in stores that are alike, where at least `R` are partners, both end alike. -/
def Alike {ε α : Type} (R : Pairing) (S : Pairing → α → α → Prop) (x y : Action ε Store α) :
    Prop :=
  ∀ V : Pairing, R.Le V → ∀ st st', StoreLike V st st' → EndsAlike V S st st' (x st) (y st')

namespace Alike

variable {ε α β : Type} {R : Pairing} {S : Pairing → α → α → Prop} {U : Pairing → β → β → Prop}

theorem pure {a b : α} (hS : Persists S) (h : S R a b) :
    Alike R S (pure a : Action ε Store α) (pure b) := by
  intro V hle st st' hst
  refine .done 0 rfl rfl ?_ ?_
  · rw [Pairing.grown_zero]
    exact hst
  · rw [Pairing.grown_zero]
    exact hS hle h

theorem fail (cause : ε) : Alike R S (fail cause) (fail cause) := by
  intro V _ st st' hst
  refine .failed cause 0 rfl rfl ?_
  rw [Pairing.grown_zero]
  exact hst

theorem exhausted : Alike R S (exhausted : Action ε Store α) exhausted :=
  fun _ _ _ _ _ => .exhausted

theorem ofOption (cause : ε) {o o' : Option α} (hS : Persists S) (h : Option.Rel (S R) o o') :
    Alike R S (ofOption cause o) (ofOption cause o') := by
  cases h with
  | none => exact fail cause
  | some hab => exact pure hS hab

theorem demand {o o' : Option α} (hS : Persists S) (h : Option.Rel (S R) o o') :
    Alike R S (demand o : Action ε Store α) (demand o') := by
  cases h with
  | none => exact exhausted
  | some hab => exact pure hS hab

theorem demand_same (o : Option α) :
    Alike R (fun _ a b => a = b) (Action.demand o : Action ε Store α) (Action.demand o) := by
  cases o with
  | none => exact exhausted
  | some a => exact pure persists_eq rfl

/-- An end after the first `k` new scopes is an end of the whole. -/
theorem ends_after {V : Pairing} {st st' t t' : Store} {k : Nat} {o o' : Outcome ε Store α}
    (hsize : t.size = st.size + k) (hsize' : t'.size = st'.size + k)
    (h : EndsAlike (V.grown st.size st'.size k) S t t' o o') : EndsAlike V S st st' o o' := by
  have hgrown : ∀ j, (V.grown st.size st'.size k).grown t.size t'.size j =
      V.grown st.size st'.size (k + j) := by
    intro j
    rw [hsize, hsize', Pairing.grown_grown]
  cases h with
  | done j hs hs' hst hab =>
    rw [hgrown] at hst hab
    exact .done (k + j) (by omega) (by omega) hst hab
  | failed cause j hs hs' hst =>
    rw [hgrown] at hst
    exact .failed cause (k + j) (by omega) (by omega) hst
  | exhausted => exact .exhausted

theorem bind {x y : Action ε Store α} {f g : α → Action ε Store β} (hx : Alike R S x y)
    (hf : ∀ V, R.Le V → ∀ a b, S V a b → Alike V U (f a) (g b)) :
    Alike R U (x >>= f) (y >>= g) := by
  intro V hle st st' hst
  have hends := hx V hle st st' hst
  change EndsAlike V U st st' (x.andThen f st) (y.andThen g st')
  unfold andThen
  generalize x st = o at hends ⊢
  generalize y st' = o' at hends ⊢
  cases hends with
  | done k hs hs' hst₁ hab =>
    have hle₁ : R.Le (V.grown st.size st'.size k) := hle.trans (Pairing.Le.grown _ _ _)
    exact ends_after hs hs' (hf _ hle₁ _ _ hab _ (Pairing.Le.refl _) _ _ hst₁)
  | failed cause k hs hs' hst₁ => exact .failed cause k hs hs' hst₁
  | exhausted => exact .exhausted

/-! ## Lists -/

variable {T : Pairing → α → α → Prop}

theorem mapList {f g : α → Action ε Store β} (hT : Persists T) (hU : Persists U)
    (hf : ∀ V, R.Le V → ∀ a b, T V a b → Alike V U (f a) (g b)) {xs ys : List α}
    (hxs : List.Forall₂ (T R) xs ys) :
    Alike R (fun V => List.Forall₂ (U V)) (mapList f xs) (mapList g ys) := by
  have hall : Persists fun V => List.Forall₂ (U V) := fun hle _ _ h => h.imp fun _ _ => hU hle
  induction xs generalizing ys R with
  | nil =>
    cases hxs
    exact pure hall .nil
  | cons x xs ih =>
    cases hxs with
    | cons hx hrest =>
      refine bind (hf R (Pairing.Le.refl R) _ _ hx) fun V hle v w hvw => ?_
      refine bind (ih (fun W hW => hf W (hle.trans hW)) (hrest.imp fun _ _ => hT hle)) ?_
      exact fun W hW vs ws hvws => pure hall (.cons (hU hW hvw) hvws)

theorem foldList {f g : β → α → Action ε Store β} (hT : Persists T)
    (hf : ∀ V, R.Le V → ∀ b c, U V b c → ∀ x y, T V x y → Alike V U (f b x) (g c y))
    (hU : Persists U) {b c : β} (hbc : U R b c) {xs ys : List α}
    (hxs : List.Forall₂ (T R) xs ys) : Alike R U (foldList f b xs) (foldList g c ys) := by
  induction xs generalizing ys R b c with
  | nil =>
    cases hxs
    exact pure hU hbc
  | cons x xs ih =>
    cases hxs with
    | cons hx hrest =>
      refine bind (hf R (Pairing.Le.refl R) _ _ hbc _ _ hx) fun V hle b' c' hbc' => ?_
      exact ih (fun W hW => hf W (hle.trans hW)) hbc' (hrest.imp fun _ _ => hT hle)

theorem filterList {f g : α → Action ε Store Bool} (hT : Persists T)
    (hf : ∀ V, R.Le V → ∀ a b, T V a b → Alike V (fun _ p q => p = q) (f a) (g b))
    {xs ys : List α} (hxs : List.Forall₂ (T R) xs ys) :
    Alike R (fun V => List.Forall₂ (T V)) (filterList f xs) (filterList g ys) := by
  have hall : Persists fun V => List.Forall₂ (T V) := fun hle _ _ h => h.imp fun _ _ => hT hle
  induction xs generalizing ys R with
  | nil =>
    cases hxs
    exact pure hall .nil
  | cons x xs ih =>
    cases hxs with
    | cons hx hrest =>
      refine bind (hf R (Pairing.Le.refl R) _ _ hx) ?_
      rintro V hle keep _ rfl
      refine bind (ih (fun W hW => hf W (hle.trans hW)) (hrest.imp fun _ _ => hT hle)) ?_
      intro W hW kept kept' hkept
      refine pure hall ?_
      cases keep with
      | false => exact hkept
      | true => exact .cons (hT (hle.trans hW) hx) hkept

end Alike

variable {R : Pairing}

/-! ## Steps on values -/

theorem Value.Like.field {v w : Value} (h : Value.Like R v w) (name : String) :
    Alike R Value.Like (v.field name) (w.field name) := by
  cases h with
  | record h => exact Alike.ofOption _ Value.Like.persists (h.get? name)
  | _ => exact Alike.fail _

theorem Value.Like.operand {v w : Value} (h : Value.Like R v w) (side : Side) (op : BinaryOp) :
    Alike R (fun _ x y => x = y) (v.operand side op) (w.operand side op) := by
  cases h with
  | number x => exact Alike.pure persists_eq rfl
  | _ => exact Alike.fail _

/-- The operators that take two numbers. -/
theorem BinaryOp.alike_compute (op : BinaryOp) {a a' b b' : Value} (ha : Value.Like R a a')
    (hb : Value.Like R b b') :
    Alike R Value.Like
      (do
        let x ← a.operand .left op
        let y ← b.operand .right op
        pure (.number (op.compute x y)))
      (do
        let x ← a'.operand .left op
        let y ← b'.operand .right op
        pure (.number (op.compute x y))) := by
  refine Alike.bind (ha.operand .left op) ?_
  rintro V hle x _ rfl
  refine Alike.bind ((hb.mono hle).operand .right op) ?_
  rintro W _ y _ rfl
  exact Alike.pure Value.Like.persists (.number _)

theorem BinaryOp.alike_apply (op : BinaryOp) {a a' b b' : Value} (ha : Value.Like R a a')
    (hb : Value.Like R b b') : Alike R Value.Like (op.apply a b) (op.apply a' b') := by
  have hcompute := op.alike_compute ha hb
  cases op with
  | add =>
    cases ha with
    | text s =>
      cases hb with
      | text t => exact Alike.pure Value.Like.persists (.text _)
      | _ => exact hcompute
    | _ => exact hcompute
  | eq =>
    have hequal : a.equal b = a'.equal b' := ha.equal hb
    change Alike R Value.Like (pure (.ofBool (a.equal b))) (pure (.ofBool (a'.equal b')))
    rw [hequal]
    exact Alike.pure Value.Like.persists (Value.Like.ofBool _)
  | _ => exact hcompute

namespace Builtin

theorem alike_step (b : Builtin) {v w : Value} (h : Value.Like R v w) :
    Alike R Value.Like (b.step v) (b.step w) := by
  unfold Builtin.step
  rw [h.kind]
  split
  · exact Alike.pure Value.Like.persists h
  · exact Alike.fail _

theorem alike_accept (b : Builtin) {held others : List Value} (h : ItemsLike R held others)
    {v w : Value} (hv : Value.Like R v w) :
    Alike R ItemsLike (b.accept held v) (b.accept others w) := by
  have hargs : Alike R ItemsLike (pure (held ++ [v]) : Eval (List Value)) (pure (others ++ [w])) :=
    Alike.pure ItemsLike.persists (h.append (.cons hv .nil))
  unfold Builtin.accept
  rw [h.length, hv.kind]
  split
  · split
    · exact hargs
    · exact Alike.fail _
  · exact hargs

theorem alike_scanOffset {v w : Value} (h : Value.Like R v w) :
    Alike R (fun _ x y => x = y) (scanOffset v) (scanOffset w) := by
  cases h with
  | record h =>
    have hget := h.get? "i"
    unfold scanOffset
    dsimp only
    generalize Fields.get? _ "i" = found at hget ⊢
    generalize Fields.get? _ "i" = found' at hget ⊢
    cases hget with
    | none => exact Alike.fail _
    | some hv =>
      cases hv with
      | number x => exact Alike.pure persists_eq rfl
      | _ => exact Alike.fail _
  | _ => exact Alike.fail _

/-- Calls of functions that are alike on arguments that are alike end alike. -/
def CallsAlike (R : Pairing) (call call' : Value → Value → Eval Value) : Prop :=
  ∀ V : Pairing, R.Le V → ∀ f g, Value.Like V f g → ∀ v w, Value.Like V v w →
    Alike V Value.Like (call f v) (call' g w)

variable {call call' : Value → Value → Eval Value} (hcall : CallsAlike R call call')
include hcall

theorem CallsAlike.mono {V : Pairing} (hle : R.Le V) : CallsAlike V call call' :=
  fun W hw => hcall W (hle.trans hw)

theorem alike_foldStep {f g carried carried' item item' : Value} (hf : Value.Like R f g)
    (hc : Value.Like R carried carried') (hi : Value.Like R item item') :
    Alike R Value.Like (foldStep call f carried item) (foldStep call' g carried' item') := by
  refine Alike.bind (hcall R (Pairing.Le.refl R) _ _ hf _ _ hc) fun V hv next next' hn => ?_
  refine Alike.bind (alike_step reduce hn) fun W hw next next' hn => ?_
  exact hcall W (hv.trans hw) _ _ hn _ _ (hi.mono (hv.trans hw))

theorem alike_scanFrom {f g : Value} (hf : Value.Like R f g) (text : List Char) (limit : Nat)
    (offset : Float) {state state' : Value} (hs : Value.Like R state state') :
    Alike R Value.Like (scanFrom call f text limit offset state)
      (scanFrom call' g text limit offset state') := by
  induction limit generalizing R offset state state' with
  | zero => exact Alike.exhausted
  | succ limit ih =>
    unfold scanFrom
    split
    · refine Alike.bind (hcall R (Pairing.Le.refl R) _ _ hf _ _ hs) fun V hv next next' hn => ?_
      refine Alike.bind (alike_step scan hn) fun W hw next next' hn => ?_
      refine Alike.bind (Alike.demand_same _) ?_
      rintro U hu rest _ rfl
      have hvu := (hv.trans hw).trans hu
      refine Alike.bind (hcall U hvu _ _ (hn.mono hu) _ _ (.text _)) fun X hx state state' hs => ?_
      have hvx := hvu.trans hx
      refine Alike.bind (alike_scanOffset hs) ?_
      rintro Y hy offset _ rfl
      exact ih (hcall.mono (hvx.trans hy)) (hf.mono (hvx.trans hy)) offset (hs.mono hy)
    · exact Alike.pure Value.Like.persists hs

omit hcall in
/-- A built-in function that does not have all its arguments yet holds those it has. -/
theorem alike_held (op : Builtin) {held others : List Value} (h : ItemsLike R held others) :
    Alike R Value.Like (pure (.builtin op held) : Eval Value) (pure (.builtin op others)) :=
  Alike.pure Value.Like.persists (.builtin op h)

omit hcall in
theorem alike_parts (mark text : String) : ItemsLike R (parts mark text) (parts mark text) := by
  have hchars : ∀ cs : List Char, ItemsLike R (cs.map fun c => .text c.toString)
      (cs.map fun c => .text c.toString) := by
    intro cs
    have htexts := itemsLike_texts (R := R) (cs.map Char.toString)
    rwa [List.map_map] at htexts
  have hpieces : ∀ pieces : List (List Char), ItemsLike R
      (pieces.map fun part => .text (String.ofList part))
      (pieces.map fun part => .text (String.ofList part)) := by
    intro pieces
    have htexts := itemsLike_texts (R := R) (pieces.map String.ofList)
    rwa [List.map_map] at htexts
  unfold parts
  split
  · exact hchars _
  · exact hpieces _

omit hcall in
theorem alike_call_one (limit : Nat) (op : Builtin) {a a' : Value} (ha : Value.Like R a a') :
    Alike R Value.Like (op.call call limit [a]) (op.call call' limit [a']) := by
  have hp := @Value.Like.persists
  have hheld := alike_held op (.cons ha .nil)
  cases op with
  | len =>
    cases ha with
    | @list xs ys h =>
      change Alike R Value.Like (pure (.number (Number.ofNat xs.length)))
        (pure (.number (Number.ofNat ys.length)))
      rw [h.length]
      exact Alike.pure hp (.number _)
    | _ => exact hheld
  | first =>
    cases ha with
    | list h => exact Alike.ofOption _ hp h.head?
    | _ => exact hheld
  | last =>
    cases ha with
    | list h => exact Alike.ofOption _ hp h.getLast?
    | _ => exact hheld
  | isNum =>
    cases ha with
    | text s => exact Alike.pure hp (Value.Like.ofBool _)
    | _ => exact hheld
  | toNum =>
    cases ha with
    | text s =>
      refine Alike.ofOption _ hp ?_
      cases Number.leading? s with
      | none => exact .none
      | some x => exact .some (.number x)
    | _ => exact hheld
  | toStr =>
    cases ha with
    | number x => exact Alike.pure hp (.text _)
    | _ => exact hheld
  | _ => cases ha <;> exact hheld

omit hcall in
/-- Keeping or dropping items by a count does the same to lists that are alike. -/
theorem alike_slice {slice? : List Value → Nat → Option (List Value)} (c : Float)
    {xs ys : List Value} (h : ItemsLike R xs ys)
    (hslice : ∀ n, Option.Rel (ItemsLike R) (slice? xs n) (slice? ys n)) :
    Alike R Value.Like
      (demand (slice? xs (Number.sliceBound c xs.length)) >>= fun part => pure (.list part) :
        Eval Value)
      (demand (slice? ys (Number.sliceBound c ys.length)) >>= fun part => pure (.list part)) := by
  rw [h.length]
  refine Alike.bind (Alike.demand ItemsLike.persists (hslice _)) fun V _ vs ws hvws => ?_
  exact Alike.pure Value.Like.persists (.list hvws)

omit hcall in
theorem alike_front? {xs ys : List Value} (h : ItemsLike R xs ys) (n : Nat) :
    Option.Rel (ItemsLike R) (front? xs n) (front? ys n) := by
  unfold front?
  rw [h.length]
  split
  · exact .some (h.take n)
  · exact .none

omit hcall in
theorem alike_back? {xs ys : List Value} (h : ItemsLike R xs ys) (n : Nat) :
    Option.Rel (ItemsLike R) (back? xs n) (back? ys n) := by
  unfold back?
  rw [h.length]
  split
  · exact .some (h.drop n)
  · exact .none

omit hcall in
theorem alike_nth (i : Float) {xs ys : List Value} (h : ItemsLike R xs ys) :
    Alike R Value.Like
      (if Number.isIndex i xs.length then demand xs[Number.toWord i]?
        else fail (EvalError.indexOutOfBounds i xs.length))
      (if Number.isIndex i ys.length then demand ys[Number.toWord i]?
        else fail (EvalError.indexOutOfBounds i ys.length)) := by
  rw [h.length]
  split
  · exact Alike.demand Value.Like.persists (h.getElem? _)
  · exact Alike.fail _

theorem alike_map {f f' : Value} (hf : Value.Like R f f') {xs ys : List Value}
    (h : ItemsLike R xs ys) :
    Alike R Value.Like (mapList (call f) xs >>= fun vs => pure (.list vs))
      (mapList (call' f') ys >>= fun vs => pure (.list vs)) := by
  have hp := @Value.Like.persists
  refine Alike.bind (Alike.mapList hp hp (fun V hv v w hvw => ?_) (itemsLike_iff.mp h)) ?_
  · exact hcall V hv _ _ (hf.mono hv) _ _ hvw
  · exact fun V _ vs ws hvws => Alike.pure hp (.list (itemsLike_iff.mpr hvws))

theorem alike_filter {p p' : Value} (hpred : Value.Like R p p') {xs ys : List Value}
    (h : ItemsLike R xs ys) :
    Alike R Value.Like
      (filterList (fun x => call p x >>= fun verdict => pure verdict.isTrue) xs >>=
        fun vs => pure (.list vs))
      (filterList (fun x => call' p' x >>= fun verdict => pure verdict.isTrue) ys >>=
        fun vs => pure (.list vs)) := by
  have hp := @Value.Like.persists
  refine Alike.bind (Alike.filterList hp (fun V hv v w hvw => ?_) (itemsLike_iff.mp h)) ?_
  · refine Alike.bind (hcall V hv _ _ (hpred.mono hv) _ _ hvw) fun W _ x y hxy => ?_
    rw [hxy.isTrue]
    exact Alike.pure persists_eq rfl
  · exact fun V _ vs ws hvws => Alike.pure hp (.list (itemsLike_iff.mpr hvws))

theorem alike_call_two (limit : Nat) (op : Builtin) {a a' b b' : Value} (ha : Value.Like R a a')
    (hb : Value.Like R b b') :
    Alike R Value.Like (op.call call limit [a, b]) (op.call call' limit [a', b']) := by
  have hp := @Value.Like.persists
  have hheld := alike_held op (.cons ha (.cons hb .nil))
  cases op with
  | take =>
    cases ha with
    | number c =>
      cases hb with
      | list h => exact alike_slice c h (alike_front? h)
      | _ => exact hheld
    | _ => cases hb <;> exact hheld
  | skip =>
    cases ha with
    | number c =>
      cases hb with
      | list h => exact alike_slice c h (alike_back? h)
      | _ => exact hheld
    | _ => cases hb <;> exact hheld
  | nth =>
    cases ha with
    | number i =>
      cases hb with
      | list h => exact alike_nth i h
      | _ => exact hheld
    | _ => cases hb <;> exact hheld
  | map =>
    cases hb with
    | list h => exact alike_map hcall ha h
    | _ => exact hheld
  | filter =>
    cases hb with
    | list h => exact alike_filter hcall ha h
    | _ => exact hheld
  | append =>
    cases hb with
    | list h => exact Alike.pure hp (.list (h.append (.cons ha .nil)))
    | _ => exact hheld
  | split =>
    cases ha with
    | text mark =>
      cases hb with
      | text s => exact Alike.pure hp (.list (alike_parts mark s))
      | _ => exact hheld
    | _ => cases hb <;> exact hheld
  | regex =>
    cases ha with
    | text pattern =>
      cases hb with
      | text s =>
        refine Alike.bind (S := fun _ p q => p = q) (Alike.ofOption _ persists_eq ?_) ?_
        · cases Pattern.read? pattern with
          | none => exact .none
          | some p => exact .some rfl
        · rintro V _ p _ rfl
          exact Alike.pure hp (.record (fieldsLike_texts _))
      | _ => exact hheld
    | _ => cases hb <;> exact hheld
  | startsWith =>
    cases ha with
    | text front =>
      cases hb with
      | text s => exact Alike.pure hp (Value.Like.ofBool _)
      | _ => exact hheld
    | _ => cases hb <;> exact hheld
  | _ => cases ha <;> cases hb <;> exact hheld

theorem alike_call_three (limit : Nat) (op : Builtin) {a a' b b' c c' : Value}
    (ha : Value.Like R a a') (hb : Value.Like R b b') (hc : Value.Like R c c') :
    Alike R Value.Like (op.call call limit [a, b, c]) (op.call call' limit [a', b', c']) := by
  have hp := @Value.Like.persists
  have hheld := alike_held op (.cons ha (.cons hb (.cons hc .nil)))
  cases op with
  | reduce =>
    cases hc with
    | list h =>
      refine Alike.foldList hp (fun V hv v w hvw x y hxy => ?_) hp hb (itemsLike_iff.mp h)
      exact alike_foldStep (hcall.mono hv) (ha.mono hv) hvw hxy
    | _ => exact hheld
  | scan =>
    cases hc with
    | text s =>
      have hstate : Value.Like R (scanState 0.0 _) (scanState 0.0 _) :=
        .record (.cons "i" (.number 0.0) (.cons "value" hb .nil))
      exact alike_scanFrom hcall ha s.toList limit 0.0 hstate
    | _ => exact hheld
  | _ => cases ha <;> cases hb <;> exact hheld

/-- A call of a built-in function does the same to arguments that are alike. -/
theorem alike_call (limit : Nat) (op : Builtin) {held others : List Value}
    (h : ItemsLike R held others) :
    Alike R Value.Like (op.call call limit held) (op.call call' limit others) := by
  have hheld := alike_held op h
  rcases h with _ | ⟨ha, _ | ⟨hb, _ | ⟨hc, _ | ⟨hd, hrest⟩⟩⟩⟩
  · cases op <;> exact hheld
  · exact alike_call_one limit op ha
  · exact alike_call_two hcall limit op ha hb
  · exact alike_call_three hcall limit op ha hb hc
  · cases op with
    | reduce => cases hc <;> exact hheld
    | scan => cases hc <;> exact hheld
    | _ => cases ha <;> cases hb <;> exact hheld

end Builtin

/-! ## Scopes -/

namespace Eval

variable {s s' : Nat}

theorem alike_lookup (hs : R s s') (name : String) :
    Alike R Value.Like (lookup s name) (lookup s' name) := by
  intro V hle st st' hst
  have hfound := Alike.ofOption (EvalError.undefinedVariable name) Value.Like.persists
    (hst.lookup? (hle _ _ hs) name)
  exact hfound V (Pairing.Le.refl V) st st' hst

theorem alike_define (hs : R s s') (name : String) {v w : Value} (hv : Value.Like R v w) :
    Alike R (fun _ _ _ => True) (define s name v) (define s' name w) := by
  intro V hle st st' hst
  have hdefined := hst.define (hle _ _ hs) name (hv.mono hle)
  refine .done 0 (Store.size_define ..) (Store.size_define ..) ?_ trivial
  rw [Pairing.grown_zero]
  exact hdefined

theorem alike_child (hs : R s s') : Alike R (fun V a b => V a b) (child s) (child s') := by
  intro V hle st st' hst
  refine .done 1 (Store.size_child ..) (Store.size_child ..) (hst.child (hle _ _ hs)) ?_
  exact Or.inr ⟨0, Nat.one_pos, rfl, rfl⟩

end Eval

/-! ## Evaluation -/

/-- At one depth, evaluation in partners and calls from anywhere do the same to what is alike. -/
structure AlikeAt (depth : Nat) : Prop where
  evaluate : ∀ {R : Pairing} {s s' : Nat} (e : Expr), R s s' →
    Alike R Value.Like (evaluate depth s e) (evaluate depth s' e)
  apply : ∀ (R : Pairing) (caller caller' : ScopeId),
    Builtin.CallsAlike R (apply depth caller) (apply depth caller')

namespace AlikeAt

variable {depth s s' : Nat} (h : AlikeAt depth)
include h

/-- The arguments of a function, one at a time. -/
theorem arguments (hs : R s s') {f g : Value} (hfg : Value.Like R f g) (args : List Expr) :
    Alike R Value.Like
      (foldList (fun f arg => do
        if f.kind = .lambda then
          let v ← Language.evaluate depth s arg
          Language.apply depth s f v
        else Action.fail (.applyNonFunction f.kind)) f args)
      (foldList (fun f arg => do
        if f.kind = .lambda then
          let v ← Language.evaluate depth s' arg
          Language.apply depth s' f v
        else Action.fail (.applyNonFunction f.kind)) g args) := by
  refine Alike.foldList persists_eq ?_ Value.Like.persists hfg
    (List.forall₂_same.mpr fun _ _ => rfl)
  rintro V hle f g hfg arg _ rfl
  rw [hfg.kind]
  split
  · refine Alike.bind (h.evaluate arg (hle _ _ hs)) fun W hle' v w hvw => ?_
    exact h.apply R s s' W (hle.trans hle') f g (hfg.mono hle') v w hvw
  · exact Alike.fail _

/-- The stages of a pipe. -/
theorem stages (hs : R s s') {v w : Value} (hvw : Value.Like R v w) (stages : List Expr) :
    Alike R Value.Like
      (foldList (fun v stage => do
        let f ← Language.evaluate depth s stage
        Language.apply depth s f v) v stages)
      (foldList (fun v stage => do
        let f ← Language.evaluate depth s' stage
        Language.apply depth s' f v) w stages) := by
  refine Alike.foldList persists_eq ?_ Value.Like.persists hvw
    (List.forall₂_same.mpr fun _ _ => rfl)
  rintro V hle v w hvw stage _ rfl
  refine Alike.bind (h.evaluate stage (hle _ _ hs)) fun W hle' f g hfg => ?_
  exact h.apply R s s' W (hle.trans hle') f g hfg v w (hvw.mono hle')

/-- The fields of a record literal, with their names. -/
theorem fields (hs : R s s') (fields : List (String × Expr)) :
    Alike R (fun V => List.Forall₂ fun a b : String × Value => a.1 = b.1 ∧ Value.Like V a.2 b.2)
      (mapList (fun (name, field) => do
        let v ← Language.evaluate depth s field
        pure (name, v)) fields)
      (mapList (fun (name, field) => do
        let v ← Language.evaluate depth s' field
        pure (name, v)) fields) := by
  have hentry : Persists fun V (a b : String × Value) => a.1 = b.1 ∧ Value.Like V a.2 b.2 :=
    fun hle _ _ hab => ⟨hab.1, hab.2.mono hle⟩
  refine Alike.mapList persists_eq hentry ?_ (List.forall₂_same.mpr fun _ _ => rfl)
  rintro V hle ⟨name, field⟩ _ rfl
  refine Alike.bind (h.evaluate field (hle _ _ hs)) fun W _ v w hvw => ?_
  exact Alike.pure hentry ⟨rfl, hvw⟩

/-- Evaluation one level deeper. -/
theorem evaluate_succ (e : Expr) (hs : R s s') :
    Alike R Value.Like (Language.evaluate (depth + 1) s e)
      (Language.evaluate (depth + 1) s' e) := by
  have hp := @Value.Like.persists
  cases e with
  | number x => exact Alike.pure hp (.number x)
  | text t => exact Alike.pure hp (.text t)
  | ident name => exact Eval.alike_lookup hs name
  | field base fields =>
    refine Alike.bind (Eval.alike_lookup hs base) fun V hle v w hvw => ?_
    refine Alike.foldList persists_eq ?_ hp hvw (List.forall₂_same.mpr fun _ _ => rfl)
    rintro W _ v w hvw name _ rfl
    exact hvw.field name
  | bind name value next =>
    refine Alike.bind (h.evaluate value hs) fun V hle v w hvw => ?_
    refine Alike.bind (Eval.alike_define (hle _ _ hs) name hvw) fun W hle' _ _ _ => ?_
    exact h.evaluate next (hle' _ _ (hle _ _ hs))
  | lambda param body => exact Alike.pure hp (.closure param body hs)
  | record fields =>
    refine Alike.bind (h.fields hs fields) fun V _ vs ws hvws => ?_
    exact Alike.pure hp (.record (fieldsLike_of_forall₂ hvws))
  | list items =>
    refine Alike.bind (Alike.mapList persists_eq hp ?_ (List.forall₂_same.mpr fun _ _ => rfl))
      fun V _ vs ws hvws => Alike.pure hp (.list (itemsLike_iff.mpr hvws))
    rintro V hle item _ rfl
    exact h.evaluate item (hle _ _ hs)
  | cond test yes no =>
    refine Alike.bind (h.evaluate test hs) fun V hle v w hvw => ?_
    cases hvw with
    | number x =>
      dsimp only
      split
      · exact h.evaluate yes (hle _ _ hs)
      · exact h.evaluate no (hle _ _ hs)
    | _ => exact Alike.fail _
  | apply callee args =>
    refine Alike.bind (h.evaluate callee hs) fun V hle f g hfg => ?_
    exact h.arguments (hle _ _ hs) hfg args
  | pipe seed stages =>
    refine Alike.bind (h.evaluate seed hs) fun V hle v w hvw => ?_
    exact h.stages (hle _ _ hs) hvw stages
  | binary op left right =>
    refine Alike.bind (h.evaluate left hs) fun V hle a a' ha => ?_
    refine Alike.bind (h.evaluate right (hle _ _ hs)) fun W hle' b b' hb => ?_
    exact op.alike_apply (ha.mono hle') hb

/-- Calls one level deeper. -/
theorem apply_succ (R : Pairing) (caller caller' : ScopeId) :
    Builtin.CallsAlike R (Language.apply (depth + 1) caller)
      (Language.apply (depth + 1) caller') := by
  intro V hle f g hfg v w hvw
  cases hfg with
  | closure param body hhome =>
    refine Alike.bind (Eval.alike_child hhome) fun W hle' frame frame' hframe => ?_
    refine Alike.bind (Eval.alike_define hframe param (hvw.mono hle')) fun X hle'' _ _ _ => ?_
    exact h.evaluate body (hle'' _ _ hframe)
  | builtin op hheld =>
    refine Alike.bind (op.alike_accept hheld hvw) fun W hle' args args' hargs => ?_
    exact op.alike_call (h.apply W caller caller') depth hargs
  | _ => exact Alike.fail _

end AlikeAt

theorem alikeAt (depth : Nat) : AlikeAt depth := by
  induction depth with
  | zero => exact ⟨fun e _ => Alike.exhausted, fun R c c' V _ f g _ v w _ => Alike.exhausted⟩
  | succ depth ih => exact ⟨ih.evaluate_succ, ih.apply_succ⟩

/-- In partners, the same expression has values that are alike. -/
theorem evaluate_alike (depth : Nat) {s s' : Nat} (hs : R s s') (e : Expr) :
    Alike R Value.Like (evaluate depth s e) (evaluate depth s' e) :=
  (alikeAt depth).evaluate e hs

/-- In partners, the same source text has values that are alike. -/
theorem evaluateIn_alike (depth : Nat) {s s' : Nat} (hs : R s s') (source : String) :
    Alike R Value.Like (evaluateIn depth s source) (evaluateIn depth s' source) := by
  intro V hle st st' hst
  unfold evaluateIn
  rcases parseSource source with e | e
  · exact Alike.fail _ V (Pairing.Le.refl V) st st' hst
  · have hends := evaluate_alike depth hs e V hle st st' hst
    dsimp only
    generalize evaluate depth s e st = o at hends ⊢
    generalize evaluate depth s' e st' = o' at hends ⊢
    cases hends with
    | done k hsize hsize' hst hab => exact .done k hsize hsize' hst hab
    | failed cause k hsize hsize' hst => exact .failed _ k hsize hsize' hst
    | exhausted => exact .exhausted

end Patchbay.Language
