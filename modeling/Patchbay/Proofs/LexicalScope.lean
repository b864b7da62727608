-- Names mean what they mean where a function was made, never where it is called.
-- So the scope that calls a function has no say in what the call does, and a
-- program that binds every name it uses, but for those of the built-in functions,
-- never looks a name up in vain.
import Patchbay.Language.Eval
import Patchbay.Proofs.Actions
import Patchbay.Proofs.BoundNames

namespace Patchbay.Language

open Patchbay.Action

/-! ## The calling scope -/

/-- Calls one level deeper. A function of the program runs in a scope inside its own one, and
a built-in function looks nothing up: it only calls what it was given. -/
theorem apply_succ_congr {depth : Nat} {caller caller' : ScopeId}
    (h : apply depth caller = apply depth caller') :
    apply (depth + 1) caller = apply (depth + 1) caller' := by
  funext f arg
  cases f with
  | closure param body home => simp only [apply]
  | builtin op held => simp only [apply, h]
  | _ => simp only [apply]

theorem apply_congr (depth : Nat) (caller caller' : ScopeId) :
    apply depth caller = apply depth caller' := by
  induction depth with
  | zero =>
    funext f arg
    simp only [apply]
  | succ depth ih => exact apply_succ_congr ih

/-- Whichever scope calls a function, the call ends with the same value or the same error, and
with the same store. -/
theorem calling_scope_has_no_say (depth : Nat) (st : Store) (caller caller' : ScopeId)
    (f arg : Value) : apply depth caller f arg st = apply depth caller' f arg st := by
  rw [apply_congr depth caller caller']

/-! ## Computations that look no name up in vain -/

/-- The computation ends in a sound store that has grown, with a value as `D` says. Where it
fails, it is not for a name without a value. -/
def EndsWell {α : Type} (base : ScopeId) (D : Store → α → Prop) (st : Store) :
    Outcome EvalError Store α → Prop
  | .done a st' => st.Grows st' ∧ st'.Sound base ∧ D st' a
  | .failed cause _ => ∀ name, cause ≠ .undefinedVariable name
  | .exhausted => True

/-- From every sound store that `st` has grown to, the computation ends well. -/
def Safe {α : Type} (base : ScopeId) (st : Store) (D : Store → α → Prop) (x : Eval α) : Prop :=
  ∀ t, st.Grows t → t.Sound base → EndsWell base D t (x t)

/-- What holds of a value goes on to hold of it while the store grows. -/
def Lasts {α : Type} (D : Store → α → Prop) : Prop :=
  ∀ st st' : Store, st.Grows st' → ∀ a : α, D st a → D st' a

/-- The value, and all that it holds, looks up names that are bound. -/
abbrev IsScoped (base : ScopeId) : Store → Value → Prop := fun st v => v.Scoped base st

/-- The same for each value of a row. -/
abbrev AreScoped (base : ScopeId) : Store → List Value → Prop := fun st vs =>
  ∀ v ∈ vs, v.Scoped base st

theorem lasts_scoped (base : ScopeId) : Lasts (IsScoped base) := fun _ _ hg _ h => h.mono hg

theorem lasts_same {α : Type} (p : α → Prop) : Lasts fun _ a => p a := fun _ _ _ _ h => h

namespace Safe

variable {α β : Type} {base : ScopeId} {st st' : Store} {D : Store → α → Prop}
  {U : Store → β → Prop}

theorem mono {x : Eval α} (h : Safe base st D x) (hg : st.Grows st') : Safe base st' D x :=
  fun t ht => h t (hg.trans ht)

theorem pure {a : α} (hD : Lasts D) (h : D st a) : Safe base st D (pure a) :=
  fun t ht hs => ⟨Store.Grows.refl t, hs, hD st t ht a h⟩

theorem fail {cause : EvalError} (h : ∀ name, cause ≠ .undefinedVariable name) :
    Safe base st D (fail cause) := fun _ _ _ => h

theorem exhausted : Safe base st D (exhausted : Eval α) := fun _ _ _ => trivial

theorem ofOption {cause : EvalError} {o : Option α} (hD : Lasts D)
    (hcause : ∀ name, cause ≠ .undefinedVariable name) (h : ∀ a, o = some a → D st a) :
    Safe base st D (ofOption cause o) := by
  cases o with
  | none => exact fail hcause
  | some a => exact pure hD (h a rfl)

theorem demand {o : Option α} (hD : Lasts D) (h : ∀ a, o = some a → D st a) :
    Safe base st D (demand o) := by
  cases o with
  | none => exact exhausted
  | some a => exact pure hD (h a rfl)

theorem bind {x : Eval α} {f : α → Eval β} (hx : Safe base st D x)
    (hf : ∀ t a, st.Grows t → D t a → Safe base t U (f a)) : Safe base st U (x >>= f) := by
  intro t ht hs
  have hends := hx t ht hs
  change EndsWell base U t (x.andThen f t)
  unfold andThen
  generalize x t = o at hends ⊢
  cases o with
  | done a t' =>
    obtain ⟨hg, hs', ha⟩ := hends
    have hrest := hf t' a (ht.trans hg) ha t' (Store.Grows.refl t') hs'
    dsimp only
    generalize f a t' = o' at hrest ⊢
    cases o' with
    | done b t'' => exact ⟨hg.trans hrest.1, hrest.2⟩
    | failed cause t'' => exact hrest
    | exhausted => trivial
  | failed cause t' => exact hends
  | exhausted => trivial

/-! ### Lists -/

theorem mapList (hU : Lasts U) {f : α → Eval β} {xs : List α}
    (hf : ∀ a ∈ xs, Safe base st U (f a)) :
    Safe base st (fun t bs => ∀ b ∈ bs, U t b) (mapList f xs) := by
  have hall : Lasts fun t (bs : List β) => ∀ b ∈ bs, U t b :=
    fun st st' hg _ h b hb => hU st st' hg b (h b hb)
  induction xs generalizing st with
  | nil => exact pure hall (List.forall_mem_nil _)
  | cons x xs ih =>
    obtain ⟨hx, hrest⟩ := List.forall_mem_cons.mp hf
    refine bind hx fun t b hg hb => bind (ih fun a ha => (hrest a ha).mono hg) ?_
    exact fun t' bs hg' hbs => pure hall (List.forall_mem_cons.mpr ⟨hU t t' hg' b hb, hbs⟩)

theorem foldList {f : β → α → Eval β} {b : β} {xs : List α} (hU : Lasts U) (hb : U st b)
    (hf : ∀ t b, st.Grows t → U t b → ∀ a ∈ xs, Safe base t U (f b a)) :
    Safe base st U (foldList f b xs) := by
  induction xs generalizing st b with
  | nil => exact pure hU hb
  | cons x xs ih =>
    refine bind (hf st b (Store.Grows.refl st) hb x List.mem_cons_self) fun t c hg hc => ?_
    exact ih hc fun t' d hg' hd a ha => hf t' d (hg.trans hg') hd a (List.mem_cons_of_mem _ ha)

theorem filterList {f : α → Eval Bool} {xs : List α}
    (hf : ∀ a ∈ xs, Safe base st (fun _ _ => True) (f a)) :
    Safe base st (fun _ kept => ∀ a ∈ kept, a ∈ xs) (filterList f xs) := by
  induction xs with
  | nil => exact pure (lasts_same _) (List.forall_mem_nil _)
  | cons x xs ih =>
    obtain ⟨hx, hrest⟩ := List.forall_mem_cons.mp hf
    refine bind hx fun t keep hg _ => bind ((ih hrest).mono hg) fun t' kept _ hkept => ?_
    refine pure (lasts_same _) fun a ha => ?_
    have hsub : a ∈ kept → a ∈ x :: xs := fun h => List.mem_cons_of_mem _ (hkept a h)
    cases keep with
    | false => exact hsub ha
    | true =>
      rcases List.mem_cons.mp ha with rfl | ha
      · exact List.mem_cons_self
      · exact hsub ha

end Safe

/-! ## Steps on values -/

section Steps

variable {base : ScopeId} {st : Store}

theorem Value.Scoped.safe_field {v : Value} (h : v.Scoped base st) (name : String) :
    Safe base st (IsScoped base) (v.field name) := by
  cases h with
  | record h =>
    exact Safe.ofOption (lasts_scoped base) nofun fun w hw => h (name, w) (Fields.mem_of_get? hw)
  | _ => exact Safe.fail nofun

theorem Value.safe_operand (v : Value) (side : Side) (op : BinaryOp) :
    Safe base st (fun _ _ => True) (v.operand side op) := by
  unfold Value.operand
  split
  · exact Safe.pure (lasts_same _) trivial
  · exact Safe.fail nofun

theorem BinaryOp.safe_apply (op : BinaryOp) (a b : Value) :
    Safe base st (IsScoped base) (op.apply a b) := by
  unfold BinaryOp.apply
  split
  · exact Safe.pure (lasts_scoped base) (.text _)
  · exact Safe.pure (lasts_scoped base) (.number _)
  · exact Safe.bind (Value.safe_operand _ _ _) fun t x _ _ =>
      Safe.bind (Value.safe_operand _ _ _) fun t y _ _ => Safe.pure (lasts_scoped base) (.number _)

namespace Builtin

theorem safe_step (b : Builtin) {v : Value} (h : v.Scoped base st) :
    Safe base st (IsScoped base) (b.step v) := by
  unfold Builtin.step
  split
  · exact Safe.pure (lasts_scoped base) h
  · exact Safe.fail nofun

theorem safe_accept (b : Builtin) {held : List Value} {arg : Value}
    (h : ∀ v ∈ held, v.Scoped base st) (ha : arg.Scoped base st) :
    Safe base st (AreScoped base) (b.accept held arg) := by
  have hargs : Safe base st (AreScoped base) (pure (held ++ [arg])) := by
    refine Safe.pure (fun _ _ hg _ h v hv => (h v hv).mono hg) ?_
    exact List.forall_mem_append.mpr ⟨h, List.forall_mem_singleton.mpr ha⟩
  unfold Builtin.accept
  split
  · split
    · exact hargs
    · exact Safe.fail nofun
  · exact hargs

theorem safe_scanOffset (v : Value) : Safe base st (fun _ _ => True) (scanOffset v) := by
  unfold scanOffset
  split
  · split
    · exact Safe.pure (lasts_same _) trivial
    · exact Safe.fail nofun
    · exact Safe.fail nofun
  · exact Safe.fail nofun

/-- Calls are safe: of functions that look up names that are bound, on such arguments. -/
def SafeCalls (base : ScopeId) (st : Store) (call : Value → Value → Eval Value) : Prop :=
  ∀ t, st.Grows t → ∀ f v, f.Scoped base t → v.Scoped base t →
    Safe base t (IsScoped base) (call f v)

theorem SafeCalls.mono {st' : Store} {call : Value → Value → Eval Value}
    (h : SafeCalls base st call) (hg : st.Grows st') : SafeCalls base st' call :=
  fun t ht => h t (hg.trans ht)

variable {call : Value → Value → Eval Value} (hcall : SafeCalls base st call)
include hcall

theorem safe_foldStep {f carried item : Value} (hf : f.Scoped base st)
    (hc : carried.Scoped base st) (hi : item.Scoped base st) :
    Safe base st (IsScoped base) (foldStep call f carried item) := by
  refine Safe.bind (hcall st (Store.Grows.refl st) f carried hf hc) fun t next hg hn => ?_
  refine Safe.bind (safe_step reduce hn) fun t' next' hg' hn' => ?_
  exact hcall t' (hg.trans hg') next' item hn' (hi.mono (hg.trans hg'))

theorem safe_scanFrom {f : Value} (hf : f.Scoped base st) (text : List Char) (limit : Nat)
    (offset : Float) {state : Value} (hs : state.Scoped base st) :
    Safe base st (IsScoped base) (scanFrom call f text limit offset state) := by
  induction limit generalizing st offset state with
  | zero => exact Safe.exhausted
  | succ limit ih =>
    unfold scanFrom
    split
    · refine Safe.bind (hcall st (Store.Grows.refl st) f state hf hs) fun t next hg hn => ?_
      refine Safe.bind (safe_step scan hn) fun t' next' hg' hn' => ?_
      refine Safe.bind (Safe.demand (lasts_same fun _ => True) fun _ _ => trivial) ?_
      intro t₁ rest hg₁ _
      have hgt := (hg.trans hg').trans hg₁
      refine Safe.bind (hcall t₁ hgt next' _ (hn'.mono hg₁) (.text _)) fun t'' state' hg'' hs' => ?_
      refine Safe.bind (safe_scanOffset state') fun u offset' hu _ => ?_
      have hgu := (hgt.trans hg'').trans hu
      exact ih (hcall.mono hgu) (hf.mono hgu) offset' (hs'.mono hu)
    · exact Safe.pure (lasts_scoped base) hs

theorem safe_map {f : Value} {xs : List Value} (hf : f.Scoped base st)
    (hxs : ∀ x ∈ xs, x.Scoped base st) :
    Safe base st (IsScoped base) (mapList (call f) xs >>= fun ys => pure (.list ys)) := by
  refine Safe.bind (Safe.mapList (lasts_scoped base) fun x hx => ?_) fun t ys _ hys => ?_
  · exact hcall st (Store.Grows.refl st) f x hf (hxs x hx)
  · exact Safe.pure (lasts_scoped base) (.list hys)

theorem safe_filter {p : Value} {xs : List Value} (hp : p.Scoped base st)
    (hxs : ∀ x ∈ xs, x.Scoped base st) :
    Safe base st (IsScoped base)
      (filterList (fun x => call p x >>= fun verdict => pure verdict.isTrue) xs >>=
        fun kept => pure (.list kept)) := by
  refine Safe.bind (Safe.filterList fun x hx => ?_) fun t kept hg hkept => ?_
  · refine Safe.bind (hcall st (Store.Grows.refl st) p x hp (hxs x hx)) fun _ _ _ _ => ?_
    exact Safe.pure (lasts_same _) trivial
  · exact Safe.pure (lasts_scoped base) (.list fun x hx => (hxs x (hkept x hx)).mono hg)

theorem safe_reduce {f seed : Value} {xs : List Value} (hf : f.Scoped base st)
    (hseed : seed.Scoped base st) (hxs : ∀ x ∈ xs, x.Scoped base st) :
    Safe base st (IsScoped base) (foldList (foldStep call f) seed xs) := by
  refine Safe.foldList (lasts_scoped base) hseed fun t carried hg hc x hx => ?_
  exact safe_foldStep (hcall.mono hg) (hf.mono hg) hc ((hxs x hx).mono hg)

omit hcall in
theorem mem_of_front? {xs front : List Value} {n : Nat} {x : Value} (h : front? xs n = some front)
    (hx : x ∈ front) : x ∈ xs := by
  unfold front? at h
  split at h
  · cases h
    exact List.mem_of_mem_take hx
  · cases h

omit hcall in
theorem mem_of_back? {xs back : List Value} {n : Nat} {x : Value} (h : back? xs n = some back)
    (hx : x ∈ back) : x ∈ xs := by
  unfold back? at h
  split at h
  · cases h
    exact List.mem_of_mem_drop hx
  · cases h

omit hcall in
theorem safe_slice {slice : Option (List Value)}
    (h : ∀ part, slice = some part → ∀ x ∈ part, x.Scoped base st) :
    Safe base st (IsScoped base) (demand slice >>= fun part => pure (.list part)) := by
  refine Safe.bind (Safe.demand (D := AreScoped base) ?_ h) fun t part _ hpart => ?_
  · exact fun _ _ hg vs hvs v hv => (hvs v hv).mono hg
  · exact Safe.pure (lasts_scoped base) (.list hpart)

omit hcall in
theorem scoped_parts (mark text : String) : ∀ v ∈ parts mark text, v.Scoped base st := by
  intro v hv
  unfold parts at hv
  split at hv
  · obtain ⟨c, _, rfl⟩ := List.mem_map.mp hv
    exact .text _
  · obtain ⟨part, _, rfl⟩ := List.mem_map.mp hv
    exact .text _

/-- A built-in function looks up no name itself, and its value is made of what it was given and
of what it called. -/
theorem safe_call (limit : Nat) (op : Builtin) {held : List Value}
    (h : ∀ v ∈ held, v.Scoped base st) :
    Safe base st (IsScoped base) (op.call call limit held) := by
  have hp := lasts_scoped base
  unfold Builtin.call
  split
  case h_2 xs =>
    have hxs := (h (.list xs) (by simp)).items
    exact Safe.ofOption hp nofun fun x hx => hxs x (List.mem_of_head? hx)
  case h_3 xs =>
    have hxs := (h (.list xs) (by simp)).items
    exact Safe.ofOption hp nofun fun x hx => hxs x (List.mem_of_getLast? hx)
  case h_4 c xs =>
    have hxs := (h (.list xs) (by simp)).items
    exact safe_slice fun front hfront x hx => hxs x (mem_of_front? hfront hx)
  case h_5 c xs =>
    have hxs := (h (.list xs) (by simp)).items
    exact safe_slice fun back hback x hx => hxs x (mem_of_back? hback hx)
  case h_6 i xs =>
    have hxs := (h (.list xs) (by simp)).items
    split
    · exact Safe.demand hp fun x hx => hxs x (List.mem_of_getElem? hx)
    · exact Safe.fail nofun
  case h_7 f xs => exact safe_map hcall (h f (by simp)) (h (.list xs) (by simp)).items
  case h_8 p xs => exact safe_filter hcall (h p (by simp)) (h (.list xs) (by simp)).items
  case h_9 f seed xs =>
    exact safe_reduce hcall (h f (by simp)) (h seed (by simp)) (h (.list xs) (by simp)).items
  case h_10 x xs =>
    have hxs := (h (.list xs) (by simp)).items
    refine Safe.pure hp (.list (List.forall_mem_append.mpr ⟨hxs, ?_⟩))
    exact List.forall_mem_singleton.mpr (h x (by simp))
  case h_11 mark s => exact Safe.pure hp (.list (scoped_parts mark s))
  case h_12 pattern s =>
    refine Safe.bind (Safe.ofOption (lasts_same fun _ => True) nofun fun _ _ => trivial) ?_
    intro t p _ _
    refine Safe.pure hp (.record fun field hfield => ?_)
    obtain ⟨group, _, rfl⟩ := List.mem_map.mp hfield
    exact .text _
  case h_14 s =>
    refine Safe.ofOption hp nofun fun v hv => ?_
    obtain ⟨x, _, rfl⟩ := Option.map_eq_some_iff.mp hv
    exact .number x
  case h_16 f seed s =>
    have hstate : (scanState 0.0 seed).Scoped base st :=
      .record (by simpa [scanState] using ⟨.number _, h seed (by simp)⟩)
    exact safe_scanFrom hcall (h f (by simp)) _ _ _ hstate
  case h_18 => exact Safe.pure hp (.builtin _ h)
  case h_17 x => exact Safe.pure hp (.text _)
  all_goals exact Safe.pure hp (.number _)

end Builtin

end Steps

/-! ## Scopes -/

section Scopes

variable {base s : ScopeId} {names : List String} {st : Store} {name : String}

/-- A name that the scope offers has a value, which looks up names that are bound. -/
theorem Eval.safe_lookup (h : st.Offers base s names) (hname : name ∈ names) :
    Safe base st (IsScoped base) (Eval.lookup s name) := by
  intro t ht hs
  have hoffers := h.mono ht
  obtain ⟨v, hv, u, hu, hmem⟩ := (hoffers.sees name hname).lookup?
  have hbase : base ≤ u := by
    rcases List.mem_cons.mp hu with rfl | hu
    · exact hoffers.base_le
    · exact hs.outward s hoffers.base_le u hu
  unfold Eval.lookup
  rw [read_bind, hv]
  exact ⟨Store.Grows.refl t, hs, hs.values u hbase (name, v) hmem⟩

/-- From then on the scope offers the name as well. -/
theorem Eval.safe_define (h : st.Offers base s names) {value : Value}
    (hv : value.Scoped base st) (name : String) :
    Safe base st (fun t _ => t.Offers base s (name :: names)) (Eval.define s name value) := by
  intro t ht hs
  exact ⟨Store.grows_define t s name value, hs.define s name (hv.mono ht),
    (h.mono ht).define name value⟩

theorem Eval.safe_child (h : st.Offers base s names) :
    Safe base st (fun t frame => t.Offers base frame names) (Eval.child s) := by
  intro t ht hs
  exact ⟨Store.grows_child t s, hs.child h.base_le, (h.mono ht).child⟩

end Scopes

/-! ## Evaluations -/

/-- Evaluations that nest no deeper than this are safe: of expressions in scopes that offer the
names they look up, and of calls on such values, from any scope. -/
structure SafeAt (base : ScopeId) (depth : Nat) : Prop where
  evaluate : ∀ {st s names e}, e.scopedIn names = true → st.Offers base s names →
    Safe base st (IsScoped base) (evaluate depth s e)
  apply : ∀ caller st, Builtin.SafeCalls base st (apply depth caller)

namespace SafeAt

variable {base s : ScopeId} {depth : Nat} {st : Store} {names : List String}

/-- One argument after the other, each evaluated where the call stands. -/
theorem arguments (h : SafeAt base depth) (hoffers : st.Offers base s names) {f : Value}
    {args : List Expr} (hf : f.Scoped base st) (hargs : ∀ e ∈ args, e.scopedIn names = true) :
    Safe base st (IsScoped base) (foldList (fun f arg => do
      if f.kind = .lambda then
        let v ← Language.evaluate depth s arg
        Language.apply depth s f v
      else fail (.applyNonFunction f.kind)) f args) := by
  refine Safe.foldList (lasts_scoped base) hf fun t g hg hgs arg harg => ?_
  split
  · refine Safe.bind (h.evaluate (hargs arg harg) (hoffers.mono hg)) fun t' v hg' hv => ?_
    exact h.apply s t' t' (Store.Grows.refl t') g v (hgs.mono hg') hv
  · exact Safe.fail nofun

/-- One stage after the other, each evaluated where the pipe stands. -/
theorem stages (h : SafeAt base depth) (hoffers : st.Offers base s names) {seed : Value}
    {fs : List Expr} (hseed : seed.Scoped base st) (hfs : ∀ e ∈ fs, e.scopedIn names = true) :
    Safe base st (IsScoped base) (foldList (fun v stage => do
      let f ← Language.evaluate depth s stage
      Language.apply depth s f v) seed fs) := by
  refine Safe.foldList (lasts_scoped base) hseed fun t v hg hv stage hstage => ?_
  refine Safe.bind (h.evaluate (hfs stage hstage) (hoffers.mono hg)) fun t' f hg' hf => ?_
  exact h.apply s t' t' (Store.Grows.refl t') f v hf (hv.mono hg')

/-- The fields of a record, in their order. -/
theorem fields (h : SafeAt base depth) (hoffers : st.Offers base s names)
    {entries : List (String × Expr)} (hentries : ∀ entry ∈ entries, entry.2.scopedIn names = true) :
    Safe base st (fun t values => ∀ value ∈ values, IsScoped base t value.2)
      (mapList (fun (name, field) => do
        let v ← Language.evaluate depth s field
        pure (name, v)) entries) := by
  have hlasts : Lasts fun t (value : String × Value) => IsScoped base t value.2 :=
    fun st st' hg value hv => hv.mono hg
  refine Safe.mapList hlasts fun entry hentry => ?_
  refine Safe.bind (h.evaluate (hentries entry hentry) hoffers) fun t v _ hv => ?_
  exact Safe.pure hlasts hv

/-- Expressions one level deeper. A let is the one case in which the names grow. -/
theorem evaluate_succ (h : SafeAt base depth) {e : Expr} (he : e.scopedIn names = true)
    (hoffers : st.Offers base s names) :
    Safe base st (IsScoped base) (Language.evaluate (depth + 1) s e) := by
  have hp := lasts_scoped base
  cases e with
  | number x =>
    simp only [Language.evaluate]
    exact Safe.pure hp (.number x)
  | text t =>
    simp only [Language.evaluate]
    exact Safe.pure hp (.text t)
  | ident name =>
    simp only [Language.evaluate]
    exact Eval.safe_lookup hoffers (List.contains_iff_mem.mp he)
  | field root path =>
    simp only [Language.evaluate]
    refine Safe.bind (Eval.safe_lookup hoffers (List.contains_iff_mem.mp he)) fun t v _ hv => ?_
    exact Safe.foldList hp hv fun t' w _ hw name _ => hw.safe_field name
  | bind name value next =>
    obtain ⟨hvalue, hnext⟩ := Bool.and_eq_true_iff.mp he
    simp only [Language.evaluate]
    refine Safe.bind (h.evaluate hvalue hoffers) fun t v hg hv => ?_
    refine Safe.bind (Eval.safe_define (hoffers.mono hg) hv name) fun t' _ _ hnames => ?_
    exact h.evaluate hnext hnames
  | lambda param body =>
    simp only [Language.evaluate]
    exact Safe.pure hp (.closure hoffers he)
  | record entries =>
    simp only [Language.evaluate]
    refine Safe.bind (h.fields hoffers (Expr.scopedIn_of_field he)) fun t values _ hvalues => ?_
    exact Safe.pure hp (.record hvalues)
  | list items =>
    have hitems := Expr.scopedIn_of_item he
    simp only [Language.evaluate]
    refine Safe.bind (Safe.mapList hp fun e hmem => h.evaluate (hitems e hmem) hoffers) ?_
    exact fun t values _ hvalues => Safe.pure hp (.list hvalues)
  | cond test yes no =>
    obtain ⟨hboth, hno⟩ := Bool.and_eq_true_iff.mp he
    obtain ⟨htest, hyes⟩ := Bool.and_eq_true_iff.mp hboth
    simp only [Language.evaluate]
    refine Safe.bind (h.evaluate htest hoffers) fun t v hg _ => ?_
    split
    · split
      · exact h.evaluate hyes (hoffers.mono hg)
      · exact h.evaluate hno (hoffers.mono hg)
    · exact Safe.fail nofun
  | apply callee args =>
    obtain ⟨hcallee, hargs⟩ := Bool.and_eq_true_iff.mp he
    simp only [Language.evaluate]
    refine Safe.bind (h.evaluate hcallee hoffers) fun t f hg hf => ?_
    exact h.arguments (hoffers.mono hg) hf (Expr.scopedIn_of_item hargs)
  | pipe seed stages =>
    obtain ⟨hseed, hstages⟩ := Bool.and_eq_true_iff.mp he
    simp only [Language.evaluate]
    refine Safe.bind (h.evaluate hseed hoffers) fun t v hg hv => ?_
    exact h.stages (hoffers.mono hg) hv (Expr.scopedIn_of_item hstages)
  | binary op left right =>
    obtain ⟨hleft, hright⟩ := Bool.and_eq_true_iff.mp he
    simp only [Language.evaluate]
    refine Safe.bind (h.evaluate hleft hoffers) fun t a hg _ => ?_
    refine Safe.bind (h.evaluate hright (hoffers.mono hg)) fun t' b _ _ => ?_
    exact op.safe_apply a b

/-- Calls one level deeper. A function of the program runs in a new scope, which offers what the
function's own scope offers, and the parameter. -/
theorem apply_succ (h : SafeAt base depth) (caller : ScopeId) (st : Store) :
    Builtin.SafeCalls base st (Language.apply (depth + 1) caller) := by
  intro t _ f v hf hv
  cases hf with
  | closure hhome hbody =>
    -- The new scope is inside `home`. The caller, which may see less, plays no part.
    simp only [Language.apply]
    refine Safe.bind (Eval.safe_child hhome) fun u frame hg hframe => ?_
    refine Safe.bind (Eval.safe_define hframe (hv.mono hg) _) fun u' _ _ hnames => ?_
    exact h.evaluate hbody hnames
  | builtin op held =>
    simp only [Language.apply]
    refine Safe.bind (op.safe_accept held hv) fun u args _ hargs => ?_
    exact Builtin.safe_call (h.apply caller u) depth op hargs
  | _ =>
    simp only [Language.apply]
    exact Safe.fail nofun

end SafeAt

theorem safeAt (base : ScopeId) (depth : Nat) : SafeAt base depth := by
  induction depth with
  | zero =>
    refine ⟨?_, ?_⟩
    · intro st s names e _ _
      simp only [evaluate]
      exact Safe.exhausted
    · intro caller st t _ f v _ _
      simp only [apply]
      exact Safe.exhausted
  | succ depth ih => exact ⟨ih.evaluate_succ, ih.apply_succ⟩

/-! ## Programs -/

/-- The names of the built-in functions. -/
def Builtin.names : List String := Builtin.all.map Builtin.name

namespace Store

/-- A fresh scope for a program, inside a fresh one with the built-in functions. -/
def programScope (st : Store) : ScopeId × Store :=
  let (root, st) := st.rootWithBuiltins
  st.child root

theorem bindings_root {st : Store} {s : ScopeId} (h : st.size ≤ s) :
    st.root.2.bindings s = [] := by
  unfold bindings root
  rw [Array.getElem?_push, getElem?_eq_none h]
  split <;> rfl

theorem outward_root {st : Store} {s : ScopeId} (h : st.size ≤ s) :
    st.root.2.outward s = [] := by
  unfold outward root
  rw [Array.getElem?_push, getElem?_eq_none h]
  split <;> rfl

theorem sound_root (st : Store) : st.root.2.Sound st.size := by
  refine ⟨fun s hs => ?_, fun s hs => ?_⟩
  · rw [bindings_root hs]
    exact List.forall_mem_nil _
  · rw [outward_root hs]
    exact List.forall_mem_nil _

theorem offers_root (st : Store) : st.root.2.Offers st.size st.root.1 [] := by
  refine ⟨Nat.le_refl _, ?_, List.forall_mem_nil _⟩
  change st.scopes.size < (st.scopes.push _).size
  rw [Array.size_push]
  exact Nat.lt_succ_self _

/-- Functions that are bound one after the other are all offered. -/
theorem offers_builtins (bs : List Builtin) {base s : ScopeId} {names : List String} {st : Store}
    (hs : st.Sound base) (h : st.Offers base s names) :
    (bs.foldl (fun st b => st.define s b.name (.builtin b [])) st).Sound base ∧
      (bs.foldl (fun st b => st.define s b.name (.builtin b [])) st).Offers base s
        (bs.map Builtin.name ++ names) := by
  induction bs generalizing st names with
  | nil => exact ⟨hs, h⟩
  | cons b bs ih =>
    have hb : (Value.builtin b []).Scoped base st := .builtin b (List.forall_mem_nil _)
    obtain ⟨hsound, hoffers⟩ := ih (hs.define s b.name hb) (h.define b.name (.builtin b []))
    refine ⟨hsound, hoffers.of_subset fun name hmem => ?_⟩
    rcases List.mem_append.mp hmem with hmem | hmem
    · rcases List.mem_cons.mp hmem with rfl | hmem
      · exact List.mem_append_right _ List.mem_cons_self
      · exact List.mem_append_left _ hmem
    · exact List.mem_append_right _ (List.mem_cons_of_mem _ hmem)

theorem rootWithBuiltins_ready (st : Store) :
    st.rootWithBuiltins.2.Sound st.size ∧
      st.rootWithBuiltins.2.Offers st.size st.rootWithBuiltins.1 Builtin.names := by
  have h := offers_builtins Builtin.all st.sound_root st.offers_root
  rwa [List.append_nil] at h

/-- The scope of a program offers the built-in functions, and no function in it looks up more
than it should. -/
theorem programScope_ready (st : Store) :
    st.programScope.2.Sound st.size ∧
      st.programScope.2.Offers st.size st.programScope.1 Builtin.names := by
  obtain ⟨hs, h⟩ := st.rootWithBuiltins_ready
  unfold programScope
  generalize st.rootWithBuiltins = prelude at hs h
  exact ⟨hs.child h.base_le, h.child⟩

end Store

theorem EvalError.eq_of_code {cause : EvalError} (h : cause.code = "eval-undefined-variable") :
    ∃ name, cause = .undefinedVariable name := by
  cases cause with
  | undefinedVariable name => exact ⟨name, rfl⟩
  | _ => simp [code] at h

theorem evaluate_in_programScope (depth : Nat) (st : Store) {e : Expr}
    (he : e.scopedIn Builtin.names = true) {cause : EvalError} {st' : Store}
    (h : evaluate depth st.programScope.1 e st.programScope.2 = .failed cause st') :
    cause.code ≠ "eval-undefined-variable" := by
  obtain ⟨hs, hoffers⟩ := st.programScope_ready
  have hends := (safeAt st.size depth).evaluate he hoffers _ (Store.Grows.refl _) hs
  rw [h] at hends
  intro hcode
  obtain ⟨name, hname⟩ := EvalError.eq_of_code hcode
  exact hends name hname

/-- A program that binds each name it uses, but for those of the built-in functions, never fails
for a name without a value, in whichever store its scope is made, and as a text on its own. -/
theorem closed_programs_find_their_names (depth : Nat) {e : Expr}
    (he : e.scopedIn Builtin.names = true) :
    (∀ (st : Store) cause st',
      evaluate depth st.programScope.1 e st.programScope.2 = .failed cause st' →
        cause.code ≠ "eval-undefined-variable") ∧
      ∀ source, parseSource source = .ok e → ∀ cause st',
        evaluateSource depth source = .failed cause st' →
          cause.code ≠ "eval-undefined-variable" := by
  refine ⟨fun st cause st' h => evaluate_in_programScope depth st he h, ?_⟩
  intro source hparse cause st' h
  change evaluateIn depth Store.empty.programScope.1 source Store.empty.programScope.2 = _ at h
  unfold evaluateIn at h
  rw [hparse] at h
  dsimp only at h
  split at h
  · cases h
  · rename_i hfailed
    cases h
    exact evaluate_in_programScope depth _ he hfailed
  · cases h

/-- `let make = \n: { add: [\x: x + n] }; let made = make 1; map (first made.add) ["a"]` -/
def makers : Expr :=
  .bind "make" (.lambda "n" (.record [("add", .list [.lambda "x"
    (.binary .add (.ident "x") (.ident "n"))])]))
    (.bind "made" (.apply (.ident "make") [.number 1.0])
      (.apply (.ident "map") [.apply (.ident "first") [.field "made" ["add"]],
        .list [.text "a"]]))

/-- Its functions are kept in a record and a list, are called by `map`, and fail for their
operands only. -/
theorem makers_find_their_names :
    ∃ cause st', evaluate 9 Store.empty.programScope.1 makers Store.empty.programScope.2 =
        .failed cause st' ∧ cause.code = "eval-type-mismatch" ∧
      cause.code ≠ "eval-undefined-variable" := by
  have hlaw := closed_programs_find_their_names 9 (e := makers) (by decide)
  obtain ⟨cause, st', h, hcode⟩ : ∃ cause st',
      evaluate 9 Store.empty.programScope.1 makers Store.empty.programScope.2 = .failed cause st' ∧
        cause.code = "eval-type-mismatch" := ⟨_, _, rfl, rfl⟩
  exact ⟨cause, st', h, hcode, hlaw.1 Store.empty cause st' h⟩

end Patchbay.Language
