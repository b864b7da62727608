-- The list functions of the language against their definitions by `reduce` in
-- the language. A loop that calls a function on each item and a fold whose step
-- is a function of the program go through the same calls. The fold makes two
-- more scopes an item, so the stores of the two agree up to where scopes lie.
import Patchbay.Proofs.DeeperEvaluation
import Patchbay.Proofs.Frames
import Patchbay.Proofs.LexicalScope

namespace Patchbay.Language

open Patchbay.Action

/-- So a program starts in a store that points to scopes of its own. -/
theorem Store.Closed.programScope {st : Store} (h : st.Closed) : st.programScope.2.Closed := by
  have hroot : st.root.1 < st.root.2.size :=
    Nat.lt_of_lt_of_eq (Nat.lt_succ_self st.size) (Array.size_push _).symm
  refine (h.root.install hroot).child ?_
  rw [Store.size_install]
  exact hroot

/-! ## Ends of two runs -/

/-- Both ended in the same way, in stores where `R` and perhaps more scopes are partners. -/
inductive EndsPaired {ε α β : Type} (R : Pairing) (S : Pairing → α → β → Prop) :
    Outcome ε Store α → Outcome ε Store β → Prop
  | done {V : Pairing} {a : α} {b : β} {t t' : Store} (hle : R.Le V) (hst : StoreLike V t t')
      (hab : S V a b) : EndsPaired R S (.done a t) (.done b t')
  | failed {V : Pairing} {t t' : Store} (cause : ε) (hle : R.Le V) (hst : StoreLike V t t') :
    EndsPaired R S (.failed cause t) (.failed cause t')

namespace EndsPaired

variable {ε α β : Type} {R V : Pairing} {S : Pairing → α → β → Prop} {o : Outcome ε Store α}
  {o' : Outcome ε Store β}

theorem mono (h : EndsPaired V S o o') (hle : R.Le V) : EndsPaired R S o o' := by
  cases h with
  | done hle' hst hab => exact .done (hle.trans hle') hst hab
  | failed cause hle' hst => exact .failed cause (hle.trans hle') hst

theorem imp {T : Pairing → α → β → Prop} (h : EndsPaired R S o o')
    (hS : ∀ W a b, S W a b → T W a b) : EndsPaired R T o o' := by
  cases h with
  | done hle hst hab => exact .done hle hst (hS _ _ _ hab)
  | failed cause hle hst => exact .failed cause hle hst

end EndsPaired

/-- A call that ends does so in a store that is alike too, from wherever it is made. -/
theorem call_ends_paired {V : Pairing} {caller : ScopeId} {f f' x x' : Value} {st st' : Store}
    {o : Outcome EvalError Store Value}
    (h : Concludes (fun depth => apply depth caller f x) st o) (hst : StoreLike V st st')
    (hf : f.Like V f') (hx : x.Like V x') (caller' : ScopeId) :
    ∃ o', Concludes (fun depth => apply depth caller' f' x') st' o' ∧
      EndsPaired V Value.Like o o' := by
  obtain ⟨hends, depth, hall⟩ := h
  have halike := (alikeAt depth).apply V caller caller' V (Pairing.Le.refl V) f f' hf x x' hx V
    (Pairing.Le.refl V) st st' hst
  rw [hall depth (Nat.le_refl _)] at halike
  generalize ho' : apply depth caller' f' x' st' = o' at halike
  cases halike with
  | done k hsize hsize' hst' hab =>
    exact ⟨.done _ _, apply_concludes depth Outcome.done_ne_exhausted ho',
      .done (Pairing.Le.grown _ _ _) hst' hab⟩
  | failed cause k hsize hsize' hst' =>
    exact ⟨.failed cause _, apply_concludes depth Outcome.failed_ne_exhausted ho',
      .failed cause (Pairing.Le.grown _ _ _) hst'⟩
  | exhausted => exact absurd rfl hends

/-! ## Loops over lists as folds -/

/-- One turn of a loop that calls a function on each item and gathers items. -/
def gather (next : List Value → Value → Value → List Value) (call : Value → Eval Value)
    (acc : List Value) (item : Value) : Eval (List Value) := do
  let v ← call item
  pure (next acc v item)

/-- What `map` gathers: the results. -/
def mapNext (acc : List Value) (v _item : Value) : List Value := acc ++ [v]

/-- What `filter` gathers: the items whose result is true. -/
def filterNext (acc : List Value) (v item : Value) : List Value :=
  if v.isTrue then acc ++ [item] else acc

theorem mapList_eq_foldList (call : Value → Eval Value) (acc items : List Value) :
    (do
      let ys ← mapList call items
      pure (acc ++ ys)) = foldList (gather mapNext call) acc items := by
  induction items generalizing acc with
  | nil => simp [mapList, foldList]
  | cons item items ih =>
    simp only [mapList, foldList, gather, mapNext, bind_assoc, pure_bind, ← ih, List.append_assoc,
      List.singleton_append]

theorem filterList_eq_foldList (call : Value → Eval Value) (acc items : List Value) :
    (do
      let kept ← filterList (fun item => do
        let verdict ← call item
        pure verdict.isTrue) items
      pure (acc ++ kept)) = foldList (gather filterNext call) acc items := by
  induction items generalizing acc with
  | nil => simp [filterList, foldList]
  | cons item items ih =>
    simp only [filterList, foldList, gather, filterNext, bind_assoc, pure_bind, ← ih]
    congr 1
    funext v
    cases v.isTrue <;> simp

/-- The calls of `f` on the items, one after the other and up to the first that fails, all end,
and with values of the given kinds. -/
inductive CallsEnd (caller : ScopeId) (f : Value) (results : Kind → Prop) :
    List Value → Store → Prop
  | nil (st : Store) : CallsEnd caller f results [] st
  | failed {item : Value} {items : List Value} {st st' : Store} {cause : EvalError}
    (h : Concludes (fun depth => apply depth caller f item) st (.failed cause st')) :
    CallsEnd caller f results (item :: items) st
  | done {item v : Value} {items : List Value} {st st' : Store}
    (h : Concludes (fun depth => apply depth caller f item) st (.done v st'))
    (hv : results v.kind) (hrest : CallsEnd caller f results items st') :
    CallsEnd caller f results (item :: items) st

/-! ## Steps of a fold that the program gives -/

/-- `\acc:\x: body`, made in scope `s`. -/
def stepFunction (s : ScopeId) (body : Expr) : Value := .closure "acc" (.lambda "x" body) s

theorem closure_concludes {caller home : ScopeId} {param : String} {body : Expr} {arg : Value}
    {st : Store} {o : Outcome EvalError Store Value}
    (h : Concludes (fun depth => evaluate depth st.size body) (st.frame home param arg) o) :
    Concludes (fun depth => apply depth caller (.closure param body home) arg) st o := by
  obtain ⟨hends, depth, hall⟩ := h
  exact .of_succ ⟨hends, depth, fun deeper hle => (apply_closure ..).trans (hall deeper hle)⟩

/-- A step of a fold gives the function one new scope for each of its two arguments. -/
theorem foldStep_concludes {s caller : ScopeId} {body : Expr} {carried item : Value} {st : Store}
    {o : Outcome EvalError Store Value}
    (h : Concludes (fun depth => evaluate depth (st.size + 1) body)
      ((st.frame s "acc" carried).frame st.size "x" item) o) :
    Concludes (fun depth =>
      Builtin.foldStep (apply depth caller) (stepFunction s body) carried item) st o := by
  have houter : Concludes (fun depth => apply depth caller (stepFunction s body) carried) st
      (.done (.closure "x" body st.size) (st.frame s "acc" carried)) :=
    closure_concludes (lambda_concludes "x" body st.size _)
  have hinner : Concludes (fun depth => apply depth caller (.closure "x" body st.size) item)
      (st.frame s "acc" carried) o := by
    refine closure_concludes ?_
    rw [Store.size_frame]
    exact h
  exact houter.bind (f := fun next depth => Builtin.reduce.step next >>= fun next =>
    apply depth caller next item) hinner

/-- In a scope that has `acc`, `x` and the given names, the body calls `f` on `x` and gathers
as `next` does. -/
structure IsTurn (next : List Value → Value → Value → List Value) (results : Kind → Prop)
    (f : Value) (names : List (String × Value)) (body : Expr) : Prop where
  fresh : ∀ entry ∈ names, entry.1 ≠ "acc" ∧ entry.1 ≠ "x"
  done : ∀ {b : ScopeId} {st st' : Store} {acc : List Value} {item v : Value},
    (∀ entry ∈ names, st.lookup? b entry.1 = some entry.2) →
    st.lookup? b "acc" = some (.list acc) → st.lookup? b "x" = some item →
    (∀ name, st'.lookup? b name = st.lookup? b name) →
    Concludes (fun depth => apply depth b f item) st (.done v st') → results v.kind →
    Concludes (fun depth => evaluate depth b body) st (.done (.list (next acc v item)) st')
  failed : ∀ {b : ScopeId} {st st' : Store} {item : Value} {cause : EvalError},
    (∀ entry ∈ names, st.lookup? b entry.1 = some entry.2) → st.lookup? b "x" = some item →
    Concludes (fun depth => apply depth b f item) st (.failed cause st') →
    Concludes (fun depth => evaluate depth b body) st (.failed cause st')

variable {next : List Value → Value → Value → List Value} {results : Kind → Prop} {f : Value}
  {names : List (String × Value)} {body : Expr}

/-- A step of the fold does what the call of `f` on the item does, and gathers. -/
theorem IsTurn.step (hturn : IsTurn next results f names body) {s : ScopeId} {item : Value}
    {t t' : Store} {V : Pairing} {o : Outcome EvalError Store Value}
    (hcall : Concludes (fun depth => apply depth s f item) t o)
    (hresults : ∀ v u, o = .done v u → results v.kind) (hst : StoreLike V t t') (hs : V s s)
    (hf : f.Like V f) (hitem : item.Like V item)
    (hnames : ∀ entry ∈ names, t'.lookup? s entry.1 = some entry.2) (acc : List Value) :
    ∃ o', Concludes (fun depth => Builtin.foldStep (apply depth s) (stepFunction s body)
        (.list acc) item) t' o' ∧
      EndsPaired V (fun W v w => ∃ v', v.Like W v' ∧ w = .list (next acc v' item)) o o' := by
  have hhas := hst.has_right hs
  have hhas' := hhas.frame "acc" (.list acc)
  -- The store in which the body runs, and what its innermost scope sees.
  generalize hrun : (t'.frame s "acc" (.list acc)).frame t'.size "x" item = run
  have hwithin : Store.Within (fun _ => False) t' run := by
    rw [← hrun]
    exact (Store.Within.frame _ _ _ _).trans (Store.Within.frame _ _ _ _)
  have hinner : run.Has (t'.size + 1) := by
    rw [← hrun, ← Store.size_frame t' s "acc" (.list acc)]
    exact hhas'.frame "x" item
  have hx : run.lookup? (t'.size + 1) "x" = some item := by
    rw [← hrun, ← Store.size_frame t' s "acc" (.list acc)]
    exact Store.lookup?_frame_self _ _ _ _
  have houtward : ∀ {name : String}, name ≠ "x" → run.lookup? (t'.size + 1) name =
      (t'.frame s "acc" (.list acc)).lookup? t'.size name := by
    intro name hne
    rw [← hrun, ← Store.size_frame t' s "acc" (.list acc)]
    exact hhas'.lookup?_frame hne item
  have hacc : run.lookup? (t'.size + 1) "acc" = some (.list acc) := by
    rw [houtward (by decide)]
    exact Store.lookup?_frame_self _ _ _ _
  have hsees : ∀ entry ∈ names, run.lookup? (t'.size + 1) entry.1 = some entry.2 := by
    intro entry hentry
    obtain ⟨hneAcc, hneX⟩ := hturn.fresh entry hentry
    rw [houtward hneX, hhas.lookup?_frame hneAcc]
    exact hnames entry hentry
  obtain ⟨o', hcall', hends⟩ := call_ends_paired hcall (hst.within_right hwithin) hf hitem
    (t'.size + 1)
  cases hends with
  | @done W v v' u u' hle hst' hv =>
    have hkind : results v'.kind := by
      rw [← hv.kind]
      exact hresults v u rfl
    have hkeeps : ∀ name, u'.lookup? (t'.size + 1) name = run.lookup? (t'.size + 1) name := by
      obtain ⟨-, depth, hall⟩ := hcall'
      refine hinner.lookup?_within ((withinAt depth).apply (t'.size + 1) f item run u' ?_)
      rw [hall depth (Nat.le_refl _)]
      rfl
    refine ⟨.done (.list (next acc v' item)) u', foldStep_concludes ?_,
      .done hle hst' ⟨v', hv, rfl⟩⟩
    rw [hrun]
    exact hturn.done hsees hacc hx hkeeps hcall' hkind
  | @failed W u u' cause hle hst' =>
    refine ⟨.failed cause u', foldStep_concludes ?_, .failed cause hle hst'⟩
    rw [hrun]
    exact hturn.failed hsees hx hcall'

/-- The whole fold does what the loop does. `S` relates what the two have gathered. -/
theorem IsTurn.run (hturn : IsTurn next results f names body)
    {S : Pairing → List Value → List Value → Prop} (hS : Persists S)
    (hnext : ∀ {W : Pairing} {acc acc' : List Value} {v v' item : Value}, S W acc acc' →
      v.Like W v' → item.Like W item → S W (next acc v item) (next acc' v' item))
    {s : ScopeId} {items : List Value} {t : Store} (hcalls : CallsEnd s f results items t)
    {t' : Store} {V : Pairing} (hst : StoreLike V t t') (hs : V s s) (hf : f.Like V f)
    (hitems : ItemsLike V items items)
    (hnames : ∀ entry ∈ names, t'.lookup? s entry.1 = some entry.2) {acc acc' : List Value}
    (hacc : S V acc acc') :
    ∃ o o', Concludes (fun depth => foldList (gather next (apply depth s f)) acc items) t o ∧
      Concludes (fun depth => foldList (Builtin.foldStep (apply depth s) (stepFunction s body))
        (.list acc') items) t' o' ∧
      EndsPaired V (fun W xs w => ∃ ys, S W xs ys ∧ w = .list ys) o o' := by
  -- Induction on the calls, which end in one store for the loop and in another for the fold.
  induction hcalls generalizing t' V acc acc' with
  | nil t => exact ⟨_, _, .pure _ _, .pure _ _, .done (Pairing.Le.refl V) hst ⟨acc', hacc, rfl⟩⟩
  | @failed item items t u cause hcall =>
    cases hitems with
    | cons hitem hrest =>
      obtain ⟨o', hstep, hends⟩ := hturn.step hcall (fun _ _ h => by cases h) hst hs hf hitem
        hnames acc'
      cases hends with
      | @failed W _ u' _ hle hst' =>
        refine ⟨.failed cause u, .failed cause u', ?_, ?_, .failed cause hle hst'⟩
        · exact Concludes.bind_failed (f := fun acc depth =>
            foldList (gather next (apply depth s f)) acc items) hcall.bind_failed
        · exact hstep.bind_failed (f := fun carried depth =>
            foldList (Builtin.foldStep (apply depth s) (stepFunction s body)) carried items)
  | @done item v items t u hcall hv hcalls ih =>
    cases hitems with
    | cons hitem hrest =>
      obtain ⟨o', hstep, hends⟩ := hturn.step hcall
        (fun _ _ h => by cases h; exact hv) hst hs hf hitem hnames acc'
      cases hends with
      | @done W _ _ _ u' hle hst' hab =>
        obtain ⟨v', hvv, rfl⟩ := hab
        have hsees : ∀ entry ∈ names, u'.lookup? s entry.1 = some entry.2 := by
          intro entry hentry
          obtain ⟨-, depth, hall⟩ := hstep
          have hwithin := Builtin.keeps_foldStep (Store.Within.chains _)
            ((withinAt depth).apply s) (stepFunction s body) (.list acc') item t' u'
            (by rw [hall depth (Nat.le_refl _)]; rfl)
          rw [(hst.has_right hs).lookup?_within hwithin]
          exact hnames entry hentry
        obtain ⟨o₁, o₂, hloop, hfold, hends⟩ := ih hst' (hle _ _ hs) (hf.mono hle)
          (hrest.mono hle) hsees (hnext (hS hle hacc) hvv (hitem.mono hle))
        refine ⟨o₁, o₂, ?_, ?_, hends.mono hle⟩
        · exact Concludes.bind (f := fun acc depth =>
            foldList (gather next (apply depth s f)) acc items) (hcall.bind (.pure _ _)) hloop
        · exact hstep.bind (f := fun carried depth =>
            foldList (Builtin.foldStep (apply depth s) (stepFunction s body)) carried items) hfold

/-! ## `map` and `filter` -/

/-- `append (f x) acc` -/
def mapBody : Expr :=
  .apply (.ident "append") [.apply (.ident "f") [.ident "x"], .ident "acc"]

/-- `if p x then append x acc else acc` -/
def filterBody : Expr :=
  .cond (.apply (.ident "p") [.ident "x"])
    (.apply (.ident "append") [.ident "x", .ident "acc"]) (.ident "acc")

/-- `append` on an item and a list puts the item at the end. -/
theorem append_concludes {b : ScopeId} {st t : Store} {acc : List Value} {v : Value} {e : Expr}
    (happend : st.lookup? b "append" = some (.builtin .append []))
    (hv : Concludes (fun depth => evaluate depth b e) st (.done v t))
    (hacc : t.lookup? b "acc" = some (.list acc)) :
    Concludes (fun depth => evaluate depth b (.apply (.ident "append") [e, .ident "acc"])) st
      (.done (.list (acc ++ [v])) t) := by
  refine call_concludes (ident_concludes happend) ?_
  refine arguments_cons_concludes rfl hv (builtin_concludes rfl (.pure _ _)) ?_
  exact last_argument_concludes rfl (ident_concludes hacc) (builtin_concludes rfl (.pure _ _))

/-- The call of a function on the item. -/
theorem item_concludes {b : ScopeId} {name : String} {st : Store} {item : Value}
    {o : Outcome EvalError Store Value} (hf : f.kind = .lambda)
    (hname : st.lookup? b name = some f) (hx : st.lookup? b "x" = some item)
    (hcall : Concludes (fun depth => apply depth b f item) st o) :
    Concludes (fun depth => evaluate depth b (.apply (.ident name) [.ident "x"])) st o :=
  call_concludes (ident_concludes hname) (last_argument_concludes hf (ident_concludes hx) hcall)

theorem map_isTurn (hf : f.kind = .lambda) :
    IsTurn mapNext (fun _ => True) f [("f", f), ("append", .builtin .append [])] mapBody := by
  refine ⟨?_, ?_, ?_⟩
  · simp
  · intro b st st' acc item v hnames hacc hx hsame hcall _
    have hf' := hnames _ List.mem_cons_self
    have happend := hnames _ (List.mem_cons_of_mem _ List.mem_cons_self)
    exact append_concludes happend (item_concludes hf hf' hx hcall) ((hsame "acc").trans hacc)
  · intro b st st' item cause hnames hx hcall
    have hf' := hnames _ List.mem_cons_self
    have happend := hnames _ (List.mem_cons_of_mem _ List.mem_cons_self)
    exact call_concludes (ident_concludes happend)
      (argument_failed_concludes rfl (item_concludes hf hf' hx hcall))

theorem filter_isTurn {p : Value} (hp : p.kind = .lambda) :
    IsTurn filterNext (· = .number) p [("p", p), ("append", .builtin .append [])] filterBody := by
  refine ⟨?_, ?_, ?_⟩
  · simp
  · intro b st st' acc item v hnames hacc hx hsame hcall hv
    have hp' := hnames _ List.mem_cons_self
    have happend := hnames _ (List.mem_cons_of_mem _ List.mem_cons_self)
    have htest := item_concludes hp hp' hx hcall
    have hacc' := (hsame "acc").trans hacc
    cases v with
    | number z =>
      have hnext : filterNext acc (.number z) item = if z != 0.0 then acc ++ [item] else acc := rfl
      refine cond_concludes htest ?_
      rw [hnext]
      split
      · exact append_concludes ((hsame "append").trans happend)
          (ident_concludes ((hsame "x").trans hx)) hacc'
      · exact ident_concludes hacc'
    | _ => cases hv
  · intro b st st' item cause hnames hx hcall
    have hp' := hnames _ List.mem_cons_self
    exact cond_failed_concludes (item_concludes hp hp' hx hcall)

/-- `reduce (\acc:\x: body) [] xs` -/
def foldExpr (body : Expr) : Expr :=
  .apply (.ident "reduce") [.lambda "acc" (.lambda "x" body), .list [], .ident "xs"]

variable {st : Store} {s : ScopeId} {items : List Value}

theorem foldExpr_concludes {o : Outcome EvalError Store Value}
    (hreduce : st.lookup? s "reduce" = some (.builtin .reduce []))
    (hxs : st.lookup? s "xs" = some (.list items))
    (h : Concludes (fun depth => foldList (Builtin.foldStep (apply depth s) (stepFunction s body))
      (.list []) items) st o) :
    Concludes (fun depth => evaluate depth s (foldExpr body)) st o := by
  have hstep := lambda_concludes "acc" (.lambda "x" body) s st
  have hseed : Concludes (fun depth => evaluate depth s (.list [])) st (.done (.list []) st) :=
    .of_succ (.pure _ _)
  refine call_concludes (ident_concludes hreduce) ?_
  refine arguments_cons_concludes rfl hstep (builtin_concludes rfl (.pure _ _)) ?_
  refine arguments_cons_concludes rfl hseed (builtin_concludes rfl (.pure _ _)) ?_
  exact last_argument_concludes rfl (ident_concludes hxs) (builtin_concludes rfl h)

/-- A built-in function on `f` and the list, where `f` has the name `name`. -/
theorem loop_concludes (op : Builtin) {name : String} {o : Outcome EvalError Store Value}
    (hop : st.lookup? s op.name = some (.builtin op [])) (hname : st.lookup? s name = some f)
    (hxs : st.lookup? s "xs" = some (.list items)) (hf : op.accept [] f = pure [f])
    (hlist : op.accept [f] (.list items) = pure [f, .list items])
    (hheld : ∀ call limit, op.call call limit [f] = pure (.builtin op [f]))
    (hcall : ∀ call limit, op.call call limit [f, .list items] =
      foldList (gather next (call f)) [] items >>= fun xs => pure (.list xs))
    (h : Concludes (fun depth => foldList (gather next (apply depth s f)) [] items >>=
      fun xs => pure (Value.list xs)) st o) :
    Concludes (fun depth => evaluate depth s (.apply (.ident op.name) [.ident name, .ident "xs"]))
      st o := by
  have hhold : Concludes (fun depth => op.call (apply depth s) depth [f]) st
      (.done (.builtin op [f]) st) := by
    simp only [hheld]
    exact .pure _ _
  have hloop : Concludes (fun depth => op.call (apply depth s) depth [f, .list items]) st o := by
    simp only [hcall]
    exact h
  refine call_concludes (ident_concludes hop) ?_
  refine arguments_cons_concludes rfl (ident_concludes hname) (builtin_concludes hf hhold) ?_
  exact last_argument_concludes rfl (ident_concludes hxs) (builtin_concludes hlist hloop)

theorem map_concludes {o : Outcome EvalError Store Value}
    (hmap : st.lookup? s "map" = some (.builtin .map []))
    (hf' : st.lookup? s "f" = some f) (hxs : st.lookup? s "xs" = some (.list items))
    (hf : f.kind = .lambda)
    (h : Concludes (fun depth => foldList (gather mapNext (apply depth s f)) [] items >>=
      fun xs => pure (Value.list xs)) st o) :
    Concludes (fun depth => evaluate depth s (.apply (.ident "map") [.ident "f", .ident "xs"]))
      st o := by
  refine loop_concludes .map hmap hf' hxs ?_ rfl (fun _ _ => rfl) (fun call limit => ?_) h
  · exact if_pos hf
  · rw [← mapList_eq_foldList]
    simp only [List.nil_append, bind_pure]
    rfl

theorem filter_concludes {p : Value} {o : Outcome EvalError Store Value}
    (hfilter : st.lookup? s "filter" = some (.builtin .filter []))
    (hp' : st.lookup? s "p" = some p) (hxs : st.lookup? s "xs" = some (.list items))
    (hp : p.kind = .lambda)
    (h : Concludes (fun depth => foldList (gather filterNext (apply depth s p)) [] items >>=
      fun xs => pure (Value.list xs)) st o) :
    Concludes (fun depth => evaluate depth s (.apply (.ident "filter") [.ident "p", .ident "xs"]))
      st o := by
  refine loop_concludes .filter hfilter hp' hxs ?_ rfl (fun _ _ => rfl) (fun call limit => ?_) h
  · exact if_pos hp
  · rw [← filterList_eq_foldList]
    simp only [List.nil_append, bind_pure]
    rfl

/-- A loop and a fold with the same turns, as source texts, end the same way. -/
theorem IsTurn.texts_end_paired (hturn : IsTurn next results f names body)
    {S : Pairing → List Value → List Value → Prop} (hS : Persists S)
    (hnext : ∀ {W : Pairing} {acc acc' : List Value} {v v' item : Value}, S W acc acc' →
      v.Like W v' → item.Like W item → S W (next acc v item) (next acc' v' item))
    (hnil : S (.upTo st.size) [] []) {loopText foldText : String} {loop : Expr}
    (hloopText : parseSource loopText = .ok loop)
    (hfoldText : parseSource foldText = .ok (foldExpr body))
    (hloop : ∀ {o}, Concludes (fun depth => foldList (gather next (apply depth s f)) [] items >>=
        fun xs => pure (Value.list xs)) st o →
      Concludes (fun depth => evaluate depth s loop) st o)
    (hclosed : st.Closed) (hreduce : st.lookup? s "reduce" = some (.builtin .reduce []))
    (hxs : st.lookup? s "xs" = some (.list items))
    (hnames : ∀ entry ∈ names, st.lookup? s entry.1 = some entry.2)
    (hf : f.Like (.upTo st.size) f) (hcalls : CallsEnd s f results items st) :
    ∃ o o', Concludes (fun depth => evaluateIn depth s loopText) st o ∧
      Concludes (fun depth => evaluateIn depth s foldText) st o' ∧
      EndsPaired (.upTo st.size)
        (fun W v w => ∃ xs ys, S W xs ys ∧ v = .list xs ∧ w = .list ys) o o' := by
  have hitems : ItemsLike (.upTo st.size) items items := by
    cases hclosed.like_of_lookup? hxs with
    | list h => exact h
  have hs : Pairing.upTo st.size s s := ⟨rfl, Store.lt_size_of_lookup? hxs⟩
  obtain ⟨o, o', hrun, hfold, hends⟩ := hturn.run hS hnext hcalls hclosed hs hf hitems hnames hnil
  cases hends with
  | @done W xs w t t' hle hst hab =>
    obtain ⟨ys, hys, rfl⟩ := hab
    refine ⟨.done (.list xs) t, .done (.list ys) t', ?_, ?_, .done hle hst ⟨xs, ys, hys, rfl, rfl⟩⟩
    · exact evaluateIn_concludes hloopText (hloop (hrun.bind (.pure _ _)))
    · exact evaluateIn_concludes hfoldText (foldExpr_concludes hreduce hxs hfold)
  | @failed W t t' cause hle hst =>
    refine ⟨.failed (.eval cause) t, .failed (.eval cause) t', ?_, ?_, .failed _ hle hst⟩
    · exact evaluateIn_failed_concludes hloopText (hloop hrun.bind_failed)
    · exact evaluateIn_failed_concludes hfoldText (foldExpr_concludes hreduce hxs hfold)

/-! ## The two texts -/

theorem parseSource_of_tokens {source : String} {e : Expr} (ts : List Token)
    (htokens : tokenize source = .ok ts) (hparse : parse ts = .ok e) :
    parseSource source = .ok e := by
  unfold parseSource
  rw [htokens]
  dsimp only
  rw [hparse]

theorem parseSource_map :
    parseSource "map f xs" = .ok (.apply (.ident "map") [.ident "f", .ident "xs"]) :=
  parseSource_of_tokens [.ident "map", .ident "f", .ident "xs"] (by decide +kernel) rfl

theorem parseSource_mapFold :
    parseSource "reduce (\\acc:\\x: append (f x) acc) [] xs" = .ok (foldExpr mapBody) :=
  parseSource_of_tokens
    [.ident "reduce", .symbol .leftParen, .symbol .backslash, .ident "acc", .symbol .colon,
      .symbol .backslash, .ident "x", .symbol .colon, .ident "append", .symbol .leftParen,
      .ident "f", .ident "x", .symbol .rightParen, .ident "acc", .symbol .rightParen,
      .symbol .leftBracket, .symbol .rightBracket, .ident "xs"]
    (by decide +kernel) rfl

theorem parseSource_filter :
    parseSource "filter p xs" = .ok (.apply (.ident "filter") [.ident "p", .ident "xs"]) :=
  parseSource_of_tokens [.ident "filter", .ident "p", .ident "xs"] (by decide +kernel) rfl

theorem parseSource_filterFold :
    parseSource "reduce (\\acc:\\x: if p x then append x acc else acc) [] xs" =
      .ok (foldExpr filterBody) :=
  parseSource_of_tokens
    [.ident "reduce", .symbol .leftParen, .symbol .backslash, .ident "acc", .symbol .colon,
      .symbol .backslash, .ident "x", .symbol .colon, .symbol .ifWord, .ident "p", .ident "x",
      .symbol .thenWord, .ident "append", .ident "x", .ident "acc", .symbol .elseWord,
      .ident "acc", .symbol .rightParen, .symbol .leftBracket, .symbol .rightBracket, .ident "xs"]
    (by decide +kernel) rfl

/-- Where `map`, `filter`, `reduce` and `append` are the built-in functions, and all calls of the
function that they make end, `map` and `filter` do what `reduce` does with a step in the language:
they end with the same error, or with values that are the same but for the places of new scopes.
A value of `filter` has no new scopes in it, and its function gives numbers. -/
theorem map_and_filter_agree_with_reduce {st : Store} (hclosed : st.Closed) {s : ScopeId}
    (hbuiltins : ∀ op ∈ [Builtin.map, .filter, .reduce, .append],
      st.lookup? s op.name = some (.builtin op []))
    {items : List Value} (hxs : st.lookup? s "xs" = some (.list items)) :
    (∀ f, st.lookup? s "f" = some f → f.kind = .lambda →
      CallsEnd s f (fun _ => True) items st →
      ∃ o o', Concludes (fun depth => evaluateIn depth s "map f xs") st o ∧
        Concludes (fun depth => evaluateIn depth s
          "reduce (\\acc:\\x: append (f x) acc) [] xs") st o' ∧
        EndsPaired (.upTo st.size) Value.Like o o') ∧
    ∀ p, st.lookup? s "p" = some p → p.kind = .lambda → CallsEnd s p (· = .number) items st →
      ∃ o o', Concludes (fun depth => evaluateIn depth s "filter p xs") st o ∧
        Concludes (fun depth => evaluateIn depth s
          "reduce (\\acc:\\x: if p x then append x acc else acc) [] xs") st o' ∧
        EndsPaired (.upTo st.size) (fun _ v w => v = w) o o' := by
  have hmap := hbuiltins .map (by simp)
  have hfilter := hbuiltins .filter (by simp)
  have hreduce := hbuiltins .reduce (by simp)
  have happend := hbuiltins .append (by simp)
  constructor
  · intro f hf hkind hcalls
    have hnames : ∀ entry ∈ [("f", f), ("append", Value.builtin .append [])],
        st.lookup? s entry.1 = some entry.2 :=
      List.forall_mem_cons.mpr ⟨hf, List.forall_mem_cons.mpr ⟨happend, List.forall_mem_nil _⟩⟩
    obtain ⟨o, o', hmap, hfold, hends⟩ := (map_isTurn hkind).texts_end_paired ItemsLike.persists
      (fun hacc hv _ => hacc.append (.cons hv .nil)) .nil parseSource_map parseSource_mapFold
      (map_concludes hmap hf hxs hkind) hclosed hreduce hxs hnames (hclosed.like_of_lookup? hf)
      hcalls
    refine ⟨o, o', hmap, hfold, hends.imp ?_⟩
    rintro W _ _ ⟨xs, ys, hlike, rfl, rfl⟩
    exact .list hlike
  · intro p hp hkind hcalls
    have hnames : ∀ entry ∈ [("p", p), ("append", Value.builtin .append [])],
        st.lookup? s entry.1 = some entry.2 :=
      List.forall_mem_cons.mpr ⟨hp, List.forall_mem_cons.mpr ⟨happend, List.forall_mem_nil _⟩⟩
    have hnext : ∀ {W : Pairing} {acc acc' : List Value} {v v' item : Value}, acc = acc' →
        v.Like W v' → item.Like W item → filterNext acc v item = filterNext acc' v' item := by
      rintro W acc _ v v' item rfl hv _
      unfold filterNext
      rw [hv.isTrue]
    obtain ⟨o, o', hfilter, hfold, hends⟩ := (filter_isTurn hkind).texts_end_paired persists_eq
      hnext rfl parseSource_filter parseSource_filterFold (filter_concludes hfilter hp hxs hkind)
      hclosed hreduce hxs hnames (hclosed.like_of_lookup? hp) hcalls
    refine ⟨o, o', hfilter, hfold, hends.imp ?_⟩
    rintro W _ _ ⟨xs, ys, rfl, rfl, rfl⟩
    rfl

/-- The scope of a program with a function that makes functions, a predicate, and a list. -/
def listStore : Store :=
  let st := Store.empty.programScope.2
  let st := st.define 1 "f" (.closure "n" (.lambda "m" (.ident "n")) 1)
  let st := st.define 1 "p" (.closure "n" (.ident "n") 1)
  st.define 1 "xs" (.list [.number (0.0 / 0.0), .number 0.0])

theorem listStore_closed : listStore.Closed := by
  refine ((Store.Closed.empty.programScope.define ?_ _ ?_).define ?_ _ ?_).define ?_ _ ?_
  · exact Nat.lt_succ_self 1
  · exact .closure _ _ ⟨rfl, Nat.lt_succ_self 1⟩
  · exact Nat.lt_succ_self 1
  · exact .closure _ _ ⟨rfl, Nat.lt_succ_self 1⟩
  · exact Nat.lt_succ_self 1
  · exact .list (.cons (.number _) (.cons (.number _) .nil))

theorem listStore_map_and_filter_are_folds :
    (∃ o o', Concludes (fun depth => evaluateIn depth 1 "map f xs") listStore o ∧
      Concludes (fun depth => evaluateIn depth 1
        "reduce (\\acc:\\x: append (f x) acc) [] xs") listStore o' ∧
      EndsPaired (.upTo listStore.size) Value.Like o o') ∧
    ∃ o o', Concludes (fun depth => evaluateIn depth 1 "filter p xs") listStore o ∧
      Concludes (fun depth => evaluateIn depth 1
        "reduce (\\acc:\\x: if p x then append x acc else acc) [] xs") listStore o' ∧
      EndsPaired (.upTo listStore.size) (fun _ v w => v = w) o o' := by
  have hlaw := map_and_filter_agree_with_reduce listStore_closed (s := 1)
    (by
      simp only [List.forall_mem_cons]
      exact ⟨rfl, rfl, rfl, rfl, List.forall_mem_nil _⟩) rfl
  refine ⟨hlaw.1 _ rfl rfl ?_, hlaw.2 _ rfl rfl ?_⟩
  · refine .done (apply_concludes 2 Outcome.done_ne_exhausted rfl) trivial ?_
    exact .done (apply_concludes 2 Outcome.done_ne_exhausted rfl) trivial (.nil _)
  · refine .done (apply_concludes 2 Outcome.done_ne_exhausted rfl) rfl ?_
    exact .done (apply_concludes 2 Outcome.done_ne_exhausted rfl) rfl (.nil _)

end Patchbay.Language
