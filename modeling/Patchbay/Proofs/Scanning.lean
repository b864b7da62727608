-- Scans. A scan goes from place to place of its text, one step of the program at
-- a time, up to the first place that is not before the end. When each step goes on
-- by one character or more, there are no more steps than characters.
import Patchbay.Proofs.DeeperEvaluation
import Patchbay.Proofs.Frames
import Patchbay.Proofs.Slices

namespace Patchbay.Language

open Patchbay.Action

/-! ## Places and steps -/

/-- How far a scan is: its state, the offset in the state, and the store. -/
structure Place where
  state : Value
  offset : Float
  store : Store

/-- What is left of a text from an offset on, when the place is in the text. -/
def restFrom? (text : List Char) (offset : Float) : Option (List Char) :=
  Builtin.back? text (Number.sliceBound offset text.length)

variable (caller : ScopeId) (f : Value) (text : List Char)

/-- `f` on the state of a place gives a function. -/
def TakesState (p : Place) (g : Value) (u : Store) : Prop :=
  Concludes (fun depth => apply depth caller f p.state) p.store (.done g u) ∧ g.kind = .lambda

/-- `f` on the state of a place gives a function, and that one gives `v` on the rest of the
text. -/
def StepGives (p : Place) (v : Value) (t : Store) : Prop :=
  ∃ g u rest, TakesState caller f p g u ∧ restFrom? text p.offset = some rest ∧
    Concludes (fun depth => apply depth caller g (.text (String.ofList rest))) u (.done v t)

variable {caller f text} in
/-- A step ends in one way only. -/
theorem StepGives.unique {p : Place} {v w : Value} {t u : Store}
    (h : StepGives caller f text p v t) (h' : StepGives caller f text p w u) :
    v = w ∧ t = u := by
  obtain ⟨g, s, rest, ⟨hcall, -⟩, hrest, hgives⟩ := h
  obtain ⟨g', s', rest', ⟨hcall', -⟩, hrest', hgives'⟩ := h'
  cases hcall.unique hcall'
  cases hrest.symm.trans hrest'
  cases hgives.unique hgives'
  exact ⟨rfl, rfl⟩

/-- The state of the place is a record whose `i` is the offset. -/
def Place.HoldsOffset (p : Place) : Prop :=
  ∃ fields, p.state = .record fields ∧ Fields.get? fields "i" = some (.number p.offset)

/-- A step to the next place: it gives the state of that place. -/
def IsStep (p q : Place) : Prop := StepGives caller f text p q.state q.store ∧ q.HoldsOffset

/-- A step that cannot be made: its error, and the store in which it fails. -/
inductive Faults (p : Place) : EvalError → Store → Prop
  | noFunction {g : Value} {t : Store}
    (h : Concludes (fun depth => apply depth caller f p.state) p.store (.done g t))
    (hg : g.kind ≠ .lambda) : Faults p (.argument .scan .lambda g.kind) t
  | noRecord {v : Value} {t : Store} (h : StepGives caller f text p v t)
    (hv : v.kind ≠ .record) : Faults p (.argument .scan .record v.kind) t
  | noOffset {fields : List (String × Value)} {t : Store}
    (h : StepGives caller f text p (.record fields) t)
    (hi : Fields.get? fields "i" = none) : Faults p (.undefinedField "i") t
  | noNumber {fields : List (String × Value)} {v : Value} {t : Store}
    (h : StepGives caller f text p (.record fields) t)
    (hi : Fields.get? fields "i" = some v) (hv : v.kind ≠ .number) :
    Faults p (.argument .scan .number v.kind) t

/-- The place is before the end of the text, so the scan goes on. -/
def Place.Before (p : Place) : Prop := p.offset < Number.ofNat text.length

/-- So many steps lead from one place to another one. -/
inductive Steps (p : Place) : Nat → Place → Prop
  | none : Steps p 0 p
  | more {k : Nat} {q r : Place} (h : Steps p k q) (hq : q.Before text)
    (hstep : IsStep caller f text q r) : Steps p (k + 1) r

/-! ## The scan goes through the steps -/

/-- The scan from a place on. -/
def scanAt (p : Place) (depth : Nat) : Eval Value :=
  Builtin.scanFrom (apply depth caller) f text depth p.offset p.state

variable {caller f text} {p q : Place} {o : Outcome EvalError Store Value}

/-- A scan that is not before the end is done. -/
theorem scanAt_end (h : ¬p.Before text) :
    Concludes (scanAt caller f text p) p.store (.done p.state p.store) := by
  refine .of_succ ⟨Outcome.done_ne_exhausted, 0, fun depth _ => ?_⟩
  unfold scanAt Builtin.scanFrom
  exact congrFun (if_neg h) p.store

/-- What a scan does at a place before the end, when the calls of the step end. -/
theorem scanAt_gives {v : Value} {t : Store} (hp : p.Before text)
    (h : StepGives caller f text p v t)
    (hnext : ∃ depth, ∀ deeper, depth ≤ deeper →
      (Builtin.scanOffset v >>= fun offset =>
        Builtin.scanFrom (apply (deeper + 1) caller) f text deeper offset v) t = o)
    (hends : o ≠ .exhausted) : Concludes (scanAt caller f text p) p.store o := by
  obtain ⟨g, u, rest, ⟨⟨-, depth₁, hcall⟩, hg⟩, hrest, ⟨-, depth₂, hgives⟩⟩ := h
  obtain ⟨depth₃, hnext⟩ := hnext
  have hstep : Builtin.scan.step g u = .done g u := congrFun (if_pos hg) u
  refine .of_succ ⟨hends, max depth₁ (max depth₂ depth₃), fun deeper hle => ?_⟩
  unfold scanAt Builtin.scanFrom
  refine (congrFun (if_pos hp) p.store).trans ?_
  rw [bind_of_done (hcall (deeper + 1) (by omega)), bind_of_done hstep]
  refine (bind_of_done (demand_of_some hrest u)).trans ?_
  refine (bind_of_done (hgives (deeper + 1) (by omega))).trans ?_
  exact hnext deeper (by omega)

/-- A step takes the scan to the next place. -/
theorem scanAt_step (hp : p.Before text) (hstep : IsStep caller f text p q)
    (h : Concludes (scanAt caller f text q) q.store o) :
    Concludes (scanAt caller f text p) p.store o := by
  obtain ⟨hgives, fields, hstate, hi⟩ := hstep
  obtain ⟨hends, depth, hall⟩ := h
  refine scanAt_gives hp hgives ⟨depth, fun deeper hle => ?_⟩ hends
  have hoffset : Builtin.scanOffset q.state q.store = .done q.offset q.store := by
    rw [hstate]
    unfold Builtin.scanOffset
    dsimp only
    rw [hi]
    rfl
  rw [bind_of_done hoffset]
  -- The calls have one more level of depth here than the rest of the scan has for itself.
  have hdeeper := (extendsAt (Nat.le_succ deeper)).apply caller
  exact Builtin.extends_scanFrom hdeeper f text (Nat.le_refl deeper) q.offset q.state q.store o
    hends (hall deeper hle)

/-- A scan fails where a step gives what has no offset in it. -/
theorem scanAt_refuses {v : Value} {t : Store} {cause : EvalError} (hp : p.Before text)
    (h : StepGives caller f text p v t) (hoffset : Builtin.scanOffset v t = .failed cause t) :
    Concludes (scanAt caller f text p) p.store (.failed cause t) :=
  scanAt_gives hp h ⟨0, fun _ _ => bind_of_failed hoffset⟩ Outcome.failed_ne_exhausted

/-- A step that cannot be made ends the scan. -/
theorem scanAt_fault {cause : EvalError} {t : Store} (hp : p.Before text)
    (h : Faults caller f text p cause t) :
    Concludes (scanAt caller f text p) p.store (.failed cause t) := by
  cases h with
  | @noFunction g t h hg =>
    obtain ⟨-, depth, hcall⟩ := h
    have hstep : Builtin.scan.step g t = .failed (.argument .scan .lambda g.kind) t :=
      congrFun (if_neg hg) t
    refine .of_succ ⟨Outcome.failed_ne_exhausted, depth, fun deeper hle => ?_⟩
    unfold scanAt Builtin.scanFrom
    refine (congrFun (if_pos hp) p.store).trans ?_
    rw [bind_of_done (hcall (deeper + 1) (by omega)), bind_of_failed hstep]
  | @noRecord v t h hv =>
    refine scanAt_refuses hp h ?_
    cases v with
    | record fields => exact absurd rfl hv
    | _ => rfl
  | @noOffset fields t h hi =>
    refine scanAt_refuses hp h ?_
    unfold Builtin.scanOffset
    dsimp only
    rw [hi]
    rfl
  | @noNumber fields v t h hi hv =>
    refine scanAt_refuses hp h ?_
    unfold Builtin.scanOffset
    dsimp only
    rw [hi]
    cases v with
    | number x => exact absurd rfl hv
    | _ => rfl

/-- However the scan ends from a place that it comes to, it ends so from the start. -/
theorem Steps.concludes {k : Nat} (hsteps : Steps caller f text p k q)
    (h : Concludes (scanAt caller f text q) q.store o) :
    Concludes (scanAt caller f text p) p.store o := by
  induction hsteps with
  | none => exact h
  | more _ hq hstep ih => exact ih (scanAt_step hq hstep h)

/-- Where a scan starts. -/
def scanStart (seed : Value) (st : Store) : Place := ⟨Builtin.scanState 0.0 seed, 0.0, st⟩

/-- The built-in function, given all its arguments, scans from the start of the text. -/
theorem scan_on (hf : f.kind = .lambda) (seed : Value) (input : String) {st : Store}
    (h : Concludes (scanAt caller f input.toList (scanStart seed st)) st o) :
    Concludes (fun depth => Builtin.scan.on [f, seed, .text input] depth caller) st o := by
  have hfirst : Concludes (fun depth => apply depth caller (.builtin .scan []) f) st
      (.done (.builtin .scan [f]) st) := builtin_concludes (if_pos hf) (.pure _ _)
  have hsecond : Concludes (fun depth => apply depth caller (.builtin .scan [f]) seed) st
      (.done (.builtin .scan [f, seed]) st) := builtin_concludes rfl (.pure _ _)
  have hthird : Concludes (fun depth => apply depth caller (.builtin .scan [f, seed])
      (.text input)) st o := builtin_concludes rfl h
  simp only [Builtin.on, foldList, bind_pure]
  exact hfirst.bind (f := fun b depth => apply depth caller b seed >>= fun b =>
    apply depth caller b (.text input))
    (hsecond.bind (f := fun b depth => apply depth caller b (.text input)) hthird)

/-! ## Steps that advance -/

/-- The calls that are made end, and each step gives a next place, whose offset is one more or
greater. -/
structure Advances (caller : ScopeId) (f : Value) (text : List Char) (start : Place) : Prop where
  calls : ∀ k p, Steps caller f text start k p → p.Before text → ∃ g u, TakesState caller f p g u ∧
    ∀ rest, restFrom? text p.offset = some rest → ∃ q : Place, q.HoldsOffset ∧
      Concludes (fun depth => apply depth caller g (.text (String.ofList rest))) u
        (.done q.state q.store)
  goesOn : ∀ k p q, Steps caller f text start k p → p.Before text → IsStep caller f text p q →
    ∃ x, Number.value? p.offset = some x ∧ Number.AtLeast q.offset (x + 1)

namespace Advances

variable {start : Place} {k : Nat} (h : Advances caller f text start)
  (hstart : start.offset = 0.0)
include h hstart

/-- After `k` steps the offset is `k` or more. -/
theorem offset_from (hsteps : Steps caller f text start k p) : Number.From p.offset k := by
  induction hsteps with
  | none =>
    rw [hstart]
    exact_mod_cast Number.zero_from
  | @more k p q hsteps hp hstep ih =>
    obtain ⟨x, hx, hle⟩ := h.goesOn k p q hsteps hp hstep
    obtain ⟨v, hv, hkv⟩ := ih.exists_value hp
    obtain rfl : v = x := Option.some.inj (hv.symm.trans hx)
    have hpos : (0 : ℚ) < v + 1 := by
      have hk : (0 : ℚ) ≤ k := Nat.cast_nonneg k
      linarith
    refine (hle.from_of_pos hpos).mono ?_
    push_cast
    linarith

/-- So there are no more steps than characters. -/
theorem steps_le (hsteps : Steps caller f text start k p) : k ≤ text.length := by
  cases hsteps with
  | none => exact Nat.zero_le _
  | @more k p q hsteps hp hstep =>
    by_contra hlt
    have hfrom := h.offset_from hstart hsteps
    have hle : (text.length : ℚ) ≤ k := by exact_mod_cast Nat.le_of_lt_succ (Nat.lt_of_not_le hlt)
    exact (hfrom.mono hle).ofNat_le.2 hp

/-- A step gets the rest of the text from the whole part of the offset on, and that place is in
the text. -/
theorem rest_eq (hsteps : Steps caller f text start k p) (hp : p.Before text) :
    ∃ x rest, Number.value? p.offset = some x ∧ 0 ≤ x ∧ restFrom? text p.offset = some rest ∧
      rest ≠ [] ∧ (text.length ≤ 2 ^ 64 → rest = text.drop ⌊x⌋₊) := by
  have hfrom := (h.offset_from hstart hsteps).mono (Nat.cast_nonneg k)
  obtain ⟨x, hx, hnonneg, hlt, hplace⟩ := hfrom.sliceBound_eq hp
  refine ⟨x, text.drop (min ⌊x⌋₊ (2 ^ 64 - 1)), hx, hnonneg, ?_, ?_, fun hroom => ?_⟩
  · unfold restFrom? Builtin.back?
    rw [hplace, if_pos (by omega)]
  · rw [ne_eq, List.drop_eq_nil_iff]
    omega
  · rw [Nat.min_eq_left (by omega)]

/-- So a step is made at each place before the end. -/
theorem makes (hsteps : Steps caller f text start k p) (hp : p.Before text) :
    ∃ q, IsStep caller f text p q := by
  obtain ⟨g, u, htakes, hgives⟩ := h.calls k p hsteps hp
  obtain ⟨x, rest, -, -, hrest, -, -⟩ := h.rest_eq hstart hsteps hp
  obtain ⟨q, hoffset, hconcludes⟩ := hgives rest hrest
  exact ⟨q, ⟨g, u, rest, htakes, hrest, hconcludes⟩, hoffset⟩

/-- And some number of them leads to the end. -/
theorem exists_end : ∃ k p, Steps caller f text start k p ∧ ¬p.Before text := by
  by_contra hnone
  have hall : ∀ k, ∃ p, Steps caller f text start k p := by
    intro k
    induction k with
    | zero => exact ⟨start, .none⟩
    | succ k ih =>
      obtain ⟨p, hp⟩ := ih
      have hbefore : p.Before text := by
        by_contra hend
        exact hnone ⟨k, p, hp, hend⟩
      obtain ⟨q, hq⟩ := h.makes hstart hp hbefore
      exact ⟨q, .more hp hbefore hq⟩
  obtain ⟨p, hp⟩ := hall (text.length + 1)
  exact Nat.not_succ_le_self _ (h.steps_le hstart hp)

end Advances

theorem not_before_nil (seed : Value) (st : Store) : ¬(scanStart seed st).Before [] :=
  Number.From.ofNat_le (n := 0) (by exact_mod_cast Number.zero_from) |>.2

/-- On no text there are no steps. -/
theorem steps_nil {seed : Value} {st : Store} {k : Nat}
    (hsteps : Steps caller f [] (scanStart seed st) k p) : k = 0 ∧ p = scanStart seed st := by
  induction hsteps with
  | none => exact ⟨rfl, rfl⟩
  | more _ hq _ ih =>
    rw [ih.2] at hq
    exact absurd hq (not_before_nil seed st)

/-- A scan whose calls end and whose steps advance by one or more makes no more steps than the text
has characters, and ends with the last state, whose offset is not below the length: by the order of
doubles, and by that of numbers where the length is a double. Each step gets a rest of the text that
is there, which is what stands from the whole part of the offset on in all texts that have no more
characters than 64 bits can count. On no text it makes no step. And a step that gives no function,
no record, or a record in which `i` is missing or is no number, ends any scan that comes to it. -/
theorem scan_ends_when_its_steps_advance (caller : ScopeId) {f : Value} (hf : f.kind = .lambda)
    (seed : Value) (input : String) (st : Store) :
    (Advances caller f input.toList (scanStart seed st) →
      ∃ k p, Steps caller f input.toList (scanStart seed st) k p ∧
        Concludes (fun depth => Builtin.scan.on [f, seed, .text input] depth caller) st
          (.done p.state p.store) ∧
        Number.ofNat input.toList.length ≤ p.offset ∧
        (input.toList.length ≤ 2 ^ 53 → Number.AtLeast p.offset input.toList.length) ∧
        ∀ j q, Steps caller f input.toList (scanStart seed st) j q →
          j ≤ input.toList.length ∧
          (q.Before input.toList → ∃ x rest, Number.value? q.offset = some x ∧ 0 ≤ x ∧
            restFrom? input.toList q.offset = some rest ∧ rest ≠ [] ∧
            (input.toList.length ≤ 2 ^ 64 → rest = input.toList.drop ⌊x⌋₊))) ∧
    (input.toList = [] →
      (∀ k p, Steps caller f input.toList (scanStart seed st) k p → k = 0) ∧
      Concludes (fun depth => Builtin.scan.on [f, seed, .text input] depth caller) st
        (.done (.record [("i", .number 0.0), ("value", seed)]) st)) ∧
    ∀ k p cause t, Steps caller f input.toList (scanStart seed st) k p → p.Before input.toList →
      Faults caller f input.toList p cause t →
      Concludes (fun depth => Builtin.scan.on [f, seed, .text input] depth caller) st
        (.failed cause t) := by
  have hscan : ∀ {k p o}, Steps caller f input.toList (scanStart seed st) k p →
      Concludes (scanAt caller f input.toList p) p.store o →
      Concludes (fun depth => Builtin.scan.on [f, seed, .text input] depth caller) st o :=
    fun hsteps h => scan_on hf seed input (hsteps.concludes h)
  refine ⟨fun h => ?_, fun hempty => ?_, fun k p cause t hsteps hp hfault => ?_⟩
  · obtain ⟨k, p, hsteps, hend⟩ := h.exists_end rfl
    obtain ⟨hle, hatLeast⟩ := (h.offset_from rfl hsteps).atLeast_of_not_lt hend
    refine ⟨k, p, hsteps, hscan hsteps (scanAt_end hend), hle, hatLeast, fun j q hj => ?_⟩
    exact ⟨h.steps_le rfl hj, fun hq => h.rest_eq rfl hj hq⟩
  · refine ⟨fun k p hsteps => ?_, hscan .none (scanAt_end ?_)⟩
    · rw [hempty] at hsteps
      exact (steps_nil hsteps).1
    · rw [hempty]
      exact not_before_nil seed st
  · exact hscan hsteps (scanAt_fault hp hfault)

/-! ## A step that reads its state and its rest -/

/-- `\state: \rest: { i: state.i + 1.5, value: state.value + rest }` -/
def joinRest (home : ScopeId) : Value :=
  .closure "state" (.lambda "rest" (.record
    [("i", .binary .add (.field "state" ["i"]) (.number 1.5)),
      ("value", .binary .add (.field "state" ["value"]) (.ident "rest"))])) home

/-- The store after a step: each of the two calls has a scope. -/
def joined (home : ScopeId) (st : Store) (state rest : Value) : Store :=
  (st.frame home "state" state).frame st.size "rest" rest

/-- The place has this offset and this text in its state, and its store has the scope the step
was made in. -/
structure Place.Joins (home : ScopeId) (p : Place) (x : Float) (s : String) : Prop where
  has : p.store.Has home
  state : p.state = Builtin.scanState x (.text s)
  offset : p.offset = x

section

variable {home : ScopeId} {st : Store} {x : Float} {s : String} {rest : List Char}

theorem evaluate_lookup {t : ScopeId} {name : String} {v : Value}
    (h : st.lookup? t name = some v) : Eval.lookup t name st = .done v st := by
  change ofOption (EvalError.undefinedVariable name) (st.lookup? t name) st = _
  rw [h]
  rfl

theorem evaluate_field {t : ScopeId} {base name : String} {v w : Value} (depth : Nat)
    (hv : st.lookup? t base = some v) (hw : v.field name st = .done w st) :
    evaluate (depth + 1) t (.field base [name]) st = .done w st :=
  (bind_of_done (evaluate_lookup hv)).trans ((bind_of_done hw).trans rfl)

theorem evaluate_named {depth : Nat} {t : ScopeId} {e : Expr} {v : Value} (name : String)
    (h : evaluate depth t e st = .done v st) :
    (evaluate depth t e >>= fun v => pure (name, v)) st = .done (name, v) st :=
  (bind_of_done h).trans rfl

theorem evaluate_record {depth : Nat} {t : ScopeId} {fields : List (String × Expr)}
    {values : List (String × Value)}
    (h : mapList (fun entry : String × Expr =>
      evaluate depth t entry.2 >>= fun v => pure (entry.1, v)) fields st = .done values st) :
    evaluate (depth + 1) t (.record fields) st = .done (.record values) st :=
  (bind_of_done h).trans rfl

theorem field_scanState (x : Float) (v : Value) (st : Store) :
    (Builtin.scanState x v).field "i" st = .done (.number x) st ∧
      (Builtin.scanState x v).field "value" st = .done v st := by
  unfold Builtin.scanState Value.field Fields.get? Fields.get?
  exact ⟨rfl, rfl⟩

/-- The body of the step, in a scope where its state and its rest are bound. -/
theorem evaluate_joinRest {t : ScopeId}
    (hstate : st.lookup? t "state" = some (Builtin.scanState x (.text s)))
    (hrest : st.lookup? t "rest" = some (.text (String.ofList rest))) :
    evaluate 3 t (.record
      [("i", .binary .add (.field "state" ["i"]) (.number 1.5)),
        ("value", .binary .add (.field "state" ["value"]) (.ident "rest"))]) st =
      .done (Builtin.scanState (x + 1.5) (.text (s ++ String.ofList rest))) st := by
  obtain ⟨hi, hvalue⟩ := field_scanState x (.text s) st
  have hfirst : evaluate 2 t (.binary .add (.field "state" ["i"]) (.number 1.5)) st =
      .done (.number (x + 1.5)) st :=
    (bind_of_done (evaluate_field 0 hstate hi)).trans rfl
  have hsecond : evaluate 2 t (.binary .add (.field "state" ["value"]) (.ident "rest")) st =
      .done (.text (s ++ String.ofList rest)) st :=
    (bind_of_done (evaluate_field 0 hstate hvalue)).trans
      ((bind_of_done (evaluate_lookup hrest)).trans rfl)
  refine evaluate_record (mapList_cons_of_done (evaluate_named "i" hfirst) ?_)
  exact mapList_cons_of_done (evaluate_named "value" hsecond) rfl

variable (h : p.Joins home x s)
include h

/-- The step takes the rest into the state, and goes on by one and a half. -/
theorem Place.Joins.gives (caller : ScopeId) :
    ∃ g u, TakesState caller (joinRest home) p g u ∧ ∀ rest : List Char,
      Concludes (fun depth => apply depth caller g (.text (String.ofList rest))) u
        (.done (Builtin.scanState (x + 1.5) (.text (s ++ String.ofList rest)))
          (joined home p.store p.state (.text (String.ofList rest)))) := by
  refine ⟨_, p.store.frame home "state" p.state,
    ⟨apply_concludes 2 Outcome.done_ne_exhausted rfl, rfl⟩, fun rest => ?_⟩
  have hself := Store.lookup?_frame_self (p.store.frame home "state" p.state) p.store.size "rest"
    (.text (String.ofList rest))
  have hne : "state" ≠ "rest" := by decide
  have houter := (h.has.frame "state" p.state).lookup?_frame hne (.text (String.ofList rest))
  rw [Store.lookup?_frame_self] at houter
  refine apply_concludes 4 Outcome.done_ne_exhausted ?_
  rw [apply_closure]
  change evaluate 3 _ _ (joined home p.store p.state (.text (String.ofList rest))) = _
  exact evaluate_joinRest (houter.trans (congrArg some h.state)) hself

theorem Place.Joins.has_joined (rest : Value) :
    (joined home p.store p.state rest).Has home := by
  have hframe := h.has.within (.frame p.store home "state" p.state)
  exact hframe.within (.frame _ p.store.size "rest" rest)

/-- So a step leads to the one place that joins the rest. -/
theorem Place.Joins.step (hrest : restFrom? text x = some rest)
    (hstep : IsStep caller (joinRest home) text p q) :
    q.Joins home (x + 1.5) (s ++ String.ofList rest) := by
  obtain ⟨hgives, fields, hfields, hi⟩ := hstep
  obtain ⟨g, u, htakes, hmade⟩ := h.gives caller
  have hrest : restFrom? text p.offset = some rest := h.offset ▸ hrest
  obtain ⟨hstate, hstore⟩ := hgives.unique ⟨g, u, rest, htakes, hrest, hmade rest⟩
  rw [hstate] at hfields
  cases hfields
  have hoffset : (x + 1.5) = q.offset := by
    unfold Fields.get? at hi
    exact Value.number.inj (Option.some.inj hi)
  exact ⟨hstore ▸ h.has_joined _, hstate, hoffset.symm⟩

end

/-- The offset and the text after each step of a scan of `abcd`. -/
def joinedTexts : Nat → Float × String
  | 0 => (0.0, "")
  | 1 => (1.5, "abcd")
  | 2 => (3.0, "abcdbcd")
  | _ => (4.5, "abcdbcdd")

theorem joinedTexts_succ : ∀ k < 3, ∃ rest ∈ ["abcd".toList, "bcd".toList, "d".toList],
    restFrom? "abcd".toList (joinedTexts k).1 = some rest ∧
      joinedTexts (k + 1) =
        ((joinedTexts k).1 + 1.5, (joinedTexts k).2 ++ String.ofList rest) := by
  decide +kernel

theorem value?_joinedTexts {k : Nat} (hk : k < 4) :
    Number.value? (joinedTexts k).1 = some ((k : ℚ) * (3 / 2)) := by
  have hunits : ∀ k < 4, Number.units? (joinedTexts k).1 =
      some ((k : Int) * (3 * (Number.unitsPerOne / 2 : Nat))) := by decide +kernel
  have hone : Number.unitsPerOne = 2 * (Number.unitsPerOne / 2) := by decide +kernel
  refine Number.value?_iff.mpr ⟨_, hunits k hk, ?_⟩
  rw [eq_div_iff (ne_of_gt Number.unitsPerOne_cast_pos)]
  generalize Number.unitsPerOne / 2 = half at hone ⊢
  rw [hone]
  push_cast
  ring

/-- A scan of `abcd` goes along these texts, and is at the end after three steps. -/
theorem joins_of_steps {home : ScopeId} {start : Place} {k : Nat} (hstart : start.Joins home 0.0 "")
    (hsteps : Steps caller (joinRest home) "abcd".toList start k p) :
    k ≤ 3 ∧ p.Joins home (joinedTexts k).1 (joinedTexts k).2 := by
  induction hsteps with
  | none => exact ⟨Nat.zero_le _, hstart⟩
  | @more k p q _ hp hstep ih =>
    obtain ⟨hle, hjoins⟩ := ih
    have hend : ¬(joinedTexts 3).1 < Number.ofNat "abcd".toList.length := by decide +kernel
    have hlt : k < 3 := by
      refine Nat.lt_of_le_of_ne hle fun heq => hend ?_
      rw [← heq, ← hjoins.offset]
      exact hp
    obtain ⟨rest, -, hrest, hnext⟩ := joinedTexts_succ k hlt
    rw [hnext]
    exact ⟨hlt, hjoins.step hrest hstep⟩

theorem joinRest_advances {home : ScopeId} {start : Place} (hstart : start.Joins home 0.0 "") :
    Advances caller (joinRest home) "abcd".toList start where
  calls k p hsteps _ := by
    obtain ⟨-, hjoins⟩ := joins_of_steps hstart hsteps
    obtain ⟨g, u, htakes, hgives⟩ := hjoins.gives caller
    refine ⟨g, u, htakes, fun rest _ => ?_⟩
    refine ⟨⟨_, (joinedTexts k).1 + 1.5, _⟩, ⟨_, rfl, ?_⟩, hgives rest⟩
    unfold Fields.get?
    rfl
  goesOn k p q hsteps hp hstep := by
    obtain ⟨-, hjoins⟩ := joins_of_steps hstart hsteps
    obtain ⟨hle, hnext⟩ := joins_of_steps hstart (.more hsteps hp hstep)
    refine ⟨k * (3 / 2), ?_, .inr ⟨(k + 1) * (3 / 2), ?_, by linarith⟩⟩
    · rw [hjoins.offset, value?_joinedTexts (by omega)]
    · rw [hnext.offset, value?_joinedTexts (by omega)]
      push_cast
      rfl

theorem four_letters_are_scanned_in_three_steps :
    (joinRest 0).kind = .lambda ∧
      Advances 0 (joinRest 0) "abcd".toList (scanStart (.text "") Store.empty.root.2) ∧
      ∃ p, Steps 0 (joinRest 0) "abcd".toList (scanStart (.text "") Store.empty.root.2) 3 p ∧
        Concludes (fun depth => Builtin.scan.on [joinRest 0, .text "", .text "abcd"] depth 0)
          Store.empty.root.2
          (.done (.record [("i", .number 4.5), ("value", .text "abcdbcdd")]) p.store) ∧
        Number.AtLeast 4.5 4 := by
  have hhas : Store.empty.root.2.Has 0 := by
    intro t ht
    rw [List.mem_singleton.mp ht]
    exact Nat.one_pos
  have hstart : (scanStart (.text "") Store.empty.root.2).Joins 0 0.0 "" := ⟨hhas, rfl, rfl⟩
  have hadvances : Advances 0 (joinRest 0) "abcd".toList _ := joinRest_advances hstart
  obtain ⟨k, p, hsteps, hends, hle, hatLeast, -⟩ :=
    (scan_ends_when_its_steps_advance 0 (f := joinRest 0) rfl (.text "") "abcd" _).1 hadvances
  obtain ⟨hk, hjoins⟩ := joins_of_steps hstart hsteps
  have hthree : k = 3 := by
    refine Nat.le_antisymm hk (Nat.le_of_not_lt fun hlt => ?_)
    rw [hjoins.offset] at hle
    revert hle
    interval_cases k <;> decide +kernel
  subst hthree
  have hatLeast := hatLeast (by decide)
  rw [hjoins.offset] at hatLeast
  rw [hjoins.state] at hends
  exact ⟨rfl, hadvances, p, hsteps, hends, by exact_mod_cast hatLeast⟩

end Patchbay.Language
