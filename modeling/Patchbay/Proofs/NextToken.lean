-- How far a parse looks. Its answer hangs on the tokens that it took and on the
-- one after them, whatever comes later, and an error shows the token at which
-- the parse stopped.
import Patchbay.Proofs.Greedy

namespace Patchbay

namespace Outcome

variable {ε σ α : Type}

/-- The same end in another state. -/
def setState (o : Outcome ε σ α) (s : σ) : Outcome ε σ α :=
  match o with
  | done a _ => done a s
  | failed cause _ => failed cause s
  | exhausted => exhausted

theorem setState_self {o : Outcome ε σ α} {s : σ} (h : o.state? = some s) : o.setState s = o := by
  cases o <;> cases h <;> rfl

theorem state?_setState {o : Outcome ε σ α} {s : σ} (h : o.state? = some s) (s' : σ) :
    (o.setState s').state? = some s' := by
  cases o <;> cases h <;> rfl

/-- What does not run out of depth ends in some state. -/
theorem Meets.exists_state? {D : α → σ → Prop} {o : Outcome ε σ α} (h : o.Meets D True False) :
    ∃ s, o.state? = some s := by
  cases o with
  | done a s => exact ⟨s, rfl⟩
  | failed cause s => exact ⟨s, rfl⟩
  | exhausted => exact h.elim

end Outcome

namespace Language

/-- Where `x` ends, `y` ends the same way on what `x` took and any rest with the same next
token. -/
theorem Settles.ends {α : Type} {x y : Parser α} (h : Settles x y) {ts rest : List Token}
    (hend : (x ts).state? = some rest) :
    ∃ used, ts = used ++ rest ∧ ∀ rest' : List Token, rest'.head? = rest.head? →
      y (used ++ rest') = (x ts).setState rest' := by
  cases hx : x ts with
  | done a rest' =>
    rw [hx] at hend
    cases hend
    exact h.done ts a rest hx
  | failed cause rest' =>
    rw [hx] at hend
    cases hend
    exact h.failed ts cause rest hx
  | exhausted =>
    rw [hx] at hend
    cases hend

/-- On the same tokens the two end the same way. -/
theorem Settles.same {α : Type} {x y : Parser α} (h : Settles x y) {ts rest : List Token}
    (hend : (x ts).state? = some rest) : y ts = x ts := by
  obtain ⟨used, hts, hsame⟩ := h.ends hend
  calc y ts
      = y (used ++ rest) := by rw [← hts]
    _ = (x ts).setState rest := hsame rest rfl
    _ = x ts := Outcome.setState_self hend

/-! ## Depth -/

/-- A parse with enough depth ends. -/
theorem exists_expr_state? {ts : List Token} {depth : Nat} (h : 8 * ts.length + 6 ≤ depth) :
    ∃ rest, (Grammar.expr depth ts).state? = some rest :=
  ((readsAt depth).expr ts.length h ts (Nat.le_refl _)).exists_state?

/-- More than enough depth changes nothing. -/
theorem expr_deeper {ts : List Token} {depth deeper : Nat} (h : 8 * ts.length + 6 ≤ depth)
    (hle : depth ≤ deeper) : Grammar.expr deeper ts = Grammar.expr depth ts := by
  obtain ⟨rest, hrest⟩ := exists_expr_state? h
  exact (settlesAt hle).expr.same hrest

/-! ## Where a parse stops -/

/-- After a parse of the tokens, with or without success, the first `k` of them are taken. -/
def StopsAt (ts : List Token) (k : Nat) : Prop :=
  k ≤ ts.length ∧ (Grammar.expr (parseDepth ts) ts).state? = some (ts.drop k)

theorem exists_stopsAt (ts : List Token) : ∃ k, StopsAt ts k := by
  obtain ⟨rest, hrest⟩ := exists_expr_state? (parseDepth_enough ts)
  obtain ⟨used, hts, _⟩ := (settlesAt (Nat.le_refl (parseDepth ts))).expr.ends hrest
  refine ⟨used.length, ?_, ?_⟩
  · rw [hts, List.length_append]
    exact Nat.le_add_right _ _
  · rw [hrest, congrArg (List.drop used.length) hts, List.drop_left]

namespace StopsAt

variable {ts ts' : List Token} {j k : Nat}

theorem unique (hj : StopsAt ts j) (hk : StopsAt ts k) : j = k := by
  have hdrop : ts.drop j = ts.drop k := Option.some.inj (hj.2.symm.trans hk.2)
  have hlen := congrArg List.length hdrop
  rw [List.length_drop, List.length_drop] at hlen
  have hjle := hj.1
  have hkle := hk.1
  omega

/-- An error shows the token at which the parse stopped. -/
theorem found (h : StopsAt ts k) {cause : ParseError} (herror : parse ts = .error cause) :
    cause.found = ts[k]? := by
  have hstate := h.2
  unfold parse at herror
  cases hend : Grammar.expr (parseDepth ts) ts with
  | done e rest =>
    rw [hend] at herror
    cases herror
  | failed expected rest =>
    rw [hend] at herror hstate
    cases herror
    cases hstate
    exact List.head?_drop
  | exhausted =>
    rw [hend] at hstate
    cases hstate

/-- Tokens that start the same, up to the one after those taken, are the ones that were taken
and a rest with the same next token. -/
theorem split_of_same (hle : k ≤ ts.length) (hsame : ∀ i ≤ k, ts'[i]? = ts[i]?) :
    k ≤ ts'.length ∧ ts' = ts.take k ++ ts'.drop k ∧ (ts'.drop k).head? = (ts.drop k).head? := by
  have htake : ts'.take k = ts.take k := by
    refine List.ext_getElem? fun i => ?_
    rw [List.getElem?_take, List.getElem?_take]
    split
    · exact hsame i (by omega)
    · rfl
  have hlen := congrArg List.length htake
  rw [List.length_take, List.length_take] at hlen
  refine ⟨by omega, ?_, ?_⟩
  · rw [← htake, List.take_append_drop]
  · rw [List.head?_drop, List.head?_drop, hsame k (Nat.le_refl k)]

/-- On other tokens with the same start the grammar ends the same way. -/
theorem expr_of_same (h : StopsAt ts k) (hsame : ∀ i ≤ k, ts'[i]? = ts[i]?) :
    Grammar.expr (parseDepth ts') ts' =
      (Grammar.expr (parseDepth ts) ts).setState (ts'.drop k) := by
  obtain ⟨_, hts', hhead⟩ := split_of_same h.1 hsame
  -- Each list has a depth of its own, so both are compared at the greater one.
  have hsettles := (settlesAt (Nat.le_max_left (parseDepth ts) (parseDepth ts'))).expr
  obtain ⟨used, hts, hends⟩ := hsettles.ends h.2
  have hused : ts.take k = used :=
    List.append_cancel_right ((List.take_append_drop k ts).trans hts)
  rw [← expr_deeper (parseDepth_enough ts') (Nat.le_max_right (parseDepth ts) (parseDepth ts')),
    ← hends _ hhead, ← hused, ← hts']

/-- The tokens after the next one do not matter. -/
theorem of_same (h : StopsAt ts k) (hsame : ∀ i ≤ k, ts'[i]? = ts[i]?) :
    StopsAt ts' k ∧ parse ts' = parse ts := by
  obtain ⟨hle, _, hhead⟩ := split_of_same h.1 hsame
  have hexpr := h.expr_of_same hsame
  refine ⟨⟨hle, ?_⟩, ?_⟩
  · rw [hexpr]
    exact Outcome.state?_setState h.2 _
  · have hstate := h.2
    unfold parse
    rw [hexpr]
    cases hend : Grammar.expr (parseDepth ts) ts with
    | done e rest => rfl
    | failed expected rest =>
      rw [hend] at hstate
      cases hstate
      exact congrArg (fun found => Except.error (ParseError.mk found expected)) hhead
    | exhausted => rfl

end StopsAt

/-- A parse stops at one place. An error shows the token there, and shows none only when all
tokens are taken. On any tokens that are the same up to that place, the one there included,
the parse stops at the same place with the same answer. -/
theorem parse_looks_one_token_ahead (ts : List Token) :
    (∃ k, StopsAt ts k ∧ ∀ j, StopsAt ts j → j = k) ∧
    ∀ k, StopsAt ts k →
      (∀ cause, parse ts = .error cause → cause.found = ts[k]?) ∧
      (∀ cause, parse ts = .error cause → cause.found = none → k = ts.length) ∧
      ∀ ts', (∀ i ≤ k, ts'[i]? = ts[i]?) → StopsAt ts' k ∧ parse ts' = parse ts := by
  constructor
  · obtain ⟨k, hk⟩ := exists_stopsAt ts
    exact ⟨k, hk, fun j hj => hj.unique hk⟩
  · intro k hk
    refine ⟨fun cause herror => hk.found herror, ?_, fun ts' hsame => hk.of_same hsame⟩
    intro cause herror hnone
    have hend : ts[k]? = none := (hk.found herror).symm.trans hnone
    exact Nat.le_antisymm hk.1 (List.getElem?_eq_none_iff.mp hend)

/-- `(x, y)`, where the comma cannot stand. -/
def groupOfTwo : List Token :=
  [.symbol .leftParen, .ident "x", .symbol .comma, .ident "y", .symbol .rightParen]

theorem groupOfTwo_fails_at_its_comma :
    StopsAt groupOfTwo 2 ∧
    ∀ more, parse (groupOfTwo.take 3 ++ more) =
      .error ⟨some (.symbol .comma), .symbol .rightParen⟩ := by
  have hstops : StopsAt groupOfTwo 2 := ⟨by decide, rfl⟩
  refine ⟨hstops, fun more => ?_⟩
  refine (((parse_looks_one_token_ahead groupOfTwo).2 2 hstops).2.2 _ ?_).2.trans rfl
  intro i hi
  match i with
  | 0 => rfl
  | 1 => rfl
  | 2 => rfl

end Language

end Patchbay
