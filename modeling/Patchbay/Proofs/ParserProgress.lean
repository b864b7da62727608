-- The parser always ends. Each routine takes a token at least when it gives a value,
-- and it never goes past the end, so each loop has no more rounds than tokens are left,
-- and the calls go down by seven at most for each of these tokens.
import Patchbay.Proofs.TokenWalks

namespace Patchbay.Language

/-! ## Where a walk ends -/

/-- The cursor `t` is on the tokens of `s`, `k` tokens further at least and not past the end. -/
structure Cursor.Reaches (s : Cursor) (k : Nat) (t : Cursor) : Prop where
  tokens : t.tokens = s.tokens
  least : s.place + k ≤ t.place
  most : t.place ≤ s.tokens.length

/-- A walk from `s` ends within the tokens, and with a value `a` after `k a` of them at least. -/
inductive EndsAfter {α : Type} (s : Cursor) (k : α → Nat) : Outcome Expected Cursor α → Prop
  | done {a : α} {t : Cursor} (h : s.Reaches (k a) t) : EndsAfter s k (.done a t)
  | failed {cause : Expected} {t : Cursor} (h : s.Reaches 0 t) : EndsAfter s k (.failed cause t)

variable {α β : Type} {s t : Cursor}

theorem Cursor.place_lt {next : Token} (h : s.next? = some next) : s.place < s.tokens.length :=
  (List.getElem?_eq_some_iff.mp h).1

theorem Cursor.Reaches.mono {j k : Nat} (h : s.Reaches k t) (hle : j ≤ k) : s.Reaches j t :=
  ⟨h.tokens, Nat.le_trans (Nat.add_le_add_left hle _) h.least, h.most⟩

theorem Cursor.Reaches.trans {j k : Nat} {u : Cursor} (h : s.Reaches j t) (h' : t.Reaches k u) :
    s.Reaches (j + k) u := by
  obtain ⟨htokens, hleast, hmost⟩ := h
  obtain ⟨htokens', hleast', hmost'⟩ := h'
  rw [htokens] at hmost' htokens'
  exact ⟨htokens', by omega, hmost'⟩

namespace EndsAfter

variable {k : α → Nat} {o : Outcome Expected Cursor α}

/-- What ends after a token was reached, ends after all the tokens before it too. -/
theorem trans {j : Nat} (h : s.Reaches j t) (ho : EndsAfter t (fun a => k a - j) o) :
    EndsAfter s k o := by
  cases ho with
  | done h' => exact .done ((h.trans h').mono (by omega))
  | failed h' => exact .failed ((h.trans h').mono (Nat.zero_le _))

theorem ne_exhausted (h : EndsAfter s k o) : o ≠ .exhausted := by
  rintro rfl
  cases h

end EndsAfter

/-! ## Walks that end -/

/-- From a cursor within its tokens, with at most `n` of them left, the walk ends so. -/
def Progresses (n : Nat) (k : α → Nat) (x : Walk α) : Prop :=
  ∀ s : Cursor, s.place ≤ s.tokens.length → s.tokens.length ≤ s.place + n → EndsAfter s k (x s)

/-- The same when the next token is `t`. -/
def ProgressesFrom (t : Token) (n : Nat) (k : α → Nat) (x : Walk α) : Prop :=
  ∀ s : Cursor, s.next? = some t → s.tokens.length ≤ s.place + n → EndsAfter s k (x s)

namespace Progresses

variable {n : Nat} {k : β → Nat}

theorem pure {b : β} (h : k b = 0) : Progresses n k (pure b) :=
  fun _ hs _ => .done ⟨rfl, by omega, hs⟩

theorem fail (cause : Expected) : Progresses n k (Action.fail cause) :=
  fun _ hs _ => .failed ⟨rfl, Nat.le_refl _, hs⟩

theorem mono {m : Nat} {x : Walk β} (h : Progresses n k x) (hle : m ≤ n) : Progresses m k x :=
  fun s hs hm => h s hs (by omega)

theorem bind {j : α → Nat} {x : Walk α} {f : α → Walk β} (hx : Progresses n j x)
    (hf : ∀ a, j a ≤ n → Progresses (n - j a) (fun b => k b - j a) (f a)) :
    Progresses n k (x >>= f) := by
  intro s hs hn
  have hend := hx s hs hn
  cases h : x s with
  | done a t =>
    rw [h] at hend
    obtain ⟨hreach⟩ := hend
    have hleast := hreach.least
    have hmost := hreach.most
    rw [Action.bind_of_done h]
    refine .trans hreach (hf a (by omega) t ?_ ?_)
    · rwa [hreach.tokens]
    · rw [hreach.tokens]
      omega
  | failed cause t =>
    rw [h] at hend
    obtain - | ⟨hreach⟩ := hend
    rw [Action.bind_of_failed h]
    exact .failed hreach
  | exhausted =>
    rw [h] at hend
    cases hend

/-- What is done once the next token has been looked at. -/
theorem peek {f : Option Token → Walk β} (hnone : Progresses n k (f none))
    (hsome : ∀ t, 0 < n → ProgressesFrom t n k (f (some t))) :
    Progresses n k (Walk.peek >>= f) := by
  intro s hs hn
  rw [Walk.peek_bind]
  cases ht : s.next? with
  | none => exact hnone s hs hn
  | some t =>
    have hlt := Cursor.place_lt ht
    exact hsome t (by omega) s ht hn

theorem from_token {t : Token} {x : Walk β} (h : Progresses n k x) : ProgressesFrom t n k x := by
  intro s ht hn
  exact h s (Nat.le_of_lt (Cursor.place_lt ht)) hn

theorem advance {t : Token} {x : Walk β} (h : Progresses (n - 1) (fun b => k b - 1) x) :
    ProgressesFrom t n k (Walk.advance >>= fun _ => x) := by
  intro s ht hn
  have hlt := Cursor.place_lt ht
  have hreach : s.Reaches 1 s.step := ⟨rfl, Nat.le_refl _, hlt⟩
  refine .trans hreach (h s.step hlt ?_)
  change s.tokens.length ≤ s.place + 1 + (n - 1)
  omega

theorem eat {mark : Symbol} {f : Bool → Walk β}
    (htrue : 0 < n → Progresses (n - 1) (fun b => k b - 1) (f true))
    (hfalse : Progresses n k (f false)) : Progresses n k (Walk.eat mark >>= f) := by
  unfold Walk.eat
  rw [bind_assoc]
  refine peek ?_ fun t hn => ?_
  · exact hfalse
  · by_cases ht : t = .symbol mark
    · rw [if_pos (congrArg some ht), bind_assoc]
      exact advance (htrue hn)
    · rw [if_neg fun h => ht (Option.some.inj h)]
      exact from_token hfalse

theorem expect {mark : Symbol} {f : Unit → Walk β}
    (h : 0 < n → Progresses (n - 1) (fun b => k b - 1) (f ())) :
    Progresses n k (Walk.expect mark >>= f) := by
  unfold Walk.expect
  rw [bind_assoc]
  exact eat h (fail _)

theorem ident {f : String → Walk β}
    (h : ∀ name, 0 < n → Progresses (n - 1) (fun b => k b - 1) (f name)) :
    Progresses n k (Walk.ident >>= f) := by
  unfold Walk.ident
  rw [bind_assoc]
  refine peek (fail _) fun t hn => ?_
  cases t with
  | ident name => exact advance (h name hn)
  | _ => exact from_token (fail _)

theorem operator? {op? : Symbol → Option BinaryOp} {f : Option BinaryOp → Walk β}
    (hsome : ∀ op, 0 < n → Progresses (n - 1) (fun b => k b - 1) (f (some op)))
    (hnone : Progresses n k (f none)) : Progresses n k (Walk.operator? op? >>= f) := by
  unfold Walk.operator?
  rw [bind_assoc]
  refine peek hnone fun t hn => ?_
  cases t with
  | symbol mark =>
    cases hop : op? mark with
    | some op =>
      simp only [hop]
      exact advance (hsome op hn)
    | none =>
      simp only [hop]
      exact from_token hnone
  | _ => exact from_token hnone

theorem chain {op? : Symbol → Option BinaryOp} {operand same : Walk Expr}
    (hoperand : Progresses n (fun _ => 1) operand)
    (hsame : ∀ m, m + 2 ≤ n → Progresses m (fun _ => 1) same) :
    Progresses n (fun _ => 1) (Walk.chain op? operand same) := by
  refine bind hoperand fun left hn => operator? (fun op hn' => ?_) (pure rfl)
  exact bind (hsame _ (by omega)) fun right _ => pure rfl

/-! ## Loops -/

/-- A loop has a token at least for each round. -/
theorem whileTrue {test : Walk Bool} {body : Walk α} (htest : Progresses n (fun _ => 0) test)
    (hbody : Progresses n (fun _ => 1) body) {limit : Nat} (hn : n < limit) :
    Progresses n List.length (Walk.whileTrue test body limit) := by
  induction limit generalizing n with
  | zero => omega
  | succ limit ih =>
    refine bind htest fun again _ => ?_
    split
    · refine bind (hbody.mono (Nat.sub_le n 0)) fun a hpos => ?_
      -- The token of the body pays for this round, so the limit is enough for the others.
      have hrest := ih (htest.mono (m := n - 0 - 1) (by omega)) (hbody.mono (by omega)) (by omega)
      exact bind hrest fun rest _ => pure (by simp)
    · exact pure rfl

theorem listed {close : Symbol} {part : Walk α} (hpart : Progresses n (fun _ => 1) part)
    {limit : Nat} (hn : n < limit) :
    Progresses n List.length (Walk.listed close part limit) := by
  induction limit generalizing n with
  | zero => omega
  | succ limit ih =>
    refine bind hpart fun a hpos => eat (fun _ => pure rfl) (eat (fun _ => ?_) (fail _))
    have hrest := ih (hpart.mono (m := n - 1 - 1) (by omega)) (by omega)
    exact bind hrest fun rest _ => pure (by simp)

theorem eat_mark (mark : Symbol) : Progresses n (fun _ => 0) (Walk.eat mark) := by
  rw [← bind_pure (Walk.eat mark)]
  exact eat (fun _ => pure rfl) (pure rfl)

theorem stages {apply : Walk Expr} (h : Progresses n (fun _ => 1) apply) {limit : Nat}
    (hn : n < limit) : Progresses n List.length (Walk.stages apply limit) :=
  whileTrue (eat_mark .pipe) h hn

theorem arguments {equality : Walk Expr} (h : Progresses n (fun _ => 1) equality) {limit : Nat}
    (hn : n < limit) : Progresses n List.length (Walk.arguments equality limit) :=
  whileTrue (fun _ hs _ => .done ⟨rfl, Nat.le_refl _, hs⟩) h hn

theorem fields {limit : Nat} (hn : n < limit) : Progresses n List.length (Walk.fields limit) := by
  refine whileTrue (eat_mark .dot) ?_ hn
  rw [← bind_pure Walk.ident]
  exact ident fun name _ => pure rfl

theorem entries {expr : Walk Expr} (h : Progresses n (fun _ => 1) expr) {limit : Nat}
    (hn : n < limit) : Progresses n List.length (Walk.entries expr limit) := by
  refine listed (ident fun name _ => expect fun _ => ?_) hn
  exact bind (h.mono (by omega)) fun value _ => pure rfl

theorem items {expr : Walk Expr} (h : Progresses n (fun _ => 1) expr) {limit : Nat}
    (hn : n < limit) : Progresses n List.length (Walk.items expr limit) := listed h hn

end Progresses

/-! ## The routines -/

namespace Routine

/-- How many calls are made before a token is taken, that of the routine itself included. A routine
for one kind of atom takes its first token at once, and that one pays for the call. -/
def frames : Routine → Nat
  | .expr => 6
  | .apply => 5
  | .equality => 4
  | .additive => 3
  | .multiplicative => 2
  | .atom => 1
  | _ => 0

/-- At one depth, each routine ends on so many tokens that the depth is enough for them. -/
def EndsAt (depth : Nat) : Prop :=
  ∀ (routine : Routine) (n : Nat), 7 * n + routine.frames ≤ depth → 0 < depth →
    Progresses n (fun _ => 1) (walk depth routine)

namespace EndsAt

variable {depth n : Nat} (h : EndsAt depth)
include h

theorem expr (hn : 7 * n + 6 ≤ depth) : Progresses n (fun _ => 1) (walk depth .expr) :=
  h .expr n hn (by omega)

theorem expr_succ (hn : 7 * n + 6 ≤ depth + 1) :
    Progresses n (fun _ => 1) (walk (depth + 1) .expr) := by
  have happly : Progresses n (fun _ => 1) (walk depth .apply) :=
    h .apply n (Nat.le_of_succ_le_succ hn) (by omega)
  refine .bind happly fun seed hpos => ?_
  refine .bind (.stages (happly.mono (Nat.sub_le n 1)) (by omega)) fun stages _ => ?_
  cases stages <;> exact .pure (Nat.zero_sub _)

theorem apply_succ (hn : 7 * n + 5 ≤ depth + 1) :
    Progresses n (fun _ => 1) (walk (depth + 1) .apply) := by
  have hequality : Progresses n (fun _ => 1) (walk depth .equality) :=
    h .equality n (Nat.le_of_succ_le_succ hn) (by omega)
  refine .bind hequality fun callee hpos => ?_
  refine .bind (.arguments (hequality.mono (Nat.sub_le n 1)) (by omega)) fun args _ => ?_
  cases args <;> exact .pure (Nat.zero_sub _)

theorem chain_succ {op? : Symbol → Option BinaryOp} {level inner : Routine}
    (hframes : level.frames = inner.frames + 1) (hinner : 0 < inner.frames)
    (hn : 7 * n + level.frames ≤ depth + 1) :
    Progresses n (fun _ => 1) (Walk.chain op? (walk depth inner) (walk depth level)) := by
  rw [hframes] at hn
  refine .chain (h inner n (by omega) (by omega)) fun m hm => ?_
  exact h level m (by omega) (by omega)

theorem atom_succ (hn : 7 * n + 1 ≤ depth + 1) :
    Progresses n (fun _ => 1) (walk (depth + 1) .atom) := by
  refine .peek (.fail _) fun t hpos => ?_
  -- A routine that is called here starts at a token, so there is one left to pay for the call.
  have hcall : ∀ routine : Routine, routine.frames = 0 →
      ProgressesFrom t n (fun _ => 1) (walk depth routine) :=
    fun routine hframes => Progresses.from_token (h routine n (by omega) (by omega))
  cases t with
  | number x => exact Progresses.advance (.pure rfl)
  | text x => exact Progresses.advance (.pure rfl)
  | ident base => exact hcall .name rfl
  | symbol mark =>
    cases mark with
    | backslash => exact hcall .lambda rfl
    | letWord => exact hcall .bind rfl
    | ifWord => exact hcall .cond rfl
    | leftBrace => exact hcall .record rfl
    | leftBracket => exact hcall .list rfl
    | leftParen =>
      refine Progresses.advance (.bind (h.expr (by omega)) fun inner _ => ?_)
      exact .expect fun _ => .pure rfl
    | _ => exact Progresses.from_token (.fail _)

theorem lambda_succ (hn : 7 * n ≤ depth + 1) :
    Progresses n (fun _ => 1) (walk (depth + 1) .lambda) := by
  refine .expect fun hpos => .ident fun param _ => .expect fun _ => ?_
  exact .bind (h.expr (by omega)) fun body _ => .pure rfl

theorem bind_succ (hn : 7 * n ≤ depth + 1) :
    Progresses n (fun _ => 1) (walk (depth + 1) .bind) := by
  refine .expect fun hpos => .ident fun name _ => .expect fun _ => ?_
  refine .bind (h.expr (by omega)) fun value _ => .expect fun _ => ?_
  exact .bind (h.expr (by omega)) fun next _ => .pure rfl

theorem cond_succ (hn : 7 * n ≤ depth + 1) :
    Progresses n (fun _ => 1) (walk (depth + 1) .cond) := by
  refine .expect fun hpos => .bind (h.expr (by omega)) fun test _ => .expect fun _ => ?_
  refine .bind (h.expr (by omega)) fun yes _ => .expect fun _ => ?_
  exact .bind (h.expr (by omega)) fun no _ => .pure rfl

omit h in
theorem name_succ (hn : 7 * n ≤ depth + 1) :
    Progresses n (fun _ => 1) (walk (depth + 1) .name) := by
  refine .ident fun base hpos => .bind (.fields (by omega)) fun fields _ => ?_
  cases fields <;> exact .pure (Nat.zero_sub _)

theorem record_succ (hn : 7 * n ≤ depth + 1) :
    Progresses n (fun _ => 1) (walk (depth + 1) .record) := by
  refine .expect fun hpos => .eat (fun _ => .pure rfl) ?_
  exact .bind (.entries (h.expr (by omega)) (by omega)) fun entries _ => .pure (Nat.zero_sub _)

theorem list_succ (hn : 7 * n ≤ depth + 1) :
    Progresses n (fun _ => 1) (walk (depth + 1) .list) := by
  refine .expect fun hpos => .eat (fun _ => .pure rfl) ?_
  exact .bind (.items (h.expr (by omega)) (by omega)) fun items _ => .pure (Nat.zero_sub _)

/-- One level deeper. -/
theorem succ : EndsAt (depth + 1) := by
  intro routine n hn _
  cases routine with
  | expr => exact h.expr_succ hn
  | apply => exact h.apply_succ hn
  | equality => exact h.chain_succ rfl (by decide) hn
  | additive => exact h.chain_succ rfl (by decide) hn
  | multiplicative => exact h.chain_succ rfl (by decide) hn
  | atom => exact h.atom_succ hn
  | lambda => exact h.lambda_succ hn
  | bind => exact h.bind_succ hn
  | cond => exact h.cond_succ hn
  | name => exact name_succ hn
  | record => exact h.record_succ hn
  | list => exact h.list_succ hn

end EndsAt

theorem endsAt (depth : Nat) : EndsAt depth := by
  induction depth with
  | zero => exact fun routine n _ hpos => absurd hpos (Nat.lt_irrefl 0)
  | succ depth ih => exact ih.succ

end Routine

/-! ## All parses -/

/-- Each routine of the parser ends, whatever the tokens are and wherever it is called, when the
calls may go down by seven for each token that is left and by six more. With a value it has taken a
token at least, and without one it is not past the end. Each loop ends so too, with no more rounds
than the tokens it took. The grammar gives the same from the tokens that are left. -/
theorem every_routine_ends (tokens : List Token) (place depth : Nat)
    (hplace : place ≤ tokens.length) (hdepth : 7 * (tokens.length - place) + 6 ≤ depth) :
    (∀ routine : Routine,
      EndsAfter ⟨tokens, place⟩ (fun _ => 1) (Routine.walk depth routine ⟨tokens, place⟩)) ∧
    (∀ limit, tokens.length - place < limit →
      EndsAfter ⟨tokens, place⟩ List.length
          (Walk.stages (Routine.walk depth .apply) limit ⟨tokens, place⟩) ∧
        EndsAfter ⟨tokens, place⟩ List.length
          (Walk.arguments (Routine.walk depth .equality) limit ⟨tokens, place⟩) ∧
        EndsAfter ⟨tokens, place⟩ List.length (Walk.fields limit ⟨tokens, place⟩) ∧
        EndsAfter ⟨tokens, place⟩ List.length
          (Walk.entries (Routine.walk depth .expr) limit ⟨tokens, place⟩) ∧
        EndsAfter ⟨tokens, place⟩ List.length
          (Walk.items (Routine.walk depth .expr) limit ⟨tokens, place⟩)) ∧
    ∀ routine : Routine, routine.Suits tokens[place]? →
      ∀ deeper, 8 * (tokens.length - place) + 6 ≤ deeper →
        routine.grammar deeper (tokens.drop place) =
          (Routine.walk depth routine ⟨tokens, place⟩).map Cursor.rest := by
  have hleft : tokens.length ≤ place + (tokens.length - place) := by omega
  have hroutine : ∀ routine : Routine,
      Progresses (tokens.length - place) (fun _ => 1) (Routine.walk depth routine) := by
    intro routine
    have hframes : routine.frames ≤ 6 := by cases routine <;> decide
    exact Routine.endsAt depth routine _ (by omega) (by omega)
  refine ⟨fun routine => hroutine routine _ hplace hleft, fun limit hlimit => ?_, ?_⟩
  · exact ⟨Progresses.stages (hroutine .apply) hlimit _ hplace hleft,
      Progresses.arguments (hroutine .equality) hlimit _ hplace hleft,
      Progresses.fields hlimit _ hplace hleft,
      Progresses.entries (hroutine .expr) hlimit _ hplace hleft,
      Progresses.items (hroutine .expr) hlimit _ hplace hleft⟩
  · intro routine hsuits deeper hdeeper
    have hends := hroutine routine ⟨tokens, place⟩ hplace hleft
    refine Routine.grammar_eq_walk hsuits hends.ne_exhausted ?_
    rwa [Cursor.rest, List.length_drop]

/-- Two lists that are not closed. No depth below is enough for them. -/
def openLists : List Token := [.symbol .leftBracket, .symbol .leftBracket]

theorem openLists_end_at_depth_twenty :
    Routine.walk 20 .expr ⟨openLists, 0⟩ = .failed .expression ⟨openLists, 2⟩ ∧
      EndsAfter ⟨openLists, 0⟩ (fun _ => 1) (Routine.walk 20 .expr ⟨openLists, 0⟩) ∧
      Routine.walk 19 .expr ⟨openLists, 0⟩ = .exhausted ∧
      Grammar.expr 22 openLists = .failed .expression [] := by
  have hwalk : Routine.walk 20 .expr ⟨openLists, 0⟩ = .failed .expression ⟨openLists, 2⟩ := rfl
  obtain ⟨hends, -, hgrammar⟩ := every_routine_ends openLists 0 20 (by decide) (by decide)
  refine ⟨hwalk, hends .expr, rfl, ?_⟩
  exact (hgrammar .expr trivial 22 (by decide)).trans (congrArg (Outcome.map Cursor.rest) hwalk)

end Patchbay.Language
