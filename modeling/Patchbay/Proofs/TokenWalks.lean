-- The parser with a cursor. The tokens stay as they are, and a place in them moves.
-- Each rule of the grammar and each kind of atom has a routine of its own, the loops
-- are no calls, and nothing but the routines themselves keeps the cursor from going
-- past the end. They end just as the parser on the tokens that are left.
import Patchbay.Proofs.NextToken

namespace Patchbay

/-- The same end, with another view of the state. -/
def Outcome.map {ε σ τ α : Type} (f : σ → τ) : Outcome ε σ α → Outcome ε τ α
  | .done a s => .done a (f s)
  | .failed cause s => .failed cause (f s)
  | .exhausted => .exhausted

namespace Language

/-! ## Cursors -/

/-- A row of tokens, and how many steps were made in it. -/
structure Cursor where
  tokens : List Token
  place : Nat

namespace Cursor

def next? (s : Cursor) : Option Token := s.tokens[s.place]?

/-- One step further, also at the end. -/
def step (s : Cursor) : Cursor := { s with place := s.place + 1 }

/-- The tokens from the cursor on. -/
def rest (s : Cursor) : List Token := s.tokens.drop s.place

theorem head?_rest (s : Cursor) : s.rest.head? = s.next? := List.head?_drop

theorem tail_rest (s : Cursor) : s.rest.tail = s.step.rest := List.tail_drop

end Cursor

/-- A parser that moves a cursor. -/
abbrev Walk := Action Expected Cursor

namespace Walk

variable {α : Type}

/-! ## Single tokens -/

def peek : Walk (Option Token) := Action.read Cursor.next?

def advance : Walk Unit := Action.change Cursor.step

def eat (s : Symbol) : Walk Bool := do
  if (← peek) = some (.symbol s) then
    advance
    pure true
  else pure false

def expect (s : Symbol) : Walk Unit := do
  unless ← eat s do Action.fail (.symbol s)

def ident : Walk String := do
  match ← peek with
  | some (.ident name) =>
    advance
    pure name
  | _ => Action.fail .ident

def operator? (op? : Symbol → Option BinaryOp) : Walk (Option BinaryOp) := do
  match ← peek with
  | some (.symbol s) =>
    match op? s with
    | some op =>
      advance
      pure (some op)
    | none => pure none
  | _ => pure none

def chain (op? : Symbol → Option BinaryOp) (operand level : Walk Expr) : Walk Expr := do
  let left ← operand
  match ← operator? op? with
  | some op =>
    let right ← level
    pure (.binary op left right)
  | none => pure left

theorem peek_bind (f : Option Token → Walk α) (s : Cursor) : (peek >>= f) s = f s.next? s := rfl

theorem expect_eq_done {s : Symbol} {t : Cursor} (h : t.next? = some (.symbol s)) :
    expect s t = .done () t.step := by
  unfold expect eat
  rw [bind_assoc, peek_bind, if_pos h]
  rfl

theorem ident_eq_done {name : String} {t : Cursor} (h : t.next? = some (.ident name)) :
    ident t = .done name t.step := by
  unfold ident
  rw [peek_bind, h]
  rfl

/-! ## Loops -/

/-- Runs the body as long as the test holds, with fewer rounds than the limit. -/
def whileTrue (test : Walk Bool) (body : Walk α) : Nat → Walk (List α)
  | 0 => Action.exhausted
  | limit + 1 => do
    if ← test then
      let a ← body
      let rest ← whileTrue test body limit
      pure (a :: rest)
    else pure []

/-- Parts with commas between, up to the closing mark, at most as many as the limit. -/
def listed (close : Symbol) (part : Walk α) : Nat → Walk (List α)
  | 0 => Action.exhausted
  | limit + 1 => do
    let a ← part
    if ← eat close then pure [a]
    else if ← eat .comma then
      let rest ← listed close part limit
      pure (a :: rest)
    else Action.fail (.commaOr close)

def stages (apply : Walk Expr) : Nat → Walk (List Expr) := whileTrue (eat .pipe) apply

def arguments (equality : Walk Expr) : Nat → Walk (List Expr) :=
  whileTrue (Action.read fun s => startsArgument s.next?) equality

def fields : Nat → Walk (List String) := whileTrue (eat .dot) ident

def entry (expr : Walk Expr) : Walk (String × Expr) := do
  let name ← ident
  expect .colon
  let value ← expr
  pure (name, value)

def entries (expr : Walk Expr) : Nat → Walk (List (String × Expr)) :=
  listed .rightBrace (entry expr)

def items (expr : Walk Expr) : Nat → Walk (List Expr) := listed .rightBracket expr

end Walk

/-! ## Routines -/

/-- The routines of the parser: one for each level of the grammar, and one for each kind of atom
but numbers, strings and groups. -/
inductive Routine
  | expr
  | apply
  | equality
  | additive
  | multiplicative
  | atom
  | lambda
  | bind
  | cond
  | name
  | record
  | list
  deriving DecidableEq, Repr

namespace Routine

open Walk

/-- A routine calls others one level deeper, and all rounds of its loops are on one level. So a walk
that ends at some depth has no more calls than that open at once. -/
def walk : Nat → Routine → Walk Expr
  | 0, _ => Action.exhausted
  | depth + 1, .expr => do
    let seed ← walk depth .apply
    match ← stages (walk depth .apply) depth with
    | [] => pure seed
    | stages => pure (.pipe seed stages)
  | depth + 1, .apply => do
    let callee ← walk depth .equality
    match ← arguments (walk depth .equality) depth with
    | [] => pure callee
    | args => pure (.apply callee args)
  | depth + 1, .equality => chain equality? (walk depth .additive) (walk depth .equality)
  | depth + 1, .additive => chain additive? (walk depth .multiplicative) (walk depth .additive)
  | depth + 1, .multiplicative =>
    chain multiplicative? (walk depth .atom) (walk depth .multiplicative)
  | depth + 1, .atom => do
    match ← peek with
    | some (.number x) =>
      advance
      pure (.number x)
    | some (.text s) =>
      advance
      pure (.text s)
    | some (.ident _) => walk depth .name
    | some (.symbol .backslash) => walk depth .lambda
    | some (.symbol .letWord) => walk depth .bind
    | some (.symbol .ifWord) => walk depth .cond
    | some (.symbol .leftParen) =>
      advance
      let inner ← walk depth .expr
      expect .rightParen
      pure inner
    | some (.symbol .leftBrace) => walk depth .record
    | some (.symbol .leftBracket) => walk depth .list
    | _ => Action.fail .expression
  | depth + 1, .lambda => do
    expect .backslash
    let param ← ident
    expect .colon
    let body ← walk depth .expr
    pure (.lambda param body)
  | depth + 1, .bind => do
    expect .letWord
    let name ← ident
    expect .assign
    let value ← walk depth .expr
    expect .semicolon
    let next ← walk depth .expr
    pure (.bind name value next)
  | depth + 1, .cond => do
    expect .ifWord
    let test ← walk depth .expr
    expect .thenWord
    let yes ← walk depth .expr
    expect .elseWord
    let no ← walk depth .expr
    pure (.cond test yes no)
  | depth + 1, .name => do
    let base ← ident
    match ← fields depth with
    | [] => pure (.ident base)
    | fields => pure (.field base fields)
  | depth + 1, .record => do
    expect .leftBrace
    if ← eat .rightBrace then pure (.record [])
    else
      let entries ← entries (walk depth .expr) depth
      pure (.record (Fields.ofList entries))
  | depth + 1, .list => do
    expect .leftBracket
    if ← eat .rightBracket then pure (.list [])
    else
      let items ← items (walk depth .expr) depth
      pure (.list items)

end Routine

/-! ## The same as the parser on what is left -/

/-- Where the walk ends from `s`, the parser ends the same way on the tokens from `s` on, at every
depth that is great enough. -/
def Follows {α : Type} (x : Walk α) (y : Nat → Parser α) (s : Cursor) : Prop :=
  x s ≠ .exhausted → ∃ least, ∀ depth, least ≤ depth → y depth s.rest = (x s).map Cursor.rest

namespace Follows

variable {α β : Type} {x : Walk α} {y : Nat → Parser α} {s : Cursor}

theorem of_eq (h : ∀ depth, y depth s.rest = (x s).map Cursor.rest) : Follows x y s :=
  fun _ => ⟨0, fun depth _ => h depth⟩

theorem exhausted : Follows Action.exhausted y s := fun h => absurd rfl h

theorem pure (a : α) : Follows (pure a) (fun _ => pure a) s := of_eq fun _ => rfl

theorem fail (cause : Expected) :
    Follows (Action.fail cause : Walk α) (fun _ => Action.fail cause) s := of_eq fun _ => rfl

theorem bind {f : α → Walk β} {g : Nat → α → Parser β} (hx : Follows x y s)
    (hf : ∀ a t, Follows (f a) (fun depth => g depth a) t) :
    Follows (x >>= f) (fun depth => y depth >>= g depth) s := by
  intro hend
  cases h : x s with
  | done a t =>
    rw [Action.bind_of_done h] at hend ⊢
    obtain ⟨m, hm⟩ := hx (by rw [h]; nofun)
    obtain ⟨n, hn⟩ := hf a t hend
    refine ⟨max m n, fun depth hdepth => ?_⟩
    have hy := hm depth (Nat.le_trans (Nat.le_max_left m n) hdepth)
    rw [h] at hy
    change (y depth >>= g depth) s.rest = _
    rw [Action.bind_of_done hy]
    exact hn depth (Nat.le_trans (Nat.le_max_right m n) hdepth)
  | failed cause t =>
    rw [Action.bind_of_failed h]
    obtain ⟨m, hm⟩ := hx (by rw [h]; nofun)
    refine ⟨m, fun depth hdepth => ?_⟩
    have hy := hm depth hdepth
    rw [h] at hy
    exact Action.bind_of_failed hy
  | exhausted => exact absurd (Action.bind_of_exhausted h) hend

/-- One level of depth does not matter. -/
theorem deeper (h : Follows x (fun depth => y (depth + 1)) s) : Follows x y s := by
  intro hend
  obtain ⟨m, hm⟩ := h hend
  refine ⟨m + 1, fun depth hdepth => ?_⟩
  obtain ⟨d, rfl⟩ := Nat.exists_eq_add_of_le' (Nat.le_trans (Nat.le_add_left 1 m) hdepth)
  exact hm d (Nat.le_of_succ_le_succ hdepth)

theorem congr {x' : Walk α} (h : Follows x y s) (heq : x' s = x s) : Follows x' y s := by
  unfold Follows
  rw [heq]
  exact h

/-- What the parser does once it has looked at the next token. -/
theorem look {next : Option Token} {g : Nat → Option Token → Parser α} (hnext : s.next? = next)
    (h : Follows x (fun depth => g depth next) s) :
    Follows x (fun depth => Parser.peek >>= g depth) s := by
  intro hend
  obtain ⟨m, hm⟩ := h hend
  refine ⟨m, fun depth hdepth => ?_⟩
  change g depth s.rest.head? s.rest = _
  rw [s.head?_rest, hnext]
  exact hm depth hdepth

theorem peek {next : Option Token} {f : Option Token → Walk α}
    {g : Nat → Option Token → Parser α} (hnext : s.next? = next)
    (h : Follows (f next) (fun depth => g depth next) s) :
    Follows (Walk.peek >>= f) (fun depth => Parser.peek >>= g depth) s := by
  subst hnext
  exact look rfl (h.congr rfl)

theorem advance : Follows Walk.advance (fun _ => Parser.advance) s :=
  of_eq fun _ => congrArg (Outcome.done ()) s.tail_rest

theorem eat (mark : Symbol) : Follows (Walk.eat mark) (fun _ => Parser.eat mark) s := by
  refine peek rfl ?_
  split
  · exact bind advance fun _ _ => pure true
  · exact pure false

theorem expect (mark : Symbol) : Follows (Walk.expect mark) (fun _ => Parser.expect mark) s := by
  refine bind (eat mark) fun taken _ => ?_
  split
  · exact pure ()
  · exact fail _

theorem ident : Follows Walk.ident (fun _ => Parser.ident) s := by
  refine peek rfl ?_
  rcases s.next? with _ | (x | text | name | mark)
  case some.ident => exact bind advance fun _ _ => pure name
  all_goals exact fail _

theorem operator? (op? : Symbol → Option BinaryOp) :
    Follows (Walk.operator? op?) (fun _ => Parser.operator? op?) s := by
  refine peek rfl ?_
  rcases s.next? with _ | (x | text | name | mark)
  case some.symbol =>
    dsimp only
    cases op? mark with
    | some op => exact bind advance fun _ _ => pure (some op)
    | none => exact pure none
  all_goals exact pure none

theorem chain (op? : Symbol → Option BinaryOp) {operand same : Walk Expr}
    {operand' same' : Nat → Parser Expr} (hoperand : Follows operand operand' s)
    (hsame : ∀ t, Follows same same' t) :
    Follows (Walk.chain op? operand same)
      (fun depth => Parser.chain op? (operand' depth) (same' depth)) s := by
  refine bind hoperand fun left _ => bind (operator? op?) fun op t => ?_
  split
  · exact bind (hsame t) fun right _ => pure _
  · exact pure left

/-- The walk takes the token that the parser has looked at. -/
theorem taken {a : α} {f : α → Walk β} {g : Nat → Parser β} (hx : x s = .done a s.step)
    (h : Follows (f a) g s.step) :
    Follows (x >>= f) (fun depth => Parser.advance >>= fun _ => g depth) s := by
  unfold Follows
  rw [Action.bind_of_done hx]
  intro hend
  obtain ⟨m, hm⟩ := h hend
  refine ⟨m, fun depth hdepth => ?_⟩
  change g depth s.rest.tail = _
  rw [s.tail_rest]
  exact hm depth hdepth

/-! ## Loops -/

theorem whileTrue {test : Walk Bool} {body : Walk α} {test' : Parser Bool} {body' : Nat → Parser α}
    {loop : Nat → Parser (List α)}
    (hloop : ∀ depth, loop (depth + 1) = test' >>= fun again =>
      if again = true then body' depth >>= fun a => loop depth >>= fun rest => Pure.pure (a :: rest)
      else Pure.pure [])
    (htest : ∀ t, Follows test (fun _ => test') t) (hbody : ∀ t, Follows body body' t)
    (limit : Nat) (s : Cursor) : Follows (Walk.whileTrue test body limit) loop s := by
  induction limit generalizing s with
  | zero => exact exhausted
  | succ limit ih =>
    refine deeper ?_
    simp only [hloop]
    refine bind (htest s) fun again t => ?_
    split
    · exact bind (hbody t) fun a t => bind (ih t) fun rest _ => pure _
    · exact pure []

theorem listed {close : Symbol} {part : Walk α} {part' : Nat → Parser α}
    {loop : Nat → Parser (List α)}
    (hloop : ∀ depth, loop (depth + 1) = part' depth >>= fun a =>
      Grammar.afterPart close a (loop depth))
    (hpart : ∀ t, Follows part part' t) (limit : Nat) (s : Cursor) :
    Follows (Walk.listed close part limit) loop s := by
  induction limit generalizing s with
  | zero => exact exhausted
  | succ limit ih =>
    refine deeper ?_
    simp only [hloop]
    refine bind (hpart s) fun a t => bind (eat close) fun closed t => ?_
    split
    · exact pure _
    · refine bind (eat .comma) fun again t => ?_
      split
      · exact bind (ih t) fun rest _ => pure _
      · exact fail _

end Follows

namespace Routine

/-- The part of the grammar that a routine stands for. -/
def grammar : Routine → Nat → Parser Expr
  | .expr => Grammar.expr
  | .apply => Grammar.apply
  | .equality => Grammar.equality
  | .additive => Grammar.additive
  | .multiplicative => Grammar.multiplicative
  | _ => Grammar.atom

/-- A routine for one kind of atom is called at a token that such an atom starts with. -/
def Suits : Routine → Option Token → Prop
  | .lambda, t => t = some (.symbol .backslash)
  | .bind, t => t = some (.symbol .letWord)
  | .cond, t => t = some (.symbol .ifWord)
  | .name, t => ∃ name, t = some (.ident name)
  | .record, t => t = some (.symbol .leftBrace)
  | .list, t => t = some (.symbol .leftBracket)
  | _, _ => True

/-- At one depth, each routine ends as the grammar does. -/
def FollowsAt (depth : Nat) : Prop :=
  ∀ (routine : Routine) (s : Cursor), routine.Suits s.next? →
    Follows (walk depth routine) routine.grammar s

namespace FollowsAt

open Walk

variable {depth : Nat} {s : Cursor} (h : FollowsAt depth)
include h

theorem expr (s : Cursor) : Follows (walk depth .expr) Grammar.expr s := h .expr s trivial

theorem apply (s : Cursor) : Follows (walk depth .apply) Grammar.apply s := h .apply s trivial

theorem equality (s : Cursor) : Follows (walk depth .equality) Grammar.equality s :=
  h .equality s trivial

theorem expr_succ : Follows (walk (depth + 1) .expr) Grammar.expr s := by
  have hstages : ∀ t, Follows (stages (walk depth .apply) depth) Grammar.stages t :=
    .whileTrue (fun _ => rfl) (fun _ => .eat .pipe) h.apply depth
  refine .deeper (.bind (h.apply s) fun seed t => .bind (hstages t) fun stages _ => ?_)
  cases stages <;> exact .pure _

theorem apply_succ : Follows (walk (depth + 1) .apply) Grammar.apply s := by
  have htest : ∀ t, Follows (Action.read fun s : Cursor => startsArgument s.next?)
      (fun _ => Action.read fun ts : List Token => startsArgument ts.head?) t :=
    fun t => .of_eq fun _ => congrArg (fun next => Outcome.done (startsArgument next) t.rest)
      t.head?_rest
  have hargs : ∀ t, Follows (arguments (walk depth .equality) depth) Grammar.arguments t :=
    .whileTrue (fun _ => rfl) htest h.equality depth
  refine .deeper (.bind (h.equality s) fun callee t => .bind (hargs t) fun args _ => ?_)
  cases args <;> exact .pure _

theorem atom_succ : Follows (walk (depth + 1) .atom) Grammar.atom s := by
  -- An atom with a routine of its own ends as that routine does, and the others are read here.
  cases ht : s.next? with
  | none => exact .deeper (.peek ht (.fail _))
  | some t =>
    have hcall : ∀ routine : Routine, routine.grammar = Grammar.atom → routine.Suits (some t) →
        walk (depth + 1) .atom s = walk depth routine s →
          Follows (walk (depth + 1) .atom) Grammar.atom s := by
      intro routine hatom hsuits heq
      exact (hatom ▸ h routine s (ht ▸ hsuits)).congr heq
    have hstep : ∀ f : Option Token → Walk Expr, (Walk.peek >>= f) s = f (some t) s := by
      intro f
      rw [peek_bind, ht]
    cases t with
    | number x => exact .deeper (.peek ht (.bind .advance fun _ _ => .pure _))
    | text x => exact .deeper (.peek ht (.bind .advance fun _ _ => .pure _))
    | ident base => exact hcall .name rfl ⟨base, rfl⟩ (hstep _)
    | symbol mark =>
      cases mark with
      | backslash => exact hcall .lambda rfl rfl (hstep _)
      | letWord => exact hcall .bind rfl rfl (hstep _)
      | ifWord => exact hcall .cond rfl rfl (hstep _)
      | leftBrace => exact hcall .record rfl rfl (hstep _)
      | leftBracket => exact hcall .list rfl rfl (hstep _)
      | leftParen =>
        refine .deeper (.peek ht ?_)
        refine .bind .advance fun _ t => .bind (h.expr t) fun inner t => ?_
        exact .bind (.expect _) fun _ _ => .pure _
      | _ => exact .deeper (.peek ht (.fail _))

theorem lambda_succ (ht : s.next? = some (.symbol .backslash)) :
    Follows (walk (depth + 1) .lambda) Grammar.atom s := by
  refine .deeper (.look ht ?_)
  refine .taken (expect_eq_done ht) (.bind .ident fun param t => .bind (.expect _) fun _ t => ?_)
  exact .bind (h.expr t) fun body _ => .pure _

theorem bind_succ (ht : s.next? = some (.symbol .letWord)) :
    Follows (walk (depth + 1) .bind) Grammar.atom s := by
  refine .deeper (.look ht ?_)
  refine .taken (expect_eq_done ht) (.bind .ident fun name t => .bind (.expect _) fun _ t => ?_)
  refine .bind (h.expr t) fun value t => .bind (.expect _) fun _ t => ?_
  exact .bind (h.expr t) fun next _ => .pure _

theorem cond_succ (ht : s.next? = some (.symbol .ifWord)) :
    Follows (walk (depth + 1) .cond) Grammar.atom s := by
  refine .deeper (.look ht ?_)
  refine .taken (expect_eq_done ht) (.bind (h.expr _) fun test t => .bind (.expect _) fun _ t => ?_)
  refine .bind (h.expr t) fun yes t => .bind (.expect _) fun _ t => ?_
  exact .bind (h.expr t) fun no _ => .pure _

theorem record_succ (ht : s.next? = some (.symbol .leftBrace)) :
    Follows (walk (depth + 1) .record) Grammar.atom s := by
  have hentry : ∀ t, Follows (entry (walk depth .expr)) (fun depth => Parser.ident >>= fun name =>
      Parser.expect .colon >>= fun _ => Grammar.expr depth >>= fun value =>
        Pure.pure (name, value)) t := by
    intro t
    refine .bind .ident fun name t => .bind (.expect _) fun _ t => ?_
    exact .bind (h.expr t) fun value _ => .pure _
  have hentries : ∀ t, Follows (entries (walk depth .expr) depth) Grammar.entries t := by
    refine .listed (fun depth => ?_) hentry depth
    simp only [bind_assoc, pure_bind]
    rfl
  refine .deeper (.look ht ?_)
  refine .taken (expect_eq_done ht) (.bind (.eat _) fun closed t => ?_)
  cases closed
  · exact .bind (hentries t) fun entries _ => .pure _
  · exact .pure _

theorem list_succ (ht : s.next? = some (.symbol .leftBracket)) :
    Follows (walk (depth + 1) .list) Grammar.atom s := by
  have hitems : ∀ t, Follows (items (walk depth .expr) depth) Grammar.items t :=
    .listed (fun _ => rfl) h.expr depth
  refine .deeper (.look ht ?_)
  refine .taken (expect_eq_done ht) (.bind (.eat _) fun closed t => ?_)
  cases closed
  · exact .bind (hitems t) fun items _ => .pure _
  · exact .pure _

omit h in
theorem name_succ {name : String} (ht : s.next? = some (.ident name)) :
    Follows (walk (depth + 1) .name) Grammar.atom s := by
  have hfields : ∀ t, Follows (fields depth) Grammar.path t :=
    .whileTrue (fun _ => rfl) (fun _ => .eat .dot) (fun _ => .ident) depth
  refine .deeper (.look ht ?_)
  refine .taken (ident_eq_done ht) (.bind (hfields _) fun fields _ => ?_)
  cases fields <;> exact .pure _

theorem succ : FollowsAt (depth + 1) := by
  intro routine s hsuits
  cases routine with
  | expr => exact h.expr_succ
  | apply => exact h.apply_succ
  | equality => exact .deeper (.chain _ (h .additive s trivial) h.equality)
  | additive =>
    exact .deeper (.chain _ (h .multiplicative s trivial) fun t => h .additive t trivial)
  | multiplicative =>
    exact .deeper (.chain _ (h .atom s trivial) fun t => h .multiplicative t trivial)
  | atom => exact h.atom_succ
  | lambda => exact h.lambda_succ hsuits
  | bind => exact h.bind_succ hsuits
  | cond => exact h.cond_succ hsuits
  | name =>
    obtain ⟨name, ht⟩ := hsuits
    exact name_succ ht
  | record => exact h.record_succ hsuits
  | list => exact h.list_succ hsuits

end FollowsAt

theorem followsAt (depth : Nat) : FollowsAt depth := by
  induction depth with
  | zero => exact fun routine s _ => .exhausted
  | succ depth ih => exact ih.succ

theorem settles (routine : Routine) {depth deeper : Nat} (hle : depth ≤ deeper) :
    Settles (routine.grammar depth) (routine.grammar deeper) := by
  have h := settlesAt hle
  cases routine with
  | expr => exact h.expr
  | apply => exact h.apply
  | equality => exact h.equality
  | additive => exact h.additive
  | multiplicative => exact h.multiplicative
  | _ => exact h.atom

theorem exists_state? (routine : Routine) {ts : List Token} {depth : Nat}
    (hdepth : 8 * ts.length + 6 ≤ depth) :
    ∃ rest, (routine.grammar depth ts).state? = some rest := by
  have h := readsAt depth
  have hle := Nat.le_refl ts.length
  cases routine with
  | expr => exact (h.expr ts.length (by omega) ts hle).exists_state?
  | apply => exact (h.apply ts.length (by omega) ts hle).exists_state?
  | equality => exact (h.equality ts.length (by omega) ts hle).exists_state?
  | additive => exact (h.additive ts.length (by omega) ts hle).exists_state?
  | multiplicative => exact (h.multiplicative ts.length (by omega) ts hle).exists_state?
  | _ => exact (h.atom ts.length (by omega) ts hle).exists_state?

/-- Where a routine ends, the grammar ends the same way at every depth that is enough for the
tokens. -/
theorem grammar_eq_walk {routine : Routine} {s : Cursor} {depth deeper : Nat}
    (hsuits : routine.Suits s.next?) (hend : walk depth routine s ≠ .exhausted)
    (hdeeper : 8 * s.rest.length + 6 ≤ deeper) :
    routine.grammar deeper s.rest = (walk depth routine s).map Cursor.rest := by
  obtain ⟨least, hleast⟩ := followsAt depth routine s hsuits hend
  obtain ⟨rest, hrest⟩ := routine.exists_state? hdeeper
  rw [← hleast (max deeper least) (Nat.le_max_right _ _)]
  exact ((routine.settles (Nat.le_max_left _ _)).same hrest).symm

end Routine

end Language

end Patchbay
