-- The parser reads the tokens of a printed expression back as that expression.
-- The tokens of a part are one atom, so each level of the grammar stops right
-- after them unless one of its own links follows.
import Patchbay.Proofs.Printing

namespace Patchbay

/-- Entries with distinct names are fields as they are. -/
theorem Fields.ofList_of_nodup {α : Type} {entries : List (String × α)}
    (h : (Fields.names entries).Nodup) : Fields.ofList entries = entries := by
  have hrun : ∀ (rest before : List (String × α)), (Fields.names (before ++ rest)).Nodup →
      rest.foldl (fun fields entry => Fields.set fields entry.1 entry.2) before =
        before ++ rest := by
    intro rest
    induction rest with
    | nil => exact fun before _ => (List.append_nil before).symm
    | cons entry rest ih =>
      intro before hnodup
      have hnew : entry.1 ∉ Fields.names before := by
        unfold Fields.names at hnodup ⊢
        rw [List.map_append, List.map_cons] at hnodup
        intro hmem
        exact (List.nodup_append.mp hnodup).2.2 _ hmem _ List.mem_cons_self rfl
      rw [List.foldl_cons, Fields.set_new entry.2 hnew, ih]
      · rw [List.append_assoc, List.singleton_append]
      · rwa [List.append_assoc, List.singleton_append]
  exact hrun entries [] h

namespace Language

/-! ## Levels -/

/-- The parser of one level. -/
def parserAt : Level → Nat → Parser Expr
  | .expr => Grammar.expr
  | .apply => Grammar.apply
  | .equality => Grammar.equality
  | .additive => Grammar.additive
  | .multiplicative => Grammar.multiplicative
  | .atom => Grammar.atom

theorem Level.rank_inj {a b : Level} (h : a.rank = b.rank) : a = b := by
  revert h
  cases a <;> cases b <;> decide

theorem Level.exists_inner {level : Level} {n : Nat} (h : level.rank = n + 1) :
    ∃ inner, level.inner? = some inner ∧ inner.rank = n := by
  cases level <;> cases h <;> exact ⟨_, rfl, rfl⟩

/-! ## What a parser yields -/

variable {α β : Type}

/-- On the tokens the parser ends with that value and those tokens left, unless its depth is
used up. -/
def Yields (x : Parser α) (ts : List Token) (a : α) (rest : List Token) : Prop :=
  (x ts).Meets (fun b left => b = a ∧ left = rest) False True

namespace Yields

variable {ts mid rest : List Token}

theorem bind {x : Parser α} {f : α → Parser β} {a : α} {b : β} (hx : Yields x ts a mid)
    (hf : Yields (f a) mid b rest) : Yields (x >>= f) ts b rest := by
  refine Action.Meets.andThen hx ?_
  rintro a left ⟨rfl, rfl⟩
  exact hf

theorem pure (a : α) : Yields (pure a) ts a ts := ⟨rfl, rfl⟩

theorem expect {s : Symbol} {f : Unit → Parser β} {b : β} (h : Yields (f ()) ts b rest) :
    Yields (Parser.expect s >>= f) (.symbol s :: ts) b rest := by
  unfold Yields
  rw [Parser.expect_bind]
  exact h

variable {e left right : Expr}

theorem stages_end (h : linkLevel? ts.head? ≠ some .expr) (depth : Nat) :
    Yields (Grammar.stages depth) ts [] ts := by
  cases depth with
  | zero => exact trivial
  | succ depth =>
    unfold Yields
    rw [Grammar.stages_end]
    · exact ⟨rfl, rfl⟩
    · intro hpipe
      exact h (hpipe ▸ rfl)

theorem arguments_end (h : linkLevel? ts.head? ≠ some .apply) (depth : Nat) :
    Yields (Grammar.arguments depth) ts [] ts := by
  cases depth with
  | zero => exact trivial
  | succ depth =>
    unfold Yields
    rw [Grammar.arguments_end]
    · exact ⟨rfl, rfl⟩
    · exact Bool.eq_false_iff.mpr fun hstart => h ((startsArgument_iff _).mp hstart)

theorem path_end (h : ts.head? ≠ some (.symbol .dot)) (depth : Nat) :
    Yields (Grammar.path depth) ts [] ts := by
  cases depth with
  | zero => exact trivial
  | succ depth =>
    unfold Yields
    rw [Grammar.path_end depth h]
    exact ⟨rfl, rfl⟩

theorem chain_single {op? : Symbol → Option BinaryOp} {operand same : Parser Expr} {level : Level}
    (hop : ∀ s op, op? s = some op ↔ (s, op) ∈ level.operators)
    (hnext : linkLevel? rest.head? ≠ some level) (h : Yields operand ts e rest) :
    Yields (Parser.chain op? operand same) ts e rest := by
  refine bind h ?_
  unfold Yields
  rw [Parser.operator?_bind_of_none]
  · exact ⟨rfl, rfl⟩
  · intro s hs
    cases hsome : op? s with
    | none => rfl
    | some op =>
      have hlevel := linkLevel?_operator ((hop s op).mp hsome)
      exact absurd (hs ▸ hlevel) hnext

theorem chain_binary {op? : Symbol → Option BinaryOp} {operand same : Parser Expr} {s : Symbol}
    {op : BinaryOp} (hop : op? s = some op) (hleft : Yields operand ts left (.symbol s :: mid))
    (hright : Yields same mid right rest) :
    Yields (Parser.chain op? operand same) ts (.binary op left right) rest := by
  refine bind hleft ?_
  unfold Yields
  rw [Parser.operator?_bind _ hop]
  exact bind hright (pure _)

/-- A phrase of the operands, where no link of the level follows. -/
theorem single {level inner : Level} (hlevel : level.inner? = some inner)
    (hnext : linkLevel? rest.head? ≠ some level)
    (h : ∀ depth, Yields (parserAt inner depth) ts e rest) (depth : Nat) :
    Yields (parserAt level depth) ts e rest := by
  cases depth with
  | zero => cases level <;> exact trivial
  | succ depth =>
    have hinner := h depth
    cases level with
    | expr =>
      cases hlevel
      exact bind hinner (bind (stages_end hnext depth) (pure e))
    | apply =>
      cases hlevel
      exact bind hinner (bind (arguments_end hnext depth) (pure e))
    | equality =>
      cases hlevel
      exact chain_single equality?_eq_some hnext hinner
    | additive =>
      cases hlevel
      exact chain_single additive?_eq_some hnext hinner
    | multiplicative =>
      cases hlevel
      exact chain_single multiplicative?_eq_some hnext hinner
    | atom => cases hlevel

/-- Two operands with an operator of the level. -/
theorem binary {level inner : Level} {s : Symbol} {op : BinaryOp}
    (hlevel : level.inner? = some inner) (hop : (s, op) ∈ level.operators)
    (hleft : ∀ depth, Yields (parserAt inner depth) ts left (.symbol s :: mid))
    (hright : ∀ depth, Yields (parserAt level depth) mid right rest) (depth : Nat) :
    Yields (parserAt level depth) ts (.binary op left right) rest := by
  cases depth with
  | zero => cases level <;> exact trivial
  | succ depth =>
    have hl := hleft depth
    have hr := hright depth
    cases level with
    | equality =>
      cases hlevel
      exact chain_binary ((equality?_eq_some s op).mpr hop) hl hr
    | additive =>
      cases hlevel
      exact chain_binary ((additive?_eq_some s op).mpr hop) hl hr
    | multiplicative =>
      cases hlevel
      exact chain_binary ((multiplicative?_eq_some s op).mpr hop) hl hr
    | _ => cases hop

/-- Up from a level to a looser one, where a link that follows is looser still. -/
theorem up (low : Level) {high : Level} (hle : low.rank ≤ high.rank)
    (hnext : ∀ outer, linkLevel? rest.head? = some outer → high.rank < outer.rank)
    (h : ∀ depth, Yields (parserAt low depth) ts e rest) (depth : Nat) :
    Yields (parserAt high depth) ts e rest := by
  obtain ⟨n, hn⟩ := Nat.exists_eq_add_of_le hle
  induction n generalizing high depth with
  | zero =>
    cases Level.rank_inj hn
    exact h depth
  | succ n ih =>
    obtain ⟨inner, hinner, hrank⟩ := Level.exists_inner (n := low.rank + n) hn
    have hlt : inner.rank < high.rank := by omega
    refine single hinner (fun hlevel => Nat.lt_irrefl _ (hnext high hlevel)) ?_ depth
    intro depth
    exact ih (by omega) (fun outer ho => Nat.lt_trans hlt (hnext outer ho)) depth hrank

/-- Up to the loosest level, where something closes the phrase. -/
theorem whole (low : Level) (hrest : Closes rest)
    (h : ∀ depth, Yields (parserAt low depth) ts e rest) (depth : Nat) :
    Yields (Grammar.expr depth) ts e rest := by
  refine up low (show low.rank ≤ Level.expr.rank by cases low <;> decide) (fun outer ho => ?_) h
    depth
  rw [hrest.1] at ho
  cases ho

end Yields

/-! ## Printed parts -/

/-- As a part, the expression is read as one atom. -/
def ReadsAsAtom (e : Expr) : Prop :=
  ∀ rest : List Token, rest.head? ≠ some (.symbol .dot) →
    ∀ depth, Yields (Grammar.atom depth) (e.tokens true ++ rest) e rest

/-- By itself, the expression is read up to what closes it. -/
def ReadsWhole (e : Expr) : Prop :=
  ∀ rest : List Token, Closes rest →
    ∀ depth, Yields (Grammar.expr depth) (e.tokens false ++ rest) e rest

/-- Whatever its kind, a part starts as an argument does. -/
theorem Expr.tokens_head (e : Expr) (rest : List Token) :
    linkLevel? (e.tokens true ++ rest).head? = some .apply := by
  cases e <;> rfl

namespace ReadsAsAtom

variable {e : Expr} {rest : List Token}

theorem dot_of_level {level : Level} (h : linkLevel? rest.head? = some level) :
    rest.head? ≠ some (.symbol .dot) := by
  intro hdot
  rw [hdot] at h
  cases h

/-- On every level that no link follows. -/
theorem at_level (h : ReadsAsAtom e) (level : Level) (hdot : rest.head? ≠ some (.symbol .dot))
    (hnext : ∀ outer, linkLevel? rest.head? = some outer → level.rank < outer.rank) (depth : Nat) :
    Yields (parserAt level depth) (e.tokens true ++ rest) e rest :=
  Yields.up .atom (Nat.zero_le _) hnext (h rest hdot) depth

/-- On a level, where a link of a looser level follows. -/
theorem before_link (h : ReadsAsAtom e) (level outer : Level)
    (hlink : linkLevel? rest.head? = some outer) (hlt : level.rank < outer.rank) (depth : Nat) :
    Yields (parserAt level depth) (e.tokens true ++ rest) e rest := by
  refine h.at_level level (dot_of_level hlink) (fun other ho => ?_) depth
  cases hlink.symm.trans ho
  exact hlt

/-- On every level, where something closes it. -/
theorem before_close (h : ReadsAsAtom e) (level : Level) (hrest : Closes rest) (depth : Nat) :
    Yields (parserAt level depth) (e.tokens true ++ rest) e rest := by
  refine h.at_level level hrest.2 (fun other ho => ?_) depth
  rw [hrest.1] at ho
  cases ho

/-- An expression whose tokens are the same by itself. -/
theorem whole (h : ReadsAsAtom e) (hsame : e.tokens false = e.tokens true) : ReadsWhole e :=
  fun _ hrest depth => hsame ▸ h.before_close .expr hrest depth

end ReadsAsAtom

/-- An expression that stands in parentheses as a part. -/
theorem ReadsWhole.grouped {e : Expr} (h : ReadsWhole e)
    (hsame : e.tokens true = .symbol .leftParen :: (e.tokens false ++ [.symbol .rightParen])) :
    ReadsAsAtom e := by
  intro rest _ depth
  cases depth with
  | zero => exact trivial
  | succ depth =>
    have hinner := h (.symbol .rightParen :: rest) (closes_cons _ rfl (by decide)) depth
    unfold Yields
    rw [hsame, List.cons_append, List.append_assoc, List.singleton_append, Grammar.atom_group]
    exact Yields.bind hinner (.expect (.pure e))

/-! ## Parts in a row -/

namespace Yields

theorem path (names : List String) {rest : List Token} (hrest : rest.head? ≠ some (.symbol .dot))
    (depth : Nat) :
    Yields (Grammar.path depth) ((names.flatMap fun name => [.symbol .dot, .ident name]) ++ rest)
      names rest := by
  induction names generalizing depth with
  | nil => exact path_end hrest depth
  | cons name names ih =>
    cases depth with
    | zero => exact trivial
    | succ depth =>
      unfold Yields
      rw [List.flatMap_cons, List.append_assoc, List.cons_append, List.cons_append,
        List.nil_append, Grammar.path_name]
      exact bind (ih depth) (pure _)

theorem arguments {args : List Expr} (hargs : ∀ e ∈ args, ReadsAsAtom e) {rest : List Token}
    (hrest : Closes rest) (depth : Nat) :
    Yields (Grammar.arguments depth) ((args.flatMap fun e => e.tokens true) ++ rest) args rest := by
  induction args generalizing depth with
  | nil =>
    refine arguments_end (fun h => ?_) depth
    rw [List.flatMap_nil, List.nil_append, hrest.1] at h
    cases h
  | cons e args ih =>
    cases depth with
    | zero => exact trivial
    | succ depth =>
      have hmore := ih (fun e hmem => hargs e (List.mem_cons_of_mem _ hmem)) depth
      have he := hargs e List.mem_cons_self
      have hfirst : Yields (Grammar.equality depth)
          (e.tokens true ++ ((args.flatMap fun e => e.tokens true) ++ rest)) e
          ((args.flatMap fun e => e.tokens true) ++ rest) := by
        cases args with
        | nil => exact he.before_close .equality hrest depth
        | cons next args =>
          rw [List.flatMap_cons, List.append_assoc]
          exact he.before_link .equality .apply (next.tokens_head _) (by decide) depth
      unfold Yields
      rw [List.flatMap_cons, List.append_assoc, Grammar.arguments_argument]
      · exact bind hfirst (bind hmore (pure _))
      · exact (startsArgument_iff _).mpr (e.tokens_head _)

theorem stages {stages : List Expr} (hstages : ∀ e ∈ stages, ReadsAsAtom e) {rest : List Token}
    (hrest : Closes rest) (depth : Nat) :
    Yields (Grammar.stages depth)
      ((stages.flatMap fun e => .symbol .pipe :: e.tokens true) ++ rest) stages rest := by
  induction stages generalizing depth with
  | nil =>
    refine stages_end (fun h => ?_) depth
    rw [List.flatMap_nil, List.nil_append, hrest.1] at h
    cases h
  | cons e stages ih =>
    cases depth with
    | zero => exact trivial
    | succ depth =>
      have hmore := ih (fun e hmem => hstages e (List.mem_cons_of_mem _ hmem)) depth
      have he := hstages e List.mem_cons_self
      have hfirst : Yields (Grammar.apply depth)
          (e.tokens true ++ ((stages.flatMap fun e => .symbol .pipe :: e.tokens true) ++ rest)) e
          ((stages.flatMap fun e => .symbol .pipe :: e.tokens true) ++ rest) := by
        cases stages with
        | nil => exact he.before_close .apply hrest depth
        | cons next stages => exact he.before_link .apply .expr rfl (by decide) depth
      unfold Yields
      rw [List.flatMap_cons, List.append_assoc, List.cons_append, Grammar.stages_stage]
      exact bind hfirst (bind hmore (pure _))

/-! ## Parts with commas between -/

/-- Before the symbol, the word is read as the next part of the row. -/
def Next (row : Nat → Parser (List α)) (close : Symbol) (word : List Token) (s : Symbol)
    (part : α) : Prop :=
  ∀ rest depth parts left,
    Yields (Grammar.afterPart close part (row depth)) (.symbol s :: rest) parts left →
      Yields (row (depth + 1)) (word ++ .symbol s :: rest) parts left

theorem next_item {word : List Token} {s : Symbol} {e : Expr}
    (h : ∀ rest depth,
      Yields (Grammar.expr depth) (word ++ .symbol s :: rest) e (.symbol s :: rest)) :
    Next Grammar.items .rightBracket word s e := by
  intro rest depth parts left hafter
  unfold Yields
  rw [Grammar.items_item]
  exact bind (h rest depth) hafter

theorem next_entry {word : List Token} {s : Symbol} {e : Expr} (name : String)
    (h : ∀ rest depth,
      Yields (Grammar.expr depth) (word ++ .symbol s :: rest) e (.symbol s :: rest)) :
    Next Grammar.entries .rightBrace (.ident name :: .symbol .colon :: word) s (name, e) := by
  intro rest depth parts left hafter
  unfold Yields
  rw [List.cons_append, List.cons_append, Grammar.entries_entry]
  exact bind (h rest depth) hafter

/-- Where each word is read as its part up to a comma and up to the closing mark, words with
commas between are read as their parts up to the closing mark. -/
theorem exists_row {ι : Type} (row : Nat → Parser (List α)) (close : Symbol)
    (spell : ι → List Token) (Means : ι → α → Prop) (hzero : row 0 = Action.exhausted)
    (hclose : close ≠ .comma) {words : List ι} (hne : words ≠ [])
    (hwords : ∀ word ∈ words, ∀ s, s = .comma ∨ s = close →
      ∃ part, Means word part ∧ Next row close (spell word) s part) :
    ∃ parts, List.Forall₂ Means words parts ∧ ∀ rest depth,
      Yields (row depth) (commas (words.map spell) ++ .symbol close :: rest) parts rest := by
  induction words with
  | nil => exact absurd rfl hne
  | cons word words ih =>
    cases words with
    | nil =>
      obtain ⟨part, hmeans, hpart⟩ := hwords word List.mem_cons_self close (Or.inr rfl)
      refine ⟨[part], .cons hmeans .nil, fun rest depth => ?_⟩
      cases depth with
      | zero => exact hzero ▸ trivial
      | succ depth =>
        rw [List.map_singleton, commas_singleton]
        apply hpart
        unfold Yields
        rw [Grammar.afterPart_close]
        exact ⟨rfl, rfl⟩
    | cons next words =>
      obtain ⟨part, hmeans, hpart⟩ := hwords word List.mem_cons_self .comma (Or.inl rfl)
      obtain ⟨parts, hmeans', hparts⟩ := ih (List.cons_ne_nil _ _)
        fun word hmem => hwords word (List.mem_cons_of_mem _ hmem)
      refine ⟨part :: parts, .cons hmeans hmeans', fun rest depth => ?_⟩
      cases depth with
      | zero => exact hzero ▸ trivial
      | succ depth =>
        rw [List.map_cons, List.map_cons, commas_cons, List.append_assoc, List.cons_append]
        apply hpart
        unfold Yields
        rw [Grammar.afterPart_comma hclose]
        exact bind (hparts rest depth) (pure _)

/-- The closing marks of lists and records, and the comma. -/
theorem closes_part {s close : Symbol} (hs : s = .comma ∨ s = close)
    (hclose : close = .rightBracket ∨ close = .rightBrace) (rest : List Token) :
    Closes (.symbol s :: rest) := by
  rcases hs with rfl | rfl
  · exact closes_cons rest rfl (by decide)
  · rcases hclose with rfl | rfl <;> exact closes_cons rest rfl (by decide)

theorem items {items : List Expr} (hne : items ≠ []) (hitems : ∀ e ∈ items, ReadsAsAtom e)
    (rest : List Token) (depth : Nat) :
    Yields (Grammar.items depth)
      (commas (items.map fun e => e.tokens true) ++ .symbol .rightBracket :: rest) items rest := by
  obtain ⟨parts, hparts, hyields⟩ :=
    exists_row Grammar.items .rightBracket (fun e : Expr => e.tokens true) (· = ·) rfl (by decide)
      hne fun e hmem s hs => ⟨e, rfl, next_item fun rest =>
        (hitems e hmem).before_close .expr (closes_part hs (Or.inl rfl) rest)⟩
  cases List.forall₂_eq_eq_eq ▸ hparts
  exact hyields rest depth

theorem entries {entries : List (String × Expr)} (hne : entries ≠ [])
    (hentries : ∀ entry ∈ entries, ReadsAsAtom entry.2) (rest : List Token) (depth : Nat) :
    Yields (Grammar.entries depth)
      (commas (entries.map fun entry => .ident entry.1 :: .symbol .colon :: entry.2.tokens true) ++
        .symbol .rightBrace :: rest) entries rest := by
  obtain ⟨parts, hparts, hyields⟩ :=
    exists_row Grammar.entries .rightBrace
      (fun entry : String × Expr => .ident entry.1 :: .symbol .colon :: entry.2.tokens true)
      (· = ·) rfl (by decide) hne
      fun entry hmem s hs => ⟨entry, rfl, next_entry entry.1 fun rest =>
        (hentries entry hmem).before_close .expr (closes_part hs (Or.inr rfl) rest)⟩
  cases List.forall₂_eq_eq_eq ▸ hparts
  exact hyields rest depth

end Yields

/-! ## Each kind of expression -/

namespace ReadsAsAtom

theorem of_succ {e : Expr}
    (h : ∀ rest : List Token, rest.head? ≠ some (.symbol .dot) →
      ∀ depth, Yields (Grammar.atom (depth + 1)) (e.tokens true ++ rest) e rest) :
    ReadsAsAtom e := by
  intro rest hrest depth
  cases depth with
  | zero => exact trivial
  | succ depth => exact h rest hrest depth

theorem number (x : Float) : ReadsAsAtom (.number x) := of_succ fun _ _ _ => ⟨rfl, rfl⟩

theorem text (s : String) : ReadsAsAtom (.text s) := of_succ fun _ _ _ => ⟨rfl, rfl⟩

theorem ident (name : String) : ReadsAsAtom (.ident name) := of_succ fun rest hrest depth => by
  unfold Yields Expr.tokens
  rw [List.singleton_append, Grammar.atom_ident]
  exact Yields.bind (Yields.path_end hrest depth) (.pure _)

theorem field (base : String) {fields : List String} (hne : fields ≠ []) :
    ReadsAsAtom (.field base fields) := of_succ fun rest hrest depth => by
  unfold Yields Expr.tokens
  rw [List.cons_append, Grammar.atom_ident]
  refine Yields.bind (Yields.path fields hrest depth) ?_
  cases fields with
  | nil => exact absurd rfl hne
  | cons name fields => exact .pure _

theorem record {fields : List (String × Expr)} (hnodup : (Fields.names fields).Nodup)
    (hfields : ∀ entry ∈ fields, ReadsAsAtom entry.2) : ReadsAsAtom (.record fields) :=
  of_succ fun rest hrest depth => by
    cases fields with
    | nil => exact ⟨rfl, rfl⟩
    | cons entry fields =>
      unfold Yields Expr.tokens
      rw [Expr.tokensOfFields_eq_map, List.cons_append, List.append_assoc, List.singleton_append,
        Grammar.atom_record]
      · refine Yields.bind (Yields.entries (List.cons_ne_nil _ _) hfields rest depth) ?_
        rw [Fields.ofList_of_nodup hnodup]
        exact .pure _
      · obtain ⟨more, hmore⟩ := commas_starts
          (.ident entry.1 :: .symbol .colon :: entry.2.tokens true)
          (fields.map fun entry => .ident entry.1 :: .symbol .colon :: entry.2.tokens true)
        rw [List.map_cons, hmore]
        intro hclose
        cases hclose

theorem list {items : List Expr} (hitems : ∀ e ∈ items, ReadsAsAtom e) :
    ReadsAsAtom (.list items) := of_succ fun rest hrest depth => by
  cases items with
  | nil => exact ⟨rfl, rfl⟩
  | cons e items =>
    unfold Yields Expr.tokens
    rw [Expr.tokensOfItems_eq_map, List.cons_append, List.append_assoc, List.singleton_append,
      Grammar.atom_list]
    · exact Yields.bind (Yields.items (List.cons_ne_nil _ _) hitems rest depth) (.pure _)
    · obtain ⟨more, hmore⟩ := commas_starts (e.tokens true) (items.map fun e => e.tokens true)
      rw [List.map_cons, hmore, List.append_assoc]
      intro hclose
      have hstart := e.tokens_head (more ++ .symbol .rightBracket :: rest)
      rw [hclose] at hstart
      cases hstart

end ReadsAsAtom

/-- The level on which the operator joins two operands. -/
def BinaryOp.joins : BinaryOp → Level
  | .eq => .equality
  | .add | .sub => .additive
  | .mul | .div | .rem => .multiplicative

theorem BinaryOp.symbol_joins (op : BinaryOp) : (op.symbol, op) ∈ op.joins.operators := by
  cases op <;> decide

theorem BinaryOp.linkLevel?_symbol (op : BinaryOp) :
    linkLevel? (some (.symbol op.symbol)) = some op.joins :=
  linkLevel?_operator op.symbol_joins

theorem BinaryOp.joins_cases (op : BinaryOp) :
    op.joins = .equality ∨ op.joins = .additive ∨ op.joins = .multiplicative := by
  cases op <;> decide

/-- What the operator joins are phrases of the next level down. -/
theorem BinaryOp.exists_inner (op : BinaryOp) :
    ∃ inner, op.joins.inner? = some inner ∧ inner.rank + 1 = op.joins.rank := by
  cases op <;> exact ⟨_, rfl, rfl⟩

namespace ReadsWhole

/-- An atom that takes everything after its start is read by itself. -/
theorem of_atom {e : Expr}
    (h : ∀ rest, Closes rest → ∀ depth,
      Yields (Grammar.atom (depth + 1)) (e.tokens false ++ rest) e rest) : ReadsWhole e := by
  intro rest hrest
  refine Yields.whole .atom hrest fun depth => ?_
  cases depth with
  | zero => exact trivial
  | succ depth => exact h rest hrest depth

theorem lambda (param : String) {body : Expr} (hbody : ReadsAsAtom body) :
    ReadsWhole (.lambda param body) := of_atom fun rest hrest depth => by
  unfold Yields
  change (Grammar.atom (depth + 1) (_ :: _ :: _ :: (body.tokens true ++ rest))).Meets _ _ _
  rw [Grammar.atom_lambda]
  exact Yields.bind (hbody.before_close .expr hrest depth) (.pure _)

theorem bind (name : String) {value next : Expr} (hvalue : ReadsAsAtom value)
    (hnext : ReadsAsAtom next) : ReadsWhole (.bind name value next) :=
  of_atom fun rest hrest depth => by
    unfold Yields
    change (Grammar.atom (depth + 1) (_ :: _ :: _ :: ((_ ++ _ :: _) ++ rest))).Meets _ _ _
    rw [Grammar.atom_let, List.append_assoc, List.cons_append]
    refine Yields.bind (hvalue.before_close .expr (closes_cons _ rfl (by decide)) depth) ?_
    exact .expect (Yields.bind (hnext.before_close .expr hrest depth) (.pure _))

theorem cond {test yes no : Expr} (htest : ReadsAsAtom test) (hyes : ReadsAsAtom yes)
    (hno : ReadsAsAtom no) : ReadsWhole (.cond test yes no) := of_atom fun rest hrest depth => by
  unfold Yields
  change (Grammar.atom (depth + 1) (_ :: ((_ ++ _ :: (_ ++ _ :: _)) ++ rest))).Meets _ _ _
  rw [Grammar.atom_if, List.append_assoc, List.cons_append, List.append_assoc, List.cons_append]
  refine Yields.bind (htest.before_close .expr (closes_cons _ rfl (by decide)) depth) ?_
  refine .expect (Yields.bind (hyes.before_close .expr (closes_cons _ rfl (by decide)) depth) ?_)
  exact .expect (Yields.bind (hno.before_close .expr hrest depth) (.pure _))

theorem apply {callee : Expr} {args : List Expr} (hne : args ≠ []) (hcallee : ReadsAsAtom callee)
    (hargs : ∀ e ∈ args, ReadsAsAtom e) : ReadsWhole (.apply callee args) := by
  intro rest hrest
  refine Yields.whole .apply hrest fun depth => ?_
  cases depth with
  | zero => exact trivial
  | succ depth =>
    unfold Yields Expr.tokens groupedTokens
    rw [Expr.tokensOfItems_eq_map, List.flatMap_map, if_neg Bool.false_ne_true, List.append_assoc]
    cases args with
    | nil => exact absurd rfl hne
    | cons e args =>
      refine Yields.bind (hcallee.before_link .equality .apply ?_ (by decide) depth)
        (Yields.bind (Yields.arguments hargs hrest depth) (.pure _))
      rw [List.flatMap_cons, List.append_assoc]
      exact e.tokens_head _

theorem pipe {seed : Expr} {stages : List Expr} (hne : stages ≠ []) (hseed : ReadsAsAtom seed)
    (hstages : ∀ e ∈ stages, ReadsAsAtom e) : ReadsWhole (.pipe seed stages) := by
  intro rest hrest depth
  cases depth with
  | zero => exact trivial
  | succ depth =>
    unfold Yields Expr.tokens groupedTokens
    rw [Expr.tokensOfItems_eq_map, List.flatMap_map, if_neg Bool.false_ne_true, List.append_assoc]
    cases stages with
    | nil => exact absurd rfl hne
    | cons e stages =>
      exact Yields.bind (hseed.before_link .apply .expr rfl (by decide) depth)
        (Yields.bind (Yields.stages hstages hrest depth) (.pure _))

theorem binary (op : BinaryOp) {left right : Expr} (hleft : ReadsAsAtom left)
    (hright : ReadsAsAtom right) : ReadsWhole (.binary op left right) := by
  intro rest hrest
  obtain ⟨inner, hinner, hrank⟩ := op.exists_inner
  have hl : ∀ depth, Yields (parserAt inner depth)
      (left.tokens true ++ .symbol op.symbol :: (right.tokens true ++ rest)) left
      (.symbol op.symbol :: (right.tokens true ++ rest)) :=
    hleft.before_link inner op.joins op.linkLevel?_symbol (hrank ▸ Nat.lt_succ_self _)
  have hr := hright.before_close op.joins hrest
  refine Yields.whole op.joins hrest fun depth => ?_
  unfold Expr.tokens groupedTokens
  rw [if_neg Bool.false_ne_true, List.append_assoc, List.cons_append]
  exact Yields.binary hinner op.symbol_joins hl hr depth

end ReadsWhole

/-- Every printable expression is read back from its tokens, as a part and by itself. -/
theorem Printable.reads {e : Expr} (h : Printable e) : ReadsAsAtom e ∧ ReadsWhole e := by
  have hatom : ∀ e : Expr, e.tokens false = e.tokens true → ReadsAsAtom e →
      ReadsAsAtom e ∧ ReadsWhole e := fun _ hsame h => ⟨h, h.whole hsame⟩
  have hwhole : ∀ e : Expr,
      e.tokens true = .symbol .leftParen :: (e.tokens false ++ [.symbol .rightParen]) →
      ReadsWhole e → ReadsAsAtom e ∧ ReadsWhole e := fun _ hsame h => ⟨h.grouped hsame, h⟩
  induction h with
  | number _ => exact hatom _ rfl (.number _)
  | text _ => exact hatom _ rfl (.text _)
  | ident _ => exact hatom _ rfl (.ident _)
  | field _ hne _ => exact hatom _ rfl (.field _ hne)
  | record hnodup _ _ ih =>
    exact hatom _ rfl (.record hnodup fun entry hmem => (ih entry hmem).1)
  | list _ ih => exact hatom _ rfl (.list fun e hmem => (ih e hmem).1)
  | bind _ _ _ ihv ihn => exact hwhole _ rfl (.bind _ ihv.1 ihn.1)
  | lambda _ _ ih => exact hwhole _ rfl (.lambda _ ih.1)
  | cond _ _ _ iht ihy ihn => exact hwhole _ rfl (.cond iht.1 ihy.1 ihn.1)
  | apply hne _ _ ihc iha => exact hwhole _ rfl (.apply hne ihc.1 fun e hmem => (iha e hmem).1)
  | pipe hne _ _ ihs iht => exact hwhole _ rfl (.pipe hne ihs.1 fun e hmem => (iht e hmem).1)
  | binary _ _ ihl ihr => exact hwhole _ rfl (.binary _ ihl.1 ihr.1)

/-! ## The parser undoes the printer -/

/-- Tokens that the grammar takes whole parse to what it yields. -/
theorem parse_of_yields {ts : List Token} {e : Expr}
    (h : ∀ depth, Yields (Grammar.expr depth) (ts ++ []) e []) : parse ts = .ok e := by
  have hyields := h (parseDepth ts)
  have hends := (readsAt (parseDepth ts)).expr ts.length (parseDepth_enough ts) ts (Nat.le_refl _)
  rw [List.append_nil] at hyields
  obtain ⟨_, rest, hdone, rfl, _⟩ := Action.Meets.exists_done hyields hends
  exact parse_eq_ok.mpr ⟨rest, hdone⟩

/-- The tokens of a printable expression, with or without parentheses around it, parse to it. -/
theorem Printable.parse_tokens {e : Expr} (h : Printable e) (part : Bool) :
    parse (e.tokens part) = .ok e := by
  cases part with
  | false => exact parse_of_yields (h.reads.2 [] closes_nil)
  | true => exact parse_of_yields (h.reads.1.before_close .expr closes_nil)

/-- The text of a printable expression parses to that expression. -/
theorem Printable.parseSource_print {e : Expr} (h : Printable e) (part : Bool) :
    parseSource (String.ofList (e.print part)) = .ok e := by
  have hspells := h.spelled part [] [] .nil .nil
  rw [List.append_nil, List.append_nil] at hspells
  have htokens : tokenize (String.ofList (e.print part)) = .ok (e.tokens part) :=
    spells_iff.mp (by rwa [String.toList_ofList])
  unfold parseSource
  rw [htokens]
  simp only
  rw [h.parse_tokens]

end Language

end Patchbay
