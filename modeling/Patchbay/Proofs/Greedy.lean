-- The parser takes all that the grammar lets it take. The rules of the grammar
-- are ambiguous, but whatever the rules that derive a phrase, the phrase is a
-- chain: operands, each after some openers (the starts of functions, lets and
-- conditions), with a link between each two of them. So to take a link when one
-- is next never cuts off a way to go on.
import Patchbay.Proofs.Derivations
import Patchbay.Proofs.Lookahead
import Patchbay.Proofs.ParserSteps

namespace Patchbay.Language

/-! ## Links -/

/-- The tighter the level, the smaller. -/
def Level.rank : Level → Nat
  | .expr => 5
  | .apply => 4
  | .equality => 3
  | .additive => 2
  | .multiplicative => 1
  | .atom => 0

/-- What stands between two operands of a level. An argument follows with nothing between. -/
inductive Link : Level → List Token → Prop
  | pipe : Link .expr [.symbol .pipe]
  | argument : Link .apply []
  | operator {level : Level} {s : Symbol} {op : BinaryOp} (h : (s, op) ∈ level.operators) :
      Link level [.symbol s]

/-- The level of which the next token is, or starts, a link. -/
def linkLevel? : Option Token → Option Level
  | none => none
  | some (.symbol s) =>
    match s with
    | .pipe => some .expr
    | .backslash | .letWord | .ifWord | .leftParen | .leftBrace | .leftBracket => some .apply
    | .equals => some .equality
    | .plus | .minus => some .additive
    | .star | .slash | .percent => some .multiplicative
    | _ => none
  | some _ => some .apply

theorem startsArgument_iff (t : Option Token) :
    startsArgument t = true ↔ linkLevel? t = some .apply := by
  rcases t with _ | (x | s | name | s)
  · simp [startsArgument, linkLevel?]
  · simp [startsArgument, linkLevel?]
  · simp [startsArgument, linkLevel?]
  · simp [startsArgument, linkLevel?]
  · cases s <;> decide

theorem Link.rank_pos {level : Level} {link : List Token} (h : Link level link) :
    Level.atom.rank < level.rank := by
  cases h with
  | pipe => decide
  | argument => decide
  | operator h => cases level <;> first | exact Nat.succ_pos _ | cases h

theorem linkLevel?_operator {level : Level} {s : Symbol} {op : BinaryOp}
    (h : (s, op) ∈ level.operators) : linkLevel? (some (.symbol s)) = some level := by
  cases level <;> simp only [Level.operators, List.mem_cons, List.not_mem_nil, or_false,
    Prod.mk.injEq] at h
  · obtain ⟨rfl, _⟩ := h
    rfl
  · rcases h with ⟨rfl, _⟩ | ⟨rfl, _⟩ <;> rfl
  · rcases h with ⟨rfl, _⟩ | ⟨rfl, _⟩ | ⟨rfl, _⟩ <;> rfl

/-! ## Phrases as chains -/

inductive Shape
  /-- One operand, which ends where it ends. -/
  | operand
  /-- A start after which everything up to the end of the chain belongs to it. -/
  | opener
  | chain
  /-- What can follow on a phrase of the level: nothing, or a looser link and a chain. -/
  | tail (level : Level)

inductive Flat : Shape → List Token → Prop
  | number (x : Float) : Flat .operand [.number x]
  | text (s : String) : Flat .operand [.text s]
  | path (base : String) (names : List String) :
      Flat .operand (.ident base :: names.flatMap fun name => [.symbol .dot, .ident name])
  | group {w : List Token} (hw : Flat .chain w) :
      Flat .operand (.symbol .leftParen :: (w ++ [.symbol .rightParen]))
  | record {entries : List (List Token × String)} (h : ∀ entry ∈ entries, Flat .chain entry.1) :
      Flat .operand
        (.symbol .leftBrace ::
          (commas (entries.map fun entry => .ident entry.2 :: .symbol .colon :: entry.1) ++
            [.symbol .rightBrace]))
  | list {items : List (List Token)} (h : ∀ item ∈ items, Flat .chain item) :
      Flat .operand (.symbol .leftBracket :: (commas items ++ [.symbol .rightBracket]))
  | lambda (param : String) :
      Flat .opener [.symbol .backslash, .ident param, .symbol .colon]
  | letValue (name : String) {w : List Token} (hw : Flat .chain w) :
      Flat .opener
        (.symbol .letWord :: .ident name :: .symbol .assign :: (w ++ [.symbol .semicolon]))
  | ifElse {u v : List Token} (hu : Flat .chain u) (hv : Flat .chain v) :
      Flat .opener (.symbol .ifWord :: (u ++ .symbol .thenWord :: (v ++ [.symbol .elseWord])))
  | opened {u w : List Token} (hu : Flat .opener u) (hw : Flat .chain w) : Flat .chain (u ++ w)
  | linked {u v : List Token} (hu : Flat .operand u) (hv : Flat (.tail .atom) v) :
      Flat .chain (u ++ v)
  | nil {level : Level} : Flat (.tail level) []
  | link {level outer : Level} {link w : List Token} (hr : level.rank < outer.rank)
      (hlink : Link outer link) (hw : Flat .chain w) : Flat (.tail level) (link ++ w)

namespace Flat

theorem chain_of_operand {u : List Token} (h : Flat .operand u) : Flat .chain u :=
  List.append_nil u ▸ .linked h .nil

/-- A link and a chain can follow on any chain. -/
theorem append {shape : Shape} {u link v : List Token} {level : Level} (hu : Flat shape u)
    (hlink : Link level link) (hv : Flat .chain v) :
    shape = .chain ∨ shape = .tail .atom → Flat shape (u ++ (link ++ v)) := by
  induction hu with
  | opened hu hw _ ih =>
    intro _
    rw [List.append_assoc]
    exact .opened hu (ih (.inl rfl))
  | linked hu hv _ ih =>
    intro _
    rw [List.append_assoc]
    exact .linked hu (ih (.inr rfl))
  | nil =>
    rintro (h | h) <;> cases h
    rw [List.nil_append]
    exact .link hlink.rank_pos hlink hv
  | link hr hl hw ih =>
    intro _
    rw [List.append_assoc]
    exact .link hr hl (ih (.inl rfl))
  | _ => rintro (h | h) <;> cases h

/-- So can a row of them. -/
theorem append_all {sep : List Token} {level : Level} (hsep : Link level sep)
    {parts : List (List Token × Expr)} (hparts : ∀ part ∈ parts, Flat .chain part.1)
    {u : List Token} (hu : Flat .chain u) :
    Flat .chain (u ++ parts.flatMap fun part => sep ++ part.1) := by
  induction parts generalizing u with
  | nil =>
    rw [List.flatMap_nil, List.append_nil]
    exact hu
  | cons part parts ih =>
    have hfirst := hu.append hsep (hparts part List.mem_cons_self) (.inl rfl)
    have hrest := ih (fun part hmem => hparts part (List.mem_cons_of_mem _ hmem)) hfirst
    rwa [List.append_assoc] at hrest

/-- A chain starts as an argument does. -/
theorem head {w : List Token} (h : Flat .chain w) (rest : List Token) :
    linkLevel? (w ++ rest).head? = some .apply := by
  cases h with
  | opened hu hw => cases hu <;> rfl
  | linked hu hv => cases hu <;> rfl

end Flat

/-- Every phrase is a chain, by whatever rules it is derived. -/
theorem Derives.flat {level : Level} {w : List Token} {e : Expr} (h : Derives level w e) :
    Flat .chain w := by
  induction h with
  | single _ _ ih => exact ih
  | pipe _ _ _ ih ihs => exact ih.append_all .pipe ihs
  | apply _ _ _ ih ihs => exact ih.append_all .argument ihs
  | binary _ hop _ _ ihl ihr => exact ihl.append (.operator hop) ihr (.inl rfl)
  | number x => exact (Flat.number x).chain_of_operand
  | text s => exact (Flat.text s).chain_of_operand
  | ident name => exact (Flat.path name []).chain_of_operand
  | field base _ => exact (Flat.path base _).chain_of_operand
  | lambda param _ ih => exact .opened (.lambda param) ih
  | bind name _ _ ihv ihn =>
    have h := Flat.opened (.letValue name ihv) ihn
    simpa only [List.cons_append, List.append_assoc, List.nil_append] using h
  | cond _ _ _ iht ihy ihn =>
    have h := Flat.opened (.ifElse iht ihy) ihn
    simpa only [List.cons_append, List.append_assoc, List.nil_append] using h
  | group _ ih => exact (Flat.group ih).chain_of_operand
  | @record entries fields _ _ ih =>
    have h := Flat.record (fun entry hmem => by
      obtain ⟨part, hpart, rfl⟩ := List.mem_map.mp hmem
      exact ih part hpart : ∀ entry ∈ entries.map fun part => (part.1, part.2.1), _)
    rw [List.map_map] at h
    exact h.chain_of_operand
  | list _ ih =>
    refine Flat.chain_of_operand (.list fun item hmem => ?_)
    obtain ⟨part, hpart, rfl⟩ := List.mem_map.mp hmem
    exact ih part hpart

/-! ## What follows on a chain -/

/-- The next token goes on with nothing that came before it. -/
def Closes (rest : List Token) : Prop :=
  linkLevel? rest.head? = none ∧ rest.head? ≠ some (.symbol .dot)

theorem closes_nil : Closes [] := ⟨rfl, fun h => nomatch h⟩

theorem closes_cons {s : Symbol} (rest : List Token) (h : linkLevel? (some (.symbol s)) = none)
    (hdot : s ≠ .dot) : Closes (.symbol s :: rest) := by
  refine ⟨h, fun hs => hdot ?_⟩
  injection hs with hs
  injection hs

/-- The next token after a tail is no link of the level, and no dot. -/
theorem Flat.tail_head {level : Level} {v rest : List Token} (hv : Flat (.tail level) v)
    (hrest : Closes rest) :
    (∀ outer, linkLevel? (v ++ rest).head? = some outer → level.rank < outer.rank) ∧
      (v ++ rest).head? ≠ some (.symbol .dot) := by
  cases hv with
  | nil =>
    refine ⟨fun outer h => ?_, hrest.2⟩
    rw [List.nil_append, hrest.1] at h
    cases h
  | @link _ outer link w hr hlink hw =>
    have hnext : linkLevel? (link ++ w ++ rest).head? = some outer := by
      cases hlink with
      | pipe => rfl
      | argument => exact hw.head rest
      | operator hop => exact linkLevel?_operator hop
    refine ⟨fun other h => ?_, fun h => ?_⟩
    · rw [hnext] at h
      cases h
      exact hr
    · rw [h] at hnext
      cases hnext

/-- A tail of the operands goes on with a link of the level, or is one of the level. -/
theorem Flat.tail_step (level : Level) {inner : Level} {v : List Token}
    (hlevel : level.inner? = some inner) (hv : Flat (.tail inner) v) :
    (∃ link w, Link level link ∧ Flat .chain w ∧ v = link ++ w) ∨ Flat (.tail level) v := by
  cases hv with
  | nil => exact .inr .nil
  | @link _ outer link w hr hlink hw =>
    by_cases ho : outer = level
    · exact .inl ⟨link, w, ho ▸ hlink, hw, rfl⟩
    · have hr' : level.rank < outer.rank := by
        revert hr ho hlevel
        cases level <;> cases inner <;> cases outer <;> decide
      exact .inr (.link hr' hlink hw)

theorem Flat.tail_expr {v : List Token} (hv : Flat (.tail .expr) v) : v = [] := by
  cases hv with
  | nil => rfl
  | @link _ outer _ _ hr =>
    have hle : outer.rank ≤ Level.expr.rank := by cases outer <;> decide
    exact absurd hr (Nat.not_lt.mpr hle)

/-! ## The parser takes chains -/

variable {α : Type}

/-- The tokens left are a tail of the level and then `rest`. -/
def Leaves (level : Level) (rest left : List Token) : Prop :=
  ∃ v, left = v ++ rest ∧ Flat (.tail level) v

/-- On a chain and what closes it, the parser does not fail, and leaves only what goes on with
a looser link. -/
def Accepts (level : Level) (x : Parser Expr) : Prop :=
  ∀ w rest, Flat .chain w → Closes rest →
    (x (w ++ rest)).Meets (fun _ left => Leaves level rest left) False True

/-- The same for what follows on a phrase of the operands. -/
def GoesOn (inner level : Level) (x : Parser (List Expr)) : Prop :=
  ∀ v rest, Flat (.tail inner) v → Closes rest →
    (x (v ++ rest)).Meets (fun _ left => Leaves level rest left) False True

/-- The tokens are taken up to `rest`. -/
def Takes (x : Parser α) (used rest : List Token) : Prop :=
  (x (used ++ rest)).Meets (fun _ left => left = rest) False True

/-- At one depth, the parts of the parser on what they are for. -/
structure AcceptsAt (depth : Nat) : Prop where
  expr : ∀ w rest, Flat .chain w → Closes rest → Takes (Grammar.expr depth) w rest
  stages : GoesOn .apply .expr (Grammar.stages depth)
  apply : Accepts .apply (Grammar.apply depth)
  arguments : GoesOn .equality .apply (Grammar.arguments depth)
  equality : Accepts .equality (Grammar.equality depth)
  additive : Accepts .additive (Grammar.additive depth)
  multiplicative : Accepts .multiplicative (Grammar.multiplicative depth)
  atom : Accepts .atom (Grammar.atom depth)
  path : ∀ (names : List String) (rest : List Token), rest.head? ≠ some (.symbol .dot) →
    Takes (Grammar.path depth) (names.flatMap fun name => [.symbol .dot, .ident name]) rest
  entries : ∀ (entries : List (List Token × String)) rest, entries ≠ [] →
    (∀ entry ∈ entries, Flat .chain entry.1) →
    Takes (Grammar.entries depth)
      (commas (entries.map fun entry => .ident entry.2 :: .symbol .colon :: entry.1) ++
        [.symbol .rightBrace]) rest
  items : ∀ (items : List (List Token)) rest, items ≠ [] → (∀ item ∈ items, Flat .chain item) →
    Takes (Grammar.items depth) (commas items ++ [.symbol .rightBracket]) rest

/-- The rule for the levels with operators. -/
theorem Accepts.chain {level inner : Level} {op? : Symbol → Option BinaryOp}
    {operand same : Parser Expr} (hlevel : level.inner? = some inner)
    (hne : level.operators ≠ []) (hop : ∀ s op, op? s = some op ↔ (s, op) ∈ level.operators)
    (hoperand : Accepts inner operand) (hsame : Accepts level same) :
    Accepts level (Parser.chain op? operand same) := by
  intro w rest hw hrest
  refine Action.Meets.andThen (hoperand w rest hw hrest) fun left ts => ?_
  rintro ⟨v, rfl, hv⟩
  rcases hv.tail_step level hlevel with ⟨link, w', hlink, hw', rfl⟩ | hv
  · cases hlink with
    | operator hmem =>
      rw [List.append_assoc, List.singleton_append, Parser.operator?_bind _ ((hop _ _).mpr hmem)]
      exact Action.Meets.andThen (hsame w' rest hw' hrest) fun right left hleft => hleft
    | _ => exact absurd rfl hne
  · rw [Parser.operator?_bind_of_none]
    · exact ⟨v, rfl, hv⟩
    · intro s hs
      cases hsome : op? s with
      | none => rfl
      | some op =>
        have hnext := linkLevel?_operator ((hop s op).mp hsome)
        rw [← hs] at hnext
        exact absurd ((hv.tail_head hrest).1 level hnext) (Nat.lt_irrefl _)

namespace AcceptsAt

variable {depth : Nat} (h : AcceptsAt depth)
include h

theorem expr_succ {w rest : List Token} (hw : Flat .chain w) (hrest : Closes rest) :
    Takes (Grammar.expr (depth + 1)) w rest := by
  refine Action.Meets.andThen (h.apply w rest hw hrest) fun seed ts => ?_
  rintro ⟨v, rfl, hv⟩
  refine Action.Meets.andThen (h.stages v rest hv hrest) fun stages ts => ?_
  rintro ⟨v', rfl, hv'⟩
  rw [hv'.tail_expr]
  cases stages <;> rfl

theorem stages_succ : GoesOn .apply .expr (Grammar.stages (depth + 1)) := by
  intro v rest hv hrest
  rcases hv.tail_step .expr rfl with ⟨link, w, hlink, hw, rfl⟩ | hv
  · cases hlink with
    | pipe =>
      rw [List.append_assoc, List.singleton_append, Grammar.stages_stage]
      refine Action.Meets.andThen (h.apply w rest hw hrest) fun stage ts => ?_
      rintro ⟨v', rfl, hv'⟩
      exact Action.Meets.andThen (h.stages v' rest hv' hrest) fun stages left hleft => hleft
    | operator hop => cases hop
  · rw [Grammar.stages_end]
    · exact ⟨v, rfl, hv⟩
    · intro hpipe
      exact absurd ((hv.tail_head hrest).1 .expr (hpipe ▸ rfl)) (Nat.lt_irrefl _)

theorem apply_succ : Accepts .apply (Grammar.apply (depth + 1)) := by
  intro w rest hw hrest
  refine Action.Meets.andThen (h.equality w rest hw hrest) fun callee ts => ?_
  rintro ⟨v, rfl, hv⟩
  refine Action.Meets.andThen (h.arguments v rest hv hrest) fun args ts hleft => ?_
  cases args <;> exact hleft

theorem arguments_succ : GoesOn .equality .apply (Grammar.arguments (depth + 1)) := by
  intro v rest hv hrest
  rcases hv.tail_step .apply rfl with ⟨link, w, hlink, hw, rfl⟩ | hv
  · cases hlink with
    | argument =>
      have hstart := (startsArgument_iff _).mpr (hw.head rest)
      rw [List.nil_append, Grammar.arguments_argument depth hstart]
      refine Action.Meets.andThen (h.equality w rest hw hrest) fun arg ts => ?_
      rintro ⟨v', rfl, hv'⟩
      exact Action.Meets.andThen (h.arguments v' rest hv' hrest) fun args left hleft => hleft
    | operator hop => cases hop
  · rw [Grammar.arguments_end]
    · exact ⟨v, rfl, hv⟩
    · refine Bool.eq_false_iff.mpr fun hstart => ?_
      have hlevel := (startsArgument_iff _).mp hstart
      exact absurd ((hv.tail_head hrest).1 .apply hlevel) (Nat.lt_irrefl _)

/-- An operand is taken up to its end. -/
theorem operand {u v rest : List Token} (hu : Flat .operand u) (hv : Flat (.tail .atom) v)
    (hrest : Closes rest) :
    (Grammar.atom (depth + 1) (u ++ (v ++ rest))).Meets (fun _ left => left = v ++ rest)
      False True := by
  cases hu with
  | number x => exact rfl
  | text s => exact rfl
  | path base names =>
    rw [List.cons_append, Grammar.atom_ident]
    refine Action.Meets.andThen (h.path names (v ++ rest) (hv.tail_head hrest).2) ?_
    rintro fields left rfl
    cases fields <;> rfl
  | @group w hw =>
    rw [List.cons_append, List.append_assoc, List.singleton_append, Grammar.atom_group]
    refine Action.Meets.andThen (h.expr w _ hw (closes_cons _ rfl (by decide))) ?_
    rintro inner left rfl
    rw [Parser.expect_bind]
    exact rfl
  | @record entries hentries =>
    cases entries with
    | nil => exact rfl
    | cons entry entries =>
      obtain ⟨more, hmore⟩ := commas_starts (.ident entry.2 :: .symbol .colon :: entry.1)
        (entries.map fun entry => .ident entry.2 :: .symbol .colon :: entry.1)
      rw [List.cons_append, Grammar.atom_record depth]
      · refine Action.Meets.andThen (h.entries _ (v ++ rest) (List.cons_ne_nil _ _) hentries) ?_
        rintro fields left rfl
        exact rfl
      · rw [List.map_cons, hmore]
        intro hclose
        cases hclose
  | @list items hitems =>
    cases items with
    | nil => exact rfl
    | cons item items =>
      obtain ⟨more, hmore⟩ := commas_starts item items
      rw [List.cons_append, Grammar.atom_list depth]
      · refine Action.Meets.andThen (h.items _ (v ++ rest) (List.cons_ne_nil _ _) hitems) ?_
        rintro items left rfl
        exact rfl
      · intro hclose
        have hstart := (hitems item List.mem_cons_self).head
          (more ++ [.symbol .rightBracket] ++ (v ++ rest))
        rw [hmore, List.append_assoc, List.append_assoc] at hclose
        rw [List.append_assoc, hclose] at hstart
        cases hstart

/-- What an opener starts is taken up to the end of the chain. -/
theorem opened {u w rest : List Token} (hu : Flat .opener u) (hw : Flat .chain w)
    (hrest : Closes rest) : Takes (Grammar.atom (depth + 1)) (u ++ w) rest := by
  unfold Takes
  rw [List.append_assoc]
  cases hu with
  | lambda param =>
    simp only [List.cons_append, List.nil_append]
    rw [Grammar.atom_lambda]
    refine Action.Meets.andThen (h.expr w rest hw hrest) ?_
    rintro body left rfl
    exact rfl
  | @letValue name u hu =>
    simp only [List.cons_append, List.append_assoc, List.nil_append]
    rw [Grammar.atom_let]
    refine Action.Meets.andThen (h.expr u _ hu (closes_cons _ rfl (by decide))) ?_
    rintro value left rfl
    rw [Parser.expect_bind]
    refine Action.Meets.andThen (h.expr w rest hw hrest) ?_
    rintro next left rfl
    exact rfl
  | @ifElse t u ht hu =>
    simp only [List.cons_append, List.append_assoc, List.nil_append]
    rw [Grammar.atom_if]
    refine Action.Meets.andThen (h.expr t _ ht (closes_cons _ rfl (by decide))) ?_
    rintro test left rfl
    rw [Parser.expect_bind]
    refine Action.Meets.andThen (h.expr u _ hu (closes_cons _ rfl (by decide))) ?_
    rintro yes left rfl
    rw [Parser.expect_bind]
    refine Action.Meets.andThen (h.expr w rest hw hrest) ?_
    rintro no left rfl
    exact rfl

theorem atom_succ : Accepts .atom (Grammar.atom (depth + 1)) := by
  intro w rest hw hrest
  cases hw with
  | opened hu hw =>
    refine Action.Meets.mono (h.opened hu hw hrest) ?_ id id
    rintro e left rfl
    exact ⟨[], rfl, .nil⟩
  | @linked u v hu hv =>
    rw [List.append_assoc]
    refine Action.Meets.mono (h.operand hu hv hrest) ?_ id id
    rintro e left rfl
    exact ⟨v, rfl, hv⟩

theorem path_succ (names : List String) {rest : List Token}
    (hrest : rest.head? ≠ some (.symbol .dot)) :
    Takes (Grammar.path (depth + 1)) (names.flatMap fun name => [.symbol .dot, .ident name])
      rest := by
  cases names with
  | nil =>
    unfold Takes
    rw [List.flatMap_nil, List.nil_append, Grammar.path_end depth hrest]
    exact rfl
  | cons name names =>
    unfold Takes
    rw [List.flatMap_cons, List.append_assoc, List.cons_append, List.cons_append, List.nil_append,
      Grammar.path_name]
    refine Action.Meets.andThen (h.path names rest hrest) ?_
    rintro fields left rfl
    exact rfl

theorem entries_succ {entries : List (List Token × String)} (rest : List Token)
    (hne : entries ≠ []) (hentries : ∀ entry ∈ entries, Flat .chain entry.1) :
    Takes (Grammar.entries (depth + 1))
      (commas (entries.map fun entry => .ident entry.2 :: .symbol .colon :: entry.1) ++
        [.symbol .rightBrace]) rest := by
  obtain _ | ⟨⟨w, name⟩, entries⟩ := entries
  · exact absurd rfl hne
  have hw : Flat .chain w := hentries (w, name) List.mem_cons_self
  have hrest := fun entry hmem => hentries entry (List.mem_cons_of_mem _ hmem)
  unfold Takes
  cases entries with
  | nil =>
    simp only [List.map_cons, List.map_nil, commas_singleton, List.cons_append, List.append_assoc,
      List.nil_append]
    rw [Grammar.entries_entry]
    refine Action.Meets.andThen (h.expr w _ hw (closes_cons _ rfl (by decide))) ?_
    rintro value left rfl
    rw [Grammar.afterPart_close]
    exact rfl
  | cons next entries =>
    have htakes := h.entries _ rest (List.cons_ne_nil next entries) hrest
    unfold Takes at htakes
    simp only [List.map_cons, commas_cons, List.cons_append, List.append_assoc, List.nil_append]
      at htakes ⊢
    rw [Grammar.entries_entry]
    refine Action.Meets.andThen (h.expr w _ hw (closes_cons _ rfl (by decide))) ?_
    rintro value left rfl
    rw [Grammar.afterPart_comma (by decide)]
    refine Action.Meets.andThen htakes ?_
    rintro fields left rfl
    exact rfl

theorem items_succ {items : List (List Token)} (rest : List Token) (hne : items ≠ [])
    (hitems : ∀ item ∈ items, Flat .chain item) :
    Takes (Grammar.items (depth + 1)) (commas items ++ [.symbol .rightBracket]) rest := by
  obtain _ | ⟨w, items⟩ := items
  · exact absurd rfl hne
  have hw : Flat .chain w := hitems w List.mem_cons_self
  have hrest := fun item hmem => hitems item (List.mem_cons_of_mem _ hmem)
  unfold Takes
  rw [Grammar.items_item]
  cases items with
  | nil =>
    rw [commas_singleton, List.append_assoc, List.singleton_append]
    refine Action.Meets.andThen (h.expr w _ hw (closes_cons _ rfl (by decide))) ?_
    rintro item left rfl
    rw [Grammar.afterPart_close]
    exact rfl
  | cons next items =>
    rw [commas_cons, List.append_assoc, List.append_assoc, List.cons_append]
    refine Action.Meets.andThen (h.expr w _ hw (closes_cons _ rfl (by decide))) ?_
    rintro item left rfl
    rw [Grammar.afterPart_comma (by decide), ← List.append_assoc]
    refine Action.Meets.andThen (h.items _ rest (List.cons_ne_nil next items) hrest) ?_
    rintro items left rfl
    exact rfl

/-- One level deeper. -/
theorem succ : AcceptsAt (depth + 1) where
  expr _ _ := h.expr_succ
  stages := h.stages_succ
  apply := h.apply_succ
  arguments := h.arguments_succ
  equality := .chain rfl (List.cons_ne_nil _ _) equality?_eq_some h.additive h.equality
  additive := .chain rfl (List.cons_ne_nil _ _) additive?_eq_some h.multiplicative h.additive
  multiplicative :=
    .chain rfl (List.cons_ne_nil _ _) multiplicative?_eq_some h.atom h.multiplicative
  atom := h.atom_succ
  path names _ := h.path_succ names
  entries _ rest := h.entries_succ rest
  items _ rest := h.items_succ rest

end AcceptsAt

theorem acceptsAt (depth : Nat) : AcceptsAt depth := by
  induction depth with
  | zero => constructor <;> intro _ _ <;> intros <;> exact trivial
  | succ depth ih => exact ih.succ

/-! ## Whole token lists -/

theorem parse_eq_ok {ts : List Token} {e : Expr} :
    parse ts = .ok e ↔ ∃ rest, Grammar.expr (parseDepth ts) ts = .done e rest := by
  unfold parse
  cases Grammar.expr (parseDepth ts) ts <;> simp

/-- With enough depth, a whole phrase is taken. -/
theorem Derives.accepted {ts : List Token} {e : Expr} (h : Derives .expr ts e) {depth : Nat}
    (hdepth : 8 * ts.length + 6 ≤ depth) : ∃ e', Grammar.expr depth ts = .done e' [] := by
  have haccepts := (acceptsAt depth).expr ts [] h.flat closes_nil
  have hends := (readsAt depth).expr ts.length hdepth ts (Nat.le_refl _)
  unfold Takes at haccepts
  rw [List.append_nil] at haccepts
  obtain ⟨e', _, hdone, rfl⟩ := Action.Meets.exists_done haccepts hends
  exact ⟨e', hdone⟩

theorem parseDepth_enough (ts : List Token) : 8 * ts.length + 6 ≤ parseDepth ts := by
  unfold parseDepth
  omega

/-- A parse that succeeds takes a phrase, with the tree that it returns, and no longer start
of the tokens is a phrase. Tokens that are a phrase, by whatever rules, are taken whole. -/
theorem parse_takes_the_longest_phrase (ts : List Token) :
    (∀ e, parse ts = .ok e →
      ∃ used rest, ts = used ++ rest ∧ Grammar.expr (parseDepth ts) ts = .done e rest ∧
        Derives .expr used e ∧
        ∀ longer e', longer <+: ts → used.length < longer.length → ¬Derives .expr longer e') ∧
    ∀ e, Derives .expr ts e →
      ∃ e', parse ts = .ok e' ∧ Grammar.expr (parseDepth ts) ts = .done e' [] := by
  constructor
  · intro e hparse
    obtain ⟨rest, hdone⟩ := parse_eq_ok.mp hparse
    have hreads := (readsAt (parseDepth ts)).expr ts.length (parseDepth_enough ts) ts
      (Nat.le_refl _)
    rw [hdone] at hreads
    obtain ⟨used, hts, hused⟩ := hreads
    refine ⟨used, rest, hts, hdone, hused, ?_⟩
    intro longer e' hprefix hlonger hderives
    -- On the longer start alone the parser takes the same tokens, as the next one is the
    -- same, and yet it takes all of them.
    obtain ⟨extra, rfl⟩ := List.prefix_of_prefix_length_le ⟨rest, hts.symm⟩ hprefix
      (Nat.le_of_lt hlonger)
    have hlen : 8 * (used ++ extra).length + 6 ≤ parseDepth ts :=
      Nat.le_trans (Nat.add_le_add_right (Nat.mul_le_mul_left 8 hprefix.length_le) 6)
        (parseDepth_enough ts)
    obtain ⟨more, hmore⟩ := hprefix
    have hne : extra ≠ [] := by
      rintro rfl
      rw [List.append_nil] at hlonger
      exact Nat.lt_irrefl _ hlonger
    have hrest : rest = extra ++ more := by
      rw [hts, List.append_assoc] at hmore
      exact (List.append_cancel_left hmore).symm
    have hhead : extra.head? = rest.head? := by
      rw [hrest, List.head?_append]
      cases extra with
      | nil => exact absurd rfl hne
      | cons t extra => rfl
    obtain ⟨used', hts', hsame⟩ := (settlesAt (Nat.le_refl (parseDepth ts))).expr.done ts e rest
      hdone
    obtain ⟨e'', hall⟩ := hderives.accepted hlen
    have hused' : used' = used := List.append_cancel_right (hts'.symm.trans hts)
    rw [← hused', hsame extra hhead] at hall
    injection hall with _ hextra
    exact hne hextra
  · intro e hderives
    obtain ⟨e', hdone⟩ := hderives.accepted (parseDepth_enough ts)
    exact ⟨e', parse_eq_ok.mpr ⟨[], hdone⟩, hdone⟩

/-- `f x | g )` -/
def callAndMore : List Token :=
  [.ident "f", .ident "x", .symbol .pipe, .ident "g", .symbol .rightParen]

/-- `f x | g` as a tree. -/
def callTree : Expr := .pipe (.apply (.ident "f") [.ident "x"]) [.ident "g"]

theorem callAndMore_takes_the_longest_phrase :
    (∃ used rest, callAndMore = used ++ rest ∧
      Grammar.expr (parseDepth callAndMore) callAndMore = .done callTree rest ∧
      Derives .expr used callTree ∧
      ∀ longer e', longer <+: callAndMore → used.length < longer.length →
        ¬Derives .expr longer e') ∧
    ∃ e', parse [.symbol .leftParen, .ident "x", .symbol .rightParen] = .ok e' := by
  have hgroup : Derives .expr [.symbol .leftParen, .ident "x", .symbol .rightParen]
      (.ident "x") := by
    have hx : Derives .expr [.ident "x"] (.ident "x") := by
      repeat refine .single rfl ?_
      exact .ident "x"
    repeat refine .single rfl ?_
    exact .group hx
  obtain ⟨e', hparse, _⟩ := (parse_takes_the_longest_phrase _).2 _ hgroup
  exact ⟨(parse_takes_the_longest_phrase callAndMore).1 callTree rfl, e', hparse⟩

end Patchbay.Language
