-- Operands: the atoms that end where they end. In one of them nothing after its
-- last token has a say, except that a path goes on with a dot, so it is read as the
-- same expression wherever it stands.
import Patchbay.Proofs.Rereading

namespace Patchbay.Language

variable {ts rest : List Token} {e : Expr}

/-! ## Phrases up to a token that closes them -/

/-- The tokens are an expression of the grammar. -/
def Phrase (w : List Token) : Prop := ∃ e, Derives .expr w e

/-- What the parser does at one depth that is enough, it does at every other one. -/
theorem Yields.of_done {enough : Nat} (h : Grammar.expr enough ts = .done e rest) (depth : Nat) :
    Yields (Grammar.expr depth) ts e rest := by
  unfold Yields
  rcases Nat.le_total enough depth with hle | hle
  · obtain ⟨used, rfl, hsame⟩ := (settlesAt hle).expr.done ts e rest h
    rw [hsame rest rfl]
    exact ⟨rfl, rfl⟩
  · have hsettles := (settlesAt hle).expr
    cases hr : Grammar.expr depth ts with
    | done a left =>
      obtain ⟨used, rfl, hsame⟩ := hsettles.done ts a left hr
      cases (hsame left rfl).symm.trans h
      exact ⟨rfl, rfl⟩
    | failed cause left =>
      obtain ⟨used, rfl, hsame⟩ := hsettles.failed ts cause left hr
      cases (hsame left rfl).symm.trans h
    | exhausted => trivial

/-- Up to a token that closes it, a phrase is read as one expression, whatever follows on the
token. -/
theorem Phrase.reads {w : List Token} (h : Phrase w) {s : Symbol}
    (hs : ∀ rest, Closes (.symbol s :: rest)) :
    ∃ e, ∀ rest depth,
      Yields (Grammar.expr depth) (w ++ .symbol s :: rest) e (.symbol s :: rest) := by
  obtain ⟨e, hw⟩ := h
  have henough := parseDepth_enough (w ++ [.symbol s])
  generalize parseDepth (w ++ [.symbol s]) = enough at henough
  have haccepts := (acceptsAt enough).expr w [.symbol s] hw.flat (hs [])
  have hends := (readsAt enough).expr _ henough (w ++ [.symbol s]) (Nat.le_refl _)
  obtain ⟨e', left, hdone, rfl⟩ := Action.Meets.exists_done haccepts hends
  obtain ⟨used, hused, hsame⟩ := (settlesAt (Nat.le_refl enough)).expr.done _ _ _ hdone
  obtain rfl := List.append_cancel_right hused
  exact ⟨e', fun rest => Yields.of_done (hsame (.symbol s :: rest) rfl)⟩

/-! ## Parts with commas between -/

theorem exists_items {items : List (List Token)} (hne : items ≠ [])
    (hitems : ∀ item ∈ items, Phrase item) :
    ∃ es, ∀ rest depth,
      Yields (Grammar.items depth) (commas items ++ .symbol .rightBracket :: rest) es rest := by
  have hnext : ∀ item ∈ items, ∀ s, s = .comma ∨ s = .rightBracket →
      ∃ e, True ∧ Yields.Next Grammar.items .rightBracket item s e := by
    intro item hmem s hs
    obtain ⟨e, he⟩ := (hitems item hmem).reads (Yields.closes_part hs (Or.inl rfl))
    exact ⟨e, trivial, Yields.next_item he⟩
  obtain ⟨es, -, hes⟩ :=
    Yields.exists_row Grammar.items .rightBracket id (fun _ _ => True) rfl (by decide) hne hnext
  rw [List.map_id] at hes
  exact ⟨es, hes⟩

/-- The tokens of an entry of a record. -/
def entryTokens (entry : String × List Token) : List Token :=
  .ident entry.1 :: .symbol .colon :: entry.2

theorem exists_entries {entries : List (String × List Token)} (hne : entries ≠ [])
    (hentries : ∀ entry ∈ entries, Phrase entry.2) :
    ∃ fields, ∀ rest depth, Yields (Grammar.entries depth)
      (commas (entries.map entryTokens) ++ .symbol .rightBrace :: rest) fields rest := by
  have hnext : ∀ entry ∈ entries, ∀ s, s = .comma ∨ s = .rightBrace →
      ∃ field, True ∧ Yields.Next Grammar.entries .rightBrace (entryTokens entry) s field := by
    intro entry hmem s hs
    obtain ⟨e, he⟩ := (hentries entry hmem).reads (Yields.closes_part hs (Or.inr rfl))
    exact ⟨(entry.1, e), trivial, Yields.next_entry entry.1 he⟩
  obtain ⟨fields, -, hfields⟩ :=
    Yields.exists_row Grammar.entries .rightBrace entryTokens (fun _ _ => True) rfl (by decide) hne
      hnext
  exact ⟨fields, hfields⟩

/-! ## Operands -/

/-- A number, a string, a name with a path or without, an expression in parentheses, a record or
a list. Functions, lets and conditions are no operands: they go on as far as they can. -/
inductive Operand : List Token → Prop
  | number (x : Float) : Operand [.number x]
  | text (s : String) : Operand [.text s]
  | path (base : String) (names : List String) :
      Operand (.ident base :: names.flatMap fun name => [.symbol .dot, .ident name])
  | group {w : List Token} (hw : Phrase w) :
      Operand (.symbol .leftParen :: (w ++ [.symbol .rightParen]))
  | record (entries : List (String × List Token)) (h : ∀ entry ∈ entries, Phrase entry.2) :
      Operand
        (.symbol .leftBrace :: (commas (entries.map entryTokens) ++ [.symbol .rightBrace]))
  | list (items : List (List Token)) (h : ∀ item ∈ items, Phrase item) :
      Operand (.symbol .leftBracket :: (commas items ++ [.symbol .rightBracket]))

/-- The tokens are read as the expression, wherever they stand. -/
def ReadsAs (u : List Token) (e : Expr) : Prop :=
  ∀ rest : List Token, rest.head? ≠ some (.symbol .dot) →
    ∀ depth, Yields (Grammar.atom depth) (u ++ rest) e rest

theorem ReadsAs.of_succ {u : List Token}
    (h : ∀ rest : List Token, rest.head? ≠ some (.symbol .dot) →
      ∀ depth, Yields (Grammar.atom (depth + 1)) (u ++ rest) e rest) : ReadsAs u e := by
  intro rest hrest depth
  cases depth with
  | zero => exact trivial
  | succ depth => exact h rest hrest depth

theorem Phrase.grouped {w : List Token} (hw : Phrase w) :
    ∃ e, ReadsAs (.symbol .leftParen :: (w ++ [.symbol .rightParen])) e := by
  obtain ⟨e, he⟩ := hw.reads (s := .rightParen) fun rest => closes_cons rest rfl (by decide)
  refine ⟨e, .of_succ fun rest _ depth => ?_⟩
  unfold Yields
  rw [List.cons_append, List.append_assoc, List.singleton_append, Grammar.atom_group]
  exact Yields.bind (he rest depth) (.expect (.pure e))

theorem exists_record {entries : List (String × List Token)}
    (h : ∀ entry ∈ entries, Phrase entry.2) :
    ∃ e, ReadsAs
      (.symbol .leftBrace :: (commas (entries.map entryTokens) ++ [.symbol .rightBrace])) e := by
  cases entries with
  | nil => exact ⟨.record [], .of_succ fun _ _ _ => ⟨rfl, rfl⟩⟩
  | cons entry entries =>
    obtain ⟨fields, hfields⟩ := exists_entries (List.cons_ne_nil entry entries) h
    refine ⟨.record (Fields.ofList fields), .of_succ fun rest _ depth => ?_⟩
    unfold Yields
    rw [List.cons_append, List.append_assoc, List.singleton_append, Grammar.atom_record]
    · exact Yields.bind (hfields rest depth) (.pure _)
    · obtain ⟨more, hmore⟩ := commas_starts (entryTokens entry) (entries.map entryTokens)
      rw [List.map_cons, hmore]
      intro hclose
      cases hclose

theorem exists_list {items : List (List Token)} (h : ∀ item ∈ items, Phrase item) :
    ∃ e, ReadsAs (.symbol .leftBracket :: (commas items ++ [.symbol .rightBracket])) e := by
  cases items with
  | nil => exact ⟨.list [], .of_succ fun _ _ _ => ⟨rfl, rfl⟩⟩
  | cons item items =>
    obtain ⟨es, hes⟩ := exists_items (List.cons_ne_nil item items) h
    refine ⟨.list es, .of_succ fun rest _ depth => ?_⟩
    unfold Yields
    rw [List.cons_append, List.append_assoc, List.singleton_append, Grammar.atom_list]
    · exact Yields.bind (hes rest depth) (.pure _)
    · -- An item starts as an argument does, so the bracket is not closed at once.
      obtain ⟨e, hitem⟩ := h item List.mem_cons_self
      obtain ⟨more, hmore⟩ := commas_starts item items
      have hstart := hitem.flat.head (more ++ .symbol .rightBracket :: rest)
      intro hclose
      rw [hmore, List.append_assoc] at hclose
      rw [hclose] at hstart
      cases hstart

/-- An operand is one expression, whatever follows on it. -/
theorem Operand.reads {u : List Token} (h : Operand u) : ∃ e, ReadsAs u e := by
  cases h with
  | number x => exact ⟨.number x, .of_succ fun _ _ _ => ⟨rfl, rfl⟩⟩
  | text s => exact ⟨.text s, .of_succ fun _ _ _ => ⟨rfl, rfl⟩⟩
  | path base names =>
    cases names with
    | nil => exact ⟨.ident base, ReadsAsAtom.ident base⟩
    | cons name names =>
      exact ⟨.field base (name :: names), ReadsAsAtom.field base (List.cons_ne_nil _ _)⟩
  | group hw => exact hw.grouped
  | record _ h => exact exists_record h
  | list _ h => exact exists_list h

end Patchbay.Language
