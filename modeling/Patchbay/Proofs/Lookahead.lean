-- What a parse looks at: the tokens that it took and the one after them. On
-- other tokens with the same start it ends the same way, and so it does with
-- more depth.
import Patchbay.Language.Parser
import Patchbay.Proofs.Actions

namespace Patchbay.Language

variable {α β : Type}

/-! ## Two parsers on tokens with the same start -/

/-- Where `x` ends, it ends at the rest of its tokens, and `y` ends the same way on what `x`
took and any rest with the same next token. -/
structure Settles (x y : Parser α) : Prop where
  done : ∀ ts a rest, x ts = .done a rest → ∃ used, ts = used ++ rest ∧
    ∀ rest' : List Token, rest'.head? = rest.head? → y (used ++ rest') = .done a rest'
  failed : ∀ ts cause rest, x ts = .failed cause rest → ∃ used, ts = used ++ rest ∧
    ∀ rest' : List Token, rest'.head? = rest.head? → y (used ++ rest') = .failed cause rest'

namespace Settles

theorem exhausted (y : Parser α) : Settles Action.exhausted y := by
  constructor <;> intro ts a rest h <;> cases h

theorem pure (a : α) : Settles (pure a) (pure a) := by
  constructor
  · intro ts b rest h
    cases h
    exact ⟨[], rfl, fun _ _ => rfl⟩
  · intro ts cause rest h
    cases h

theorem fail (cause : Expected) : Settles (Action.fail cause : Parser α) (Action.fail cause) := by
  constructor
  · intro ts a rest h
    cases h
  · intro ts cause rest h
    cases h
    exact ⟨[], rfl, fun _ _ => rfl⟩

/-- What comes after `used` begins as before when what comes after `more` does. -/
theorem head?_append {more rest rest' : List Token} (h : rest'.head? = rest.head?) :
    (more ++ rest').head? = (more ++ rest).head? := by
  rw [List.head?_append, List.head?_append, h]

theorem bind {x y : Parser α} {f g : α → Parser β} (hx : Settles x y)
    (hf : ∀ a, Settles (f a) (g a)) : Settles (x >>= f) (y >>= g) := by
  constructor
  · intro ts b rest h
    obtain ⟨a, mid, ha, hb⟩ := Action.bind_eq_done.mp h
    obtain ⟨used, rfl, hy⟩ := hx.done ts a mid ha
    obtain ⟨more, rfl, hg⟩ := (hf a).done mid b rest hb
    refine ⟨used ++ more, (List.append_assoc _ _ _).symm, fun rest' hr => ?_⟩
    rw [List.append_assoc, Action.bind_of_done (hy _ (head?_append hr))]
    exact hg rest' hr
  · intro ts cause rest h
    rcases Action.bind_eq_failed.mp h with hc | ⟨a, mid, ha, hb⟩
    · obtain ⟨used, rfl, hy⟩ := hx.failed ts cause rest hc
      exact ⟨used, rfl, fun rest' hr => Action.bind_of_failed (hy rest' hr)⟩
    · obtain ⟨used, rfl, hy⟩ := hx.done ts a mid ha
      obtain ⟨more, rfl, hg⟩ := (hf a).failed mid cause rest hb
      refine ⟨used ++ more, (List.append_assoc _ _ _).symm, fun rest' hr => ?_⟩
      rw [List.append_assoc, Action.bind_of_done (hy _ (head?_append hr))]
      exact hg rest' hr

/-! ## Single tokens -/

theorem peek : Settles Parser.peek Parser.peek := by
  constructor
  · intro ts a rest h
    cases h
    refine ⟨[], rfl, fun rest' hr => ?_⟩
    change Outcome.done rest'.head? rest' = _
    rw [hr]
  · intro ts cause rest h
    cases h

theorem advance : Settles Parser.advance Parser.advance := by
  constructor
  · intro ts a rest h
    cases h
    cases ts with
    | nil =>
      refine ⟨[], rfl, fun rest' hr => ?_⟩
      cases List.head?_eq_none_iff.mp hr
      rfl
    | cons t ts => exact ⟨[t], rfl, fun rest' _ => rfl⟩
  · intro ts cause rest h
    cases h

theorem eat (s : Symbol) : Settles (Parser.eat s) (Parser.eat s) := by
  refine bind peek fun t => ?_
  split
  · exact bind advance fun _ => pure true
  · exact pure false

theorem expect (s : Symbol) : Settles (Parser.expect s) (Parser.expect s) := by
  refine bind (eat s) fun taken => ?_
  split
  · exact pure ()
  · exact fail _

theorem ident : Settles Parser.ident Parser.ident := by
  refine bind peek fun t => ?_
  split
  · exact bind advance fun _ => pure _
  · exact fail _

theorem operator? (op? : Symbol → Option BinaryOp) :
    Settles (Parser.operator? op?) (Parser.operator? op?) := by
  refine bind peek fun t => ?_
  split
  · split
    · exact bind advance fun _ => pure _
    · exact pure none
  · exact pure none

theorem chain (op? : Symbol → Option BinaryOp) {operand operand' same same' : Parser Expr}
    (hoperand : Settles operand operand') (hsame : Settles same same') :
    Settles (Parser.chain op? operand same) (Parser.chain op? operand' same') := by
  refine bind hoperand fun left => bind (operator? op?) fun op => ?_
  split
  · exact bind hsame fun right => pure _
  · exact pure left

end Settles

/-! ## The whole grammar -/

/-- Each part of the parser at one depth against the same part at another depth. -/
structure SettlesAt (depth deeper : Nat) : Prop where
  expr : Settles (Grammar.expr depth) (Grammar.expr deeper)
  stages : Settles (Grammar.stages depth) (Grammar.stages deeper)
  apply : Settles (Grammar.apply depth) (Grammar.apply deeper)
  arguments : Settles (Grammar.arguments depth) (Grammar.arguments deeper)
  equality : Settles (Grammar.equality depth) (Grammar.equality deeper)
  additive : Settles (Grammar.additive depth) (Grammar.additive deeper)
  multiplicative : Settles (Grammar.multiplicative depth) (Grammar.multiplicative deeper)
  atom : Settles (Grammar.atom depth) (Grammar.atom deeper)
  path : Settles (Grammar.path depth) (Grammar.path deeper)
  entries : Settles (Grammar.entries depth) (Grammar.entries deeper)
  items : Settles (Grammar.items depth) (Grammar.items deeper)

namespace SettlesAt

variable {depth deeper : Nat} (h : SettlesAt depth deeper)
include h

theorem atom_succ : Settles (Grammar.atom (depth + 1)) (Grammar.atom (deeper + 1)) := by
  refine .bind .peek fun t => ?_
  rcases t with _ | (x | s | base | s)
  · exact .fail _
  · exact .bind .advance fun _ => .pure _
  · exact .bind .advance fun _ => .pure _
  · refine .bind .advance fun _ => .bind h.path fun fields => ?_
    cases fields <;> exact .pure _
  · cases s with
    | backslash =>
      refine .bind .advance fun _ => .bind .ident fun param => ?_
      exact .bind (.expect _) fun _ => .bind h.expr fun body => .pure _
    | letWord =>
      refine .bind .advance fun _ => .bind .ident fun name => .bind (.expect _) fun _ => ?_
      refine .bind h.expr fun value => .bind (.expect _) fun _ => ?_
      exact .bind h.expr fun next => .pure _
    | ifWord =>
      refine .bind .advance fun _ => .bind h.expr fun test => .bind (.expect _) fun _ => ?_
      refine .bind h.expr fun yes => .bind (.expect _) fun _ => ?_
      exact .bind h.expr fun no => .pure _
    | leftParen =>
      refine .bind .advance fun _ => .bind h.expr fun inner => ?_
      exact .bind (.expect _) fun _ => .pure _
    | leftBrace =>
      refine .bind .advance fun _ => .bind (.eat _) fun closed => ?_
      cases closed
      · exact .bind h.entries fun entries => .pure _
      · exact .pure _
    | leftBracket =>
      refine .bind .advance fun _ => .bind (.eat _) fun closed => ?_
      cases closed
      · exact .bind h.items fun items => .pure _
      · exact .pure _
    | _ => exact .fail _

/-- Both one level deeper. -/
theorem succ : SettlesAt (depth + 1) (deeper + 1) where
  expr := by
    refine .bind h.apply fun seed => .bind h.stages fun stages => ?_
    cases stages <;> exact .pure _
  stages := by
    refine .bind (.eat _) fun taken => ?_
    cases taken
    · exact .pure _
    · exact .bind h.apply fun stage => .bind h.stages fun rest => .pure _
  apply := by
    refine .bind h.equality fun callee => .bind h.arguments fun args => ?_
    cases args <;> exact .pure _
  arguments := by
    refine .bind .peek fun t => ?_
    cases startsArgument t
    · exact .pure _
    · exact .bind h.equality fun arg => .bind h.arguments fun rest => .pure _
  equality := .chain _ h.additive h.equality
  additive := .chain _ h.multiplicative h.additive
  multiplicative := .chain _ h.atom h.multiplicative
  atom := h.atom_succ
  path := by
    refine .bind (.eat _) fun taken => ?_
    cases taken
    · exact .pure _
    · exact .bind .ident fun name => .bind h.path fun rest => .pure _
  entries := by
    refine .bind .ident fun name => .bind (.expect _) fun _ => .bind h.expr fun value => ?_
    refine .bind (.eat _) fun closed => ?_
    cases closed
    · refine .bind (.eat _) fun more => ?_
      cases more
      · exact .fail _
      · exact .bind h.entries fun rest => .pure _
    · exact .pure _
  items := by
    refine .bind h.expr fun item => .bind (.eat _) fun closed => ?_
    cases closed
    · refine .bind (.eat _) fun more => ?_
      cases more
      · exact .fail _
      · exact .bind h.items fun rest => .pure _
    · exact .pure _

end SettlesAt

theorem settlesAt {depth deeper : Nat} (hle : depth ≤ deeper) : SettlesAt depth deeper := by
  induction depth generalizing deeper with
  | zero => constructor <;> exact .exhausted _
  | succ depth ih =>
    cases deeper with
    | zero => exact absurd hle (Nat.not_succ_le_zero depth)
    | succ deeper => exact (ih (Nat.le_of_succ_le_succ hle)).succ

end Patchbay.Language
