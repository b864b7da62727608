-- What the parser does on tokens of which the first are known, as equations.
import Patchbay.Language.Parser
import Patchbay.Proofs.Actions

namespace Patchbay.Language

variable {α : Type}

/-! ## Single tokens -/

namespace Parser

theorem peek_bind (f : Option Token → Parser α) (ts : List Token) :
    (peek >>= f) ts = f ts.head? ts := rfl

theorem eat_bind (f : Bool → Parser α) (s : Symbol) (ts : List Token) :
    (eat s >>= f) (.symbol s :: ts) = f true ts := by
  unfold eat
  rw [bind_assoc, peek_bind, if_pos (by rfl)]
  rfl

theorem eat_bind_of_ne (f : Bool → Parser α) {s : Symbol} {ts : List Token}
    (h : ts.head? ≠ some (.symbol s)) : (eat s >>= f) ts = f false ts := by
  unfold eat
  rw [bind_assoc, peek_bind, if_neg h]
  rfl

theorem expect_bind (f : Unit → Parser α) (s : Symbol) (ts : List Token) :
    (expect s >>= f) (.symbol s :: ts) = f () ts := by
  unfold expect
  rw [bind_assoc, eat_bind]
  rfl

theorem operator?_bind {op? : Symbol → Option BinaryOp} (f : Option BinaryOp → Parser α)
    {s : Symbol} {op : BinaryOp} (h : op? s = some op) (ts : List Token) :
    (operator? op? >>= f) (.symbol s :: ts) = f (some op) ts := by
  unfold operator?
  rw [bind_assoc, peek_bind]
  simp only [List.head?_cons, h]
  rfl

theorem operator?_bind_of_none {op? : Symbol → Option BinaryOp} (f : Option BinaryOp → Parser α)
    {ts : List Token} (h : ∀ s, ts.head? = some (.symbol s) → op? s = none) :
    (operator? op? >>= f) ts = f none ts := by
  unfold operator?
  rw [bind_assoc, peek_bind]
  cases ts with
  | nil => rfl
  | cons t ts =>
    cases t with
    | symbol s =>
      simp only [List.head?_cons, h s rfl]
      rfl
    | _ => rfl

end Parser

/-! ## The parts of the grammar -/

namespace Grammar

open Patchbay.Language.Parser

variable (depth : Nat)

theorem atom_lambda (param : String) (ts : List Token) :
    atom (depth + 1) (.symbol .backslash :: .ident param :: .symbol .colon :: ts) =
      (expr depth >>= fun body => pure (.lambda param body)) ts := rfl

theorem atom_let (name : String) (ts : List Token) :
    atom (depth + 1) (.symbol .letWord :: .ident name :: .symbol .assign :: ts) =
      (expr depth >>= fun value => expect .semicolon >>= fun _ => expr depth >>= fun next =>
        pure (.bind name value next)) ts := rfl

theorem atom_if (ts : List Token) :
    atom (depth + 1) (.symbol .ifWord :: ts) =
      (expr depth >>= fun test => expect .thenWord >>= fun _ => expr depth >>= fun yes =>
        expect .elseWord >>= fun _ => expr depth >>= fun no => pure (.cond test yes no)) ts := rfl

theorem atom_group (ts : List Token) :
    atom (depth + 1) (.symbol .leftParen :: ts) =
      (expr depth >>= fun inner => expect .rightParen >>= fun _ => pure inner) ts := rfl

theorem atom_ident (base : String) (ts : List Token) :
    atom (depth + 1) (.ident base :: ts) =
      (path depth >>= fun fields =>
        match fields with
        | [] => pure (.ident base)
        | fields => pure (.field base fields)) ts := rfl

theorem atom_record {ts : List Token} (h : ts.head? ≠ some (.symbol .rightBrace)) :
    atom (depth + 1) (.symbol .leftBrace :: ts) =
      (entries depth >>= fun entries => pure (.record (Fields.ofList entries))) ts :=
  eat_bind_of_ne _ h

theorem atom_list {ts : List Token} (h : ts.head? ≠ some (.symbol .rightBracket)) :
    atom (depth + 1) (.symbol .leftBracket :: ts) =
      (items depth >>= fun items => pure (.list items)) ts :=
  eat_bind_of_ne _ h

theorem path_name (name : String) (ts : List Token) :
    path (depth + 1) (.symbol .dot :: .ident name :: ts) =
      (path depth >>= fun rest => pure (name :: rest)) ts := rfl

theorem path_end {ts : List Token} (h : ts.head? ≠ some (.symbol .dot)) :
    path (depth + 1) ts = .done [] ts := by
  rw [path]
  exact eat_bind_of_ne _ h

/-- What follows on one part of a record or a list: the closing mark, or a comma and more. -/
def afterPart (close : Symbol) (part : α) (more : Parser (List α)) : Parser (List α) :=
  eat close >>= fun closed =>
    if closed = true then pure [part]
    else eat .comma >>= fun again =>
      if again = true then more >>= fun rest => pure (part :: rest)
      else Action.fail (.commaOr close)

theorem entries_entry (name : String) (ts : List Token) :
    entries (depth + 1) (.ident name :: .symbol .colon :: ts) =
      (expr depth >>= fun value => afterPart .rightBrace (name, value) (entries depth)) ts := rfl

theorem items_item (ts : List Token) :
    items (depth + 1) ts =
      (expr depth >>= fun item => afterPart .rightBracket item (items depth)) ts := rfl

theorem afterPart_close (close : Symbol) (part : α) (more : Parser (List α)) (ts : List Token) :
    afterPart close part more (.symbol close :: ts) = .done [part] ts := by
  unfold afterPart
  rw [eat_bind]
  rfl

theorem afterPart_comma {close : Symbol} (h : close ≠ .comma) (part : α)
    (more : Parser (List α)) (ts : List Token) :
    afterPart close part more (.symbol .comma :: ts) =
      (more >>= fun rest => pure (part :: rest)) ts := by
  have hne : (Token.symbol .comma :: ts).head? ≠ some (.symbol close) := by
    intro heq
    cases heq
    exact h rfl
  unfold afterPart
  rw [eat_bind_of_ne _ hne, if_neg Bool.false_ne_true, eat_bind, if_pos rfl]

theorem stages_stage (ts : List Token) :
    stages (depth + 1) (.symbol .pipe :: ts) =
      (apply depth >>= fun stage => stages depth >>= fun rest => pure (stage :: rest)) ts := rfl

theorem stages_end {ts : List Token} (h : ts.head? ≠ some (.symbol .pipe)) :
    stages (depth + 1) ts = .done [] ts := by
  rw [stages]
  exact eat_bind_of_ne _ h

theorem arguments_argument {ts : List Token} (h : startsArgument ts.head? = true) :
    arguments (depth + 1) ts =
      (equality depth >>= fun arg => arguments depth >>= fun rest => pure (arg :: rest)) ts := by
  rw [arguments, peek_bind, if_pos h]

theorem arguments_end {ts : List Token} (h : startsArgument ts.head? = false) :
    arguments (depth + 1) ts = .done [] ts := by
  rw [arguments, peek_bind, h]
  rfl

end Grammar

end Patchbay.Language
