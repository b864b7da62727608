-- From tokens to an expression. Each level of the grammar is one function,
-- the loosest first. All operators group to the right. What is left after
-- a whole expression is not looked at.
import Patchbay.Outcome
import Patchbay.Language.Expr
import Patchbay.Language.Lexer

namespace Patchbay.Language

/-! ## Errors -/

/-- What a parser looked for. -/
inductive Expected
  | symbol (symbol : Symbol)
  | ident
  | expression
  | commaOr (close : Symbol)
  deriving DecidableEq, Repr

def Expected.describe : Expected → String
  | symbol s => s.spelling
  | ident => "ident"
  | expression =>
    "number, string, lambda, let, if, ident, record, list or grouped () expression"
  | commaOr close => "',' or '" ++ close.spelling ++ "'"

/-- A token that cannot stand where it stands, or the end of input. -/
structure ParseError where
  found : Option Token
  expected : Expected
  deriving DecidableEq, Repr

def ParseError.code (e : ParseError) : String :=
  if e.found.isSome then "parse-unexpected-token" else "parse-unexpected-eof"

def ParseError.message (e : ParseError) : String :=
  "Unexpected " ++ (e.found.elim "EOF" Token.kind) ++ ", expected " ++ e.expected.describe

/-! ## Single tokens -/

/-- A parser reads from the tokens that are left. It fails with the tokens at
which it stopped. -/
abbrev Parser := Action Expected (List Token)

namespace Parser

def peek : Parser (Option Token) := Action.read List.head?

def advance : Parser Unit := Action.change List.tail

/-- Takes the symbol when it is next, and says whether it was. -/
def eat (s : Symbol) : Parser Bool := do
  if (← peek) = some (.symbol s) then
    advance
    pure true
  else pure false

def expect (s : Symbol) : Parser Unit := do
  unless ← eat s do Action.fail (.symbol s)

def ident : Parser String := do
  match ← peek with
  | some (.ident name) =>
    advance
    pure name
  | _ => Action.fail .ident

/-- Takes the operator when one of the given ones is next. -/
def operator? (op? : Symbol → Option BinaryOp) : Parser (Option BinaryOp) := do
  match ← peek with
  | some (.symbol s) =>
    match op? s with
    | some op =>
      advance
      pure (some op)
    | none => pure none
  | _ => pure none

end Parser

/-- The token may start an argument. -/
def startsArgument : Option Token → Bool
  | some (.number _) | some (.text _) | some (.ident _) => true
  | some (.symbol s) =>
    s = .leftBrace || s = .leftBracket || s = .backslash || s = .letWord || s = .leftParen ||
      s = .ifWord
  | none => false

def equality? : Symbol → Option BinaryOp
  | .equals => some .eq
  | _ => none

def additive? : Symbol → Option BinaryOp
  | .plus => some .add
  | .minus => some .sub
  | _ => none

def multiplicative? : Symbol → Option BinaryOp
  | .star => some .mul
  | .slash => some .div
  | .percent => some .rem
  | _ => none

/-- An operand, and when an operator follows it, that operator with all that
follows on the same level. -/
def Parser.chain (op? : Symbol → Option BinaryOp) (operand level : Parser Expr) : Parser Expr := do
  let left ← operand
  match ← Parser.operator? op? with
  | some op =>
    let right ← level
    pure (.binary op left right)
  | none => pure left

/-! ## The grammar -/

namespace Grammar

open Patchbay.Language.Parser

mutual

/-- `apply ('|' apply)*` -/
def expr : Nat → Parser Expr
  | 0 => Action.exhausted
  | depth + 1 => do
    let seed ← apply depth
    match ← stages depth with
    | [] => pure seed
    | stages => pure (.pipe seed stages)

def stages : Nat → Parser (List Expr)
  | 0 => Action.exhausted
  | depth + 1 => do
    if ← eat .pipe then
      let stage ← apply depth
      let rest ← stages depth
      pure (stage :: rest)
    else pure []

/-- `equality equality*` -/
def apply : Nat → Parser Expr
  | 0 => Action.exhausted
  | depth + 1 => do
    let callee ← equality depth
    match ← arguments depth with
    | [] => pure callee
    | args => pure (.apply callee args)

def arguments : Nat → Parser (List Expr)
  | 0 => Action.exhausted
  | depth + 1 => do
    if startsArgument (← peek) then
      let arg ← equality depth
      let rest ← arguments depth
      pure (arg :: rest)
    else pure []

def equality : Nat → Parser Expr
  | 0 => Action.exhausted
  | depth + 1 => chain equality? (additive depth) (equality depth)

def additive : Nat → Parser Expr
  | 0 => Action.exhausted
  | depth + 1 => chain additive? (multiplicative depth) (additive depth)

def multiplicative : Nat → Parser Expr
  | 0 => Action.exhausted
  | depth + 1 => chain multiplicative? (atom depth) (multiplicative depth)

def atom : Nat → Parser Expr
  | 0 => Action.exhausted
  | depth + 1 => do
    match ← peek with
    | some (.number x) =>
      advance
      pure (.number x)
    | some (.text s) =>
      advance
      pure (.text s)
    | some (.ident base) =>
      advance
      match ← path depth with
      | [] => pure (.ident base)
      | fields => pure (.field base fields)
    | some (.symbol .backslash) =>
      advance
      let param ← ident
      expect .colon
      let body ← expr depth
      pure (.lambda param body)
    | some (.symbol .letWord) =>
      advance
      let name ← ident
      expect .assign
      let value ← expr depth
      expect .semicolon
      let next ← expr depth
      pure (.bind name value next)
    | some (.symbol .ifWord) =>
      advance
      let test ← expr depth
      expect .thenWord
      let yes ← expr depth
      expect .elseWord
      let no ← expr depth
      pure (.cond test yes no)
    | some (.symbol .leftParen) =>
      advance
      let inner ← expr depth
      expect .rightParen
      pure inner
    | some (.symbol .leftBrace) =>
      advance
      if ← eat .rightBrace then pure (.record [])
      else
        let entries ← entries depth
        pure (.record (Fields.ofList entries))
    | some (.symbol .leftBracket) =>
      advance
      if ← eat .rightBracket then pure (.list [])
      else
        let items ← items depth
        pure (.list items)
    | _ => Action.fail .expression

/-- `('.' ident)*` -/
def path : Nat → Parser (List String)
  | 0 => Action.exhausted
  | depth + 1 => do
    if ← eat .dot then
      let name ← ident
      let rest ← path depth
      pure (name :: rest)
    else pure []

/-- `ident ':' expr`, with commas between, up to the closing brace. -/
def entries : Nat → Parser (List (String × Expr))
  | 0 => Action.exhausted
  | depth + 1 => do
    let name ← ident
    expect .colon
    let value ← expr depth
    if ← eat .rightBrace then pure [(name, value)]
    else if ← eat .comma then
      let rest ← entries depth
      pure ((name, value) :: rest)
    else Action.fail (.commaOr .rightBrace)

/-- `expr`, with commas between, up to the closing bracket. -/
def items : Nat → Parser (List Expr)
  | 0 => Action.exhausted
  | depth + 1 => do
    let item ← expr depth
    if ← eat .rightBracket then pure [item]
    else if ← eat .comma then
      let rest ← items depth
      pure (item :: rest)
    else Action.fail (.commaOr .rightBracket)

end

end Grammar

/-! ## Whole sources -/

/-- A depth that no parse of so many tokens uses up: between two tokens the
grammar goes down at most six levels. -/
def parseDepth (tokens : List Token) : Nat := 8 * (tokens.length + 1)

/-- The expression at the front of the tokens. -/
def parse (tokens : List Token) : Except ParseError Expr :=
  match Grammar.expr (parseDepth tokens) tokens with
  | .done e _ => .ok e
  | .failed expected rest => .error ⟨rest.head?, expected⟩
  | .exhausted => .error ⟨none, .expression⟩

/-- Why a source text is no expression. -/
inductive SyntaxError
  | lex (error : LexError)
  | parse (error : ParseError)
  deriving DecidableEq, Repr

def parseSource (source : String) : Except SyntaxError Expr :=
  match tokenize source with
  | .error e => .error (.lex e)
  | .ok tokens =>
    match parse tokens with
    | .error e => .error (.parse e)
    | .ok e => .ok e

end Patchbay.Language
