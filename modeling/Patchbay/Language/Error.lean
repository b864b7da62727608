-- What can go wrong on the way from a source text to a value, and what is
-- said about it.
import Patchbay.Language.Parser
import Patchbay.Language.Value

namespace Patchbay.Language

inductive Side
  | left
  | right
  deriving DecidableEq, Repr

def Side.name : Side → String
  | left => "left"
  | right => "right"

/-- What the reader of patterns and the reader of data say against a text that they refuse. Their
words end two messages and stand nowhere else. -/
structure Wording where
  pattern : String → String
  data : String → String

/-- Readers that say nothing more. -/
def Wording.silent : Wording := ⟨fun _ => "", fun _ => ""⟩

/-- Why an expression has no value. -/
inductive EvalError
  | undefinedVariable (name : String)
  | applyNonFunction (found : Kind)
  | operand (side : Side) (op : BinaryOp) (found : Kind)
  | argument (function : Builtin) (expected found : Kind)
  | fieldOfNonRecord (field : String) (found : Kind)
  | undefinedField (field : String)
  | emptyList (function : Builtin)
  | indexOutOfBounds (index : Float) (length : Nat)
  | nonNumericCondition (found : Kind)
  | notANumber (input : String)
  | invalidPattern (pattern : String)
  deriving DecidableEq, Repr

namespace EvalError

def code : EvalError → String
  | undefinedVariable _ => "eval-undefined-variable"
  | applyNonFunction _ => "eval-apply-non-function"
  | operand .. | argument .. => "eval-type-mismatch"
  | fieldOfNonRecord .. => "eval-field-access-on-non-record"
  | undefinedField _ => "eval-undefined-field"
  | emptyList _ => "eval-empty-list"
  | indexOutOfBounds .. => "eval-index-out-of-bounds"
  | nonNumericCondition _ => "eval-non-numeric-condition"
  | notANumber _ => "eval-not-a-number"
  | invalidPattern _ => "eval-invalid-pattern"

def message (w : Wording) : EvalError → String
  | undefinedVariable name => "Undefined variable " ++ name
  | applyNonFunction found => "Error during apply. Expected lambda, found " ++ found.name
  | operand side op found =>
    "Operand to the " ++ side.name ++ " of '" ++ op.spelling ++ "': Expected number, found " ++
      found.name
  | argument function expected found =>
    function.name ++ ": Expected " ++ expected.name ++ ", found " ++ found.name
  | fieldOfNonRecord field found =>
    "Field access (." ++ field ++ ") only works on records, found " ++ found.name
  | undefinedField field => "Undefined field '" ++ field ++ "' in record"
  | emptyList function => function.name ++ ": Empty list"
  | indexOutOfBounds index length =>
    "nth: Index " ++ Number.plain index ++ " out of bounds for list of length " ++ toString length
  | nonNumericCondition found =>
    "Only numbers can be used as if conditions, found " ++ found.name
  | notANumber input => "toNum: String \"" ++ input ++ "\" evaluates to NaN"
  | invalidPattern pattern =>
    "regex: Invalid pattern \"" ++ pattern ++ "\": " ++ w.pattern pattern

end EvalError

/-- Any failure of a source text. -/
inductive SourceError
  | syntaxError (error : SyntaxError)
  | eval (error : EvalError)
  deriving DecidableEq, Repr

def SyntaxError.code : SyntaxError → String
  | .lex _ => "lex-unrecognized-character"
  | .parse e => e.code

def SyntaxError.message : SyntaxError → String
  | .lex e => e.message
  | .parse e => e.message

def SourceError.code : SourceError → String
  | .syntaxError e => e.code
  | .eval e => e.code

def SourceError.message (w : Wording) : SourceError → String
  | .syntaxError e => e.message
  | .eval e => e.message w

end Patchbay.Language
