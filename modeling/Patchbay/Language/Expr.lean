-- The expressions of the language.
import Patchbay.Fields

namespace Patchbay.Language

inductive BinaryOp
  | add
  | sub
  | mul
  | div
  | rem
  | eq
  deriving DecidableEq, Repr

def BinaryOp.spelling : BinaryOp → String
  | add => "+"
  | sub => "-"
  | mul => "*"
  | div => "/"
  | rem => "%"
  | eq => "=="

/-- An expression. The fields of a record have distinct names. -/
inductive Expr
  | number (value : Float)
  | text (value : String)
  | ident (name : String)
  /-- `base.a.b`, at least one field. -/
  | field (base : String) (fields : List String)
  /-- `let name = value; next` -/
  | bind (name : String) (value next : Expr)
  /-- `\param: body` -/
  | lambda (param : String) (body : Expr)
  | record (fields : List (String × Expr))
  | list (items : List Expr)
  | cond (test yes no : Expr)
  /-- `callee a b c`, at least one argument, taken one at a time. -/
  | apply (callee : Expr) (args : List Expr)
  /-- `seed | stage | stage`, at least one stage. -/
  | pipe (seed : Expr) (stages : List Expr)
  | binary (op : BinaryOp) (left right : Expr)

end Patchbay.Language
