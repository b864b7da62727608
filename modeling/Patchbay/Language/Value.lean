-- Values: their kinds, when two are equal, and the text that shows one.
import Patchbay.Number.Layout
import Patchbay.Language.Builtin
import Patchbay.Language.Expr

namespace Patchbay.Language

/-- The place of a scope in its store. -/
abbrev ScopeId := Nat

inductive Value
  | number (value : Float)
  | text (value : String)
  | record (fields : List (String × Value))
  | list (items : List Value)
  /-- A function of the program, with the scope it was made in. -/
  | closure (param : String) (body : Expr) (home : ScopeId)
  /-- A built-in function, with the arguments it holds so far. -/
  | builtin (op : Builtin) (held : List Value)

namespace Value

instance : Inhabited Value := ⟨.list []⟩

/-- Truth is one and falsehood zero. -/
def ofBool (b : Bool) : Value := .number (if b then 1.0 else 0.0)

def kind : Value → Kind
  | .number _ => .number
  | .text _ => .string
  | .record _ => .record
  | .list _ => .list
  | .closure .. | .builtin .. => .lambda

/-- The number is not zero. Nothing else counts as true. -/
def isTrue : Value → Bool
  | .number x => x != 0.0
  | _ => false

/-! ## Equality -/

mutual

/-- Equality of the language. Numbers and strings compare by value, records
by their fields in any order. Lists and functions equal nothing. -/
def equal : Value → Value → Bool
  | .number a, .number b => a == b
  | .text a, .text b => a == b
  | .record fields, .record others => fields.length == others.length && equalFields fields others
  | _, _ => false

/-- Each field has an equal one of its name. -/
def equalFields : List (String × Value) → List (String × Value) → Bool
  | [], _ => true
  | (name, value) :: rest, others =>
    (match Fields.get? others name with
      | some other => equal value other
      | none => false) && equalFields rest others

end

/-! ## Text -/

mutual

/-- The text that shows a value. A function shows the argument it takes next. -/
def display : Value → String
  | .number x => Number.plain x
  | .text s => "\"" ++ s ++ "\""
  | .record fields => "\x7b " ++ String.intercalate ", " (displayFields fields) ++ " \x7d"
  | .list items => "[" ++ String.intercalate ", " (displayItems items) ++ "]"
  | .closure param _ _ => "lambda<" ++ param ++ ">"
  | .builtin op held => "lambda<" ++ op.nextParam held.length ++ ">"

def displayFields : List (String × Value) → List String
  | [] => []
  | (name, value) :: rest => (name ++ ": " ++ display value) :: displayFields rest

def displayItems : List Value → List String
  | [] => []
  | value :: rest => display value :: displayItems rest

end

end Value

end Patchbay.Language
