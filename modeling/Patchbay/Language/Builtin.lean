-- The built-in functions: their names and what they take, one argument at
-- a time. What each one computes is in the module on evaluation.
namespace Patchbay.Language

/-- The kinds of values. -/
inductive Kind
  | number
  | string
  | record
  | list
  | lambda
  deriving DecidableEq, Repr

def Kind.name : Kind → String
  | number => "number"
  | string => "string"
  | record => "record"
  | list => "list"
  | lambda => "lambda"

inductive Builtin
  | len
  | first
  | last
  | take
  | skip
  | nth
  | map
  | filter
  | reduce
  | append
  | split
  | regex
  | isNum
  | toNum
  | startsWith
  | scan
  | toStr
  deriving DecidableEq, Repr

/-- What a built-in function calls an argument, and the kind it must have. -/
structure Param where
  name : String
  kind? : Option Kind
  deriving DecidableEq, Repr

namespace Builtin

def name : Builtin → String
  | len => "len"
  | first => "first"
  | last => "last"
  | take => "take"
  | skip => "skip"
  | nth => "nth"
  | map => "map"
  | filter => "filter"
  | reduce => "reduce"
  | append => "append"
  | split => "split"
  | regex => "regex"
  | isNum => "isNum"
  | toNum => "toNum"
  | startsWith => "starts_with"
  | scan => "scan"
  | toStr => "toStr"

/-- The arguments in order. -/
def params : Builtin → List Param
  | len | first | last => [⟨"list", some .list⟩]
  | take | skip => [⟨"count", some .number⟩, ⟨"list", some .list⟩]
  | nth => [⟨"index", some .number⟩, ⟨"list", some .list⟩]
  | map => [⟨"mapper", some .lambda⟩, ⟨"list", some .list⟩]
  | filter => [⟨"predicate", some .lambda⟩, ⟨"list", some .list⟩]
  | reduce => [⟨"acc", some .lambda⟩, ⟨"seed", none⟩, ⟨"list", some .list⟩]
  | append => [⟨"value", none⟩, ⟨"list", some .list⟩]
  | split => [⟨"splitter", some .string⟩, ⟨"str", some .string⟩]
  | regex => [⟨"pattern", some .string⟩, ⟨"str", some .string⟩]
  | isNum | toNum => [⟨"str", some .string⟩]
  | startsWith => [⟨"prefix", some .string⟩, ⟨"str", some .string⟩]
  | scan => [⟨"acc", some .lambda⟩, ⟨"seed", none⟩, ⟨"str", some .string⟩]
  | toStr => [⟨"num", some .number⟩]

/-- The name of the argument that comes after `held` others. -/
def nextParam (b : Builtin) (held : Nat) : String := (b.params[held]?).elim "" Param.name

/-- All built-in functions, in the order in which a fresh scope names them. -/
def all : List Builtin :=
  [len, first, last, take, skip, nth, map, filter, reduce, append, split, regex, isNum, toNum,
    startsWith, scan, toStr]

end Builtin

end Patchbay.Language
