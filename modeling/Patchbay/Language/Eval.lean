-- Evaluation. An expression has its value in a scope of a store. A `let`
-- binds in the scope it stands in, a call binds its argument in a new
-- scope inside the function's own one.
import Patchbay.Language.Error
import Patchbay.Language.Store
import Patchbay.Outcome
import Patchbay.Pattern.Match
import Patchbay.Text.Split

namespace Patchbay.Language

/-- A computation over the store. -/
abbrev Eval := Action EvalError Store

/-! ## Scopes -/

namespace Eval

def lookup (s : ScopeId) (name : String) : Eval Value := do
  let found ← Action.read fun st : Store => st.lookup? s name
  Action.ofOption (.undefinedVariable name) found

def define (s : ScopeId) (name : String) (value : Value) : Eval Unit :=
  Action.change fun st => st.define s name value

def child (s : ScopeId) : Eval ScopeId := fun st =>
  let (t, st) := st.child s
  .done t st

end Eval

/-! ## Steps on values -/

/-- The value of one field. -/
def Value.field (value : Value) (field : String) : Eval Value :=
  match value with
  | .record fields => Action.ofOption (.undefinedField field) (Fields.get? fields field)
  | other => Action.fail (.fieldOfNonRecord field other.kind)

/-- The number that stands on one side of an operator. -/
def Value.operand (value : Value) (side : Side) (op : BinaryOp) : Eval Float :=
  match value with
  | .number x => pure x
  | other => Action.fail (.operand side op other.kind)

/-- The arithmetic of the operators. Division by zero gives an infinity or
`NaN`, as in IEEE 754. -/
def BinaryOp.compute (op : BinaryOp) (x y : Float) : Float :=
  match op with
  | .add => x + y
  | .sub => x - y
  | .mul => x * y
  | .div => x / y
  | .rem => Number.remainder x y
  | .eq => if x == y then 1.0 else 0.0

/-- An operator on two values. Two strings add up to one, all values compare,
and everything else takes two numbers. -/
def BinaryOp.apply (op : BinaryOp) (left right : Value) : Eval Value :=
  match op, left, right with
  | .add, .text a, .text b => pure (.text (a ++ b))
  | .eq, a, b => pure (.ofBool (a.equal b))
  | op, a, b => do
    let x ← a.operand .left op
    let y ← b.operand .right op
    pure (.number (op.compute x y))

/-! ## Built-in functions -/

namespace Builtin

/-- The function that a step of `b` returned. -/
def step (b : Builtin) (value : Value) : Eval Value :=
  if value.kind = .lambda then pure value else Action.fail (.argument b .lambda value.kind)

/-- One step of a fold: `f` takes what is carried, and what it returns takes
the element. -/
def foldStep (call : Value → Value → Eval Value) (f carried item : Value) : Eval Value := do
  let next ← call f carried
  let next ← reduce.step next
  call next item

/-- The items before a place, unless the place is past the end. -/
def front? {α : Type} (xs : List α) (place : Nat) : Option (List α) :=
  if place ≤ xs.length then some (xs.take place) else none

/-- The items from a place on, unless the place is past the end. -/
def back? {α : Type} (xs : List α) (place : Nat) : Option (List α) :=
  if place ≤ xs.length then some (xs.drop place) else none

/-- The state that a scan carries, with the place it has reached. -/
def scanState (offset : Float) (value : Value) : Value :=
  .record [("i", .number offset), ("value", value)]

/-- The place that the state of a scan has reached. -/
def scanOffset : Value → Eval Float
  | .record fields =>
    match Fields.get? fields "i" with
    | some (.number x) => pure x
    | some other => Action.fail (.argument scan .number other.kind)
    | none => Action.fail (.undefinedField "i")
  | other => Action.fail (.argument scan .record other.kind)

/-- Steps over a text from `offset` on: `f` takes the state, and what it
returns takes the rest of the text and gives the next state. The scan ends
when the state has reached the end of the text. -/
def scanFrom (call : Value → Value → Eval Value) (f : Value) (text : List Char) :
    Nat → Float → Value → Eval Value
  | 0, _, _ => Action.exhausted
  | limit + 1, offset, state =>
    if offset < Number.ofNat text.length then do
      let next ← call f state
      let next ← scan.step next
      let rest ← Action.demand (back? text (Number.sliceBound offset text.length))
      let state ← call next (.text (String.ofList rest))
      let offset ← scanOffset state
      scanFrom call f text limit offset state
    else pure state

/-- The parts of a text between the occurrences of another one; its characters
when that one is empty. -/
def parts (mark text : String) : List Value :=
  if mark = "" then text.toList.map fun c => .text c.toString
  else (Text.splitOn mark.toList text.toList).map fun part => .text (String.ofList part)

/-- A built-in function on the arguments it holds. Until it has all of them
it only holds them. -/
def call (apply : Value → Value → Eval Value) (limit : Nat) : Builtin → List Value → Eval Value
  | .len, [.list xs] => pure (.number (Number.ofNat xs.length))
  | .first, [.list xs] => Action.ofOption (.emptyList first) xs.head?
  | .last, [.list xs] => Action.ofOption (.emptyList last) xs.getLast?
  | .take, [.number c, .list xs] => do
    let front ← Action.demand (front? xs (Number.sliceBound c xs.length))
    pure (.list front)
  | .skip, [.number c, .list xs] => do
    let back ← Action.demand (back? xs (Number.sliceBound c xs.length))
    pure (.list back)
  | .nth, [.number i, .list xs] =>
    if Number.isIndex i xs.length then Action.demand xs[Number.toWord i]?
    else Action.fail (.indexOutOfBounds i xs.length)
  | .map, [f, .list xs] => do
    let ys ← Action.mapList (apply f) xs
    pure (.list ys)
  | .filter, [p, .list xs] => do
    let kept ← Action.filterList (fun x => do
      let verdict ← apply p x
      pure verdict.isTrue) xs
    pure (.list kept)
  | .reduce, [f, seed, .list xs] => Action.foldList (foldStep apply f) seed xs
  | .append, [x, .list xs] => pure (.list (xs ++ [x]))
  | .split, [.text mark, .text s] => pure (.list (parts mark s))
  | .regex, [.text pattern, .text s] => do
    let p ← Action.ofOption (.invalidPattern pattern) (Pattern.read? pattern)
    pure (.record ((p.groups s).map fun (name, part) => (name, .text part)))
  | .isNum, [.text s] => pure (.ofBool (Number.leading? s).isSome)
  | .toNum, [.text s] =>
    Action.ofOption (.notANumber s) ((Number.leading? s).map Value.number)
  | .startsWith, [.text front, .text s] =>
    pure (.ofBool (front.toList.isPrefixOf s.toList))
  | .scan, [f, seed, .text s] => scanFrom apply f s.toList limit 0.0 (scanState 0.0 seed)
  | .toStr, [.number x] => pure (.text (Number.plain x))
  | op, held => pure (.builtin op held)

/-- The kind of an argument is checked when it comes, before the arguments
after it. -/
def accept (b : Builtin) (held : List Value) (arg : Value) : Eval (List Value) :=
  match (b.params[held.length]?).bind Param.kind? with
  | some kind =>
    if arg.kind = kind then pure (held ++ [arg]) else Action.fail (.argument b kind arg.kind)
  | none => pure (held ++ [arg])

end Builtin

/-! ## Expressions -/

mutual

/-- The value of an expression in scope `s`. The depth bounds how deep
evaluations may nest. -/
def evaluate : Nat → ScopeId → Expr → Eval Value
  | 0, _, _ => Action.exhausted
  | depth + 1, s, e =>
    match e with
    | .number x => pure (.number x)
    | .text t => pure (.text t)
    | .ident name => Eval.lookup s name
    | .field base fields => do
      let value ← Eval.lookup s base
      Action.foldList Value.field value fields
    | .bind name value next => do
      let v ← evaluate depth s value
      Eval.define s name v
      evaluate depth s next
    | .lambda param body => pure (.closure param body s)
    | .record fields => do
      let values ← Action.mapList (fun (name, field) => do
        let v ← evaluate depth s field
        pure (name, v)) fields
      pure (.record values)
    | .list items => do
      let values ← Action.mapList (evaluate depth s) items
      pure (.list values)
    | .cond test yes no => do
      match ← evaluate depth s test with
      | .number x => if x != 0.0 then evaluate depth s yes else evaluate depth s no
      | other => Action.fail (.nonNumericCondition other.kind)
    | .apply callee args => do
      let f ← evaluate depth s callee
      Action.foldList (fun f arg => do
        if f.kind = .lambda then
          let v ← evaluate depth s arg
          apply depth s f v
        else Action.fail (.applyNonFunction f.kind)) f args
    | .pipe seed stages => do
      let v ← evaluate depth s seed
      Action.foldList (fun v stage => do
        let f ← evaluate depth s stage
        apply depth s f v) v stages
    | .binary op left right => do
      let a ← evaluate depth s left
      let b ← evaluate depth s right
      op.apply a b

/-- A function on one argument. A built-in function calls the functions it
was given from the scope that called it. -/
def apply : Nat → ScopeId → Value → Value → Eval Value
  | 0, _, _, _ => Action.exhausted
  | depth + 1, caller, f, arg =>
    match f with
    | .closure param body home => do
      let frame ← Eval.child home
      Eval.define frame param arg
      evaluate depth frame body
    | .builtin op held => do
      let args ← op.accept held arg
      op.call (apply depth caller) depth args
    | other => Action.fail (.applyNonFunction other.kind)

end

/-! ## Sources -/

/-- Evaluations nest deeper than this only when they never end. -/
def depthLimit : Nat := 0x10000000000

/-- Reads a source text and evaluates it in scope `s`. -/
def evaluateIn (depth : Nat) (s : ScopeId) (source : String) : Action SourceError Store Value :=
  fun st =>
    match parseSource source with
    | .error e => .failed (.syntaxError e) st
    | .ok e =>
      match evaluate depth s e st with
      | .done v st => .done v st
      | .failed cause st => .failed (.eval cause) st
      | .exhausted => .exhausted

/-- The value of a text on its own: in a scope inside a fresh one with the
built-in functions. -/
def evaluateSource (depth : Nat) (source : String) : Outcome SourceError Store Value :=
  let (root, st) := Store.empty.rootWithBuiltins
  let (s, st) := st.child root
  evaluateIn depth s source st

end Patchbay.Language
