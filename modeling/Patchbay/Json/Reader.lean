-- Reading JSON from the left. The first problem that is met decides how the
-- text is wrong: it ended too soon, it is no JSON at that point, or it is
-- JSON of another shape than the one asked for.
import Patchbay.Number.Double
import Patchbay.Number.Literal
import Patchbay.Outcome

namespace Patchbay.Json

/-- How a text is wrong. -/
inductive Problem
  | ended
  | malformed
  | mismatch
  deriving DecidableEq, Repr

/-- A reader takes from the characters that are left. -/
abbrev Reader := Action Problem (List Char)

namespace Reader

def peek : Reader (Option Char) := Action.read List.head?

def advance : Reader Unit := Action.change List.tail

/-- The next character, which it takes. -/
def next? : Reader (Option Char) := do
  let c ← peek
  advance
  pure c

def isSpace (c : Char) : Bool := c = ' ' || c = '\n' || c = '\t' || c = '\r'

/-- The next character after white space, which is taken. -/
def peekPastSpace : Reader (Option Char) := do
  Action.change (List.dropWhile isSpace)
  peek

/-- A character that must come, after white space. -/
def expect (c : Char) : Reader Unit := do
  match ← peekPastSpace with
  | none => Action.fail .ended
  | some found => if found = c then advance else Action.fail .malformed

/-- The digits that come, which it takes. -/
def digits : Reader (List Char) := do
  let ds ← Action.read (List.takeWhile Char.isDigit)
  Action.change (List.dropWhile Char.isDigit)
  pure ds

/-- The rest of a word that must come letter by letter. -/
def word : List Char → Reader Unit
  | [] => pure ()
  | c :: cs => do
    match ← next? with
    | none => Action.fail .ended
    | some found => if found = c then word cs else Action.fail .malformed

/-! ## Strings -/

def hexValue? (c : Char) : Option Nat :=
  if c.isDigit then some (c.toNat - 48)
  else if 'a' ≤ c && c ≤ 'f' then some (c.toNat - 87)
  else if 'A' ≤ c && c ≤ 'F' then some (c.toNat - 55)
  else none

/-- Four hex digits. A text with fewer than four bytes left has ended. -/
def hexFour : Reader Nat := fun cs =>
  match cs with
  | a :: b :: c :: d :: rest =>
    match hexValue? a, hexValue? b, hexValue? c, hexValue? d with
    | some a, some b, some c, some d => .done (((a * 16 + b) * 16 + c) * 16 + d) rest
    | _, _, _, _ => .failed .malformed cs
  | _ => if (String.ofList cs).utf8ByteSize < 4 then .failed .ended cs else .failed .malformed cs

/-- The character that a one-letter escape stands for. -/
def shortEscape? : Char → Option Char
  | '"' => some '"'
  | '\\' => some '\\'
  | '/' => some '/'
  | 'b' => some '\x08'
  | 'f' => some '\x0c'
  | 'n' => some '\n'
  | 'r' => some '\r'
  | 't' => some '\t'
  | _ => none

/-- A character that must come inside a string. -/
def nextInString (c : Char) : Reader Unit := do
  match ← next? with
  | none => Action.fail .ended
  | some found => if found = c then pure () else Action.fail .malformed

/-- The character of a `\u` escape. The two halves of a surrogate pair come as
two escapes, and neither may stand alone. -/
def unicodeEscape : Reader Char := do
  let high ← hexFour
  if 0xDC00 ≤ high ∧ high ≤ 0xDFFF then Action.fail .malformed
  else if 0xD800 ≤ high ∧ high ≤ 0xDBFF then
    nextInString '\\'
    nextInString 'u'
    let low ← hexFour
    if 0xDC00 ≤ low ∧ low ≤ 0xDFFF then
      pure (Char.ofNat ((high - 0xD800) * 0x400 + (low - 0xDC00) + 0x10000))
    else Action.fail .malformed
  else pure (Char.ofNat high)

/-- The characters up to the closing quote. The limit is the length of the text. -/
def stringTail : Nat → Reader (List Char)
  | 0 => Action.exhausted
  | limit + 1 => do
    match ← next? with
    | none => Action.fail .ended
    | some '"' => pure []
    | some '\\' =>
      match ← next? with
      | none => Action.fail .ended
      | some 'u' =>
        let c ← unicodeEscape
        let rest ← stringTail limit
        pure (c :: rest)
      | some e =>
        let c ← Action.ofOption .malformed (shortEscape? e)
        let rest ← stringTail limit
        pure (c :: rest)
    | some c =>
      if c.toNat < 0x20 then Action.fail .malformed
      else
        let rest ← stringTail limit
        pure (c :: rest)

/-- The length of what is left, which bounds every loop over it. -/
def left : Reader Nat := Action.read fun cs => cs.length + 1

/-- A string, from its opening quote on. -/
def string : Reader String := do
  advance
  let cs ← stringTail (← left)
  pure (String.ofList cs)

/-! ## Numbers -/

/-- A number as it was written: a whole one that fits into 64 bits, or a double. -/
inductive Numeral
  | natural (value : Nat)
  | negative (value : Nat)
  | double (value : Float)

def Numeral.toFloat : Numeral → Float
  | .natural n => Number.ofNat n
  | .negative n => -Number.ofNat n
  | .double x => x

/-- A whole number below this fits into 64 bits. -/
def wordLimit : Nat := 0x10000000000000000

/-- `digits * 10^exponent` with one multiplication or division per step, each
rounded, by at most `10^308`. Past the largest double it is malformed. -/
def scale (limit : Nat) (x : Float) (exponent : Int) : Reader Float :=
  match limit with
  | 0 => Action.exhausted
  | limit + 1 =>
    if exponent.natAbs ≤ 308 then
      let power := Number.ofNat (Nat.pow 10 exponent.natAbs)
      if 0 ≤ exponent then
        let y := x * power
        if y.isInf then Action.fail .malformed else pure y
      else pure (x / power)
    else if x == 0.0 then pure x
    else if 0 ≤ exponent then Action.fail .malformed
    else scale limit (x / Number.ofNat (Nat.pow 10 308)) (exponent + 308)

def double (negative : Bool) (digits : Nat) (exponent : Int) : Reader Numeral := do
  let x ← scale 8 (Number.ofNat digits) exponent
  pure (.double (if negative then -x else x))

/-- The number in digits, as far as it fits into 64 bits, and how many digits
were taken. -/
def takeDigits (start : Nat) : List Char → Nat × Nat
  | [] => (start, 0)
  | c :: cs =>
    let n := 10 * start + (c.toNat - 48)
    if n < wordLimit then
      let (value, taken) := takeDigits n cs
      (value, taken + 1)
    else (start, 0)

/-- The power of ten from its `e` on, added to one that is known already. -/
def exponentPart (negative : Bool) (digits : Nat) (exponent : Int) : Reader Numeral := do
  advance
  let sign ← peek
  if sign = some '+' ∨ sign = some '-' then advance
  let ds ← Reader.digits
  if ds = [] then
    match ← peek with
    | none => Action.fail .ended
    | some _ => Action.fail .malformed
  else
    let power := Nat.ofDigitChars 10 ds 0
    if power < 0x80000000 then
      double negative digits (if sign = some '-' then exponent - power else exponent + power)
    else if digits ≠ 0 ∧ sign ≠ some '-' then Action.fail .malformed
    else pure (.double (if negative then -0.0 else 0.0))

/-- The digits after the point, from the point on. Those that no longer fit
into 64 bits do not count. -/
def fractionPart (negative : Bool) (digits : Nat) (exponent : Int) : Reader Numeral := do
  advance
  let ds ← Reader.digits
  if ds = [] then
    match ← peek with
    | none => Action.fail .ended
    | some _ => Action.fail .malformed
  else
    let (digits, taken) := takeDigits digits ds
    let exponent := exponent - taken
    match ← peek with
    | some 'e' | some 'E' => exponentPart negative digits exponent
    | _ => double negative digits exponent

/-- A number after its sign. -/
def unsigned (negative : Bool) : Reader Numeral := do
  let ds ← digits
  match ds with
  | [] =>
    match ← peek with
    | none => Action.fail .ended
    | some _ => Action.fail .malformed
  | '0' :: _ :: _ => Action.fail .malformed
  | _ =>
    let (value, taken) := takeDigits 0 ds
    let exponent : Int := ds.length - taken
    match ← peek with
    | some '.' => fractionPart negative value exponent
    | some 'e' | some 'E' => exponentPart negative value exponent
    | _ =>
      if exponent ≠ 0 then double negative value exponent
      else if !negative then pure (.natural value)
      else if 0 < value ∧ value ≤ 0x8000000000000000 then pure (.negative value)
      else pure (.double (-Number.ofNat value))

/-- A number, from its sign on. -/
def numeral : Reader Numeral := do
  if (← peek) = some '-' then
    advance
    unsigned true
  else unsigned false

/-! ## Values of another shape -/

/-- Something stands where another shape was asked for. What is not nested is
read to its end first, so that a fault in it comes before the mismatch. -/
def otherShape {α : Type} : Reader α := do
  match ← peek with
  | some 'n' => word "null".toList
  | some 't' => word "true".toList
  | some 'f' => word "false".toList
  | some '"' => let _ ← string
  | some '[' | some '{' => pure ()
  | some c =>
    if c = '-' ∨ c.isDigit then
      let _ ← numeral
    else Action.fail .malformed
  | none => Action.fail .malformed
  Action.fail .mismatch

/-! ## Values that are passed over -/

/-- Passes over digits that must come. -/
def skipDigits : Reader Unit := do
  let ds ← digits
  if ds = [] then Action.fail .malformed

def skipExponent : Reader Unit := do
  match ← peek with
  | some 'e' | some 'E' =>
    advance
    let sign ← peek
    if sign = some '+' ∨ sign = some '-' then advance
    skipDigits
  | _ => pure ()

/-- Passes over a number, of any size, after its sign. -/
def skipUnsigned : Reader Unit := do
  let ds ← digits
  match ds with
  | [] | '0' :: _ :: _ => Action.fail .malformed
  | _ =>
    if (← peek) = some '.' then
      advance
      skipDigits
    skipExponent

/-- Passes over the characters up to the closing quote. Halves of surrogate
pairs may stand alone. -/
def skipString : Nat → Reader Unit
  | 0 => Action.exhausted
  | limit + 1 => do
    match ← next? with
    | none => Action.fail .ended
    | some '"' => pure ()
    | some '\\' =>
      match ← next? with
      | none => Action.fail .ended
      | some 'u' =>
        let _ ← hexFour
        skipString limit
      | some e =>
        if (shortEscape? e).isSome then skipString limit else Action.fail .malformed
    | some c => if c.toNat < 0x20 then Action.fail .malformed else skipString limit

mutual

/-- Passes over a value. -/
def skipValue : Nat → Reader Unit
  | 0 => Action.exhausted
  | limit + 1 => do
    match ← peekPastSpace with
    | none => Action.fail .ended
    | some 'n' => word "null".toList
    | some 't' => word "true".toList
    | some 'f' => word "false".toList
    | some '"' =>
      advance
      skipString (← left)
    | some '[' =>
      advance
      match ← peekPastSpace with
      | none => Action.fail .ended
      | some ']' => advance
      | some _ => skipItems limit
    | some '{' =>
      advance
      match ← peekPastSpace with
      | none => Action.fail .ended
      | some '}' => advance
      | some _ => skipMembers limit
    | some '-' =>
      advance
      skipUnsigned
    | some c => if c.isDigit then skipUnsigned else Action.fail .malformed

/-- Passes over items up to the closing bracket. -/
def skipItems : Nat → Reader Unit
  | 0 => Action.exhausted
  | limit + 1 => do
    skipValue limit
    match ← peekPastSpace with
    | none => Action.fail .ended
    | some ',' =>
      advance
      skipItems limit
    | some ']' => advance
    | some _ => Action.fail .malformed

/-- Passes over members up to the closing brace. -/
def skipMembers : Nat → Reader Unit
  | 0 => Action.exhausted
  | limit + 1 => do
    expect '"'
    skipString (← left)
    expect ':'
    skipValue limit
    match ← peekPastSpace with
    | none => Action.fail .ended
    | some ',' =>
      advance
      skipMembers limit
    | some '}' => advance
    | some _ => Action.fail .malformed

end

/-- Passes over the next value, whatever it is. A nested value takes two calls
for its one opening mark. -/
def skip : Reader Unit := do skipValue (2 * (← left))

/-! ## Values of a known shape -/

/-- A string. -/
def text : Reader String := do
  match ← peekPastSpace with
  | none => Action.fail .ended
  | some '"' => string
  | some _ => otherShape

/-- A string or null. -/
def text? : Reader (Option String) := do
  if (← peekPastSpace) = some 'n' then
    word "null".toList
    pure none
  else
    let s ← text
    pure (some s)

def anyNumeral : Reader Numeral := do
  match ← peekPastSpace with
  | none => Action.fail .ended
  | some c => if c = '-' ∨ c.isDigit then numeral else otherShape

/-- Any number. -/
def float : Reader Float := do
  let n ← anyNumeral
  pure n.toFloat

/-- A whole number from zero up, below `2^64`. -/
def index : Reader Nat := do
  match ← anyNumeral with
  | .natural n => pure n
  | _ => Action.fail .mismatch

/-- Whether an array has an item after those that were read; the comma before it
is taken. -/
def another (isFirst : Bool) : Reader Bool := do
  match ← peekPastSpace with
  | none => Action.fail .ended
  | some ']' => pure false
  | some c =>
    if isFirst then pure true
    else if c = ',' then
      advance
      match ← peekPastSpace with
      | none => Action.fail .ended
      | some ']' => Action.fail .malformed
      | some _ => pure true
    else Action.fail .malformed

/-- The items up to the closing bracket. -/
def items {α : Type} (item : Reader α) : Nat → Bool → Reader (List α)
  | 0, _ => Action.exhausted
  | limit + 1, isFirst => do
    if ← another isFirst then
      let x ← item
      let xs ← items item limit false
      pure (x :: xs)
    else
      advance
      pure []

/-- An array. -/
def array {α : Type} (item : Reader α) : Reader (List α) := do
  match ← peekPastSpace with
  | none => Action.fail .ended
  | some '[' =>
    advance
    items item (← left) true
  | some _ => otherShape

/-! ## Records -/

/-- One field of a record that is read into a draft `δ`. -/
structure Field (δ : Type) where
  name : String
  /-- The draft has the field already. -/
  given : δ → Bool
  read : δ → Reader δ
  /-- A record may lack the field. -/
  optional : Bool

/-- Whether an object has a member after those that were read; the comma before
it is taken, and what follows is a key. -/
def anotherKey (isFirst : Bool) : Reader Bool := do
  match ← peekPastSpace with
  | none => Action.fail .ended
  | some '}' => pure false
  | some c =>
    if isFirst then
      if c = '"' then pure true else Action.fail .malformed
    else if c = ',' then
      advance
      match ← peekPastSpace with
      | none => Action.fail .ended
      | some '"' => pure true
      | some _ => Action.fail .malformed
    else Action.fail .malformed

/-- The members up to the closing brace, which stays. A field that comes twice
is a mismatch, and an unknown one is passed over. -/
def members {δ : Type} (fields : List (Field δ)) : Nat → Bool → δ → Reader δ
  | 0, _, _ => Action.exhausted
  | limit + 1, isFirst, draft => do
    if ← anotherKey isFirst then
      let key ← string
      match fields.find? (·.name = key) with
      | some field =>
        if field.given draft then Action.fail .mismatch
        else
          expect ':'
          let draft ← field.read draft
          members fields limit false draft
      | none =>
        expect ':'
        skip
        members fields limit false draft
    else pure draft

/-- The fields in order as the items of an array. -/
def positional {δ : Type} : List (Field δ) → Bool → δ → Reader δ
  | [], _, draft => pure draft
  | field :: fields, isFirst, draft => do
    if ← another isFirst then
      let draft ← field.read draft
      positional fields false draft
    else if field.optional then positional fields isFirst draft
    else Action.fail .mismatch

/-- A record: an object with the fields, or an array of them in order. `finish`
makes the record of a draft that lacks nothing. -/
def record {α δ : Type} (fields : List (Field δ)) (empty : δ) (finish : δ → Option α) :
    Reader α := do
  match ← peekPastSpace with
  | none => Action.fail .ended
  | some '{' =>
    advance
    let draft ← members fields (← left) true empty
    let result ← Action.ofOption .mismatch (finish draft)
    advance
    pure result
  | some '[' =>
    advance
    let draft ← positional fields true empty
    let result ← Action.ofOption .mismatch (finish draft)
    expect ']'
    pure result
  | some _ => otherShape

/-- Reads a whole text: white space alone may follow. -/
def run {α : Type} (reader : Reader α) (text : String) : Except Problem α :=
  let whole : Reader α := do
    let result ← reader
    match ← peekPastSpace with
    | none => pure result
    | some _ => Action.fail .malformed
  match whole text.toList with
  | .done result _ => .ok result
  | .failed problem _ => .error problem
  | .exhausted => .error .malformed

end Reader

end Patchbay.Json
