-- Reading regular expressions. A reader goes once from left to right; a
-- pattern that breaks a rule has no expression at all.
import Patchbay.Outcome
import Patchbay.Pattern.Class
import Patchbay.Pattern.GroupName
import Patchbay.Pattern.Room
import Patchbay.Text.Blank

namespace Patchbay.Pattern

/-! ## The state of a reader -/

structure Flags where
  ignoreCase : Bool
  multiLine : Bool
  dotAll : Bool
  swapGreed : Bool
  unicode : Bool
  returns : Bool
  ignoreSpace : Bool
  deriving DecidableEq, Repr

def Flags.initial : Flags := ⟨false, false, false, false, true, false, false⟩

structure ReaderState where
  /-- How long the pattern is. No loop over it takes more steps. -/
  length : Nat
  rest : List Char
  flags : Flags
  nextGroup : Nat
  /-- The named groups so far, the last one first. -/
  names : List (String × Nat)

/-- A failure carries nothing: the pattern is invalid. -/
abbrev Reader := Action Unit ReaderState

namespace Reader

def invalid {α : Type} : Reader α := Action.fail ()

def rest : Reader (List Char) := Action.read ReaderState.rest

def flags : Reader Flags := Action.read ReaderState.flags

def setFlags (flags : Flags) : Reader Unit := Action.change fun st => { st with flags }

def setRest (rest : List Char) : Reader Unit := Action.change fun st => { st with rest }

/-- The next character. -/
def peek : Reader (Option Char) := Action.read fun st => st.rest.head?

def advance : Reader Unit := Action.change fun st => { st with rest := st.rest.tail }

/-- Takes the text when it is next, and says whether it was. -/
def eat (text : String) : Reader Bool := do
  let cs ← rest
  if text.toList.isPrefixOf cs then
    setRest (cs.drop text.length)
    pure true
  else pure false

/-- What follows blanks and comments. -/
def dropSpace : List Char → List Char
  | [] => []
  | c :: cs =>
    if Text.isBlank c then dropSpace cs
    else if c = '#' then dropComment cs
    else c :: cs
where
  dropComment : List Char → List Char
    | [] => []
    | c :: cs => if c = '\n' then dropSpace cs else dropComment cs

/-- Takes blanks and comments where the flags say that they mean nothing. -/
def space : Reader Unit := do
  if (← flags).ignoreSpace then setRest (dropSpace (← rest))

/-- Takes one character and the space after it. -/
def advanceSpace : Reader Unit := do
  advance
  space

/-- The next character, which must be there. -/
def required : Reader Char := do
  match ← peek with
  | some c => pure c
  | none => invalid

/-- The character after the next one and the space after it. -/
def peekSecond : Reader (Option Char) := do
  let cs := (← rest).tail
  if (← flags).ignoreSpace then
    match cs.dropWhile Text.isBlank with
    | '#' :: cs => pure ((cs.dropWhile Text.isBlank).head?)
    | cs => pure cs.head?
  else pure cs.head?

/-! ## Characters and classes -/

/-- One step of a pattern: a character, a class, or a test of a place. A
character says whether it was written as two hexadecimal digits. -/
inductive Piece
  | char (c : Char) (isByte : Bool)
  | set (s : CharSet)
  | look (l : Look)

def hexDigit? (c : Char) : Option Nat :=
  if c.isDigit then some (c.toNat - 48)
  else if 'a' ≤ c && c ≤ 'f' then some (c.toNat - 87)
  else if 'A' ≤ c && c ≤ 'F' then some (c.toNat - 55)
  else none

/-- The character of a code point. -/
def charOf (n : Nat) : Reader Char :=
  if n.isValidChar then pure (Char.ofNat n) else invalid

/-- So many hexadecimal digits. -/
def hexDigits : Nat → Nat → Reader Nat
  | 0, value => pure value
  | count + 1, value => do
    let d ← Action.ofOption () (hexDigit? (← required))
    advanceSpace
    hexDigits count (value * 16 + d)

/-- Hexadecimal digits up to the closing brace. -/
def hexBraced : Nat → Option Nat → Reader Nat
  | 0, _ => Action.exhausted
  | limit + 1, value => do
    let c ← required
    if c = '}' then
      advanceSpace
      Action.ofOption () value
    else
      let d ← Action.ofOption () (hexDigit? c)
      advanceSpace
      hexBraced limit (some (value.getD 0 * 16 + d))

/-- A bound on the steps of any loop over the pattern. -/
def bound : Reader Nat := Action.read fun st => st.length + 1

/-- A code point after `x`, `u` or `U`, in so many digits or in braces. -/
def hexPiece (count : Nat) : Reader Piece := do
  advanceSpace
  if (← required) = '{' then
    advanceSpace
    let n ← hexBraced (← bound) none
    let c ← charOf n
    pure (.char c false)
  else
    let n ← hexDigits count 0
    let c ← charOf n
    pure (.char c (count = 2))

/-- The characters up to the closing brace, which is taken. -/
def braced : Nat → Reader (List Char)
  | 0 => Action.exhausted
  | limit + 1 => do
    let c ← required
    if c = '}' then
      advance
      pure []
    else
      advanceSpace
      let cs ← braced limit
      pure (c :: cs)

/-- Cuts a text at the first place where `mark` stands. -/
def cutAt? (mark : List Char) : List Char → Option (List Char × List Char)
  | [] => none
  | c :: cs =>
    if mark.isPrefixOf (c :: cs) then some ([], (c :: cs).drop mark.length)
    else (cutAt? mark cs).map fun (before, after) => (c :: before, after)

/-- The set with the case of letters ignored where the flags say so, turned
around when `negated`. Without Unicode a set may hold ASCII alone. -/
def finishSet (flags : Flags) (negated : Bool) (s : CharSet) : Reader CharSet :=
  if flags.unicode then
    let s := if flags.ignoreCase then foldCase s else s
    pure (if negated then s.complement else s)
  else
    let s := if flags.ignoreCase then foldAsciiCase s else s
    let s := if negated then s.complementTo 0xFF else s
    if s.isAscii then pure s else invalid

/-- The class after `p` or `P`. -/
def propertyPiece (negated : Bool) : Reader Piece := do
  let fs ← flags
  advanceSpace
  let c ← required
  let (negated, found) ←
    if c = '{' then do
      advanceSpace
      let name ← braced (← bound)
      match cutAt? ['!', '='] name with
      | some (property, value) => pure (!negated, valued? property value)
      | none =>
        match (cutAt? [':'] name).or (cutAt? ['='] name) with
        | some (property, value) => pure (negated, valued? property value)
        | none => pure (negated, named? name)
    else do
      if c = '\\' then invalid
      advanceSpace
      pure (negated, named? [c])
  if !fs.unicode then invalid
  let s ← finishSet fs negated (← Action.ofOption () found)
  pure (.set s)

/-- The class of one letter; a capital turns it around. -/
def letterClass (letter : Char) : Reader Piece := do
  let fs ← flags
  advance
  let s : CharSet :=
    if letter = 'd' || letter = 'D' then if fs.unicode then digits else [(0x30, 0x39)]
    else if letter = 's' || letter = 'S' then
      if fs.unicode then blanks else [(0x09, 0x0D), (0x20, 0x20)]
    else if fs.unicode then wordChars else asciiWordChars
  let s ← finishSet { fs with ignoreCase := false } letter.isUpper s
  pure (.set s)

/-- A character that means something on its own. -/
def isMeta (c : Char) : Bool := "\\.+*?()|[]\x7b\x7d^$#&-~".toList.contains c

/-- The letters between the braces of a word boundary. -/
def boundaryName : Nat → Reader (List Char)
  | 0 => Action.exhausted
  | limit + 1 => do
    match ← peek with
    | some c =>
      if c.isAlpha || c = '-' then
        advanceSpace
        let cs ← boundaryName limit
        pure (c :: cs)
      else pure []
    | none => pure []

/-- A word boundary after its `b`. A name in braces makes it a special one; what
else stands in braces belongs to a repetition. -/
def boundary : Reader Look := do
  let unicode := (← flags).unicode
  let start ← rest
  if (← peek) = some '{' then
    advanceSpace
    let c ← required
    if c.isAlpha || c = '-' then
      let name ← boundaryName (← bound)
      if (← peek) ≠ some '}' then invalid
      advance
      match String.ofList name with
      | "start" => pure (.wordStart unicode)
      | "end" => pure (.wordEnd unicode)
      | "start-half" => pure (.wordStartHalf unicode)
      | "end-half" => pure (.wordEndHalf unicode)
      | _ => invalid
    else
      setRest start
      pure (.wordBoundary unicode)
  else pure (.wordBoundary unicode)

/-- What a backslash starts, from the backslash on. -/
def escape : Reader Piece := do
  advance
  let c ← required
  if c.isDigit then invalid
  else if c = 'x' then hexPiece 2
  else if c = 'u' then hexPiece 4
  else if c = 'U' then hexPiece 8
  else if c = 'p' then propertyPiece false
  else if c = 'P' then propertyPiece true
  else if "dDsSwW".toList.contains c then letterClass c
  else
    advance
    if isMeta c || (c.toNat < 0x80 && !c.isAlphanum && c ≠ '<' && c ≠ '>') then pure (.char c false)
    else
      let unicode := (← flags).unicode
      match c with
      | 'a' => pure (.char '\x07' false)
      | 'f' => pure (.char '\x0c' false)
      | 't' => pure (.char '\t' false)
      | 'n' => pure (.char '\n' false)
      | 'r' => pure (.char '\r' false)
      | 'v' => pure (.char '\x0b' false)
      | 'A' => pure (.look .textStart)
      | 'z' => pure (.look .textEnd)
      | 'b' =>
        let l ← boundary
        pure (.look l)
      | 'B' => pure (.look (.noWordBoundary unicode))
      | '<' => pure (.look (.wordStart unicode))
      | '>' => pure (.look (.wordEnd unicode))
      | _ => invalid

/-! ## Bracketed classes -/

/-- The code point of an end of a range. Without Unicode it must be ASCII. -/
def rangeEnd : Piece → Reader Nat
  | .char c _ => do
    if (← flags).unicode || c.toNat < 0x80 then pure c.toNat else invalid
  | _ => invalid

/-- One item of a class: a character as it is, or what a backslash starts. -/
def classItem : Reader Piece := do
  let c ← required
  if c = '\\' then escape
  else
    advance
    pure (.char c false)

/-- One item of a class, or a range between two. -/
def classRange : Reader CharSet := do
  let first ← classItem
  space
  let c ← required
  let second ← if c = '-' then peekSecond else pure none
  if c ≠ '-' || second = some ']' || second = some '-' then
    match first with
    | .set s => pure s
    | _ =>
      let n ← rangeEnd first
      pure [(n, n)]
  else
    advanceSpace
    let _ ← required
    let last ← classItem
    let low ← rangeEnd first
    let high ← rangeEnd last
    if low ≤ high then pure [(low, high)] else invalid

/-- A class between colons, if one starts here. -/
def asciiClass? : Reader (Option CharSet) := do
  let start ← rest
  let fs ← flags
  let found? : Option (Bool × List Char × List Char) := match start with
    | '[' :: ':' :: '^' :: cs => some (true, cs.takeWhile (· ≠ ':'), cs.dropWhile (· ≠ ':'))
    | '[' :: ':' :: cs => some (false, cs.takeWhile (· ≠ ':'), cs.dropWhile (· ≠ ':'))
    | _ => none
  match found? with
  | some (negated, name, ':' :: ']' :: after) =>
    match ascii? (String.ofList name) with
    | some s =>
      let s ← finishSet fs negated s
      setRest after
      pure (some s)
    | none => pure none
  | _ => pure none

/-- How two classes are joined. -/
inductive SetOp
  | inter
  | diff
  | symmDiff
  deriving DecidableEq, Repr

/-- The operator that comes next. -/
def setOp? : Reader (Option SetOp) := do
  match ← rest with
  | '&' :: '&' :: _ => pure (some .inter)
  | '-' :: '-' :: _ => pure (some .diff)
  | '~' :: '~' :: _ => pure (some .symmDiff)
  | _ => pure none

/-- Joins two classes. Each has the case of letters ignored first. -/
def SetOp.join (op : SetOp) (s t : CharSet) : Reader CharSet := do
  let fs ← flags
  let fold := fun u : CharSet =>
    if !fs.ignoreCase then u else if fs.unicode then foldCase u else foldAsciiCase u
  match op with
  | .inter => pure ((fold s).inter (fold t))
  | .diff => pure ((fold s).diff (fold t))
  | .symmDiff => pure ((fold s).symmDiff (fold t))

/-- What has been read of a class: the operand so far, how many items it has and
how deep they nest, and the operands before it with their operator. -/
structure ClassState where
  before : Option (CharSet × SetOp)
  beforeDepth : Nat
  /-- Its ranges, in any order. -/
  items : List (Nat × Nat)
  count : Nat
  depth : Nat

namespace ClassState

def empty : ClassState := ⟨none, 0, [], 0, 0⟩

def add (st : ClassState) (s : CharSet) (depth : Nat) : ClassState :=
  { st with items := s ++ st.items, count := st.count + 1, depth := max st.depth depth }

/-- How deep the operand nests: several items nest one deeper than one. -/
def operandDepth (st : ClassState) : Nat := if st.count ≤ 1 then st.depth else st.depth + 1

def totalDepth (st : ClassState) : Nat :=
  match st.before with
  | none => st.operandDepth
  | some _ => 1 + max st.beforeDepth st.operandDepth

/-- Joins the operand to the ones before it. -/
def close (st : ClassState) : Reader CharSet :=
  match st.before with
  | none => pure (CharSet.ofRanges st.items)
  | some (s, op) => op.join s (CharSet.ofRanges st.items)

end ClassState

/-- Hyphens at the start of a class stand for themselves. -/
def leadingHyphens : Nat → ClassState → Reader ClassState
  | 0, _ => Action.exhausted
  | limit + 1, st => do
    if (← peek) = some '-' then
      advanceSpace
      let _ ← required
      leadingHyphens limit (st.add [(0x2D, 0x2D)] 0)
    else pure st

mutual

/-- A class from its opening bracket on, and how deep it nests. -/
def bracketed : Nat → Reader (CharSet × Nat)
  | 0 => Action.exhausted
  | limit + 1 => do
    advanceSpace
    let negated := (← required) = '^'
    if negated then advanceSpace
    let _ ← required
    let st ← leadingHyphens (← bound) .empty
    if st.count = 0 && (← peek) = some ']' then
      advanceSpace
      let _ ← required
      classItems limit negated (st.add [(0x5D, 0x5D)] 0)
    else classItems limit negated st

/-- The items of a class up to its closing bracket. -/
def classItems : Nat → Bool → ClassState → Reader (CharSet × Nat)
  | 0, _, _ => Action.exhausted
  | limit + 1, negated, st => do
    space
    let c ← required
    if c = ']' then
      advance
      let s ← st.close
      let s ← finishSet (← flags) negated s
      pure (s, st.totalDepth + 1)
    else if c = '[' then
      match ← asciiClass? with
      | some s => classItems limit negated (st.add s 0)
      | none =>
        let (s, depth) ← bracketed limit
        classItems limit negated (st.add s depth)
    else
      match ← setOp? with
      | some op =>
        advance
        advance
        let s ← st.close
        classItems limit negated ⟨some (s, op), st.totalDepth, [], 0, 0⟩
      | none =>
        let s ← classRange
        classItems limit negated (st.add s 0)

end

/-! ## Single pieces -/

/-- One character, or the set of those that differ from it in case alone. -/
def charRegex (c : Char) (isByte : Bool) : Reader Regex := do
  let fs ← flags
  if !fs.unicode && isByte && 0x80 ≤ c.toNat then invalid
  else if !fs.ignoreCase then pure (.literal [c])
  else if fs.unicode then pure (Regex.ofSet (foldCase (CharSet.single c)))
  else pure (Regex.ofSet (foldAsciiCase (CharSet.single c)))

def pieceRegex : Piece → Reader Regex
  | .char c isByte => charRegex c isByte
  | .set s => pure (Regex.ofSet s)
  | .look l => pure (.look l)

/-- The dot, the anchors, an escape, or a character as it is. -/
def primitive : Reader Regex := do
  let fs ← flags
  let c ← required
  if c = '\\' then
    let piece ← escape
    pieceRegex piece
  else
    advance
    if c = '.' then
      if !fs.unicode then invalid
      else if fs.dotAll then pure (.set [(0, CharSet.maxCode)])
      else if fs.returns then pure (.set (CharSet.complement [(0x0A, 0x0A), (0x0D, 0x0D)]))
      else pure (.set (CharSet.complement [(0x0A, 0x0A)]))
    else if c = '^' then
      pure (.look (if !fs.multiLine then .textStart
        else if fs.returns then .lineStartReturn else .lineStart))
    else if c = '$' then
      pure (.look (if !fs.multiLine then .textEnd
        else if fs.returns then .lineEndReturn else .lineEnd))
    else pieceRegex (.char c false)

/-! ## Groups -/

/-- A flag of an expression, set on or off. -/
def Flags.put? (fs : Flags) (flag : Char) (value : Bool) : Option Flags :=
  match flag with
  | 'i' => some { fs with ignoreCase := value }
  | 'm' => some { fs with multiLine := value }
  | 's' => some { fs with dotAll := value }
  | 'U' => some { fs with swapGreed := value }
  | 'u' => some { fs with unicode := value }
  | 'R' => some { fs with returns := value }
  | 'x' => some { fs with ignoreSpace := value }
  | _ => none

/-- Flags up to the colon or the closing parenthesis. `seen` holds the letters
before, the last one first. No flag may come twice, and the hyphen, which turns
off all flags after it, must have one after it. -/
def readFlags : Nat → List Char → Flags → Reader (List Char × Flags)
  | 0, _, _ => Action.exhausted
  | limit + 1, seen, fs => do
    let c ← required
    if c = ':' || c = ')' then
      if seen.head? = some '-' then invalid else pure (seen, fs)
    else if seen.contains c then invalid
    else if c = '-' then
      advance
      readFlags limit (c :: seen) fs
    else
      let fs ← Action.ofOption () (Flags.put? fs c !(seen.contains '-'))
      advance
      readFlags limit (c :: seen) fs

/-- The name of a group up to its closing angle bracket. -/
def groupName : Nat → Bool → Reader (List Char)
  | 0, _ => Action.exhausted
  | limit + 1, isFirst => do
    let c ← required
    if c = '>' then
      advance
      pure []
    else
      if if isFirst then startsName c else goesOnName c then
        advance
        let cs ← groupName limit false
        pure (c :: cs)
      else invalid

/-- The number of a new group. -/
def newGroup : Reader Nat := fun st => .done st.nextGroup { st with nextGroup := st.nextGroup + 1 }

/-- Gives a group its name, which no other group may have. -/
def nameGroup (name : String) (index : Nat) : Reader Unit := do
  let names ← Action.read ReaderState.names
  if name = "" || (names.lookup name).isSome then invalid
  else Action.change fun st => { st with names := (name, index) :: names }

/-- How a group starts. -/
inductive GroupStart
  /-- No group: the flags hold for what follows. -/
  | flags (flags : Flags)
  | plain (flags : Flags)
  | capture (index : Nat)

/-- The start of a group, from its parenthesis on. -/
def groupStart : Reader GroupStart := do
  advanceSpace
  if (← eat "?=") || (← eat "?!") || (← eat "?<=") || (← eat "?<!") then invalid
  else if (← eat "?P<") || (← eat "?<") then
    let index ← newGroup
    let name ← groupName (← bound) true
    nameGroup (String.ofList name) index
    pure (.capture index)
  else if ← eat "?" then
    let (seen, fs) ← readFlags (← bound) [] (← flags)
    let close ← required
    advance
    if close = ')' then
      if seen = [] then invalid else pure (.flags fs)
    else pure (.plain fs)
  else
    let index ← newGroup
    pure (.capture index)

/-! ## Repetition -/

/-- One part of a sequence, with how deep it nests. Flags are no expression, so
nothing can repeat them. -/
structure Part where
  regex? : Option Regex
  depth : Nat

/-- Repeats the last part, which must be an expression. A question mark turns
the greed around, and so does the flag. -/
def repeatLast (least : Nat) (most : Option Nat) (parts : List Part) : Reader (List Part) := do
  let fs ← flags
  let lazy ← eat "?"
  match parts with
  | ⟨some body, depth⟩ :: parts =>
    pure (⟨some (.repetition least most (lazy == fs.swapGreed) body), depth + 1⟩ :: parts)
  | _ => invalid

/-- Passes over blanks, also where they mean something. -/
def skipBlanks : Reader Unit := do setRest ((← rest).dropWhile Text.isBlank)

/-- The digits of a count. -/
def countDigits : Nat → Reader (List Char)
  | 0 => Action.exhausted
  | limit + 1 => do
    match ← peek with
    | some c =>
      if c.isDigit then
        advanceSpace
        let cs ← countDigits limit
        pure (c :: cs)
      else pure []
    | none => pure []

/-- A count, below `2^32`, with blanks around it. -/
def count : Reader Nat := do
  skipBlanks
  let ds ← countDigits (← bound)
  skipBlanks
  space
  let n := Nat.ofDigitChars 10 ds 0
  if ds = [] || 0x100000000 ≤ n then invalid else pure n

/-- The bounds of a repetition, from the opening brace to the closing one. -/
def bounds : Reader (Nat × Option Nat) := do
  advanceSpace
  let least ← count
  let c ← required
  let most ←
    if c = ',' then do
      advanceSpace
      if (← required) = '}' then pure none
      else
        let most ← count
        pure (some most)
    else pure (some least)
  if (← required) ≠ '}' then invalid
  advanceSpace
  match most with
  | some m => if least ≤ m then pure (least, most) else invalid
  | none => pure (least, none)

/-! ## Expressions -/

/-- A sequence of parts, given the last one first. -/
def sequence (parts : List Part) : Part :=
  match parts with
  | [] => ⟨some .empty, 0⟩
  | [part] => ⟨some (part.regex?.getD .empty), part.depth⟩
  | parts =>
    ⟨some (.sequence (parts.reverse.filterMap Part.regex?)),
      1 + parts.foldl (fun depth part => max depth part.depth) 0⟩

/-- Alternatives, given the last one first. -/
def alternatives (branches : List Part) : Part :=
  match branches with
  | [branch] => branch
  | branches =>
    ⟨some (.choice (branches.reverse.filterMap Part.regex?)),
      1 + branches.foldl (fun depth branch => max depth branch.depth) 0⟩

/-- Reads alternatives up to a closing parenthesis or the end. `branches` are
those before this one and `parts` the parts of this one, the last ones first. -/
def expression : Nat → List Part → List Part → Reader Part
  | 0, _, _ => Action.exhausted
  | limit + 1, branches, parts => do
    space
    match ← peek with
    | none | some ')' => pure (alternatives (sequence parts :: branches))
    | some '|' =>
      advance
      expression limit (sequence parts :: branches) []
    | some '(' =>
      let outer ← flags
      match ← groupStart with
      | .flags fs =>
        setFlags fs
        expression limit branches (⟨none, 0⟩ :: parts)
      | .plain fs =>
        setFlags fs
        let inner ← expression limit [] []
        if (← peek) ≠ some ')' then invalid
        advance
        setFlags outer
        expression limit branches (⟨inner.regex?, inner.depth + 1⟩ :: parts)
      | .capture index =>
        let inner ← expression limit [] []
        if (← peek) ≠ some ')' then invalid
        advance
        setFlags outer
        expression limit branches (⟨inner.regex?.map (Regex.group index), inner.depth + 1⟩ :: parts)
    | some '[' =>
      let (s, depth) ← bracketed (← bound)
      expression limit branches (⟨some (.ofSet s), depth⟩ :: parts)
    | some '?' =>
      advance
      let parts ← repeatLast 0 (some 1) parts
      expression limit branches parts
    | some '*' =>
      advance
      let parts ← repeatLast 0 none parts
      expression limit branches parts
    | some '+' =>
      advance
      let parts ← repeatLast 1 none parts
      expression limit branches parts
    | some '{' =>
      let (least, most) ← bounds
      let parts ← repeatLast least most parts
      expression limit branches parts
    | some _ =>
      let r ← primitive
      expression limit branches (⟨some r, 0⟩ :: parts)

/-- An expression may nest so deep. -/
def nestLimit : Nat := 250

/-- The expression of a whole pattern, with the named groups in order. -/
def run? (pattern : String) : Option (Regex × List (String × Nat)) :=
  let cs := pattern.toList
  match expression (cs.length + 1) [] [] ⟨cs.length, cs, .initial, 1, []⟩ with
  | .done part st =>
    match part.regex?, st.rest with
    | some r, [] =>
      if part.depth ≤ nestLimit && r.fits then some (r, st.names.reverse)
      else none
    | _, _ => none
  | _ => none

end Reader

end Patchbay.Pattern
