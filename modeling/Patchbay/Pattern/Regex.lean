-- Regular expressions, with flags and classes resolved: what remains are
-- characters, sets of them, tests of a place, and the ways to combine them.
-- `sequence`, `choice` and `repetition` combine expressions and write what
-- they get in its shortest form.
import Patchbay.Pattern.CharSet

namespace Patchbay.Pattern

/-- A test of the place between two characters. `unicode` says which characters
make up words. -/
inductive Look
  | textStart
  | textEnd
  | lineStart
  | lineEnd
  /-- Line starts and ends where a carriage return ends lines too. -/
  | lineStartReturn
  | lineEndReturn
  | wordBoundary (unicode : Bool)
  | noWordBoundary (unicode : Bool)
  | wordStart (unicode : Bool)
  | wordEnd (unicode : Bool)
  /-- No word character before the place. -/
  | wordStartHalf (unicode : Bool)
  /-- No word character after the place. -/
  | wordEndHalf (unicode : Bool)
  deriving DecidableEq, Repr

inductive Regex
  | empty
  /-- These characters, one after another. -/
  | literal (chars : List Char)
  | set (set : CharSet)
  | look (look : Look)
  | concat (parts : List Regex)
  /-- Alternatives, the earlier ones first. -/
  | alt (branches : List Regex)
  | group (index : Nat) (body : Regex)
  /-- At least `least` times and at most `most` times. A greedy repetition tries
  one more time first. -/
  | repeats (least : Nat) (most : Option Nat) (greedy : Bool) (body : Regex)

namespace Regex

/-! ## Lengths -/

/-- The bytes that characters take. -/
def byteCount (cs : List Char) : Nat := cs.foldl (fun n c => n + c.utf8Size) 0

/-- The bytes that the character of a code point takes. -/
def codeSize (n : Nat) : Nat := (Char.ofNat n).utf8Size

mutual

/-- The fewest bytes that a match takes. There is no number for an expression
with a part that cannot match. -/
def minBytes? : Regex → Option Nat
  | .empty => some 0
  | .literal cs => some (byteCount cs)
  | .set s => s.head?.map fun (low, _) => codeSize low
  | .look _ => some 0
  | .concat parts => minBytesAll? parts
  | .alt branches => minBytesAny? branches
  | .group _ body => minBytes? body
  | .repeats least _ _ body => (minBytes? body).map (least * ·)

def minBytesAll? : List Regex → Option Nat
  | [] => some 0
  | r :: rest => do
    let first ← minBytes? r
    let more ← minBytesAll? rest
    some (first + more)

def minBytesAny? : List Regex → Option Nat
  | [] => none
  | [r] => minBytes? r
  | r :: rest => do
    let first ← minBytes? r
    let others ← minBytesAny? rest
    some (min first others)

end

mutual

/-- The most bytes that a match takes. There is no number either where there is
no end to them. -/
def maxBytes? : Regex → Option Nat
  | .empty => some 0
  | .literal cs => some (byteCount cs)
  | .set s => s.getLast?.map fun (_, high) => codeSize high
  | .look _ => some 0
  | .concat parts => maxBytesAll? parts
  | .alt branches => maxBytesAny? branches
  | .group _ body => maxBytes? body
  | .repeats _ most _ body => do
    let most ← most
    let one ← maxBytes? body
    some (most * one)

def maxBytesAll? : List Regex → Option Nat
  | [] => some 0
  | r :: rest => do
    let first ← maxBytes? r
    let more ← maxBytesAll? rest
    some (first + more)

def maxBytesAny? : List Regex → Option Nat
  | [] => none
  | [r] => maxBytes? r
  | r :: rest => do
    let first ← maxBytes? r
    let others ← maxBytesAny? rest
    some (max first others)

end

/-- Whether every match takes at least one character. -/
def takesChar (r : Regex) : Bool := r.minBytes?.any (0 < ·)

/-- Whether no match takes a character. -/
def takesNothing (r : Regex) : Bool := r.maxBytes? = some 0

/-! ## The ends of a text -/

mutual

/-- Whether every match starts with a test for the start of the text. -/
def fromTextStart : Regex → Bool
  | .look l => l = .textStart
  | .concat parts => firstFromTextStart parts
  | .alt branches => allFromTextStart branches
  | .group _ body => fromTextStart body
  | .repeats least _ _ body => 0 < least && fromTextStart body
  | _ => false

/-- One of the parts up to the first that may take characters. -/
def firstFromTextStart : List Regex → Bool
  | [] => false
  | r :: rest => fromTextStart r || (takesNothing r && firstFromTextStart rest)

def allFromTextStart : List Regex → Bool
  | [] => true
  | r :: rest => fromTextStart r && allFromTextStart rest

end

mutual

/-- Whether every match ends with a test for the end of the text. -/
def toTextEnd : Regex → Bool
  | .look l => l = .textEnd
  | .concat parts => lastToTextEnd false parts
  | .alt branches => allToTextEnd branches
  | .group _ body => toTextEnd body
  | .repeats least _ _ body => 0 < least && toTextEnd body
  | _ => false

/-- One of the parts after the last that may take characters, or that one.
`before` says so of the parts before these. -/
def lastToTextEnd (before : Bool) : List Regex → Bool
  | [] => before
  | r :: rest => lastToTextEnd ((before && takesNothing r) || toTextEnd r) rest

def allToTextEnd : List Regex → Bool
  | [] => true
  | r :: rest => toTextEnd r && allToTextEnd rest

end

/-! ## Sequences -/

/-- One character of a set. A set of a single one is that character. -/
def ofSet : CharSet → Regex
  | [(low, high)] => if low = high then .literal [Char.ofNat low] else .set [(low, high)]
  | s => .set s

/-- The parts that an expression brings into a sequence. -/
def parts : Regex → List Regex
  | .empty => []
  | .concat parts => parts
  | r => [r]

/-- An expression in front of others. Literals that touch are one. -/
def consPart : Regex → List Regex → List Regex
  | .literal cs, .literal ds :: rest => .literal (cs ++ ds) :: rest
  | r, rest => r :: rest

/-- One expression after another. -/
def sequence (rs : List Regex) : Regex :=
  match (rs.flatMap Regex.parts).foldr consPart [] with
  | [] => .empty
  | [r] => r
  | parts => .concat parts

/-! ## Alternatives -/

mutual

/-- Whether two expressions are written alike. -/
def same : Regex → Regex → Bool
  | .empty, .empty => true
  | .literal cs, .literal ds => cs = ds
  | .set s, .set t => s = t
  | .look l, .look m => l = m
  | .concat rs, .concat ss => allSame rs ss
  | .alt rs, .alt ss => allSame rs ss
  | .group i r, .group j s => i = j && same r s
  | .repeats least most greedy r, .repeats least' most' greedy' s =>
    least = least' && most = most' && greedy = greedy' && same r s
  | _, _ => false

def allSame : List Regex → List Regex → Bool
  | [], [] => true
  | r :: rs, s :: ss => same r s && allSame rs ss
  | _, _ => false

end

def branches : Regex → List Regex
  | .alt branches => branches
  | r => [r]

/-- The character of an expression that is a single one. -/
def char? : Regex → Option Char
  | .literal [c] => some c
  | _ => none

def set? : Regex → Option CharSet
  | .set s => some s
  | _ => none

/-- Alternatives as they are. Single characters among themselves are one set,
and so are sets. -/
def either (rs : List Regex) : Regex :=
  match rs.flatMap Regex.branches with
  | [] => .set []
  | [r] => r
  | branches =>
    match branches.mapM char? with
    | some cs => ofSet (CharSet.ofRanges (cs.map fun c => (c.toNat, c.toNat)))
    | none =>
      match branches.mapM set? with
      | some sets => ofSet (CharSet.ofRanges sets.flatten)
      | none => .alt branches

/-- How many parts two sequences have in common at their front. -/
def sharedLength : List Regex → List Regex → Nat
  | r :: rs, s :: ss => if same r s then sharedLength rs ss + 1 else 0
  | _, _ => 0

/-- The parts of a sequence of at least two. -/
def concat? : Regex → Option (List Regex)
  | .concat parts => some parts
  | _ => none

/-- Alternatives. What all of them start with is written once, in front. -/
def choice (rs : List Regex) : Regex :=
  match either rs with
  | .alt branches =>
    match branches.mapM concat? with
    | some (first :: others) =>
      let shared := others.foldl (fun n parts => min n (sharedLength first parts)) first.length
      if shared = 0 then .alt branches
      else sequence (first.take shared ++
        [either ((first :: others).map fun parts => sequence (parts.drop shared))])
    | _ => .alt branches
  | r => r

/-! ## Repetition -/

/-- A repetition of an expression. One that takes no characters need not be
repeated, and none at all are empty. -/
def repetition (least : Nat) (most : Option Nat) (greedy : Bool) (body : Regex) : Regex :=
  let least := if body.takesNothing then min least 1 else least
  let most := if body.takesNothing then some ((most.getD 1).min 1) else most
  if most = some 0 then .empty
  else if least = 1 && most = some 1 then body
  else .repeats least most greedy body

end Regex

end Patchbay.Pattern
