-- Matching a pattern against a text. The match is the leftmost one, and of
-- those the one that the pattern prefers: earlier alternatives first, and
-- greedy repetitions long. Trying states in that order and never one twice
-- at one place finds it in time that grows with the text, not exponentially.
import Patchbay.Pattern.Place
import Patchbay.Pattern.Program
import Patchbay.Pattern.Reader
import Std.Data.HashSet

namespace Patchbay

/-- A pattern ready to be matched. -/
structure Pattern where
  program : Pattern.Program
  start : Nat
  /-- The named groups with their numbers, in the order of the pattern. -/
  names : List (String × Nat)

namespace Pattern

def read? (pattern : String) : Option Pattern :=
  (Reader.run? pattern).map fun (r, names) =>
    let (start, program) := r.program
    ⟨program, start, names⟩

/-! ## The search -/

/-- The places noted so far, the last one first. -/
abbrev Notes := List (Nat × Nat)

/-- A way yet to be tried: from a state, at a place, after some notes. -/
structure Way where
  state : Nat
  place : Nat
  notes : Notes

/-- Where a move leads: to other ways in the order of preference. Nowhere when
it fails, and `accept` leads nowhere too. -/
def Move.ways (text : Array Char) (place : Nat) (notes : Notes) : Move → List Way
  | .fail => []
  | .accept => []
  | .take set next =>
    match text[place]? with
    | some c => if set.contains c then [⟨next, place + 1, notes⟩] else []
    | none => []
  | .test look next => if look.holds text place then [⟨next, place, notes⟩] else []
  | .note slot next => [⟨next, place, (slot, place) :: notes⟩]
  | .fork first second => [⟨first, place, notes⟩, ⟨second, place, notes⟩]

/-- The states that were tried, each with its place, as one number. -/
abbrev Tried := Std.HashSet Nat

/-- Tries the ways from the first one on. `fuel` bounds how many are looked at. -/
def tryWays (p : Program) (text : Array Char) : Nat → List Way → Tried → Option Notes × Tried
  | 0, _, tried => (none, tried)
  | _ + 1, [], tried => (none, tried)
  | fuel + 1, way :: ways, tried =>
    let key := way.place * p.size + way.state
    if tried.contains key then tryWays p text fuel ways tried
    else match p.getD way.state .fail with
      | .accept => (some way.notes, tried)
      | move => tryWays p text fuel (move.ways text way.place way.notes ++ ways) (tried.insert key)

/-- Tries each place from `place` on, so many of them, as the start of a match.
What failed from an earlier start fails again, so it counts as tried. -/
def search (pattern : Pattern) (text : Array Char) (fuel : Nat) :
    Nat → Nat → Tried → Option Notes
  | 0, _, _ => none
  | count + 1, place, tried =>
    match tryWays pattern.program text fuel [⟨pattern.start, place, []⟩] tried with
    | (some notes, _) => some notes
    | (none, tried) => search pattern text fuel count (place + 1) tried

/-- The places that the groups of the first match took, if there is a match. A
state is tried once at a place and leads to two ways at most, which bounds
the ways that are looked at. -/
def firstMatch? (pattern : Pattern) (text : Array Char) : Option Notes :=
  let places := text.size + 1
  search pattern text (2 * pattern.program.size * places + 2) places 0 ∅

/-! ## Groups -/

/-- The text that a group took. -/
def groupText? (text : Array Char) (notes : Notes) (index : Nat) : Option String := do
  let first ← notes.lookup (2 * index)
  let last ← notes.lookup (2 * index + 1)
  pure (String.ofList (text.extract first last).toList)

/-- The named groups that the first match of the text took, in the order of the
pattern. Without a match there are none. -/
def groups (pattern : Pattern) (text : String) : List (String × String) :=
  let cs := text.toList.toArray
  match pattern.firstMatch? cs with
  | none => []
  | some notes => pattern.names.filterMap fun (name, index) =>
    (groupText? cs notes index).map fun part => (name, part)

end Pattern

end Patchbay
