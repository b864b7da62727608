-- The case of letters: characters that differ in case alone, and sets with
-- the case of letters ignored.
import Patchbay.Pattern.CharSet
import Patchbay.Pattern.Folding

namespace Patchbay.Pattern

open CharSet

/-- The numbers of one group of the table. -/
def splitSlashes (word : List Char) : List Nat :=
  let words := word.foldr (fun c (acc : List (List Char)) =>
    match acc with
    | current :: rest => if c = '/' then [] :: current :: rest else (c :: current) :: rest
    | [] => [[c]]) [[]]
  words.map hexValue

/-- The groups of characters that differ in case alone. -/
def foldGroups : List (List Nat) :=
  Folding.table.flatMap fun row => (hexWords [] row.toList).map splitSlashes

/-- The characters that differ from another one in case alone. -/
def paired : CharSet := ofRanges (foldGroups.flatten.map fun n => (n, n))

/-- The set with each character that differs from one of it in case alone. -/
def foldCase (s : CharSet) : CharSet :=
  let touched := foldGroups.filter fun group =>
    group.any fun n => s.any fun (low, high) => low ≤ n && n ≤ high
  s.union (touched.flatMap fun group => group.map fun n => (n, n))

/-- The same for the letters of ASCII alone. -/
def foldAsciiCase (s : CharSet) : CharSet :=
  let lower := s.inter [(0x61, 0x7A)]
  let upper := s.inter [(0x41, 0x5A)]
  ofRanges (s ++ lower.map (fun (a, b) => (a - 32, b - 32)) ++
    upper.map fun (a, b) => (a + 32, b + 32))

end Patchbay.Pattern
