-- Sets of characters, as ranges of code points in order and without
-- overlaps.
namespace Patchbay

abbrev CharSet := List (Nat × Nat)

namespace CharSet

def maxCode : Nat := 0x10FFFF

def single (c : Char) : CharSet := [(c.toNat, c.toNat)]

def contains (s : CharSet) (c : Char) : Bool :=
  s.any fun (low, high) => low ≤ c.toNat && c.toNat ≤ high

/-- Joins a range to the ranges after it that it overlaps or touches. The ranges
are in order of their starts. -/
def absorb (low high : Nat) : List (Nat × Nat) → CharSet
  | [] => [(low, high)]
  | (low', high') :: rest =>
    if low' ≤ high + 1 then absorb low (max high high') rest
    else (low, high) :: absorb low' high' rest

/-- The set of some ranges in any order. -/
def ofRanges (ranges : List (Nat × Nat)) : CharSet :=
  match ranges.mergeSort fun a b => a.1 ≤ b.1 with
  | [] => []
  | (low, high) :: rest => absorb low high rest

def union (s t : CharSet) : CharSet := ofRanges (s ++ t)

/-- The code point after one. Surrogates are no characters and are passed over. -/
def after (n : Nat) : Nat := if n = 0xD7FF then 0xE000 else n + 1

def before (n : Nat) : Nat := if n = 0xE000 then 0xD7FF else n - 1

/-- The range between two ends, in either order. -/
def between (a b : Nat) : Nat × Nat := if a ≤ b then (a, b) else (b, a)

/-- The gaps after a range that ends at `high`. A gap of surrogates alone has no
character of its own, and its two neighbours stand for it. -/
def gaps (last high : Nat) : CharSet → CharSet
  | [] => if high < last then [(after high, last)] else []
  | (low', high') :: rest => between (after high) (before low') :: gaps last high' rest

/-- All code points up to `last` that are not in the set. -/
def complementTo (last : Nat) : CharSet → CharSet
  | [] => [(0, last)]
  | (low, high) :: rest => (if 0 < low then [(0, before low)] else []) ++ gaps last high rest

def complement (s : CharSet) : CharSet := s.complementTo maxCode

/-- What two sets share. Of the two first ranges, the one that ends first meets
no other range. -/
def inter : CharSet → CharSet → CharSet
  | [], _ => []
  | _, [] => []
  | (low, high) :: s, (low', high') :: t =>
    let rest := if high < high' then inter s ((low', high') :: t) else inter ((low, high) :: s) t
    if max low low' ≤ min high high' then (max low low', min high high') :: rest else rest
termination_by s t => s.length + t.length

/-- What is left of one set without another. -/
def diff : CharSet → CharSet → CharSet
  | [], _ => []
  | s, [] => s
  | (low, high) :: s, (low', high') :: t =>
    if high' < low then diff ((low, high) :: s) t
    else if high < low' then (low, high) :: diff s ((low', high') :: t)
    else (if low < low' then [(low, before low')] else []) ++
      (if high' < high then diff ((after high', high) :: s) t else diff s ((low', high') :: t))
termination_by s t => s.length + t.length

def symmDiff (s t : CharSet) : CharSet := (s.union t).diff (s.inter t)

def isAscii (s : CharSet) : Bool := s.all fun (_, high) => high ≤ 0x7F

/-! ## Ranges in hexadecimal -/

def hexValue (digits : List Char) : Nat :=
  digits.foldl (fun n c => n * 16 + (if c.isDigit then c.toNat - 48 else c.toNat - 55)) 0

/-- The number at the front of a list of numbers with one character between. -/
def hexWords : List Char → List Char → List (List Char)
  | word, [] => [word.reverse]
  | word, c :: cs => if c = ' ' then word.reverse :: hexWords [] cs else hexWords (c :: word) cs

/-- One range `A-B`, or one code point. -/
def hexRange (word : List Char) : Nat × Nat :=
  let low := hexValue (word.takeWhile (· ≠ '-'))
  match word.dropWhile (· ≠ '-') with
  | [] => (low, low)
  | _ :: high => (low, hexValue high)

/-- The set that rows of ranges write down. -/
def ofHex (rows : List String) : CharSet :=
  rows.flatMap fun row => (hexWords [] row.toList).map hexRange

end CharSet

end Patchbay
