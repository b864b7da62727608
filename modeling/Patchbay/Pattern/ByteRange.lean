-- Ranges of code points as rows of byte ranges: the characters of a range are
-- those that take one byte of each range of one of its rows.
import Patchbay.Pattern.CharSet

namespace Patchbay.Pattern

structure ByteRange where
  low : UInt8
  high : UInt8
  deriving DecidableEq, Repr

namespace ByteRange

/-! ## Cuts -/

/-- Cuts a range before a block of `size` that it does not start with, or before
one that it ends in the middle of. A cut is where the first part ends and where
the second one starts. -/
def cutAtBlock? (low high size : Nat) : Option (Nat × Nat) :=
  if low / size = high / size then none
  else if low % size ≠ 0 then some (low - low % size + size - 1, low - low % size + size)
  else if high % size ≠ size - 1 then some (high - high % size - 1, high - high % size)
  else none

/-- Cuts a range where its characters begin to take more bytes. -/
def cutAtLength? (low high last : Nat) : Option (Nat × Nat) :=
  if low ≤ last && last < high then some (last, last + 1) else none

/-- The first place where a range must be cut: at the surrogates, where the
number of bytes changes, and between blocks of the last bytes. -/
def cut? (low high : Nat) : Option (Nat × Nat) :=
  if low < 0xE000 && 0xD7FF < high then some (0xD7FF, 0xE000)
  else match [0x7F, 0x7FF, 0xFFFF].findSome? (cutAtLength? low high) with
    | some cut => some cut
    | none =>
      if high ≤ 0x7F then none
      else [0x40, 0x1000, 0x40000].findSome? (cutAtBlock? low high)

/-! ## Rows -/

/-- The bytes of a code point. -/
def bytesOf (n : Nat) : List UInt8 := String.utf8EncodeChar (Char.ofNat n)

/-- The rows of a range of code points, in their order. -/
def rows (low high : Nat) : List (List ByteRange) :=
  match cut? low high with
  | none => [(bytesOf low).zipWith ByteRange.mk (bytesOf high)]
  | some (last, next) =>
    if last < high ∧ low < next then
      (if low ≤ last then rows low last else []) ++ (if next ≤ high then rows next high else [])
    else []
termination_by high - low

/-- The rows of a set. -/
def rowsOf (s : CharSet) : List (List ByteRange) := s.flatMap fun (low, high) => rows low high

end ByteRange

end Patchbay.Pattern
