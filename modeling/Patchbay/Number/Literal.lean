-- Numbers at the front of a text. A decimal is digits with an optional
-- fraction, or a fraction alone, and may end in a power of ten; the
-- longest one at the front counts and the text after it does not.
import Patchbay.Number.Decimal
import Patchbay.Text.Blank

namespace Patchbay.Number

/-! ## Decimals -/

/-- The digits at the front, and the text after them. -/
def splitDigits (cs : List Char) : List Char × List Char :=
  (cs.takeWhile Char.isDigit, cs.dropWhile Char.isDigit)

/-- A sign at the front: whether it is a minus, and the text after it. -/
def splitSign : List Char → Bool × List Char
  | '-' :: cs => (true, cs)
  | '+' :: cs => (false, cs)
  | cs => (false, cs)

/-- Digits with at most one point: the digits before and after the point, and
the text after them. A second point ends the number. -/
def splitPointed (cs : List Char) : List Char × List Char × List Char :=
  match splitDigits cs with
  | (whole, '.' :: rest) => (whole, splitDigits rest)
  | (whole, rest) => (whole, [], rest)

/-- The size of a power of ten. Once it has reached 65536, more digits do not
count. -/
def exponent (digits : List Char) : Nat :=
  digits.foldl (fun n d => if n < 0x10000 then n * 10 + (d.toNat - 48) else n) 0

/-- The power of ten after the digits, when it is complete. -/
def power? : List Char → Option (Int × List Char)
  | [] => none
  | e :: cs =>
    if e = 'e' || e = 'E' then
      let (negative, cs) := splitSign cs
      match splitDigits cs with
      | ([], _) => none
      | (digits, rest) =>
        let n : Int := exponent digits
        some (if negative then -n else n, rest)
    else none

/-- The longest unsigned decimal at the front. -/
def decimal? (cs : List Char) : Option (Decimal × List Char) :=
  match splitPointed cs with
  | ([], [], _) => none
  | (whole, fraction, rest) =>
    let d := Decimal.ofParts whole fraction
    match power? rest with
    | some (power, rest) => some (d.shift power, rest)
    | none => some (d, rest)

/-! ## Numeric prefixes -/

/-- The text after the word at the front, when the word is there. -/
def afterWord? : List Char → List Char → Option (List Char)
  | [], cs => some cs
  | _ :: _, [] => none
  | w :: word, c :: cs => if w = c then afterWord? word cs else none

/-- The longest number at the front, after a sign: `Infinity` or a decimal. -/
def signed? (cs : List Char) : Option Float :=
  let (negative, cs) := splitSign cs
  match afterWord? "Infinity".toList cs with
  | some _ => some (ofMagnitude negative infinityBits)
  | none => (decimal? cs).map fun (d, _) => d.toFloat negative

/-- The number that a text starts with, leading blanks aside. -/
def leading? (text : String) : Option Float :=
  signed? (text.toList.dropWhile Text.isBlank)

end Patchbay.Number
