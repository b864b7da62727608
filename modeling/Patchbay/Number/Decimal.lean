-- Decimals: a whole number of digits with a power of ten. The double that a
-- decimal stands for is the nearest one, and the shortest decimal of a
-- double is the one with the fewest digits that stands for it.
import Patchbay.Number.Double

namespace Patchbay.Number

/-- `digits * 10^exponent`. -/
structure Decimal where
  digits : Nat
  exponent : Int
  deriving DecidableEq, Repr

namespace Decimal

/-! ## From a decimal to a double -/

/-- The decimal written as digits, a point, and more digits. -/
def ofParts (whole fraction : List Char) : Decimal :=
  ⟨Nat.ofDigitChars 10 (whole ++ fraction) 0, -(fraction.length : Int)⟩

/-- The same digits, moved by a power of ten. -/
def shift (d : Decimal) (power : Int) : Decimal := ⟨d.digits, d.exponent + power⟩

/-- The low 63 bits of the nearest double. Past `10^310` that is infinity and
below `10^-330` it is zero, so no huge power is ever raised. -/
def magnitude (d : Decimal) : Nat :=
  if d.digits = 0 then 0
  else if 0 ≤ d.exponent then
    if 310 < d.exponent then infinityBits
    else nearest (d.digits * Nat.pow 10 d.exponent.toNat) 1
  else if d.exponent + (d.digits.log2 / 3 + 1 : Nat) < -330 then 0
  else nearest d.digits (Nat.pow 10 (-d.exponent).toNat)

def toFloat (d : Decimal) (negative : Bool) : Float := ofMagnitude negative d.magnitude

/-! ## From a double to a decimal -/

/-- Which of two decimals at the same distance is taken. -/
inductive Tie
  | up
  | even
  deriving DecidableEq, Repr

/-- How many digits a whole number has; zero has none. -/
def width (n : Nat) : Nat := if n = 0 then 0 else (Nat.toDigits 10 n).length

/-- The place `p` with `10^(p-1) ≤ num / den < 10^p`. -/
def place (num den : Nat) : Int :=
  if den ≤ num then width (num / den) else 1 - (width ((den - 1) / num) : Int)

/-- The decimal of at most `count` digits that stands for the double with
magnitude `bits` and value `num / den`, and of two such the nearer. No digits
at all leave the next power of ten. -/
def atPrecision? (tie : Tie) (bits num den count : Nat) : Option Decimal :=
  let exponent := place num den - count
  let num := num * Nat.pow 10 (-exponent).toNat
  let den := den * Nat.pow 10 exponent.toNat
  let below : Decimal := ⟨num / den, exponent⟩
  let above : Decimal := ⟨num / den + 1, exponent⟩
  let twice := 2 * (num % den)
  match decide (below.magnitude = bits), decide (above.magnitude = bits) with
  | true, true =>
    if twice < den then some below
    else if den < twice then some above
    else match tie with
      | .up => some above
      | .even => some (if below.digits % 2 = 0 then below else above)
  | true, false => some below
  | false, true => some above
  | false, false => none

/-- The fewest digits that stand for the double `m * 2^s` units. Seventeen
digits are always enough; the exact expansion stands behind them. -/
def shortest (tie : Tie) (m s : Nat) : Decimal :=
  let num := m * Nat.pow 2 s
  if num = 0 then ⟨0, 0⟩
  else
    let bits := s * fractionSize + m
    ((List.range 18).findSome? (atPrecision? tie bits num unitsPerOne)).getD
      ⟨num * Nat.pow 5 1074, -1074⟩

end Decimal

end Patchbay.Number
