-- The two texts of a number: the plain one that is shown to people, always
-- positional, and the one that data files hold, with powers of ten.
import Patchbay.Number.Decimal

namespace Patchbay.Number

/-! ## The texts of a decimal -/

namespace Decimal

/-- The digits with the point put in its place and zeros where digits lack. -/
def positional (d : Decimal) : List Char :=
  let digits := Nat.toDigits 10 d.digits
  let whole := digits.length + d.exponent
  if 0 ≤ d.exponent then digits ++ List.replicate d.exponent.toNat '0'
  else if 0 < whole then digits.take whole.toNat ++ '.' :: digits.drop whole.toNat
  else '0' :: '.' :: List.replicate (-whole).toNat '0' ++ digits

/-- One digit, the point and the rest, then the power of ten with its sign. -/
def scientific (d : Decimal) : List Char :=
  let digits := Nat.toDigits 10 d.digits
  let power := d.exponent + digits.length - 1
  let fraction := digits.drop 1
  digits.take 1 ++ (if fraction = [] then [] else '.' :: fraction) ++
    'e' :: (if power < 0 then '-' else '+') :: Nat.toDigits 10 power.natAbs

/-- The power of ten of the leading digit. -/
def leading (d : Decimal) : Int := d.exponent + (Nat.toDigits 10 d.digits).length - 1

end Decimal

/-! ## The texts of a double -/

/-- The text shown to people: never a power of ten, no point in a whole number, no sign on zero.
Whole numbers that are exact are written as such, all others in the fewest digits. -/
def plain (x : Float) : String :=
  match exact x with
  | .nan => "NaN"
  | .infinite negative => if negative then "-Infinity" else "Infinity"
  | .finite negative m s =>
    if fract x == 0.0 && x.abs < ofNat (2 * fractionSize) then toString (toSignedWord x)
    else
      let text := (Decimal.shortest .up m s).positional
      String.ofList (if negative then '-' :: text else text)

/-- The text in data files, none for a double that is no number: a whole number
keeps a point, and powers of ten are written from `10^16` up and below `10^-5`. -/
def dataText? (x : Float) : Option String :=
  match exact x with
  | .finite negative m s =>
    let d := Decimal.shortest .even m s
    let text :=
      if m ≠ 0 && (d.leading < -5 || 16 ≤ d.leading) then d.scientific
      else if 0 ≤ d.exponent then d.positional ++ ['.', '0']
      else d.positional
    some (String.ofList (if negative then '-' :: text else text))
  | _ => none

end Patchbay.Number
