-- Doubles seen exactly. A finite double is a whole number of units of
-- 2^-1074, so its sign, its significand and its scale are natural
-- numbers, and each question about it is a question about those.
namespace Patchbay.Number

/-! ## The exact view -/

/-- What a double stands for. `finite n m s` is `m * 2^s` units of
`2^-1074`, below zero when `n` holds. -/
inductive Exact
  | nan
  | infinite (negative : Bool)
  | finite (negative : Bool) (significand scale : Nat)
  deriving DecidableEq, Repr

/-- How many units make one. -/
def unitsPerOne : Nat := Nat.pow 2 1074

/-- How many fractions there are: the lowest bit of the exponent. -/
def fractionSize : Nat := 0x10000000000000

/-- The sign bit: every magnitude is below it. -/
def signBit : Nat := 0x8000000000000000

/-- The bits of infinity: every magnitude from here on is no number. -/
def infinityBits : Nat := 2047 * fractionSize

/-- The exact view of the low 63 bits of a double, with its sign. -/
def Exact.ofMagnitude (negative : Bool) (bits : Nat) : Exact :=
  let exponent := bits / fractionSize
  let fraction := bits % fractionSize
  if exponent = 2047 then
    if fraction = 0 then .infinite negative else .nan
  else if exponent = 0 then .finite negative fraction 0
  else .finite negative (fractionSize + fraction) (exponent - 1)

/-- The low 63 bits of a double. -/
def magnitude (x : Float) : Nat := x.toBits.toNat % signBit

/-- Whether the sign bit is set, as it is for `-0`. -/
def isNegative (x : Float) : Bool := signBit ≤ x.toBits.toNat

def exact (x : Float) : Exact := .ofMagnitude (isNegative x) (magnitude x)

/-- The double with this sign and these low 63 bits. -/
def ofMagnitude (negative : Bool) (bits : Nat) : Float :=
  .ofBits (UInt64.ofNat (if negative then signBit + bits else bits))

/-! ## Rounding -/

/-- The whole number nearest to `num / den`; a half goes to the even neighbour. -/
def roundEven (num den : Nat) : Nat :=
  let whole := num / den
  let twice := 2 * (num % den)
  if twice < den then whole
  else if den < twice then whole + 1
  else whole + whole % 2

/-- The low 63 bits of the double nearest to `num / den`, with ties to the
even significand. A significand that rounds up to the next power of two
carries into the exponent field, so one sum serves both fields. -/
def nearest (num den : Nat) : Nat :=
  let units := num * unitsPerOne
  let scale := (units / den).log2 - 52
  min (scale * fractionSize + roundEven units (den * Nat.pow 2 scale)) infinityBits

/-- The double nearest to a whole number. -/
def ofNat (n : Nat) : Float := ofMagnitude false (nearest n 1)

/-! ## Whole parts -/

/-- The whole part, with the sign of the double. What is not finite has no other. -/
def trunc (x : Float) : Float :=
  match exact x with
  | .finite negative m s => ofMagnitude negative (nearest (m * Nat.pow 2 s / unitsPerOne) 1)
  | _ => x

/-- What stands after the point. -/
def fract (x : Float) : Float := x - trunc x

/-- The whole part in 64 bits. Below zero there is only zero, a double past the last number of
64 bits becomes that number, and what is no number becomes zero. -/
def toWord (x : Float) : Nat := x.toUInt64.toNat

/-- The whole part in 64 bits with a sign, which again stops at the first and at the last. -/
def toSignedWord (x : Float) : Int :=
  if x < 0.0 then -(min (toWord (-x)) signBit : Nat) else (min (toWord x) (signBit - 1) : Nat)

/-- The lesser of two doubles. When one is no number it is the other one. -/
def lesser (x y : Float) : Float := if x.isNaN then y else if y < x then y else x

/-- The greater of two doubles. When one is no number it is the other one. -/
def greater (x y : Float) : Float := if x.isNaN then y else if x < y then y else x

/-! ## Counts and indices -/

/-- How many of `len` things a count takes: cut toward zero, a count below zero leaves that
many out, and the answer stays within `0` and `len`. All of it is done with doubles. -/
def sliceBound (count : Float) (len : Nat) : Nat :=
  if count.isNaN then 0
  else
    let whole := trunc count
    if whole < 0.0 then toWord (greater (ofNat len + whole) 0.0)
    else toWord (lesser whole (ofNat len))

/-- Whether a double is the index of one of `len` things. -/
def isIndex (index : Float) (len : Nat) : Bool :=
  0.0 ≤ index && fract index == 0.0 && index < ofNat len

/-! ## Remainder -/

/-- The remainder of a division that rounds its quotient toward zero. It has
the sign of `x` and is exact. -/
def remainder (x y : Float) : Float :=
  match exact x, exact y with
  | .nan, _ | _, .nan | .infinite _, _ => 0.0 / 0.0
  | .finite .., .infinite _ => x
  | .finite negative m s, .finite _ m' s' =>
    if m' = 0 then 0.0 / 0.0
    else ofMagnitude negative (nearest ((m * Nat.pow 2 s) % (m' * Nat.pow 2 s')) unitsPerOne)

end Patchbay.Number
