-- Digits and a power of ten put together by the reader, which rounds the digits, the power
-- and then their product or quotient. What was written for a finite double never overflows,
-- and where digits and power are doubles themselves the result is the nearest double.
import Patchbay.Proofs.DoubleOperations
import Patchbay.Proofs.Spellings

namespace Patchbay.Number

open Json (Reader)
open Json.Reader (scale wordLimit)

variable {n k : Nat}

/-! ## Whole numbers that are doubles -/

/-- Digits that fit into 53 bits are a double, and so is a power of two of them. -/
theorem exists_isFinite {a j : Nat} (ha : 0 < a) (hfits : a < 2 ^ 53) (hj : j ≤ 22) :
    ∃ m s, IsFinite m s ∧ m * 2 ^ s = a * 2 ^ j * unitsPerOne := by
  obtain ⟨u, hu, hone⟩ := exists_unitsPerOne
  have hself : 2 ^ a.log2 ≤ a := Nat.log2_self_le (Nat.ne_of_gt ha)
  have hlog : a.log2 < 53 := (Nat.log2_lt (Nat.ne_of_gt ha)).mpr hfits
  have hsize : 2 ^ (52 - a.log2) * 2 ^ a.log2 = fractionSize := by
    rw [← Nat.pow_add, Nat.sub_add_cancel (by omega)]
    rfl
  refine ⟨a * 2 ^ (52 - a.log2), u + j + a.log2 - 52, ⟨?_, by omega, Or.inl ?_⟩, ?_⟩
  · have hlt : a < 2 * 2 ^ a.log2 := by
      rw [Nat.mul_comm, ← Nat.pow_succ]
      exact Nat.lt_log2_self
    calc a * 2 ^ (52 - a.log2)
        < 2 * 2 ^ a.log2 * 2 ^ (52 - a.log2) :=
          Nat.mul_lt_mul_of_pos_right hlt (Nat.two_pow_pos _)
      _ = 2 * fractionSize := by rw [← hsize]; ac_rfl
  · rw [← hsize, Nat.mul_comm]
    exact Nat.mul_le_mul_right _ hself
  · have hsum : 52 - a.log2 + (u + j + a.log2 - 52) = j + u := by omega
    rw [hone, Nat.mul_assoc, ← Nat.pow_add, hsum, Nat.pow_add, Nat.mul_assoc]

theorem unitsOf_nearest {a j : Nat} (hfits : a < 2 ^ 53) (hj : j ≤ 22) :
    unitsOf (nearest (a * 2 ^ j) 1) = a * 2 ^ j * unitsPerOne := by
  rcases Nat.eq_zero_or_pos a with rfl | ha
  · rw [Nat.zero_mul, nearest_zero, Nat.zero_mul]
    rfl
  · obtain ⟨m, s, h, hvalue⟩ := exists_isFinite ha hfits hj
    rw [nearest_bitsOf h Nat.one_pos (by rw [hvalue, Nat.mul_one]), unitsOf_bitsOf h, hvalue]

/-- The powers of ten that are doubles: their odd part fits into 53 bits. -/
theorem unitsOf_power (hk : k ≤ 22) : unitsOf (nearest (10 ^ k) 1) = 10 ^ k * unitsPerOne := by
  have hodd : 5 ^ k < 2 ^ 53 :=
    Nat.lt_of_le_of_lt (Nat.pow_le_pow_right (by decide) hk) (by decide)
  have hpow : 10 ^ k = 5 ^ k * 2 ^ k := Nat.mul_pow 5 2 k
  rw [hpow]
  exact unitsOf_nearest hodd hk

/-! ## Words and powers of ten -/

theorem nearest_power (hk : k ≤ 308) :
    nearest (10 ^ k) 1 < infinityBits ∧ 0 < unitsOf (nearest (10 ^ k) 1) := by
  obtain ⟨j, hj, hlargest, -⟩ := exists_largest_power
  have hone : 0 < unitsOf (nearest 1 1) := by
    have hunits := unitsOf_power (Nat.zero_le 22)
    have hpos := unitsPerOne_pos
    generalize unitsPerOne = units at hunits hpos
    rw [Nat.pow_zero, Nat.one_mul] at hunits
    rwa [hunits]
  have hpow : 10 ^ k ≤ 10 ^ j := Nat.pow_le_pow_right (by decide) (by omega)
  have hupper : nearest (10 ^ k) 1 ≤ nearest (10 ^ j) 1 :=
    nearest_mono Nat.one_pos Nat.one_pos (by omega)
  have hpos : 1 ≤ 10 ^ k := Nat.pow_pos (by decide)
  have hlower : nearest 1 1 ≤ nearest (10 ^ k) 1 :=
    nearest_mono Nat.one_pos Nat.one_pos (by omega)
  exact ⟨by omega, Nat.lt_of_lt_of_le hone (unitsOf_mono hlower)⟩

theorem nearest_word (hn : n < wordLimit) : nearest n 1 < infinityBits := by
  have hword : n ≤ 10 ^ 20 := Nat.le_of_lt (Nat.lt_trans hn (by decide))
  have hmono : nearest n 1 ≤ nearest (10 ^ 20) 1 :=
    nearest_mono Nat.one_pos Nat.one_pos (Nat.mul_le_mul_right 1 hword)
  exact Nat.lt_of_le_of_lt hmono (nearest_power (by decide)).1

/-! ## Quotients -/

/-- A negative power of ten is divided out in steps, and no step fails. -/
theorem scale_down (limit : Nat) (x : Float) {exponent : Int} (hneg : exponent < 0)
    (hlimit : -308 * (limit : Int) ≤ exponent) :
    ∃ y, ∀ cs, scale limit x exponent cs = .done y cs := by
  induction limit generalizing x exponent with
  | zero => omega
  | succ limit ih =>
    have hsign : ¬0 ≤ exponent := by omega
    unfold scale
    dsimp only
    by_cases hstep : exponent.natAbs ≤ 308
    · rw [if_pos hstep, if_neg hsign]
      exact ⟨_, fun _ => rfl⟩
    · rw [if_neg hstep, if_neg hsign]
      split_ifs
      · exact ⟨_, fun _ => rfl⟩
      · exact ih _ (by omega) (by omega)

/-- One step is the nearest double to the quotient of the rounded parts. -/
theorem scale_quotient (limit : Nat) (hn : n < wordLimit) (hpos : 0 < k) (hk : k ≤ 308)
    (cs : List Char) : scale (limit + 1) (Number.ofNat n) (-(k : Int)) cs =
      .done (ofMagnitude false
        (nearest (unitsOf (nearest n 1)) (unitsOf (nearest (10 ^ k) 1)))) cs := by
  have hpower := nearest_power hk
  have hdiv := div_ofMagnitude (nearest_word hn) hpower.1 hpower.2
  have habs : (-(k : Int)).natAbs = k := by omega
  unfold scale
  dsimp only
  rw [habs, if_pos hk, if_neg (by omega), ← hdiv]
  rfl

/-! ## Products -/

/-- The bits of a number of 64 bits and a power of ten, both rounded and multiplied. -/
def productBits (n k : Nat) : Nat :=
  nearest (unitsOf (nearest n 1) * unitsOf (nearest (10 ^ k) 1)) (unitsPerOne * unitsPerOne)

theorem unitsOf_nearest_mono {n' : Nat} (h : n ≤ n') :
    unitsOf (nearest n 1) ≤ unitsOf (nearest n' 1) :=
  unitsOf_mono (nearest_mono Nat.one_pos Nat.one_pos (by omega))

theorem productBits_mono {n' k' : Nat} (hn : n ≤ n') (hk : k ≤ k') :
    productBits n k ≤ productBits n' k' := by
  have hpos : 0 < unitsPerOne * unitsPerOne := Nat.mul_pos unitsPerOne_pos unitsPerOne_pos
  have hpow : 10 ^ k ≤ 10 ^ k' := Nat.pow_le_pow_right (by decide) hk
  have hproduct := Nat.mul_le_mul (unitsOf_nearest_mono hn) (unitsOf_nearest_mono hpow)
  exact nearest_mono hpos hpos (Nat.mul_le_mul_right _ hproduct)

theorem scale_product (limit : Nat) (hn : n < wordLimit) (hk : k ≤ 308)
    (hfits : productBits n k < infinityBits) (cs : List Char) :
    scale (limit + 1) (Number.ofNat n) k cs = .done (ofMagnitude false (productBits n k)) cs := by
  have hmul : Number.ofNat n * Number.ofNat (Nat.pow 10 k) = ofMagnitude false (productBits n k) :=
    mul_ofMagnitude (nearest_word hn) (nearest_power hk).1
  unfold scale
  dsimp only
  rw [Int.natAbs_natCast, if_pos hk, if_pos (Int.natCast_nonneg k), hmul,
    isInf_ofMagnitude hfits]
  rfl

/-- The middle between the two largest doubles. -/
def topMiddle : Nat := 2 ^ 970 * (2 ^ 54 - 3)

/-- What there is to compute at the upper end: the middle is the last number that is not nearest
to the largest double; powers up to `10^288` leave room for any 64 bits, and each of the others
for digits up to the middle; and so does the spelling of the largest double. -/
theorem top_computed :
    nearest (topMiddle + 1) 1 = infinityBits - 1 ∧
      productBits (wordLimit - 1) 288 < infinityBits ∧
      (∀ j < 20, productBits (topMiddle / 10 ^ (289 + j)) (289 + j) < infinityBits) ∧
      productBits (dataSpelling (2 * fractionSize - 1) 2045).taken.1
        (dataSpelling (2 * fractionSize - 1) 2045).exponent.toNat < infinityBits := by
  decide +kernel

/-- What is nearer to another double than to the largest one is not above the middle. -/
theorem le_topMiddle (h : nearest n 1 < infinityBits - 1) : n ≤ topMiddle := by
  have hpast := top_computed.1
  by_contra hlt
  have hmono : nearest (topMiddle + 1) 1 ≤ nearest n 1 :=
    nearest_mono Nat.one_pos Nat.one_pos (by omega)
  omega

/-- Up to the middle, three roundings together do not reach infinity. -/
theorem productBits_lt (hn : n < wordLimit) (hk : k ≤ 308) (h : n * 10 ^ k ≤ topMiddle) :
    productBits n k < infinityBits := by
  obtain ⟨-, hlargest, htable, -⟩ := top_computed
  by_cases hroom : k ≤ 288
  · exact Nat.lt_of_le_of_lt (productBits_mono (by omega) hroom) hlargest
  · have hquot : n ≤ topMiddle / 10 ^ k := (Nat.le_div_iff_mul_le (Nat.pow_pos (by decide))).mpr h
    have hfits := htable (k - 289) (by omega)
    rw [Nat.add_sub_cancel' (by omega)] at hfits
    exact Nat.lt_of_le_of_lt (productBits_mono hquot (Nat.le_refl k)) hfits

/-! ## What was written for a double -/

variable {m s : Nat}

/-- A whole number that is not above a decimal is not nearer to a larger double. -/
theorem nearest_le_magnitude {d : Decimal}
    (h : n * 10 ^ (-d.exponent).toNat ≤ d.digits * 10 ^ d.exponent.toNat) :
    nearest n 1 ≤ d.magnitude := by
  rw [Decimal.magnitude_eq_rounded]
  exact nearest_mono Nat.one_pos (Nat.pow_pos (by decide)) (by rwa [Nat.mul_one])

/-- The digits that are taken with their power of ten are not above the number. -/
theorem taken_pow_le {x : Json.Spelling} (hx : x.Valid) (h : 0 ≤ x.exponent) :
    x.taken.1 * 10 ^ x.exponent.toNat * 10 ^ (-x.decimal.exponent).toNat ≤
      x.decimal.digits * 10 ^ x.decimal.exponent.toNat := by
  have hexponent := hx.taken_bounds.2.2.2
  have hsum : x.exponent.toNat + (-x.decimal.exponent).toNat =
      (x.exponent - x.decimal.exponent).toNat + x.decimal.exponent.toNat := by omega
  rw [Nat.mul_assoc, ← Nat.pow_add, hsum, Nat.pow_add, ← Nat.mul_assoc]
  exact Nat.mul_le_mul_right _ x.taken_le

/-- The spelling of the largest double, which is above the middle. -/
theorem largest_fits (h : IsFinite m s) (hbits : bitsOf m s = infinityBits - 1) :
    productBits (dataSpelling m s).taken.1 (dataSpelling m s).exponent.toNat < infinityBits := by
  have hlt := h.lt
  have hs := h.scale_lt
  have hsame : m = 2 * fractionSize - 1 ∧ s = 2045 := by
    unfold bitsOf infinityBits at hbits
    unfold fractionSize at *
    omega
  rw [hsame.1, hsame.2]
  exact top_computed.2.2.2

theorem dataSpelling_fits (h : IsFinite m s) (hexponent : 0 ≤ (dataSpelling m s).exponent) :
    productBits (dataSpelling m s).taken.1 (dataSpelling m s).exponent.toNat < infinityBits := by
  have hvalid := dataSpelling_valid h
  have hmagnitude := magnitude_dataSpelling h
  obtain ⟨htaken, -, hpower, -⟩ := hvalid.taken_bounds
  have hupper := (dataSpelling_power h).1
  have hfinite := h.bits_lt
  by_cases hlargest : bitsOf m s = infinityBits - 1
  · exact largest_fits h hlargest
  have hnearest := nearest_le_magnitude (taken_pow_le hvalid hexponent)
  exact productBits_lt htaken (by omega) (le_topMiddle (by omega))

/-- The digits and the power of ten that are read of a finite double make a double. -/
theorem scale_dataSpelling (h : IsFinite m s) : ∃ y, ∀ cs,
    scale 8 (Number.ofNat (dataSpelling m s).taken.1) (dataSpelling m s).exponent cs =
      .done y cs := by
  have hvalid := dataSpelling_valid h
  obtain ⟨htaken, -, hpower, hlower⟩ := hvalid.taken_bounds
  obtain ⟨hupper, hlast⟩ := dataSpelling_power h
  by_cases hneg : (dataSpelling m s).exponent < 0
  · exact scale_down 8 _ hneg (by omega)
  · have hfits := dataSpelling_fits h (by omega)
    have hproduct := scale_product 7 htaken (by omega) hfits
    rw [Int.toNat_of_nonneg (by omega)] at hproduct
    exact ⟨_, hproduct⟩

/-! ## Digits and powers that are doubles -/

/-- A decimal whose digits and whose power of ten are doubles. -/
structure Decimal.IsShort (d : Decimal) : Prop where
  digits : d.digits < 2 ^ 53
  exponent : d.exponent.natAbs ≤ 22

instance (d : Decimal) : Decidable d.IsShort :=
  decidable_of_iff (d.digits < 2 ^ 53 ∧ d.exponent.natAbs ≤ 22)
    ⟨fun h => ⟨h.1, h.2⟩, fun h => ⟨h.1, h.2⟩⟩

theorem magnitude_whole_short (hk : k ≤ 310) :
    (⟨n, k⟩ : Decimal).magnitude = nearest (n * 10 ^ k) 1 := by
  by_cases hzero : n = 0
  · rw [hzero, Decimal.magnitude_zero, Nat.zero_mul, nearest_zero]
  · exact Decimal.magnitude_large hzero (Int.natCast_nonneg k) (by omega)

theorem magnitude_fraction_short (hpos : 0 < k) (hk : k ≤ 330) :
    (⟨n, -(k : Int)⟩ : Decimal).magnitude = nearest n (10 ^ k) := by
  by_cases hzero : n = 0
  · rw [hzero, Decimal.magnitude_zero, nearest_zero]
  · exact Decimal.magnitude_fraction hzero hpos (by omega)

/-- Of the three roundings only the last one changes a short decimal. -/
theorem scale_short {d : Decimal} (hd : d.IsShort) (cs : List Char) :
    scale 8 (Number.ofNat d.digits) d.exponent cs =
      .done (ofMagnitude false d.magnitude) cs := by
  obtain ⟨n, exponent⟩ := d
  obtain ⟨hn, hk⟩ := hd
  simp only at hn hk ⊢
  have hword : n < wordLimit := Nat.lt_trans hn (by decide)
  have hunits : unitsOf (nearest n 1) = n * unitsPerOne := by
    have hwhole := unitsOf_nearest hn (Nat.zero_le 22)
    rwa [Nat.pow_zero, Nat.mul_one] at hwhole
  have hpower := unitsOf_power hk
  by_cases hwhole : 0 ≤ exponent
  · obtain ⟨k, rfl⟩ := Int.eq_ofNat_of_zero_le hwhole
    have hbits : productBits n k = nearest (n * 10 ^ k) 1 := by
      unfold productBits
      rw [hunits, unitsOf_power (by omega)]
      refine nearest_congr (Nat.mul_pos unitsPerOne_pos unitsPerOne_pos) Nat.one_pos ?_
      generalize unitsPerOne = units
      ring
    have hsmall : n * 10 ^ k ≤ topMiddle := by
      have hpow : 10 ^ k ≤ 10 ^ 22 := Nat.pow_le_pow_right (by decide) (by omega)
      have htop : 2 ^ 53 * 10 ^ 22 ≤ topMiddle := by
        unfold topMiddle
        generalize hj : 970 = j
        calc 2 ^ 53 * 10 ^ 22
            ≤ 2 ^ 200 * (2 ^ 54 - 3) := by decide
          _ ≤ 2 ^ j * (2 ^ 54 - 3) :=
              Nat.mul_le_mul_right _ (Nat.pow_le_pow_right (by decide) (by omega))
      exact Nat.le_trans (Nat.mul_le_mul (Nat.le_of_lt hn) hpow) htop
    have hproduct := scale_product 7 hword (by omega) (productBits_lt hword (by omega) hsmall) cs
    rw [hproduct, hbits, magnitude_whole_short (by omega)]
  · obtain ⟨k, rfl⟩ : ∃ k : Nat, exponent = -(k : Int) := ⟨exponent.natAbs, by omega⟩
    have hbits : nearest (n * unitsPerOne) (10 ^ k * unitsPerOne) = nearest n (10 ^ k) := by
      refine nearest_congr (Nat.mul_pos (Nat.pow_pos (by decide)) unitsPerOne_pos)
        (Nat.pow_pos (by decide)) ?_
      generalize unitsPerOne = units
      ring
    have hquotient := scale_quotient 7 hword (show 0 < k by omega) (by omega) cs
    rw [hquotient, hunits, unitsOf_power (by omega), hbits,
      magnitude_fraction_short (by omega) (by omega)]

end Patchbay.Number
