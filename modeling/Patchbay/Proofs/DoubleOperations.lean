-- Products and quotients of doubles. Each is the exact one, rounded once to the nearest
-- double, as long as the doubles are finite and not below zero.
import Patchbay.Proofs.Rounding

namespace Patchbay.Number

open Float.Model Float.Model.UnpackedFloat

variable {num den m s : Nat}

/-! ## What an extended mantissa stands for -/

/-- A mantissa with its two further bits stands for a quotient: they compare the rest of the
division with one half. -/
structure Stands (em : ExtendedMantissa) (num den : Nat) : Prop where
  mantissa : em.mantissa = num / den
  roundBit : em.roundBit = decide (den ≤ 2 * (num % den))
  stickyBit : em.stickyBit = decide (¬(num % den = 0 ∨ 2 * (num % den) = den))

namespace Stands

variable {em : ExtendedMantissa}

/-- A whole number stands for itself. -/
theorem exact (m : Nat) : Stands (.ofMantissaAndAccuracy m .exact) m 1 := by
  refine ⟨(Nat.div_one m).symm, ?_, ?_⟩
  · simp [ExtendedMantissa.ofMantissaAndAccuracy, Nat.mod_one]
  · simp [ExtendedMantissa.ofMantissaAndAccuracy, Nat.mod_one]

/-- The whole part of a quotient stands for it, with what is known of the rest. -/
theorem fraction (num : Nat) (hden : 0 < den) :
    Stands (.ofMantissaAndAccuracy (num / den) (accuracyOfFraction (num % den) den)) num den := by
  unfold accuracyOfFraction
  split_ifs with hzero
  · refine ⟨rfl, ?_, ?_⟩
    · simp [ExtendedMantissa.ofMantissaAndAccuracy, hzero, Nat.ne_of_gt hden]
    · simp [ExtendedMantissa.ofMantissaAndAccuracy, hzero]
  · rcases Nat.lt_trichotomy (2 * (num % den)) den with hlt | heq | hgt
    · rw [Nat.compare_eq_lt.mpr hlt]
      refine ⟨rfl, ?_, ?_⟩
      · simp [ExtendedMantissa.ofMantissaAndAccuracy, hlt]
      · simp [ExtendedMantissa.ofMantissaAndAccuracy, hzero, Nat.ne_of_lt hlt]
    · rw [Nat.compare_eq_eq.mpr heq]
      refine ⟨rfl, ?_, ?_⟩
      · simp [ExtendedMantissa.ofMantissaAndAccuracy, heq]
      · simp [ExtendedMantissa.ofMantissaAndAccuracy, heq]
    · rw [Nat.compare_eq_gt.mpr hgt]
      refine ⟨rfl, ?_, ?_⟩
      · simp [ExtendedMantissa.ofMantissaAndAccuracy, Nat.le_of_lt hgt]
      · simp [ExtendedMantissa.ofMantissaAndAccuracy, hzero, Nat.ne_of_gt hgt]

theorem shiftRightOne (h : Stands em num den) (hden : 0 < den) :
    Stands em.shiftRightOne num (den * 2) := by
  have hmod : num % (den * 2) = num % den + den * (num / den % 2) := Nat.mod_mul
  have hlt : num % den < den := Nat.mod_lt num hden
  obtain ⟨hmantissa, hround, hsticky⟩ := h
  refine ⟨?_, ?_, ?_⟩
  · rw [← Nat.div_div_eq_div_mul, ← hmantissa]
    rfl
  · unfold ExtendedMantissa.shiftRightOne
    rw [hmantissa, hmod]
    rcases Nat.mod_two_eq_zero_or_one (num / den) with hbit | hbit
    · rw [hbit, Nat.mul_zero, Nat.add_zero, eq_comm]
      exact decide_eq_false (by omega)
    · rw [hbit, Nat.mul_one, eq_comm]
      exact decide_eq_true (by omega)
  · unfold ExtendedMantissa.shiftRightOne
    rw [hround, hsticky, hmod, ← Bool.decide_or]
    rcases Nat.mod_two_eq_zero_or_one (num / den) with hbit | hbit
    · rw [hbit, Nat.mul_zero, Nat.add_zero, decide_eq_decide]
      omega
    · rw [hbit, Nat.mul_one, decide_eq_decide]
      omega

/-- Each shift to the right takes another half. -/
theorem shiftRight (h : Stands em num den) (hden : 0 < den) (k : Nat) :
    Stands (em >>> k) num (den * 2 ^ k) := by
  induction k with
  | zero => exact (Nat.mul_one den).symm ▸ h
  | succ k ih =>
    have hstep := ih.shiftRightOne (Nat.mul_pos hden (Nat.two_pow_pos k))
    rw [Nat.mul_assoc, ← Nat.pow_succ] at hstep
    exact hstep

/-- The two bits are enough to round the quotient. -/
theorem roundedMantissa (h : Stands em num den) : em.roundedMantissa = roundEven num den := by
  obtain ⟨mantissa, roundBit, stickyBit⟩ := em
  obtain ⟨hmantissa, hround, hsticky⟩ := h
  simp only at hmantissa hround hsticky
  subst hmantissa hround hsticky
  unfold ExtendedMantissa.roundedMantissa roundEven
  dsimp only
  rcases Nat.lt_trichotomy (2 * (num % den)) den with hlt | heq | hgt
  · have hround : decide (den ≤ 2 * (num % den)) = false := decide_eq_false (by omega)
    rw [hround, if_pos hlt]
    cases decide (¬(num % den = 0 ∨ 2 * (num % den) = den)) <;> rfl
  · have hround : decide (den ≤ 2 * (num % den)) = true := decide_eq_true (by omega)
    have hsticky : decide (¬(num % den = 0 ∨ 2 * (num % den) = den)) = false :=
      decide_eq_false (not_not.mpr (Or.inr heq))
    rw [hround, hsticky, if_neg (by omega), if_neg (by omega)]
    rfl
  · have hround : decide (den ≤ 2 * (num % den)) = true := decide_eq_true (by omega)
    have hsticky : decide (¬(num % den = 0 ∨ 2 * (num % den) = den)) = true :=
      decide_eq_true (by omega)
    rw [hround, hsticky, if_neg (by omega), if_pos hgt]
    rfl

end Stands

/-! ## The fields of a double -/

theorem toNat_unpackExponent (b : BitVec Format.binary64.numBits) :
    (unpackExponent b).toNat = b.toNat / fractionSize % 2048 := by
  simp [unpackExponent, BitVec.extractLsb_toNat, Nat.shiftRight_eq_div_pow, fractionSize]

theorem toNat_unpackMantissa (b : BitVec Format.binary64.numBits) :
    (unpackMantissa b).toNat = b.toNat % fractionSize := by
  simp [unpackMantissa, BitVec.extractLsb_toNat, fractionSize]

theorem toNat_unpackSign (b : BitVec Format.binary64.numBits) :
    (unpackSign b).toNat = b.toNat / signBit % 2 := by
  simp [unpackSign, BitVec.extractLsb_toNat, Nat.shiftRight_eq_div_pow, signBit]

def signOf (negative : Bool) : Sign := if negative then .negative else .positive

/-- The bits of a finite double, with its sign. -/
def signedBits (negative : Bool) (bits : Nat) : BitVec Format.binary64.numBits :=
  .ofNat _ (if negative then signBit + bits else bits)

theorem toNat_signedBits (negative : Bool) {bits : Nat} (h : bits < infinityBits) :
    (signedBits negative bits).toNat = if negative then signBit + bits else bits := by
  unfold signedBits
  rw [BitVec.toNat_ofNat]
  refine Nat.mod_eq_of_lt ?_
  change _ < 0x10000000000000000
  unfold infinityBits fractionSize at h
  unfold signBit
  split_ifs <;> omega

theorem ofBitVec_unpackSign (negative : Bool) {bits : Nat} (h : bits < infinityBits) :
    Sign.ofBitVec (unpackSign (signedBits negative bits)) = signOf negative := by
  have hsign := toNat_unpackSign (signedBits negative bits)
  rw [toNat_signedBits negative h] at hsign
  have hbit : unpackSign (signedBits negative bits) = if negative then 1#1 else 0#1 := by
    refine BitVec.eq_of_toNat_eq (hsign.trans ?_)
    unfold infinityBits fractionSize at h
    unfold signBit
    cases negative
    · simp
      omega
    · simp
      omega
  rw [hbit]
  cases negative <;> rfl

/-- The fields of the bits of a finite double are its scale and its significand. -/
theorem fields_signedBits (negative : Bool) {bits : Nat} (h : bits < infinityBits) :
    (unpackExponent (signedBits negative bits)).toNat = bits / fractionSize ∧
      (unpackMantissa (signedBits negative bits)).toNat = bits % fractionSize := by
  rw [toNat_unpackExponent, toNat_unpackMantissa, toNat_signedBits negative h]
  unfold infinityBits at h
  unfold signBit
  unfold fractionSize at *
  split_ifs <;> omega

/-- The leading bit of a normal double is implied. -/
theorem unpack_normal {b : BitVec Format.binary64.numBits}
    (hexponent : (unpackExponent b).toNat = s + 1) (hs : s < 2046)
    (hmantissa : fractionSize + (unpackMantissa b).toNat = m) (hm : 0 < m) :
    UnpackedFloat.unpack .binary64 b =
      .finite (Sign.ofBitVec (unpackSign b)) m (s - 1074) hm := by
  have hfinite : ¬unpackExponent b = -1#_ := by
    intro hall
    rw [hall] at hexponent
    change 2047 = _ at hexponent
    omega
  have hnonzero : ¬unpackExponent b = 0#_ := by
    intro hzero
    rw [hzero] at hexponent
    cases hexponent
  have hjoined : (1#1 ++ unpackMantissa b).toNat = m := by
    rw [BitVec.toNat_append, ← Nat.shiftLeft_add_eq_or_of_lt (unpackMantissa b).isLt]
    exact hmantissa
  unfold UnpackedFloat.unpack
  dsimp only
  rw [if_neg hfinite, if_neg hnonzero]
  simp only [hjoined, hexponent]
  congr 1
  change ((s + 1 : Nat) : Int) - ((1023 : Nat) + (52 : Nat)) = s - 1074
  omega

/-- A subnormal double has no bit implied, and zero is one of them. -/
theorem unpack_subnormal {b : BitVec Format.binary64.numBits}
    (hexponent : unpackExponent b = 0#_) (hmantissa : (unpackMantissa b).toNat = m) :
    UnpackedFloat.unpack .binary64 b =
      if hm : m = 0 then .zero (Sign.ofBitVec (unpackSign b))
      else .finite (Sign.ofBitVec (unpackSign b)) m (-1074) (Nat.pos_of_ne_zero hm) := by
  unfold UnpackedFloat.unpack
  dsimp only
  rw [if_neg (by rw [hexponent]; decide), if_pos hexponent]
  by_cases hm : m = 0
  · have hnone : unpackMantissa b = 0#_ := BitVec.eq_of_toNat_eq (hmantissa.trans hm)
    rw [dif_pos hnone, dif_pos hm]
  · have hsome : ¬unpackMantissa b = 0#_ := by
      intro hnone
      rw [hnone] at hmantissa
      exact hm hmantissa.symm
    rw [dif_neg hsome, dif_neg hm]
    simp only [hmantissa, hexponent]
    rfl

theorem unpack_signedBits (negative : Bool) (h : IsFinite m s) :
    UnpackedFloat.unpack .binary64 (signedBits negative (bitsOf m s)) =
      if hm : m = 0 then .zero (signOf negative)
      else .finite (signOf negative) m (s - 1074) (Nat.pos_of_ne_zero hm) := by
  have hlt := h.lt
  obtain ⟨hexponent, hmantissa⟩ := fields_signedBits negative h.bits_lt
  rw [← ofBitVec_unpackSign negative h.bits_lt]
  unfold bitsOf at hexponent hmantissa
  by_cases hnormal : fractionSize ≤ m
  · have hpos : 0 < m := Nat.lt_of_lt_of_le (by decide) hnormal
    rw [dif_neg (Nat.ne_of_gt hpos)]
    unfold fractionSize at *
    refine unpack_normal ?_ h.scale_lt ?_ hpos
    · exact hexponent.trans (by omega)
    · unfold fractionSize
      exact (congrArg (_ + ·) hmantissa).trans (by omega)
  · have hzero : s = 0 := h.normal.resolve_left hnormal
    subst hzero
    refine unpack_subnormal (BitVec.eq_of_toNat_eq (hexponent.trans ?_)) (hmantissa.trans ?_)
    · change _ = 0
      unfold fractionSize at *
      omega
    · unfold fractionSize at *
      omega

theorem pack_finite (negative : Bool) (h : IsFinite m s) :
    UnpackedFloat.pack .binary64 (if hm : m = 0 then .zero (signOf negative)
      else .finite (signOf negative) m (s - 1074) (Nat.pos_of_ne_zero hm)) =
        signedBits negative (bitsOf m s) := by
  rw [← unpack_signedBits negative h]
  refine pack_unpack ⟨fun hall _ => ?_⟩
  have hbits := h.bits_lt
  have hexponent := (fields_signedBits negative hbits).1
  rw [hall] at hexponent
  change 2047 = _ at hexponent
  unfold infinityBits fractionSize at *
  omega

/-- A finite double is packed into its bits. -/
theorem toNat_pack (h : IsFinite m s) (hm : 0 < m) :
    (UnpackedFloat.pack .binary64 (.finite .positive m (s - 1074) hm)).toNat = bitsOf m s := by
  have hpack := pack_finite false h
  rw [dif_neg (Nat.ne_of_gt hm)] at hpack
  exact (congrArg BitVec.toNat hpack).trans (toNat_signedBits false h.bits_lt)

/-- A double whose scale may be too large is packed into its bits, or into infinity. -/
theorem toNat_pack_min (hlt : m < 2 * fractionSize) (hnormal : fractionSize ≤ m ∨ s = 0)
    (hm : 0 < m) : (UnpackedFloat.pack .binary64 (.finite .positive m (s - 1074) hm)).toNat =
      min (bitsOf m s) infinityBits := by
  by_cases hs : s < 2046
  · have hfinite : IsFinite m s := ⟨hlt, hs, hnormal⟩
    rw [toNat_pack hfinite hm, Nat.min_eq_left (Nat.le_of_lt hfinite.bits_lt)]
  · have hbiased : ((s : Int) - 1074 + Format.binary64.exponentBias +
        Format.binary64.mantissaBitsWithoutImplicit).toNat = s + 1 := by
      change ((s : Int) - 1074 + (1023 : Nat) + (52 : Nat)).toNat = s + 1
      omega
    have hlarge : 2 ^ Format.binary64.exponentBits ≤ s + 1 + 1 := by
      change 2048 ≤ s + 1 + 1
      omega
    have hinfinity : infinityBits ≤ bitsOf m s := by
      unfold infinityBits bitsOf
      unfold fractionSize at *
      omega
    unfold UnpackedFloat.pack
    dsimp only
    rw [hbiased, if_pos hlarge, Nat.min_eq_right hinfinity]
    decide

/-! ## Rounding -/

theorem targetExponent_eq (total : Int) :
    Format.binary64.targetExponent total = max (total - 53) (-1074) := rfl

/-- A mantissa that fits stays as it is. -/
theorem shift_fits (hm : m < 2 * fractionSize) (s : Nat) :
    shiftToTargetExponent .binary64 m (s - 1074) .exact =
      (⟨m, false, false⟩, (s : Int) - 1074) := by
  have hlog : m.log2 ≤ 52 := by
    by_cases hzero : m = 0
    · subst hzero
      decide
    · exact Nat.le_of_lt_succ ((Nat.log2_lt hzero).mpr hm)
  have hshift : (Format.binary64.targetExponent (totalExponent m (s - 1074)) -
      ((s : Int) - 1074)).toNat = 0 := by
    rw [targetExponent_eq]
    unfold totalExponent
    omega
  unfold shiftToTargetExponent shiftToExponent
  dsimp only
  rw [hshift]
  simp [ExtendedMantissa.ofMantissaAndAccuracy, HShiftRight.hShiftRight, Nat.repeat]

/-- A mantissa that was rounded up to the next power of two loses its last bit. -/
theorem shift_carry (s : Nat) :
    shiftToTargetExponent .binary64 (2 * fractionSize) (s - 1074) .exact =
      (⟨fractionSize, false, false⟩, ((s + 1 : Nat) : Int) - 1074) := by
  have hlog : (2 * fractionSize).log2 = 53 := by decide
  have hshift : (Format.binary64.targetExponent (totalExponent (2 * fractionSize) (s - 1074)) -
      ((s : Int) - 1074)).toNat = 1 := by
    rw [targetExponent_eq]
    unfold totalExponent
    rw [hlog]
    omega
  unfold shiftToTargetExponent shiftToExponent
  dsimp only
  rw [hshift]
  refine Prod.ext rfl ?_
  dsimp only
  omega

/-- What a rounded mantissa is packed into, at its scale. -/
theorem toNat_pack_round {mantissa r : Nat} {e : Int} {accuracy : Accuracy}
    {em : ExtendedMantissa}
    (hshift : shiftToTargetExponent .binary64 mantissa e accuracy = (em, (s : Int) - 1074))
    (hr : em.roundedMantissa = r) (hle : r ≤ 2 * fractionSize) (hge : fractionSize ≤ r ∨ s = 0) :
    (UnpackedFloat.pack .binary64
      (roundWithAccuracy .binary64 .positive mantissa e accuracy)).toNat =
        min (s * fractionSize + r) infinityBits := by
  unfold roundWithAccuracy
  rw [hshift]
  dsimp only
  rw [hr]
  rcases Nat.lt_or_eq_of_le hle with hlt | rfl
  · rw [shift_fits hlt]
    dsimp only
    split_ifs with hzero
    · have hs : s = 0 := hge.resolve_left (by rw [hzero]; decide)
      rw [hzero, hs]
      decide
    · exact toNat_pack_min hlt hge (Nat.pos_of_ne_zero hzero)
  · rw [shift_carry]
    dsimp only
    rw [dif_neg (by decide)]
    have hbits : bitsOf fractionSize (s + 1) = s * fractionSize + 2 * fractionSize := by
      unfold bitsOf
      rw [Nat.add_mul]
      omega
    rw [← hbits]
    exact toNat_pack_min (by decide) (Or.inl (Nat.le_refl _)) (by decide)

/-- How far a quotient is from its scale, before it is rounded there. -/
structure Placed (num den k s : Nat) : Prop where
  lt : num < den * 2 ^ k * 2 ^ 53
  normal : den * 2 ^ k * 2 ^ 52 ≤ num ∨ s = 0

/-- A quotient with enough digits, or of the smallest scale, is shifted to its scale. -/
theorem exists_placed {mantissa : Nat} {e : Int} {accuracy : Accuracy}
    (hstands : Stands (.ofMantissaAndAccuracy mantissa accuracy) num den) (hden : 0 < den)
    (henough : 52 ≤ mantissa.log2 ∨ e ≤ -1074) :
    ∃ (em : ExtendedMantissa) (k s : Nat),
      shiftToTargetExponent .binary64 mantissa e accuracy = (em, (s : Int) - 1074) ∧
      Stands em num (den * 2 ^ k) ∧ e + k = (s : Int) - 1074 ∧ Placed num den k s := by
  have hmantissa : mantissa = num / den := by
    have hfirst := hstands.mantissa
    cases accuracy with
    | exact => exact hfirst
    | inexact order => cases order <;> exact hfirst
  have htarget := targetExponent_eq (totalExponent mantissa e)
  generalize ht : Format.binary64.targetExponent (totalExponent mantissa e) = target at htarget
  unfold totalExponent at htarget
  generalize hk : (target - e).toNat = k
  have hexponent : e + k = ((target + 1074).toNat : Int) - 1074 := by omega
  refine ⟨_, k, (target + 1074).toNat, ?_, hstands.shiftRight hden k, hexponent, ?_, ?_⟩
  · unfold shiftToTargetExponent shiftToExponent
    dsimp only
    rw [ht, hk, hexponent]
  · have hlog : mantissa < 2 ^ (k + 53) := by
      refine Nat.lt_of_lt_of_le Nat.lt_log2_self (Nat.pow_le_pow_right (by decide) ?_)
      omega
    rw [hmantissa, Nat.div_lt_iff_lt_mul hden, Nat.pow_add, Nat.mul_comm, ← Nat.mul_assoc] at hlog
    exact hlog
  · by_cases hsmallest : target = -1074
    · exact Or.inr (by omega)
    · have hlog : mantissa.log2 = k + 52 := by omega
      have hpos : mantissa ≠ 0 := by
        intro hzero
        rw [hzero] at hlog
        cases hlog
      have hself := Nat.log2_self_le hpos
      rw [hlog, hmantissa, Nat.le_div_iff_mul_le hden, Nat.pow_add, Nat.mul_comm,
        ← Nat.mul_assoc] at hself
      exact Or.inl hself

/-- A quotient and a power of two are rounded to the nearest double. -/
theorem toNat_pack_nearest {mantissa : Nat} {e : Int} {accuracy : Accuracy}
    (hstands : Stands (.ofMantissaAndAccuracy mantissa accuracy) num den) (hden : 0 < den)
    (henough : 52 ≤ mantissa.log2 ∨ e ≤ -1074) {i j : Nat} (he : e = (i : Int) - j) :
    (UnpackedFloat.pack .binary64
      (roundWithAccuracy .binary64 .positive mantissa e accuracy)).toNat =
        nearest (num * 2 ^ i) (den * 2 ^ j) := by
  obtain ⟨em, k, s, hshift, hem, hk, hplaced⟩ := exists_placed hstands hden henough
  obtain ⟨n, hn, hone⟩ := exists_unitsPerOne
  have hpow : 2 ^ k * (2 ^ i * unitsPerOne) = 2 ^ j * 2 ^ s := by
    have hsum : k + (i + n) = j + s := by omega
    rw [hone, ← Nat.pow_add, ← Nat.pow_add, hsum, Nat.pow_add]
  have hpos : 0 < 2 ^ i * unitsPerOne := Nat.mul_pos (Nat.two_pow_pos i) unitsPerOne_pos
  have hunits : num * 2 ^ i * unitsPerOne = num * (2 ^ i * unitsPerOne) := Nat.mul_assoc _ _ _
  have hscaled : den * 2 ^ j * 2 ^ s = den * 2 ^ k * (2 ^ i * unitsPerOne) := by
    rw [Nat.mul_assoc, ← hpow, Nat.mul_assoc]
  have hscale : HasScale (num * 2 ^ i * unitsPerOne) (den * 2 ^ j) s := by
    refine ⟨?_, hplaced.normal.imp_left fun hnormal => ?_⟩
    · rw [hunits, hscaled, Nat.mul_right_comm]
      exact Nat.mul_lt_mul_of_pos_right hplaced.lt hpos
    · rw [hunits, hscaled, Nat.mul_right_comm]
      exact Nat.mul_le_mul_right _ hnormal
  have hden' : 0 < den * 2 ^ j := Nat.mul_pos hden (Nat.two_pow_pos j)
  have hround := roundEven_mul_right num (den * 2 ^ k) hpos
  rw [← hunits, ← hscaled] at hround
  rw [nearest_eq hden' hscale, hround]
  refine toNat_pack_round hshift hem.roundedMantissa ?_ ?_
  · rw [← hround]
    exact hscale.round_le hden'
  · rcases Nat.eq_zero_or_pos s with hzero | hs
    · exact Or.inr hzero
    · rw [← hround]
      exact Or.inl (hscale.le_round hden' hs)

/-! ## Operations on doubles -/

theorem unpack_ofMagnitude (negative : Bool) (h : IsFinite m s) :
    (ofMagnitude negative (bitsOf m s)).toModel.unpack =
      if hm : m = 0 then .zero (signOf negative)
      else .finite (signOf negative) m (s - 1074) (Nat.pos_of_ne_zero hm) := by
  rw [← unpack_signedBits negative h]
  change UnpackedFloat.unpack .binary64 (UnpackedFloat.pack .binary64
    (UnpackedFloat.unpack .binary64 (signedBits negative (bitsOf m s)))) = _
  rw [unpack_signedBits negative h, pack_finite negative h, unpack_signedBits negative h]

theorem ofModel_pack {u : UnpackedFloat} {negative : Bool} {bits : Nat}
    (h : UnpackedFloat.pack .binary64 u = signedBits negative bits) :
    Float.ofModel (.pack u) = ofMagnitude negative bits := by
  rw [← ofBits_toBits (Float.ofModel (.pack u))]
  change Float.ofBits (UInt64.ofBitVec (UnpackedFloat.pack .binary64 u)) = _
  rw [h]
  rfl

theorem ofModel_pack_toNat {u : UnpackedFloat} {bits : Nat}
    (h : (UnpackedFloat.pack .binary64 u).toNat = bits) :
    Float.ofModel (.pack u) = ofMagnitude false bits := by
  refine ofModel_pack ?_
  rw [← h]
  exact ((BitVec.ofNat_toNat _ _).trans (BitVec.setWidth_eq _)).symm

theorem neg_bitsOf (negative : Bool) (h : IsFinite m s) :
    -ofMagnitude negative (bitsOf m s) = ofMagnitude (!negative) (bitsOf m s) := by
  change Float.ofModel (.pack (ofMagnitude negative (bitsOf m s)).toModel.unpack.neg) = _
  refine ofModel_pack ?_
  rw [unpack_ofMagnitude negative h, ← pack_finite (!negative) h]
  cases negative <;> split_ifs <;> rfl

theorem isInf_bitsOf (negative : Bool) (h : IsFinite m s) :
    (ofMagnitude negative (bitsOf m s)).isInf = false := by
  change (ofMagnitude negative (bitsOf m s)).toModel.unpack.isInf = false
  rw [unpack_ofMagnitude negative h]
  split_ifs <;> rfl

variable {m' s' : Nat}

theorem IsFinite.scale_zero (h : IsFinite m s) (hm : m.log2 < 52) : s = 0 := by
  refine h.normal.resolve_left fun hnormal => ?_
  have hpos : m ≠ 0 := Nat.ne_of_gt (Nat.lt_of_lt_of_le (by decide) hnormal)
  have hle : 2 ^ 52 ≤ m := hnormal
  have hlog := (Nat.le_log2 hpos).mpr hle
  omega

theorem log2_le_mul (hm : m ≠ 0) (hm' : m' ≠ 0) : m.log2 ≤ (m * m').log2 := by
  rw [Nat.le_log2 (Nat.mul_ne_zero hm hm')]
  exact Nat.le_trans (Nat.log2_self_le hm) (Nat.le_mul_of_pos_right m (Nat.pos_of_ne_zero hm'))

theorem mul_bitsOf (h : IsFinite m s) (h' : IsFinite m' s') :
    ofMagnitude false (bitsOf m s) * ofMagnitude false (bitsOf m' s') =
      ofMagnitude false (nearest (m * 2 ^ s * (m' * 2 ^ s')) (unitsPerOne * unitsPerOne)) := by
  change Float.ofModel (.pack (UnpackedFloat.mul .binary64
    (ofMagnitude false (bitsOf m s)).toModel.unpack
    (ofMagnitude false (bitsOf m' s')).toModel.unpack)) = _
  refine ofModel_pack_toNat ?_
  rw [unpack_ofMagnitude false h, unpack_ofMagnitude false h']
  by_cases hm : m = 0
  · rw [dif_pos hm, hm, Nat.zero_mul, Nat.zero_mul, nearest_zero]
    split_ifs <;> rfl
  by_cases hm' : m' = 0
  · rw [dif_pos hm', hm', Nat.zero_mul, Nat.mul_zero, nearest_zero, dif_neg hm]
    rfl
  rw [dif_neg hm, dif_neg hm']
  obtain ⟨n, hn, hone⟩ := exists_unitsPerOne
  have hlog : m.log2 ≤ (m * m').log2 ∧ m'.log2 ≤ (m * m').log2 :=
    ⟨log2_le_mul hm hm', Nat.mul_comm m m' ▸ log2_le_mul hm' hm⟩
  have henough : 52 ≤ (m * m').log2 ∨ (s : Int) - 1074 + (s' - 1074) ≤ -1074 := by
    by_cases hlarge : 52 ≤ (m * m').log2
    · exact Or.inl hlarge
    · rw [h.scale_zero (by omega), h'.scale_zero (by omega)]
      exact Or.inr (by omega)
  have hpack := toNat_pack_nearest (.exact (m * m')) Nat.one_pos henough
    (show (s : Int) - 1074 + (s' - 1074) = ((s + s' : Nat) : Int) - (n + n : Nat) by omega)
  refine hpack.trans (nearest_congr (Nat.mul_pos Nat.one_pos (Nat.two_pow_pos _))
    (Nat.mul_pos unitsPerOne_pos unitsPerOne_pos) ?_)
  rw [hone]
  ring

/-- A quotient has the digits by which its numerator is longer. -/
theorem le_log2_quotient {shift : Nat} (hm : m ≠ 0) (hm' : 0 < m')
    (h : m'.log2 + 53 ≤ m.log2 + shift) : 52 ≤ (m * 2 ^ shift / m').log2 := by
  have hle : 2 ^ 52 * m' ≤ m * 2 ^ shift := by
    calc 2 ^ 52 * m' ≤ 2 ^ 52 * 2 ^ (m'.log2 + 1) :=
          Nat.mul_le_mul_left _ (Nat.le_of_lt Nat.lt_log2_self)
      _ = 2 ^ (m'.log2 + 53) := by rw [← Nat.pow_add]; congr 1; omega
      _ ≤ 2 ^ (m.log2 + shift) := Nat.pow_le_pow_right (by decide) h
      _ = 2 ^ m.log2 * 2 ^ shift := Nat.pow_add _ _ _
      _ ≤ m * 2 ^ shift := Nat.mul_le_mul_right _ (Nat.log2_self_le hm)
  have hquot : 2 ^ 52 ≤ m * 2 ^ shift / m' := (Nat.le_div_iff_mul_le hm').mpr hle
  exact (Nat.le_log2 (Nat.ne_of_gt (Nat.lt_of_lt_of_le (by decide) hquot))).mpr hquot

theorem div_bitsOf (h : IsFinite m s) (h' : IsFinite m' s') (hm' : 0 < m') :
    ofMagnitude false (bitsOf m s) / ofMagnitude false (bitsOf m' s') =
      ofMagnitude false (nearest (m * 2 ^ s) (m' * 2 ^ s')) := by
  change Float.ofModel (.pack (UnpackedFloat.div .binary64
    (ofMagnitude false (bitsOf m s)).toModel.unpack
    (ofMagnitude false (bitsOf m' s')).toModel.unpack)) = _
  refine ofModel_pack_toNat ?_
  rw [unpack_ofMagnitude false h, unpack_ofMagnitude false h', dif_neg (Nat.ne_of_gt hm')]
  by_cases hm : m = 0
  · rw [dif_pos hm, hm, Nat.zero_mul, nearest_zero]
    rfl
  rw [dif_neg hm]
  unfold UnpackedFloat.div divCore
  dsimp only
  generalize htarget : min ((s : Int) - 1074 - (s' - 1074)) (Format.binary64.targetExponent
    (totalExponent m (s - 1074) - totalExponent m' (s' - 1074))) = target
  generalize hshift : ((s : Int) - 1074 - (s' - 1074) - target).toNat = shift
  rw [targetExponent_eq] at htarget
  unfold totalExponent at htarget
  rw [Nat.shiftLeft_eq]
  have henough : 52 ≤ (m * 2 ^ shift / m').log2 ∨ target ≤ -1074 := by
    by_cases hsmallest : target ≤ -1074
    · exact Or.inr hsmallest
    · exact Or.inl (le_log2_quotient hm hm' (by omega))
  have hpack := toNat_pack_nearest (.fraction (m * 2 ^ shift) hm') hm' henough
    (show target = (s : Int) - (s' + shift : Nat) by omega)
  refine hpack.trans (nearest_congr (Nat.mul_pos hm' (Nat.two_pow_pos _))
    (Nat.mul_pos hm' (Nat.two_pow_pos _)) ?_)
  ring

section Finite

variable {a b : Nat} (ha : a < infinityBits)
include ha

theorem neg_ofMagnitude (negative : Bool) :
    -ofMagnitude negative a = ofMagnitude (!negative) a := by
  obtain ⟨m, s, h, rfl⟩ := exists_bitsOf ha
  exact neg_bitsOf negative h

theorem isInf_ofMagnitude (negative : Bool) : (ofMagnitude negative a).isInf = false := by
  obtain ⟨m, s, h, rfl⟩ := exists_bitsOf ha
  exact isInf_bitsOf negative h

theorem toBits_ofMagnitude (negative : Bool) :
    (ofMagnitude negative a).toBits.toNat = if negative then signBit + a else a := by
  obtain ⟨m, s, h, rfl⟩ := exists_bitsOf ha
  rw [← toNat_signedBits negative ha, ← pack_finite negative h, ← unpack_signedBits negative h]
  rfl

/-- A double is seen as it was made. -/
theorem exact_ofMagnitude (negative : Bool) :
    exact (ofMagnitude negative a) = .ofMagnitude negative a := by
  have hsmall : a < signBit := Nat.lt_of_lt_of_le ha (by decide)
  unfold exact isNegative magnitude
  rw [toBits_ofMagnitude ha negative]
  cases negative with
  | false => rw [if_neg Bool.false_ne_true, decide_eq_false (by omega), Nat.mod_eq_of_lt hsmall]
  | true =>
    rw [if_pos rfl, decide_eq_true (Nat.le_add_right _ _), Nat.add_mod_left,
      Nat.mod_eq_of_lt hsmall]

/-- The product of two doubles is rounded once. -/
theorem mul_ofMagnitude (hb : b < infinityBits) : ofMagnitude false a * ofMagnitude false b =
    ofMagnitude false (nearest (unitsOf a * unitsOf b) (unitsPerOne * unitsPerOne)) := by
  obtain ⟨m, s, h, rfl⟩ := exists_bitsOf ha
  obtain ⟨m', s', h', rfl⟩ := exists_bitsOf hb
  rw [unitsOf_bitsOf h, unitsOf_bitsOf h']
  exact mul_bitsOf h h'

/-- The quotient of two doubles is rounded once. -/
theorem div_ofMagnitude (hb : b < infinityBits) (hpos : 0 < unitsOf b) :
    ofMagnitude false a / ofMagnitude false b =
      ofMagnitude false (nearest (unitsOf a) (unitsOf b)) := by
  obtain ⟨m, s, h, rfl⟩ := exists_bitsOf ha
  obtain ⟨m', s', h', rfl⟩ := exists_bitsOf hb
  rw [unitsOf_bitsOf h'] at hpos
  rw [unitsOf_bitsOf h, unitsOf_bitsOf h']
  exact div_bitsOf h h' (Nat.pos_of_mul_pos_right hpos)

end Finite

/-- A finite double is seen as its sign, its significand and its scale. -/
theorem exact_bitsOf (h : IsFinite m s) (negative : Bool) :
    exact (ofMagnitude negative (bitsOf m s)) = .finite negative m s := by
  have hscale := h.scale_lt
  rw [exact_ofMagnitude h.bits_lt]
  unfold Exact.ofMagnitude
  by_cases hm : m < fractionSize
  · have hs : s = 0 := h.normal.resolve_left (Nat.not_le.mpr hm)
    subst hs
    unfold bitsOf
    rw [Nat.zero_mul, Nat.zero_add, Nat.div_eq_of_lt hm, Nat.mod_eq_of_lt hm]
    rfl
  · obtain ⟨hquot, hrest⟩ := h.fields hm
    simp only
    rw [hquot, hrest, if_neg (by omega), if_neg (Nat.succ_ne_zero s), Nat.add_sub_cancel]

/-- A finite double and its negative have one size. -/
theorem exact_neg {x : Float} {negative : Bool} (h : exact x = .finite negative m s) :
    exact (-x) = .finite (!negative) m s := by
  have hfinite := (exact_finite h).1
  rw [← ofMagnitude_finite h, neg_ofMagnitude hfinite.bits_lt, exact_bitsOf hfinite]

theorem exact_infinity (negative : Bool) :
    exact (ofMagnitude negative infinityBits) = .infinite negative := by
  cases negative <;> rfl

end Patchbay.Number
