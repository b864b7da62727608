-- Sums and differences of doubles. Each is the exact one, rounded once to the nearest
-- double, and as every double is a whole number of units, only what is equal has no
-- difference.
import Patchbay.Proofs.DoubleValues

namespace Patchbay.Number

open Float.Model Float.Model.UnpackedFloat

variable {x y : Float} {m s m' s' : Nat} {u v : Int}

/-! ## Rounded numbers of units with a sign -/

theorem toNat_packComponents (sign : Sign) (e : BitVec 11) (f : BitVec 52) :
    (packComponents .binary64 sign e f).toNat =
      (sign.toBitVec.toNat * 2048 + e.toNat) * fractionSize + f.toNat := by
  unfold packComponents
  rw [BitVec.toNat_append, ← Nat.shiftLeft_add_eq_or_of_lt f.isLt, BitVec.toNat_append,
    ← Nat.shiftLeft_add_eq_or_of_lt e.isLt, Nat.shiftLeft_eq, Nat.shiftLeft_eq]
  rfl

/-- The sign is the first bit, and no other bit depends on it. -/
theorem toNat_packComponents_negative (e : BitVec 11) (f : BitVec 52) :
    (packComponents .binary64 .negative e f).toNat =
      signBit + (packComponents .binary64 .positive e f).toNat := by
  rw [toNat_packComponents, toNat_packComponents]
  unfold fractionSize signBit
  simp only [Sign.toBitVec, BitVec.toNat_ofNat]
  omega

theorem toNat_pack_round_negative (mantissa : Nat) (e : Int) :
    (UnpackedFloat.pack .binary64 (UnpackedFloat.round .binary64 .negative mantissa e)).toNat =
      signBit + (UnpackedFloat.pack .binary64
        (UnpackedFloat.round .binary64 .positive mantissa e)).toNat := by
  unfold UnpackedFloat.round roundWithAccuracy
  dsimp only
  split_ifs
  · exact toNat_packComponents_negative _ _
  · unfold UnpackedFloat.pack
    dsimp only
    split_ifs <;> exact toNat_packComponents_negative _ _

/-- A number of units is rounded to the nearest double, once its digits were moved to its scale. -/
theorem toNat_pack_round_nearest {mantissa : Nat} {e : Int} (hpos : 0 < mantissa) {i j : Nat}
    (he : e = (i : Int) - j) :
    (UnpackedFloat.pack .binary64 (UnpackedFloat.round .binary64 .positive mantissa e)).toNat =
      nearest (mantissa * 2 ^ i) (2 ^ j) := by
  unfold UnpackedFloat.round
  dsimp only
  unfold decreaseExponent
  dsimp only
  generalize ht : Format.binary64.targetExponent (totalExponent mantissa e) = target
  generalize hk : (e - target).toNat = k
  have htarget := targetExponent_eq (totalExponent mantissa e)
  rw [ht] at htarget
  unfold totalExponent at htarget
  rw [Nat.shiftLeft_eq]
  have hlog : mantissa.log2 + k ≤ (mantissa * 2 ^ k).log2 := by
    have hmoved : mantissa * 2 ^ k ≠ 0 := Nat.ne_of_gt (Nat.mul_pos hpos (Nat.two_pow_pos k))
    rw [Nat.le_log2 hmoved, Nat.pow_add]
    exact Nat.mul_le_mul_right _ (Nat.log2_self_le (Nat.ne_of_gt hpos))
  have henough : 52 ≤ (mantissa * 2 ^ k).log2 ∨ e - k ≤ -1074 := by omega
  rw [toNat_pack_nearest (.exact (mantissa * 2 ^ k)) Nat.one_pos henough
    (show e - k = (i : Int) - (j + k : Nat) by omega)]
  refine nearest_congr (Nat.mul_pos Nat.one_pos (Nat.two_pow_pos _)) (Nat.two_pow_pos j) ?_
  ring

/-- The double of a rounded number of units. -/
theorem ofModel_normalize (u : Int) {i j : Nat} {e : Int} (he : e = (i : Int) - j) :
    ∃ negative, Float.ofModel (.pack (UnpackedFloat.normalize .binary64 u e .positive)) =
        ofMagnitude negative (nearest (u.natAbs * 2 ^ i) (2 ^ j)) ∧
      (u < 0 → negative = true) ∧ (0 < u → negative = false) := by
  unfold UnpackedFloat.normalize
  rcases Int.lt_trichotomy u 0 with hu | rfl | hu
  · have hround := toNat_pack_round_nearest (show 0 < (-u).toNat by omega) he
    have hnegative := toNat_pack_round_negative (-u).toNat e
    rw [hround, show (-u).toNat = u.natAbs by omega] at hnegative
    rw [Int.compare_eq_lt.mpr hu]
    dsimp only
    refine ⟨true, ofModel_pack (BitVec.eq_of_toNat_eq ?_), fun _ => rfl, fun h => by omega⟩
    rw [show (-u).toNat = u.natAbs by omega, hnegative]
    unfold signedBits
    rw [if_pos rfl, BitVec.toNat_ofNat, eq_comm]
    refine Nat.mod_eq_of_lt ?_
    have hle := nearest_le (u.natAbs * 2 ^ i) (2 ^ j)
    change _ < 0x10000000000000000
    unfold infinityBits fractionSize at hle
    unfold signBit
    omega
  · refine ⟨false, ?_, fun h => by omega, fun h => by omega⟩
    rw [Int.natAbs_zero, Nat.zero_mul, nearest_zero]
    rfl
  · rw [Int.compare_eq_gt.mpr hu]
    dsimp only
    refine ⟨false, ofModel_pack_toNat ?_, fun h => by omega, fun _ => rfl⟩
    rw [toNat_pack_round_nearest (show 0 < u.toNat by omega) he,
      show u.toNat = u.natAbs by omega]

/-! ## Sums and differences -/

theorem apply_signOf (negative : Bool) (n : Nat) :
    (signOf negative).apply (n : Int) = signed negative n := by
  cases negative <;> rfl

theorem signed_mul (negative : Bool) (n k : Nat) :
    signed negative n * k = signed negative (n * k) := by
  cases negative with
  | false => exact (Nat.cast_mul n k).symm
  | true => exact (Int.neg_mul _ _).trans (congrArg _ (Nat.cast_mul n k).symm)

theorem natAbs_signed (negative : Bool) (n : Nat) : (signed negative n).natAbs = n := by
  cases negative with
  | false => rfl
  | true => exact Int.natAbs_neg n

theorem signed_zero (negative : Bool) : signed negative 0 = 0 := by
  cases negative <;> rfl

theorem signed_sign (negative : Bool) (n : Nat) :
    (signed negative n < 0 → negative = true) ∧ (0 < signed negative n → negative = false) := by
  cases negative with
  | false => exact ⟨fun h => absurd h (Int.not_lt.mpr (Int.natCast_nonneg n)), fun _ => rfl⟩
  | true => exact ⟨fun _ => rfl, fun h => absurd h (by unfold signed; rw [if_pos rfl]; omega)⟩

/-- A finite double is what its units are rounded to, with its sign. -/
theorem nearest_signed (negative : Bool) (h : IsFinite m s) :
    nearest (signed negative (m * 2 ^ s)).natAbs unitsPerOne = bitsOf m s := by
  rw [natAbs_signed, ← unitsOf_bitsOf h, nearest_unitsOf h.bits_lt]

/-- The sum of two doubles other than zero is taken at the smaller of their scales. -/
theorem add_nonzero (negative negative' : Bool) (hm : 0 < m) (hm' : 0 < m') :
    ∃ sign, Float.ofModel (.pack (UnpackedFloat.add .binary64
        (.finite (signOf negative) m (s - 1074) hm)
        (.finite (signOf negative') m' (s' - 1074) hm'))) =
      ofMagnitude sign (nearest (signed negative (m * 2 ^ s) +
        signed negative' (m' * 2 ^ s')).natAbs unitsPerOne) ∧
      (signed negative (m * 2 ^ s) + signed negative' (m' * 2 ^ s') < 0 → sign = true) ∧
      (0 < signed negative (m * 2 ^ s) + signed negative' (m' * 2 ^ s') → sign = false) := by
  unfold UnpackedFloat.add decreaseExponent
  dsimp only
  rw [apply_signOf, apply_signOf]
  obtain ⟨n, hn, hone⟩ := exists_unitsPerOne
  generalize hk : min s s' = k
  have hmin : min ((s : Int) - 1074) (s' - 1074) = (k : Int) - n := by omega
  have hshift : ((s : Int) - 1074 - ((k : Int) - n)).toNat = s - k := by omega
  have hshift' : ((s' : Int) - 1074 - ((k : Int) - n)).toNat = s' - k := by omega
  rw [hmin, hshift, hshift', Nat.shiftLeft_eq, Nat.shiftLeft_eq]
  have hsum : (signed negative (m * 2 ^ (s - k)) + signed negative' (m' * 2 ^ (s' - k))) *
      ((2 ^ k : Nat) : Int) = signed negative (m * 2 ^ s) + signed negative' (m' * 2 ^ s') := by
    rw [Int.add_mul, signed_mul, signed_mul, Nat.mul_assoc, Nat.mul_assoc, ← Nat.pow_add,
      ← Nat.pow_add, Nat.sub_add_cancel (by omega), Nat.sub_add_cancel (by omega)]
  generalize signed negative (m * 2 ^ (s - k)) + signed negative' (m' * 2 ^ (s' - k)) = t at *
  obtain ⟨sign, hvalue, hbelow, habove⟩ :=
    ofModel_normalize t (show (k : Int) - n = k - n from rfl)
  have hpos : (0 : Int) < (2 ^ k : Nat) := by exact_mod_cast Nat.two_pow_pos k
  rw [← hsum]
  refine ⟨sign, ?_, fun h => hbelow ?_, fun h => habove ?_⟩
  · rw [hvalue, Int.natAbs_mul, Int.natAbs_natCast, hone]
  · exact neg_of_mul_neg_left h hpos.le
  · exact pos_of_mul_pos_left h hpos.le

/-- The sum of two finite doubles is their exact sum, rounded once. -/
theorem add_units (hx : units? x = some u) (hy : units? y = some v) :
    ∃ negative, x + y = ofMagnitude negative (nearest (u + v).natAbs unitsPerOne) ∧
      (u + v < 0 → negative = true) ∧ (0 < u + v → negative = false) := by
  obtain ⟨negative, m, s, h, rfl, rfl⟩ := exists_of_units? hx
  obtain ⟨negative', m', s', h', rfl, rfl⟩ := exists_of_units? hy
  change ∃ n, Float.ofModel (.pack (UnpackedFloat.add .binary64
    (ofMagnitude negative (bitsOf m s)).toModel.unpack
    (ofMagnitude negative' (bitsOf m' s')).toModel.unpack)) = _ ∧ _
  have hpack := pack_finite negative h
  have hpack' := pack_finite negative' h'
  rw [unpack_ofMagnitude negative h, unpack_ofMagnitude negative' h']
  by_cases hm : m = 0
  · subst hm
    rw [Nat.zero_mul, signed_zero, Int.zero_add, nearest_signed negative' h']
    by_cases hm' : m' = 0
    · subst hm'
      rw [Nat.zero_mul, signed_zero]
      refine ⟨negative && negative', ?_, fun h => by omega, fun h => by omega⟩
      rw [dif_pos rfl, dif_pos rfl, h'.scale_zero (by decide)]
      refine ofModel_pack ?_
      cases negative <;> cases negative' <;> rfl
    · refine ⟨negative', ofModel_pack ?_, signed_sign negative' _⟩
      rw [← hpack', dif_neg hm', dif_pos rfl]
      rfl
  · by_cases hm' : m' = 0
    · subst hm'
      rw [Nat.zero_mul, signed_zero, Int.add_zero, nearest_signed negative h]
      refine ⟨negative, ofModel_pack ?_, signed_sign negative _⟩
      rw [← hpack, dif_neg hm, dif_pos rfl]
      rfl
    · rw [dif_neg hm, dif_neg hm']
      exact add_nonzero negative negative' _ _

theorem sub_eq_add (spec : Format) (a b : UnpackedFloat) :
    UnpackedFloat.sub spec a b = UnpackedFloat.add spec a b.neg := by
  cases a with
  | finite sign =>
    cases b with
    | finite sign' =>
      unfold UnpackedFloat.sub UnpackedFloat.add UnpackedFloat.neg
      dsimp only
      cases sign' with
      | negative => exact congrArg (UnpackedFloat.normalize spec · _ _) (Int.sub_neg _ _)
      | positive => rfl
    | _ => rfl
  | _ => cases b <;> rfl

theorem units?_neg (hx : units? x = some u) : units? (-x) = some (-u) := by
  obtain ⟨negative, m, s, h, rfl, rfl⟩ := exists_of_units? hx
  rw [neg_bitsOf negative h, units?_bitsOf _ h]
  cases negative with
  | false => rfl
  | true => exact congrArg some (Int.neg_neg _).symm

/-- A difference is a sum with the negative. -/
theorem sub_units (hx : units? x = some u) (hy : units? y = some v) :
    ∃ negative, x - y = ofMagnitude negative (nearest (u - v).natAbs unitsPerOne) ∧
      (u - v < 0 → negative = true) ∧ (0 < u - v → negative = false) := by
  have hsub : x - y = x + -y := by
    obtain ⟨negative, m, s, h, rfl, -⟩ := exists_of_units? hy
    change Float.ofModel (.pack (UnpackedFloat.sub .binary64 _ _)) = _
    rw [sub_eq_add, ← unpack_neg negative h, ← neg_bitsOf negative h]
    rfl
  rw [hsub, Int.sub_eq_add_neg]
  exact add_units hx (units?_neg hy)

/-- What is rounded is not rounded to zero, when it is a whole number of units. -/
theorem nearest_pos {n : Nat} (hn : 0 < n) : 0 < nearest n unitsPerOne := by
  have hmono : nearest 1 unitsPerOne ≤ nearest n unitsPerOne :=
    nearest_mono unitsPerOne_pos unitsPerOne_pos (Nat.mul_le_mul_right _ hn)
  have hone : nearest (unitsOf 1) unitsPerOne = 1 := nearest_unitsOf (by decide)
  rw [show unitsOf 1 = 1 from rfl] at hone
  omega

theorem units?_zero : units? 0.0 = some 0 := rfl

/-- Only what is equal has no difference: units are never rounded to zero. -/
theorem sub_beq_zero (hx : units? x = some u) (hy : units? y = some v) :
    (x - y == 0.0) = (u == v) := by
  obtain ⟨negative, hdiff, -, -⟩ := sub_units hx hy
  rw [hdiff]
  by_cases hsame : u = v
  · rw [hsame, Int.sub_self, Int.natAbs_zero, nearest_zero, beq_self_eq_true]
    cases negative <;> rfl
  · have hpos := nearest_pos (show 0 < (u - v).natAbs by omega)
    rw [beq_false_of_ne hsame]
    rcases Nat.lt_or_eq_of_le (nearest_le (u - v).natAbs unitsPerOne) with hlt | heq
    · have hunits := unitsOf_lt hpos
      rw [beq_units (units?_ofMagnitude negative hlt) units?_zero]
      refine beq_false_of_ne fun hzero => ?_
      have habs := natAbs_signed negative (unitsOf (nearest (u - v).natAbs unitsPerOne))
      rw [hzero] at habs
      omega
    · rw [heq]
      cases negative <;> rfl

end Patchbay.Number
