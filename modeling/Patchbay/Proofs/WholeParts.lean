-- Whole parts of doubles, and what is made of them: words and texts. The whole part is that
-- of the number, a double has nothing after its point exactly if its number is whole, and
-- the text of a number stands for the number whether it is written as a whole one or not.
import Patchbay.Proofs.DoubleSums

namespace Patchbay.Number

open Float.Model Float.Model.UnpackedFloat

variable {x y : Float} {m s n : Nat} {u : Int} {q : ℚ}

/-! ## Doubles that stand for no number -/

/-- There is one double that is no number. -/
theorem eq_of_nan (h : exact x = .nan) : x = 0.0 / 0.0 := by
  unfold exact Exact.ofMagnitude magnitude at h
  simp only at h
  obtain ⟨⟨bits, hvalid⟩⟩ := x
  split_ifs at h with hexponent hfraction
  have hexponents : @unpackExponent .binary64 bits.toBitVec = -1#_ := by
    refine BitVec.eq_of_toNat_eq ((toNat_unpackExponent _).trans ?_)
    change bits.toNat / fractionSize % 2048 = 2047
    change bits.toNat % signBit / fractionSize = 2047 at hexponent
    unfold signBit at hexponent
    unfold fractionSize at *
    omega
  have hmantissa : @unpackMantissa .binary64 bits.toBitVec ≠ 0#_ := by
    intro hzero
    refine hfraction ?_
    have hnone := toNat_unpackMantissa bits.toBitVec
    rw [hzero] at hnone
    change 0 = bits.toNat % fractionSize at hnone
    change bits.toNat % signBit % fractionSize = 0
    unfold signBit
    unfold fractionSize at *
    omega
  have hbits : bits = ⟨packedNaN .binary64⟩ :=
    congrArg UInt64.ofBitVec (hvalid.eq_packedNaN hexponents hmantissa)
  subst hbits
  rfl

/-! ## The part before the point -/

theorem signed_tdiv (negative : Bool) (n k : Nat) :
    (signed negative n).tdiv k = signed negative (n / k) := by
  cases negative with
  | false => exact (Int.ofNat_tdiv n k).symm
  | true => exact (Int.neg_tdiv _ _).trans (congrArg _ (Int.ofNat_tdiv n k).symm)

/-- The whole part of what a double has is a double. -/
theorem nearest_whole {a : Nat} (ha : a < infinityBits) :
    nearest (unitsOf a / unitsPerOne) 1 < infinityBits ∧
      unitsOf (nearest (unitsOf a / unitsPerOne) 1) = unitsOf a / unitsPerOne * unitsPerOne := by
  obtain ⟨m, s, h, rfl⟩ := exists_bitsOf ha
  rw [unitsOf_bitsOf h]
  by_cases hwhole : unitsPerOne ∣ m * 2 ^ s
  · have hunits := Nat.div_mul_cancel hwhole
    have hself := nearest_bitsOf h Nat.one_pos (hunits.trans (Nat.mul_one _).symm)
    rw [hself, unitsOf_bitsOf h, hunits]
    exact ⟨ha, rfl⟩
  · -- With a part after the point the scale is so small that the whole part has few bits.
    obtain ⟨k, hk, hone⟩ := exists_unitsPerOne
    have hscale : s < k := by
      by_contra hle
      refine hwhole (Dvd.dvd.mul_left ?_ m)
      rw [hone]
      exact Nat.pow_dvd_pow 2 (Nat.le_of_not_lt hle)
    have hsmall : m * 2 ^ s / unitsPerOne ≤ 2 ^ 53 := by
      refine Nat.le_of_lt ((Nat.div_lt_iff_lt_mul unitsPerOne_pos).mpr ?_)
      rw [hone]
      exact Nat.mul_lt_mul_of_lt_of_le h.lt (Nat.pow_le_pow_right (by decide) (by omega))
        (Nat.two_pow_pos k)
    exact ⟨nearest_lt_infinityBits hsmall, unitsOf_nearest_whole hsmall⟩

theorem trunc_ofMagnitude {a : Nat} (negative : Bool) (ha : a < infinityBits) :
    trunc (ofMagnitude negative a) =
      ofMagnitude negative (nearest (unitsOf a / unitsPerOne) 1) := by
  obtain ⟨m, s, h, rfl⟩ := exists_bitsOf ha
  unfold trunc
  rw [exact_bitsOf h, unitsOf_bitsOf h]
  rfl

theorem units?_trunc (hx : units? x = some u) :
    units? (trunc x) = some (u.tdiv unitsPerOne * unitsPerOne) := by
  obtain ⟨negative, m, s, h, rfl, rfl⟩ := exists_of_units? hx
  obtain ⟨hfinite, hunits⟩ := nearest_whole h.bits_lt
  rw [trunc_ofMagnitude negative h.bits_lt, units?_ofMagnitude negative hfinite, hunits,
    unitsOf_bitsOf h, signed_tdiv, signed_mul]

/-- The units before the point are those of the number cut toward zero. -/
theorem cut_units (u : Int) : cut ((u : ℚ) / unitsPerOne) = u.tdiv unitsPerOne := by
  have hpos := unitsPerOne_cast_pos
  unfold cut
  generalize unitsPerOne = one at *
  by_cases hu : u < 0
  · have hfloor : ⌊-((u : ℚ) / one)⌋ = -u.tdiv one := by
      rw [← neg_div, ← Int.cast_neg, Rat.floor_intCast_div_natCast,
        ← Int.tdiv_eq_ediv_of_nonneg (by omega), Int.neg_tdiv]
    rw [if_pos (div_neg_of_neg_of_pos (Int.cast_lt_zero.mpr hu) hpos)]
    rw [Int.floor_neg] at hfloor
    exact neg_inj.mp hfloor
  · have hnonneg : (0 : ℚ) ≤ u := Int.cast_nonneg (Int.not_lt.mp hu)
    rw [if_neg (not_lt.mpr (div_nonneg hnonneg hpos.le)), Rat.floor_intCast_div_natCast,
      ← Int.tdiv_eq_ediv_of_nonneg (Int.not_lt.mp hu)]

/-- Nothing is left after the point of a whole number, and of no other double. -/
theorem fract_beq_zero (hx : units? x = some u) :
    (fract x == 0.0) = decide ((unitsPerOne : Int) ∣ u) := by
  unfold fract
  rw [sub_beq_zero hx (units?_trunc hx), Bool.eq_iff_iff, beq_iff_eq, decide_eq_true_iff, eq_comm]
  exact ⟨fun h => Dvd.intro_left _ h, Int.tdiv_mul_cancel⟩

/-- What is no number and what is infinite leaves no number after its point. -/
theorem fract_of_no_units (hx : units? x = none) : (fract x == 0.0) = false := by
  unfold units? at hx
  cases hexact : exact x with
  | nan =>
    rw [eq_of_nan hexact]
    rfl
  | infinite negative =>
    rw [eq_of_infinite hexact]
    cases negative <;> rfl
  | finite negative m s =>
    rw [hexact] at hx
    cases hx

/-! ## Words -/

theorem roundToInt_eq (negative : Bool) (m s : Nat) :
    roundToInt (signOf negative) m (s - 1074) = signed negative (m * 2 ^ s / unitsPerOne) := by
  obtain ⟨n, hn, hone⟩ := exists_unitsPerOne
  have hleft : ((s : Int) - 1074 - 0).toNat = s - n := by omega
  have hright : (0 - ((s : Int) - 1074 - ((s - n : Nat) : Int))).toNat = n - s := by omega
  unfold roundToInt decreaseExponent shiftToExponent
  dsimp only
  rw [hleft, hright, Nat.shiftLeft_eq]
  have hmantissa := ((Stands.exact (m * 2 ^ (s - n))).shiftRight Nat.one_pos (n - s)).mantissa
  rw [Nat.one_mul] at hmantissa
  rw [hmantissa, apply_signOf, hone]
  refine congrArg (signed negative) ?_
  rcases Nat.le_total s n with hle | hle
  · rw [Nat.sub_eq_zero_of_le hle, Nat.pow_zero, Nat.mul_one, ← Nat.mul_div_mul_right m _
      (Nat.two_pow_pos s), ← Nat.pow_add, Nat.sub_add_cancel hle]
  · rw [Nat.sub_eq_zero_of_le hle, Nat.pow_zero, Nat.div_one]
    refine (Nat.div_eq_of_eq_mul_left (Nat.two_pow_pos n) ?_).symm
    rw [Nat.mul_assoc, ← Nat.pow_add, Nat.sub_add_cancel hle]

theorem toNat_ofNatClamp (n : Nat) : (UInt64.ofNatClamp n).toNat = min n (2 ^ 64 - 1) := by
  unfold UInt64.ofNatClamp
  split_ifs with hsmall
  · exact (Nat.min_eq_left (Nat.le_sub_one_of_lt hsmall)).symm
  · exact (Nat.min_eq_right (Nat.le_trans (Nat.sub_le _ 1) (Nat.le_of_not_lt hsmall))).symm

/-- A word is the whole part, up to the largest one. -/
theorem toWord_units (hx : units? x = some u) :
    toWord x = min (u.toNat / unitsPerOne) (2 ^ 64 - 1) := by
  obtain ⟨negative, m, s, h, rfl, rfl⟩ := exists_of_units? hx
  have hint : toInt 0 (↑UInt64.size - 1) (ofMagnitude negative (bitsOf m s)).toModel.unpack =
      signed negative (m * 2 ^ s / unitsPerOne) := by
    rw [unpack_ofMagnitude negative h]
    split_ifs with hm
    · rw [hm, Nat.zero_mul, Nat.zero_div, signed_zero]
      rfl
    · exact roundToInt_eq negative m s
  have hunits : (signed negative (m * 2 ^ s)).toNat / unitsPerOne =
      (signed negative (m * 2 ^ s / unitsPerOne)).toNat := by
    cases negative with
    | false => rfl
    | true =>
      have hnone : ∀ k, (signed true k).toNat = 0 := fun k => Int.toNat_neg_natCast k
      rw [hnone, hnone, Nat.zero_div]
  rw [hunits, ← hint, ← toNat_ofNatClamp]
  rfl

/-! ## Whole doubles -/

theorem isNaN_of_units (hx : units? x = some u) : x.isNaN = false := by
  obtain ⟨negative, m, s, h, rfl, -⟩ := exists_of_units? hx
  change (ofMagnitude negative (bitsOf m s)).toModel.unpack.isNaN = false
  rw [unpack_ofMagnitude negative h]
  split_ifs <;> rfl

theorem units?_of_natural {k : Nat} (hx : value? x = some (k : ℚ)) :
    units? x = some ((k * unitsPerOne : Nat) : Int) := by
  obtain ⟨u, hu, hk⟩ := value?_iff.mp hx
  rw [eq_div_iff (ne_of_gt unitsPerOne_cast_pos)] at hk
  rw [hu]
  refine congrArg some ?_
  exact_mod_cast hk.symm

theorem units?_ofNat (hn : n ≤ 2 ^ 53) : units? (ofNat n) = some ((n * unitsPerOne : Nat) : Int) :=
  units?_of_natural (value?_ofNat hn)

/-- Whole doubles are in the order of their numbers. -/
theorem lt_whole {t t' : Int} (hx : units? x = some (t * unitsPerOne))
    (hy : units? y = some (t' * unitsPerOne)) : x < y ↔ t < t' := by
  have hpos : (0 : Int) < unitsPerOne := Int.natCast_pos.mpr unitsPerOne_pos
  rw [lt_units hx hy]
  exact Int.mul_lt_mul_right hpos

/-- The word of a whole double that has room in it. -/
theorem toWord_whole {k : Nat} (hx : units? x = some ((k * unitsPerOne : Nat) : Int))
    (hk : k < 2 ^ 64) : toWord x = k := by
  rw [toWord_units hx, Int.toNat_natCast, Nat.mul_div_cancel _ unitsPerOne_pos]
  omega

/-- The sum of whole doubles is their exact sum where that one is a double. -/
theorem units?_add_whole {t t' : Int} (hx : units? x = some (t * unitsPerOne))
    (hy : units? y = some (t' * unitsPerOne)) (hsmall : (t + t').natAbs ≤ 2 ^ 53) :
    units? (x + y) = some ((t + t') * unitsPerOne) := by
  obtain ⟨negative, hsum, hbelow, habove⟩ := add_units hx hy
  rw [← Int.add_mul] at hsum hbelow habove
  generalize t + t' = r at *
  have hpos : (0 : Int) < unitsPerOne := Int.natCast_pos.mpr unitsPerOne_pos
  have hwhole : nearest (r * unitsPerOne).natAbs unitsPerOne = nearest r.natAbs 1 := by
    rw [Int.natAbs_mul, Int.natAbs_natCast]
    exact nearest_congr unitsPerOne_pos Nat.one_pos (Nat.mul_one _)
  rw [hsum, hwhole, units?_ofMagnitude negative (nearest_lt_infinityBits hsmall),
    unitsOf_nearest_whole hsmall, ← signed_mul]
  have hsigned : signed negative r.natAbs = r := by
    rcases Int.lt_trichotomy r 0 with hr | rfl | hr
    · rw [hbelow (Int.mul_neg_of_neg_of_pos hr hpos)]
      exact (Int.eq_neg_of_eq_neg (Int.ofNat_natAbs_of_nonpos (Int.le_of_lt hr))).symm
    · exact signed_zero negative
    · rw [habove (Int.mul_pos hr hpos)]
      exact Int.natAbs_of_nonneg (Int.le_of_lt hr)
  rw [hsigned]

/-! ## Signed words -/

theorem units?_abs (hx : units? x = some u) : units? x.abs = some (u.natAbs : Int) := by
  obtain ⟨negative, m, s, h, rfl, rfl⟩ := exists_of_units? hx
  have habs : (ofMagnitude negative (bitsOf m s)).abs = ofMagnitude false (bitsOf m s) := by
    change Float.ofModel (.pack (ofMagnitude negative (bitsOf m s)).toModel.unpack.abs) = _
    refine ofModel_pack ?_
    rw [unpack_ofMagnitude negative h, ← pack_finite false h]
    split_ifs <;> rfl
  rw [habs, units?_bitsOf false h, natAbs_signed]
  rfl

/-- A whole part that is small enough is the signed word. -/
theorem toSignedWord_units (hx : units? x = some u)
    (hsmall : u.natAbs < 2 * fractionSize * unitsPerOne) : toSignedWord x = u.tdiv unitsPerOne := by
  have hquot : u.natAbs / unitsPerOne < 2 * fractionSize :=
    (Nat.div_lt_iff_lt_mul unitsPerOne_pos).mpr hsmall
  unfold fractionSize at hquot
  unfold toSignedWord signBit
  rw [toWord_units hx, toWord_units (units?_neg hx)]
  generalize unitsPerOne = one at *
  by_cases hu : u < 0
  · obtain ⟨k, rfl⟩ : ∃ k : Nat, u = -k := ⟨u.natAbs, by omega⟩
    rw [Int.natAbs_neg, Int.natAbs_natCast] at hquot
    rw [if_pos ((lt_units hx units?_zero).mpr hu), Int.neg_neg, Int.toNat_natCast, Int.neg_tdiv,
      ← Int.ofNat_tdiv, Nat.min_eq_left (show k / one ≤ 2 ^ 64 - 1 by omega),
      Nat.min_eq_left (by omega)]
  · obtain ⟨k, rfl⟩ := Int.eq_ofNat_of_zero_le (Int.not_lt.mp hu)
    rw [Int.natAbs_natCast] at hquot
    rw [if_neg (mt (lt_units hx units?_zero).mp hu), Int.toNat_natCast, ← Int.ofNat_tdiv,
      Nat.min_eq_left (show k / one ≤ 2 ^ 64 - 1 by omega), Nat.min_eq_left (by omega)]

/-! ## The text of a number -/

/-- The decimal that is shown for `m * 2^s` units: the number itself when it is whole and small
enough, else the shortest one. -/
def shown (m s : Nat) : Decimal :=
  if unitsPerOne ∣ m * 2 ^ s ∧ m * 2 ^ s < 2 * fractionSize * unitsPerOne then
    ⟨m * 2 ^ s / unitsPerOne, 0⟩
  else .shortest .up m s

/-- It stands for the double. -/
theorem magnitude_shown (h : IsFinite m s) : (shown m s).magnitude = bitsOf m s := by
  unfold shown
  split_ifs with hwhole
  · have hunits := Nat.div_mul_cancel hwhole.1
    have hself := nearest_bitsOf h Nat.one_pos (hunits.trans (Nat.mul_one _).symm)
    rw [Decimal.magnitude_eq_rounded]
    unfold Decimal.rounded
    simpa using hself
  · exact Decimal.magnitude_shortest .up h

theorem plain_of_nan (h : exact x = .nan) : plain x = "NaN" := by
  unfold plain
  rw [h]

theorem plain_of_infinite {negative : Bool} (h : exact x = .infinite negative) :
    plain x = if negative then "-Infinity" else "Infinity" := by
  unfold plain
  rw [h]

theorem toList_toString_signed (negative : Bool) (n : Nat) :
    (toString (signed negative n)).toList =
      (if negative && n ≠ 0 then ['-'] else []) ++ Nat.toDigits 10 n := by
  cases negative with
  | false => exact String.toList_ofList
  | true =>
    cases n with
    | zero => rfl
    | succ n =>
      change ("-" ++ String.ofList (Nat.toDigits 10 (n + 1))).toList = _
      rw [String.toList_append]
      exact congrArg ('-' :: ·) String.toList_ofList

theorem positional_whole (n : Nat) : (⟨n, 0⟩ : Decimal).positional = Nat.toDigits 10 n :=
  List.append_nil _

/-- Which finite doubles are shown as whole numbers. -/
theorem whole_and_small_iff {negative : Bool} (h : exact x = .finite negative m s) :
    (fract x == 0.0 && x.abs < ofNat (2 * fractionSize)) =
      decide (unitsPerOne ∣ m * 2 ^ s ∧ m * 2 ^ s < 2 * fractionSize * unitsPerOne) := by
  have hunits := units?_of_finite h
  have hlimit : units? (ofNat (2 * fractionSize)) =
      some ((2 * fractionSize * unitsPerOne : Nat) : Int) := by
    unfold ofNat
    rw [units?_ofMagnitude false (by decide +kernel), unitsOf_nearest_whole (by decide)]
    rfl
  have hwhole : fract x == 0.0 ↔ unitsPerOne ∣ m * 2 ^ s := by
    rw [fract_beq_zero hunits, decide_eq_true_iff, ← Int.dvd_natAbs, natAbs_signed,
      Int.natCast_dvd_natCast]
  have hsmall : x.abs < ofNat (2 * fractionSize) ↔ m * 2 ^ s < 2 * fractionSize * unitsPerOne := by
    rw [lt_units (units?_abs hunits) hlimit, natAbs_signed, Int.ofNat_lt]
  rw [Bool.eq_iff_iff, Bool.and_eq_true, decide_eq_true_iff, decide_eq_true_iff, hwhole, hsmall]

/-- The text of a finite double is the decimal that is shown, and only zero has no sign when its
sign bit is set. -/
theorem plain_finite {negative : Bool} (h : exact x = .finite negative m s) :
    (plain x).toList = (if negative && m ≠ 0 then ['-'] else []) ++ (shown m s).positional := by
  unfold plain shown
  rw [h]
  simp only [whole_and_small_iff h, decide_eq_true_iff]
  by_cases hshort : unitsPerOne ∣ m * 2 ^ s ∧ m * 2 ^ s < 2 * fractionSize * unitsPerOne
  · have hword := toSignedWord_units (units?_of_finite h) (by rw [natAbs_signed]; exact hshort.2)
    have hzero : m * 2 ^ s / unitsPerOne ≠ 0 ↔ m ≠ 0 := by
      rw [Nat.div_ne_zero_iff_of_dvd hshort.1, Nat.mul_ne_zero_iff]
      exact ⟨fun hne => hne.1.1, fun hm =>
        ⟨⟨hm, Nat.ne_of_gt (Nat.two_pow_pos s)⟩, Nat.ne_of_gt unitsPerOne_pos⟩⟩
    rw [signed_tdiv] at hword
    rw [if_pos hshort, if_pos hshort, hword]
    generalize m * 2 ^ s / unitsPerOne = k at *
    rw [toList_toString_signed, positional_whole]
    simp only [hzero]
  · have hm : m ≠ 0 := by
      rintro rfl
      refine hshort ?_
      rw [Nat.zero_mul]
      exact ⟨dvd_zero _, Nat.mul_pos (by decide) unitsPerOne_pos⟩
    rw [if_neg hshort, if_neg hshort, String.toList_ofList, decide_eq_true hm, Bool.and_true]
    cases negative <;> rfl

/-- The text of a finite double from zero up starts with a digit, and the lexer reads that
double back from it. -/
theorem plain_reads_back (h : exact x = .finite false m s) :
    ∃ c cs, (plain x).toList = c :: cs ∧ c.isDigit = true ∧
      ∀ rest, EndsNumber rest → ∃ whole fraction,
        splitPointed (c :: (cs ++ rest)) = (whole, fraction, rest) ∧
          (Decimal.ofParts whole fraction).toFloat false = x := by
  have hfinite := (exact_finite h).1
  have hmagnitude := magnitude_shown hfinite
  obtain ⟨c, cs, hcs, hc⟩ := Decimal.positional_head (shown m s)
  refine ⟨c, cs, (plain_finite h).trans hcs, hc, fun rest hrest => ?_⟩
  have hlt : (shown m s).magnitude < infinityBits := hmagnitude ▸ hfinite.bits_lt
  obtain ⟨whole, fraction, hsplit, hsame⟩ := Decimal.splitPointed_positional hlt hrest
  rw [hcs] at hsplit
  refine ⟨whole, fraction, hsplit, ?_⟩
  unfold Decimal.toFloat
  rw [hsame, hmagnitude, ofMagnitude_finite h]

end Patchbay.Number
