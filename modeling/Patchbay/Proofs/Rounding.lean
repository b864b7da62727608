-- Rounding to the nearest double. A larger quotient is never rounded to a smaller double,
-- so quotients that are equal are rounded to the same one, and what is itself a double
-- stays what it is.
import Patchbay.Proofs.NumberText

namespace Patchbay.Number

variable {num den num' den' m s : Nat}

/-! ## Rounding to a whole number -/

theorem roundEven_bounds (num den : Nat) :
    num / den ≤ roundEven num den ∧ roundEven num den ≤ num / den + 1 := by
  unfold roundEven
  dsimp only
  split_ifs <;> omega

theorem roundEven_mul_right (num den : Nat) {c : Nat} (hc : 0 < c) :
    roundEven (num * c) (den * c) = roundEven num den := by
  have hlt : ∀ a b : Nat, (2 * (a * c) < b * c) = (2 * a < b) := by
    intro a b
    rw [← Nat.mul_assoc, Nat.mul_lt_mul_right hc]
  have hgt : ∀ a b : Nat, (b * c < 2 * (a * c)) = (b < 2 * a) := by
    intro a b
    rw [← Nat.mul_assoc, Nat.mul_lt_mul_right hc]
  unfold roundEven
  simp only [Nat.mul_div_mul_right _ _ hc, Nat.mul_mod_mul_right, hlt, hgt]

theorem roundEven_mono_left (den : Nat) (h : num ≤ num') :
    roundEven num den ≤ roundEven num' den := by
  have hquot : num / den ≤ num' / den := Nat.div_le_div_right h
  rcases Nat.lt_or_eq_of_le hquot with hlt | heq
  · have hupper := (roundEven_bounds num den).2
    have hlower := (roundEven_bounds num' den).1
    omega
  · have hsum := Nat.mod_add_div num den
    have hsum' := Nat.mod_add_div num' den
    rw [← heq] at hsum'
    have hmod : num % den ≤ num' % den := by omega
    unfold roundEven
    dsimp only
    rw [← heq]
    split_ifs <;> omega

/-- Quotients are rounded in their order. -/
theorem roundEven_mono (hden : 0 < den) (hden' : 0 < den') (h : num * den' ≤ num' * den) :
    roundEven num den ≤ roundEven num' den' := by
  have hleft := roundEven_mono_left (den * den') h
  have hright := roundEven_mul_right num' den' hden
  rw [roundEven_mul_right num den hden'] at hleft
  rwa [Nat.mul_comm den den', hright] at hleft

/-! ## Rounding to a double -/

theorem unitsPerOne_pos : 0 < unitsPerOne := by
  unfold unitsPerOne
  generalize 1074 = n
  exact Nat.two_pow_pos n

/-- One is a power of two in units; the power is named, as it is too large to write out. -/
theorem exists_unitsPerOne : ∃ n, n = 1074 ∧ unitsPerOne = 2 ^ n := by
  unfold unitsPerOne
  generalize 1074 = n
  exact ⟨n, rfl, rfl⟩

/-- The last power of ten below infinity. The powers are named as well. -/
theorem exists_largest_power :
    ∃ k, k = 308 ∧ nearest (10 ^ k) 1 < infinityBits ∧ nearest (10 ^ (k + 1)) 1 = infinityBits :=
  ⟨308, rfl, by decide +kernel⟩

/-- The scale of the double nearest to so many units over `den`: the smallest one that leaves
at most 53 bits before the point. -/
structure HasScale (units den s : Nat) : Prop where
  lt : units < den * 2 ^ s * 2 ^ 53
  normal : den * 2 ^ s * 2 ^ 52 ≤ units ∨ s = 0

variable {units units' s' : Nat}

theorem HasScale.log2 (hden : 0 < den) (h : HasScale units den s) :
    (units / den).log2 - 52 = s := by
  have hupper : units / den < 2 ^ (s + 53) := by
    rw [Nat.div_lt_iff_lt_mul hden, Nat.pow_add, Nat.mul_comm, ← Nat.mul_assoc]
    exact h.lt
  rcases h.normal with hnormal | rfl
  · have hlower : 2 ^ (s + 52) ≤ units / den := by
      rw [Nat.le_div_iff_mul_le hden, Nat.pow_add, Nat.mul_comm, ← Nat.mul_assoc]
      exact hnormal
    have hpos : units / den ≠ 0 := Nat.ne_of_gt (Nat.lt_of_lt_of_le (Nat.two_pow_pos _) hlower)
    have hlog : (units / den).log2 = s + 52 := (Nat.log2_eq_iff hpos).mpr ⟨hlower, hupper⟩
    omega
  · by_cases hpos : units / den = 0
    · rw [hpos]
      rfl
    · have hlog := (Nat.log2_lt hpos).mpr hupper
      omega

theorem exists_hasScale (units : Nat) (hden : 0 < den) : ∃ s, HasScale units den s := by
  generalize hlog : (units / den).log2 = l
  refine ⟨l - 52, ?_, ?_⟩
  · have hself : units / den < 2 ^ (l + 1) := hlog ▸ Nat.lt_log2_self
    have hpow : 2 ^ (l + 1) ≤ 2 ^ (l - 52 + 53) := Nat.pow_le_pow_right (by decide) (by omega)
    have hlt := (Nat.div_lt_iff_lt_mul hden).mp (Nat.lt_of_lt_of_le hself hpow)
    rwa [Nat.pow_add, Nat.mul_comm, ← Nat.mul_assoc] at hlt
  · by_cases hsmall : l ≤ 52
    · exact Or.inr (by omega)
    · have hpos : units / den ≠ 0 := by
        intro hzero
        rw [hzero] at hlog
        subst hlog
        exact hsmall (by decide)
      have hself : 2 ^ (l - 52 + 52) ≤ units / den := by
        rw [Nat.sub_add_cancel (by omega), ← hlog]
        exact Nat.log2_self_le hpos
      rw [Nat.le_div_iff_mul_le hden, Nat.pow_add, Nat.mul_comm, ← Nat.mul_assoc] at hself
      exact Or.inl hself

theorem HasScale.round_le (hden : 0 < den) (h : HasScale units den s) :
    roundEven units (den * 2 ^ s) ≤ 2 * fractionSize := by
  have hpos : 0 < den * 2 ^ s := Nat.mul_pos hden (Nat.two_pow_pos s)
  have hle := roundEven_mono_left (den * 2 ^ s) (Nat.le_of_lt h.lt)
  rwa [Nat.mul_comm (den * 2 ^ s), roundEven_mul hpos] at hle

theorem HasScale.le_round (hden : 0 < den) (h : HasScale units den s) (hs : 0 < s) :
    fractionSize ≤ roundEven units (den * 2 ^ s) := by
  have hpos : 0 < den * 2 ^ s := Nat.mul_pos hden (Nat.two_pow_pos s)
  have hnormal := h.normal.resolve_right (Nat.ne_of_gt hs)
  have hle := roundEven_mono_left (den * 2 ^ s) hnormal
  rwa [Nat.mul_comm (den * 2 ^ s), roundEven_mul hpos] at hle

/-- A smaller quotient has no larger scale. -/
theorem HasScale.mono (hden : 0 < den) (h : HasScale units den s)
    (h' : HasScale units' den' s') (hle : units * den' ≤ units' * den) : s ≤ s' := by
  by_contra hlt
  have hnormal := h.normal.resolve_right (by omega)
  have hpow : 2 ^ (s' + 53) ≤ 2 ^ (s + 52) := Nat.pow_le_pow_right (by decide) (by omega)
  have hstrict : units' * den < units * den' := by
    calc units' * den
        < den' * 2 ^ s' * 2 ^ 53 * den := Nat.mul_lt_mul_of_pos_right h'.lt hden
      _ = den * den' * 2 ^ (s' + 53) := by rw [Nat.pow_add]; ac_rfl
      _ ≤ den * den' * 2 ^ (s + 52) := Nat.mul_le_mul_left _ hpow
      _ = den * 2 ^ s * 2 ^ 52 * den' := by rw [Nat.pow_add]; ac_rfl
      _ ≤ units * den' := Nat.mul_le_mul_right _ hnormal
  omega

theorem nearest_eq (hden : 0 < den) (h : HasScale (num * unitsPerOne) den s) :
    nearest num den =
      min (s * fractionSize + roundEven (num * unitsPerOne) (den * 2 ^ s)) infinityBits := by
  have hscale := h.log2 hden
  unfold nearest
  simp only [hscale]
  rfl

/-- The scale and the significand together are in the order of the quotients. -/
theorem scaled_mono (hden : 0 < den) (hden' : 0 < den') (h : HasScale units den s)
    (h' : HasScale units' den' s') (hle : units * den' ≤ units' * den) :
    s * fractionSize + roundEven units (den * 2 ^ s) ≤
      s' * fractionSize + roundEven units' (den' * 2 ^ s') := by
  rcases Nat.lt_or_eq_of_le (h.mono hden h' hle) with hlt | rfl
  · have hupper := h.round_le hden
    have hlower := h'.le_round hden' (by omega)
    have hstep : (s + 1) * fractionSize ≤ s' * fractionSize := Nat.mul_le_mul_right _ hlt
    rw [Nat.add_mul] at hstep
    omega
  · refine Nat.add_le_add_left (roundEven_mono ?_ ?_ ?_) _
    · exact Nat.mul_pos hden (Nat.two_pow_pos s)
    · exact Nat.mul_pos hden' (Nat.two_pow_pos s)
    · calc units * (den' * 2 ^ s) = units * den' * 2 ^ s := by ac_rfl
        _ ≤ units' * den * 2 ^ s := Nat.mul_le_mul_right _ hle
        _ = units' * (den * 2 ^ s) := by ac_rfl

/-- Quotients are rounded to doubles in their order. -/
theorem nearest_mono (hden : 0 < den) (hden' : 0 < den') (h : num * den' ≤ num' * den) :
    nearest num den ≤ nearest num' den' := by
  obtain ⟨s, hs⟩ := exists_hasScale (num * unitsPerOne) hden
  obtain ⟨s', hs'⟩ := exists_hasScale (num' * unitsPerOne) hden'
  have hle : num * unitsPerOne * den' ≤ num' * unitsPerOne * den := by
    rw [Nat.mul_right_comm, Nat.mul_right_comm num']
    exact Nat.mul_le_mul_right _ h
  rw [nearest_eq hden hs, nearest_eq hden' hs']
  exact min_le_min_right infinityBits (scaled_mono hden hden' hs hs' hle)

/-- Equal quotients are rounded to the same double. -/
theorem nearest_congr (hden : 0 < den) (hden' : 0 < den') (h : num * den' = num' * den) :
    nearest num den = nearest num' den' :=
  Nat.le_antisymm (nearest_mono hden hden' (Nat.le_of_eq h))
    (nearest_mono hden' hden (Nat.le_of_eq h.symm))

theorem nearest_zero (den : Nat) : nearest 0 den = 0 := by
  unfold nearest roundEven
  simp [Nat.log2]

/-! ## The values of doubles -/

/-- How many units the double with these bits has. -/
def unitsOf (bits : Nat) : Nat :=
  if bits / fractionSize = 0 then bits
  else (fractionSize + bits % fractionSize) * 2 ^ (bits / fractionSize - 1)

theorem unitsOf_bitsOf (h : IsFinite m s) : unitsOf (bitsOf m s) = m * 2 ^ s := by
  unfold unitsOf
  by_cases hm : m < fractionSize
  · have hs : s = 0 := h.normal.resolve_left (Nat.not_le.mpr hm)
    subst hs
    unfold bitsOf
    rw [Nat.zero_mul, Nat.zero_add, Nat.div_eq_of_lt hm, if_pos rfl, Nat.pow_zero, Nat.mul_one]
  · obtain ⟨hquot, hrest⟩ := h.fields hm
    rw [hquot, hrest, if_neg (Nat.succ_ne_zero s), Nat.add_sub_cancel]

/-- Bits below those of infinity belong to a finite double. -/
theorem exists_bitsOf {bits : Nat} (h : bits < infinityBits) :
    ∃ m s, IsFinite m s ∧ bits = bitsOf m s := by
  unfold infinityBits at h
  unfold bitsOf
  by_cases hsmall : bits < fractionSize
  · exact ⟨bits, 0, ⟨by omega, by decide, Or.inr rfl⟩, by omega⟩
  · refine ⟨fractionSize + bits % fractionSize, bits / fractionSize - 1, ⟨?_, ?_, ?_⟩, ?_⟩
    all_goals unfold fractionSize at *; omega

/-- The units are in the order of the bits, also past those of infinity. -/
theorem unitsOf_lt {a b : Nat} (h : a < b) : unitsOf a < unitsOf b := by
  have hquot : a / fractionSize ≤ b / fractionSize := Nat.div_le_div_right (Nat.le_of_lt h)
  have hsum := Nat.mod_add_div a fractionSize
  have hsum' := Nat.mod_add_div b fractionSize
  have hrest : a % fractionSize < fractionSize := Nat.mod_lt a (by decide)
  unfold unitsOf
  generalize a / fractionSize = e at *
  generalize b / fractionSize = e' at *
  generalize a % fractionSize = f at *
  generalize b % fractionSize = f' at *
  rcases Nat.lt_or_eq_of_le hquot with hlt | rfl
  · have hone : fractionSize ≤ (fractionSize + f') * 2 ^ (e' - 1) :=
      Nat.le_trans (Nat.le_add_right _ _) (Nat.le_mul_of_pos_right _ (Nat.two_pow_pos _))
    rw [if_neg (show ¬e' = 0 by omega)]
    split_ifs with hzero
    · subst hzero
      omega
    · have hpow : 2 ^ (e - 1 + 1) ≤ 2 ^ (e' - 1) := Nat.pow_le_pow_right (by decide) (by omega)
      calc (fractionSize + f) * 2 ^ (e - 1)
          < 2 * fractionSize * 2 ^ (e - 1) :=
            Nat.mul_lt_mul_of_pos_right (by omega) (Nat.two_pow_pos _)
        _ = fractionSize * 2 ^ (e - 1 + 1) := by rw [Nat.pow_succ]; ac_rfl
        _ ≤ fractionSize * 2 ^ (e' - 1) := Nat.mul_le_mul_left _ hpow
        _ ≤ (fractionSize + f') * 2 ^ (e' - 1) :=
            Nat.mul_le_mul_right _ (Nat.le_add_right _ _)
  · split_ifs
    · exact h
    · exact Nat.mul_lt_mul_of_pos_right (by omega) (Nat.two_pow_pos _)

theorem unitsOf_mono {a b : Nat} (h : a ≤ b) : unitsOf a ≤ unitsOf b := by
  rcases Nat.lt_or_eq_of_le h with hlt | rfl
  · exact Nat.le_of_lt (unitsOf_lt hlt)
  · exact Nat.le_refl _

/-- What is a double is rounded to itself. -/
theorem nearest_bitsOf (h : IsFinite m s) (hden : 0 < den)
    (hvalue : num * unitsPerOne = m * 2 ^ s * den) : nearest num den = bitsOf m s := by
  rcases Nat.eq_zero_or_pos m with rfl | hm
  · have hs : s = 0 := h.normal.resolve_left (by decide)
    have hnum : num = 0 := by
      rw [Nat.zero_mul, Nat.zero_mul] at hvalue
      exact (Nat.mul_eq_zero.mp hvalue).resolve_right (Nat.ne_of_gt unitsPerOne_pos)
    rw [hnum, hs, nearest_zero]
    rfl
  · exact nearest_exact h hm hden hvalue

/-! ## The values of decimals -/

namespace Decimal

/-- The low 63 bits of the double nearest to `digits * 10^exponent`. -/
def rounded (d : Decimal) : Nat :=
  nearest (d.digits * 10 ^ d.exponent.toNat) (10 ^ (-d.exponent).toNat)

/-- A power of ten that is rounded to infinity, and one whose fraction is rounded to zero, both
named once more. -/
theorem exists_extreme_powers : ∃ huge tiny, huge = 310 ∧ tiny = 330 ∧
    nearest (10 ^ huge) 1 = infinityBits ∧ nearest 1 (10 ^ tiny) = 0 :=
  ⟨310, 330, rfl, rfl, by decide +kernel, by decide +kernel⟩

theorem rounded_zero (exponent : Int) : (⟨0, exponent⟩ : Decimal).rounded = 0 := by
  unfold rounded
  rw [Nat.zero_mul, nearest_zero]

theorem rounded_huge {d : Decimal} (hd : d.digits ≠ 0) (he : 310 ≤ d.exponent) :
    d.rounded = infinityBits := by
  obtain ⟨huge, -, hhuge, -, hinfinite, -⟩ := exists_extreme_powers
  have hpow : 10 ^ huge ≤ d.digits * 10 ^ d.exponent.toNat :=
    Nat.le_trans (Nat.pow_le_pow_right (by decide) (by omega))
      (Nat.le_mul_of_pos_left _ (Nat.pos_of_ne_zero hd))
  have hwhole : (-d.exponent).toNat = 0 := by omega
  unfold rounded
  rw [hwhole, Nat.pow_zero]
  refine Nat.le_antisymm (Nat.min_le_right _ _) ?_
  rw [← hinfinite]
  exact nearest_mono Nat.one_pos Nat.one_pos (Nat.mul_le_mul_right 1 hpow)

/-- What has so few digits for its power of ten is rounded to zero. -/
theorem rounded_tiny {d : Decimal} {width : Nat} (hd : d.digits < 10 ^ width)
    (he : d.exponent + width ≤ -330) : d.rounded = 0 := by
  obtain ⟨-, tiny, -, htiny, -, hzero⟩ := exists_extreme_powers
  have hfraction : d.exponent.toNat = 0 := by omega
  unfold rounded
  rw [hfraction, Nat.pow_zero, Nat.mul_one, ← Nat.le_zero, ← hzero]
  refine nearest_mono (Nat.pow_pos (by decide)) (Nat.pow_pos (by decide)) ?_
  calc d.digits * 10 ^ tiny
      ≤ 10 ^ width * 10 ^ tiny := Nat.mul_le_mul_right _ (Nat.le_of_lt hd)
    _ = 10 ^ (width + tiny) := (Nat.pow_add _ _ _).symm
    _ ≤ 10 ^ (-d.exponent).toNat := Nat.pow_le_pow_right (by decide) (by omega)
    _ = 1 * 10 ^ (-d.exponent).toNat := (Nat.one_mul _).symm

theorem lt_ten_pow (n : Nat) : n < 10 ^ (n.log2 / 3 + 1) :=
  calc n < 2 ^ (n.log2 + 1) := Nat.lt_log2_self
    _ ≤ 2 ^ (3 * (n.log2 / 3 + 1)) := Nat.pow_le_pow_right (by decide) (by omega)
    _ = (2 ^ 3) ^ (n.log2 / 3 + 1) := Nat.pow_mul _ _ _
    _ ≤ 10 ^ (n.log2 / 3 + 1) := Nat.pow_le_pow_left (by decide) _

/-- A decimal stands for the double nearest to it, however large or small its power of ten. -/
theorem magnitude_eq_rounded (d : Decimal) : d.magnitude = d.rounded := by
  obtain ⟨digits, exponent⟩ := d
  by_cases hzero : digits = 0
  · rw [hzero, magnitude_zero, rounded_zero]
  · unfold magnitude
    dsimp only
    rw [if_neg hzero]
    split
    · rename_i hwhole
      have hnone : (-exponent).toNat = 0 := by omega
      split
      · exact (rounded_huge hzero (by dsimp only; omega)).symm
      · simp only [rounded, hnone, Nat.pow_zero]
        rfl
    · rename_i hfraction
      have hnone : exponent.toNat = 0 := by omega
      split
      · exact (rounded_tiny (lt_ten_pow digits) (by dsimp only; omega)).symm
      · simp only [rounded, hnone, Nat.pow_zero, Nat.mul_one]
        rfl

end Decimal

end Patchbay.Number
