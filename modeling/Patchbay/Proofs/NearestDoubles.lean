-- The double nearest to a number, told without rounding: none is nearer, and of two at the same
-- distance it is the one with an even significand. There is one such double for each number,
-- and it is the one to which decimals are rounded.
import Patchbay.Proofs.DoubleValues

namespace Patchbay.Number

/-! ## Distances -/

/-- How far a number is from the double with these bits. Infinity counts as the power of two
that follows the finite doubles. -/
def distance (q : ℚ) (bits : Nat) : ℚ := |q - (unitsOf bits : ℚ) / unitsPerOne|

/-- The double has no sign, and no other one without a sign is nearer to the number; one at the
same distance has odd bits. -/
def IsNearest (q : ℚ) (x : Float) : Prop :=
  ∃ a ≤ infinityBits, x = .ofBits (.ofNat a) ∧ ∀ b ≤ infinityBits,
    distance q a ≤ distance q b ∧ (distance q b = distance q a → b = a ∨ a % 2 = 0)

variable {q : ℚ} {x y : Float} {num den a b s k : Nat}

/-- There is a double between two with even bits, so both cannot be nearest. -/
theorem not_both_nearest (h : a < b) (hb : b ≤ infinityBits)
    (ha : ∀ c ≤ infinityBits, distance q a ≤ distance q c ∧
      (distance q c = distance q a → c = a ∨ a % 2 = 0))
    (hb' : ∀ c ≤ infinityBits, distance q b ≤ distance q c ∧
      (distance q c = distance q b → c = b ∨ b % 2 = 0)) : False := by
  have hsame : distance q a = distance q b :=
    le_antisymm (ha b hb).1 (hb' a (by omega)).1
  have heven := (ha b hb).2 hsame.symm
  have heven' := (hb' a (by omega)).2 hsame
  have hnext : a + 1 < b := by omega
  have hnear := (ha (a + 1) (by omega)).1
  have hone := unitsPerOne_cast_pos
  have hlower : (unitsOf a : ℚ) / unitsPerOne < unitsOf (a + 1) / unitsPerOne :=
    div_lt_div_of_pos_right (by exact_mod_cast unitsOf_lt (Nat.lt_succ_self a)) hone
  have hupper : (unitsOf (a + 1) : ℚ) / unitsPerOne < unitsOf b / unitsPerOne :=
    div_lt_div_of_pos_right (by exact_mod_cast unitsOf_lt hnext) hone
  unfold distance at hsame hnear
  -- The number is half way between the two, where the one between them is nearer.
  rcases abs_eq_abs.mp hsame with heq | heq
  · linarith
  · refine absurd hnear (not_le_of_gt ?_)
    rw [abs_of_pos (show 0 < q - (unitsOf a : ℚ) / unitsPerOne by linarith)]
    exact abs_lt.mpr ⟨by linarith, by linarith⟩

/-- A number has one nearest double. -/
theorem IsNearest.unique (h : IsNearest q x) (h' : IsNearest q y) : x = y := by
  obtain ⟨a, ha, rfl, hnear⟩ := h
  obtain ⟨b, hb, rfl, hnear'⟩ := h'
  rcases Nat.lt_trichotomy a b with hlt | rfl | hlt
  · exact (not_both_nearest hlt hb hnear hnear').elim
  · rfl
  · exact (not_both_nearest hlt ha hnear' hnear).elim

/-! ## The nearest whole number -/

/-- A half is rounded to the even one of its two neighbours, anything else to the nearer. -/
theorem roundEven_cases (num den : Nat) :
    roundEven num den = num / den ∧ 2 * (num % den) ≤ den ∧
        (2 * (num % den) = den → num / den % 2 = 0) ∨
      roundEven num den = num / den + 1 ∧ den ≤ 2 * (num % den) ∧
        (2 * (num % den) = den → num / den % 2 = 1) := by
  unfold roundEven
  dsimp only
  split_ifs <;> omega

/-- No whole number of steps is nearer than the one rounded to, and one at the same distance
makes that one even. -/
theorem roundEven_nearest (num : Nat) (hden : 0 < den) (k : Nat) :
    ((num : Int) - (roundEven num den * den : Nat)).natAbs ≤
        ((num : Int) - (k * den : Nat)).natAbs ∧
      (((num : Int) - (k * den : Nat)).natAbs =
          ((num : Int) - (roundEven num den * den : Nat)).natAbs →
        k = roundEven num den ∨ roundEven num den % 2 = 0) := by
  have hsum := Nat.mod_add_div num den
  have hrest := Nat.mod_lt num hden
  have hcases := roundEven_cases num den
  rw [Nat.mul_comm] at hsum
  generalize num / den = whole at *
  generalize num % den = rest at *
  have hnext : (whole + 1) * den = whole * den + den := Nat.succ_mul _ _
  have hk : k * den + den ≤ whole * den ∨ k = whole ∨ k = whole + 1 ∨
      whole * den + den + den ≤ k * den := by
    rcases Nat.lt_trichotomy k whole with hlt | heq | hlt
    · exact .inl (Nat.succ_mul k den ▸ Nat.mul_le_mul_right den hlt)
    · exact .inr (.inl heq)
    · rcases Nat.lt_or_eq_of_le hlt with hlt | heq
      · have hle : (whole + 2) * den ≤ k * den := Nat.mul_le_mul_right den hlt
        rw [Nat.add_mul, Nat.two_mul] at hle
        omega
      · exact .inr (.inr (.inl heq.symm))
  rcases hcases with ⟨hround, hcases⟩ | ⟨hround, hcases⟩ <;> rw [hround] <;>
    rcases hk with hk | rfl | rfl | hk <;> omega

/-! ## Rounding to the nearest double -/

/-- How many parts of a unit, each of which is one over `den`, lie between the number and a
double. -/
def gap (num den bits : Nat) : Nat :=
  ((num * unitsPerOne : Nat) - (unitsOf bits * den : Nat) : Int).natAbs

theorem distance_eq (num : Nat) (hden : 0 < den) (bits : Nat) :
    distance ((num : ℚ) / den) bits = gap num den bits / (den * unitsPerOne) := by
  have hone := unitsPerOne_cast_pos
  have hpos : (0 : ℚ) < den := by exact_mod_cast hden
  unfold distance gap
  rw [Nat.cast_natAbs, div_sub_div _ _ (ne_of_gt hpos) (ne_of_gt hone), abs_div,
    abs_of_pos (mul_pos hpos hone)]
  push_cast
  rw [mul_comm (den : ℚ) (unitsOf bits)]

/-- The significand and the scale of bits, put together with a significand that may carry. -/
theorem unitsOf_scaled {r : Nat} (hr : r ≤ 2 * fractionSize) (hnormal : fractionSize ≤ r ∨ s = 0) :
    unitsOf (s * fractionSize + r) = r * 2 ^ s := by
  have hsize : 0 < fractionSize := by decide
  unfold unitsOf
  rcases Nat.lt_or_ge r fractionSize with hlt | hge
  · have hs : s = 0 := by omega
    subst hs
    rw [Nat.zero_mul, Nat.zero_add, Nat.div_eq_of_lt hlt, if_pos rfl, Nat.pow_zero, Nat.mul_one]
  · rcases Nat.lt_or_eq_of_le hr with hlt | rfl
    · have hquot : (s * fractionSize + r) / fractionSize = s + 1 := by
        unfold fractionSize at *
        omega
      have hrest : fractionSize + (s * fractionSize + r) % fractionSize = r := by
        unfold fractionSize at *
        omega
      rw [hquot, hrest, if_neg (Nat.succ_ne_zero s), Nat.add_sub_cancel]
    · have hquot : (s * fractionSize + 2 * fractionSize) / fractionSize = s + 1 + 1 := by
        rw [← Nat.add_mul, Nat.mul_div_left _ hsize]
      rw [hquot, ← Nat.add_mul, Nat.mul_mod_left, if_neg (Nat.succ_ne_zero _), Nat.add_sub_cancel,
        Nat.add_zero, Nat.pow_succ]
      ac_rfl

/-- A double has a whole number of steps of each scale, or it is below all that need the scale. -/
theorem unitsOf_steps (bits s : Nat) :
    (∃ k, unitsOf bits = k * 2 ^ s) ∨ unitsOf bits < fractionSize * 2 ^ s ∧ 0 < s := by
  have hrest := Nat.mod_lt bits (show 0 < fractionSize by decide)
  have hsum := Nat.mod_add_div bits fractionSize
  unfold unitsOf
  generalize bits / fractionSize = e at *
  rcases Nat.lt_or_ge (e - 1) s with hlt | hle
  · refine .inr ⟨?_, by omega⟩
    split_ifs with he
    · subst he
      have hone : fractionSize ≤ fractionSize * 2 ^ s :=
        Nat.le_mul_of_pos_right _ (Nat.two_pow_pos s)
      omega
    · have hpow : 2 ^ (e - 1 + 1) ≤ 2 ^ s := Nat.pow_le_pow_right (by decide) hlt
      calc (fractionSize + bits % fractionSize) * 2 ^ (e - 1)
          < 2 * fractionSize * 2 ^ (e - 1) :=
            Nat.mul_lt_mul_of_pos_right (by omega) (Nat.two_pow_pos _)
        _ = fractionSize * 2 ^ (e - 1 + 1) := by rw [Nat.pow_succ]; ac_rfl
        _ ≤ fractionSize * 2 ^ s := Nat.mul_le_mul_left _ hpow
  · refine .inl ?_
    split_ifs with he
    · exact ⟨bits, by rw [show s = 0 by omega, Nat.pow_zero, Nat.mul_one]⟩
    · refine ⟨(fractionSize + bits % fractionSize) * 2 ^ (e - 1 - s), ?_⟩
      rw [Nat.mul_assoc, ← Nat.pow_add, Nat.sub_add_cancel hle]

/-- Infinity is as many units as a significand that carries past the last scale. -/
theorem exists_unitsOf_infinity :
    ∃ t, t = 2046 ∧ unitsOf infinityBits = fractionSize * 2 ^ t :=
  ⟨2046, rfl, unitsOf_scaled (s := 2046) (r := fractionSize) (by decide) (.inl (Nat.le_refl _))⟩

theorem unitsOf_inj {a b : Nat} (h : unitsOf a = unitsOf b) : a = b := by
  rcases Nat.lt_trichotomy a b with hlt | heq | hlt
  · exact absurd h (Nat.ne_of_lt (unitsOf_lt hlt))
  · exact heq
  · exact absurd h (Nat.ne_of_gt (unitsOf_lt hlt))

/-- What is not below infinity has infinity as its nearest. -/
theorem gap_infinity (hden : 0 < den) (hle : unitsOf infinityBits * den ≤ num * unitsPerOne)
    (hb : b ≤ infinityBits) : gap num den infinityBits ≤ gap num den b ∧
      (gap num den b = gap num den infinityBits → b = infinityBits) := by
  have hmono : unitsOf b * den ≤ unitsOf infinityBits * den :=
    Nat.mul_le_mul_right den (unitsOf_mono hb)
  unfold gap
  refine ⟨by omega, fun hsame => unitsOf_inj ?_⟩
  exact Nat.eq_of_mul_eq_mul_right hden (by omega)

/-- The bits of a significand and a scale, where the significand is rounded, are nearest. -/
theorem gap_scaled (hden : 0 < den) (h : HasScale (num * unitsPerOne) den s)
    (ha : a = s * fractionSize + roundEven (num * unitsPerOne) (den * 2 ^ s)) (b : Nat) :
    gap num den a ≤ gap num den b ∧
      (gap num den b = gap num den a → b = a ∨ a % 2 = 0) := by
  have hnormal : fractionSize ≤ roundEven (num * unitsPerOne) (den * 2 ^ s) ∨ s = 0 := by
    rcases Nat.eq_zero_or_pos s with hzero | hpos
    · exact .inr hzero
    · exact .inl (h.le_round hden hpos)
  have hunits := unitsOf_scaled (h.round_le hden) hnormal
  rw [← ha] at hunits
  have hround := roundEven_nearest (num * unitsPerOne) (Nat.mul_pos hden (Nat.two_pow_pos s))
  have hsteps : ∀ k, k * 2 ^ s * den = k * (den * 2 ^ s) := fun k => by ac_rfl
  generalize roundEven (num * unitsPerOne) (den * 2 ^ s) = r at *
  unfold gap
  rw [hunits, hsteps]
  rcases unitsOf_steps b s with ⟨k, hk⟩ | ⟨hlt, hs⟩
  · obtain ⟨hle, htie⟩ := hround k
    rw [hk, hsteps]
    refine ⟨hle, fun hsame => (htie hsame).imp (fun heq => unitsOf_inj ?_) fun heven => ?_⟩
    · rw [hk, hunits, heq]
    · unfold fractionSize at ha
      omega
  · -- What is below all that need the scale is farther than the least that does.
    have hleast := (hround fractionSize).1
    have hfrom := h.normal.resolve_right (Nat.ne_of_gt hs)
    have hlt' : unitsOf b * den < fractionSize * (den * 2 ^ s) := by
      rw [← hsteps]
      exact Nat.mul_lt_mul_of_pos_right hlt hden
    rw [Nat.mul_comm _ (2 ^ 52)] at hfrom
    change fractionSize * (den * 2 ^ s) ≤ _ at hfrom
    omega

/-- No double is nearer than the one rounded to, and one at the same distance makes it even. -/
theorem gap_nearest (num : Nat) (hden : 0 < den) (hb : b ≤ infinityBits) :
    gap num den (nearest num den) ≤ gap num den b ∧
      (gap num den b = gap num den (nearest num den) →
        b = nearest num den ∨ nearest num den % 2 = 0) := by
  obtain ⟨s, hs⟩ := exists_hasScale (num * unitsPerOne) hden
  have hround := hs.round_le hden
  rw [nearest_eq hden hs]
  rcases Nat.lt_or_ge infinityBits (s * fractionSize + roundEven (num * unitsPerOne) (den * 2 ^ s))
    with hover | hfits
  · obtain ⟨t, ht, hinfinity⟩ := exists_unitsOf_infinity
    have hscale : t ≤ s ∧ 0 < s := by
      unfold infinityBits at hover
      unfold fractionSize at *
      omega
    have hle : unitsOf infinityBits * den ≤ num * unitsPerOne := by
      calc unitsOf infinityBits * den
          ≤ fractionSize * 2 ^ s * den := by
            rw [hinfinity]
            exact Nat.mul_le_mul_right den
              (Nat.mul_le_mul_left _ (Nat.pow_le_pow_right (by decide) hscale.1))
        _ = den * 2 ^ s * fractionSize := by ac_rfl
        _ ≤ num * unitsPerOne := hs.normal.resolve_right (Nat.ne_of_gt hscale.2)
    rw [min_eq_right (Nat.le_of_lt hover)]
    exact (gap_infinity hden hle hb).imp_right fun h hsame => .inl (h hsame)
  · rw [min_eq_left hfits]
    exact gap_scaled hden hs rfl b

theorem ofMagnitude_eq (bits : Nat) : ofMagnitude false bits = .ofBits (.ofNat bits) := rfl

/-- Rounding gives the nearest double. -/
theorem nearest_isNearest (num : Nat) (hden : 0 < den) :
    IsNearest ((num : ℚ) / den) (ofMagnitude false (nearest num den)) := by
  refine ⟨nearest num den, nearest_le num den, ofMagnitude_eq _, fun b hb => ?_⟩
  obtain ⟨hle, htie⟩ := gap_nearest num hden hb
  have hpos : (0 : ℚ) < den * unitsPerOne := mul_pos (by exact_mod_cast hden) unitsPerOne_cast_pos
  rw [distance_eq num hden, distance_eq num hden]
  refine ⟨div_le_div_of_nonneg_right (by exact_mod_cast hle) hpos.le, fun hsame => htie ?_⟩
  exact_mod_cast (div_left_inj' (ne_of_gt hpos)).mp hsame

/-! ## Decimals -/

/-- A decimal stands for the double nearest to it. -/
theorem Decimal.toFloat_isNearest (d : Decimal) :
    IsNearest (d.digits * 10 ^ d.exponent) (d.toFloat false) := by
  have hvalue : (d.digits : ℚ) * 10 ^ d.exponent =
      (d.digits * 10 ^ d.exponent.toNat : ℕ) / (10 ^ (-d.exponent).toNat : ℕ) := by
    have hsplit : d.exponent = (d.exponent.toNat : ℤ) - ((-d.exponent).toNat : ℤ) := by omega
    conv_lhs => rw [hsplit, zpow_sub₀ (by norm_num), zpow_natCast, zpow_natCast]
    push_cast
    ring
  unfold toFloat
  rw [magnitude_eq_rounded, hvalue]
  exact nearest_isNearest _ (Nat.pow_pos (by decide))

/-- The number that digits before and after a point write. -/
def numberOf (whole fraction : List Char) : ℚ :=
  (Nat.ofDigits 10 ((whole ++ fraction).reverse.map fun c => c.toNat - '0'.toNat) : ℕ) /
    10 ^ fraction.length

theorem ofDigitChars_eq (cs : List Char) : Nat.ofDigitChars 10 cs 0 =
    Nat.ofDigits 10 (cs.reverse.map fun c => c.toNat - '0'.toNat) := by
  rw [Nat.ofDigits_eq_foldr, List.foldr_map, List.foldr_reverse]
  unfold Nat.ofDigitChars
  congr 1
  funext n c
  exact Nat.add_comm _ _

/-- Digits with a point are read as the double nearest to what they write. -/
theorem isNearest_ofParts_iff {whole fraction : List Char} :
    IsNearest (numberOf whole fraction) x ↔ x = (Decimal.ofParts whole fraction).toFloat false := by
  have hnear := (Decimal.ofParts whole fraction).toFloat_isNearest
  have hvalue : numberOf whole fraction = (Decimal.ofParts whole fraction).digits *
      10 ^ (Decimal.ofParts whole fraction).exponent := by
    unfold numberOf Decimal.ofParts
    dsimp only
    rw [ofDigitChars_eq, zpow_neg, zpow_natCast, div_eq_mul_inv]
  rw [← hvalue] at hnear
  exact ⟨fun h => h.unique hnear, fun h => h ▸ hnear⟩

end Patchbay.Number
