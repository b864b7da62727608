-- The numbers that doubles stand for. A finite double stands for a rational
-- number, its whole part is that of the number, and doubles that are not below
-- zero are in the order of their bits and of their numbers.
import Patchbay.Proofs.DoubleOperations
import Patchbay.Proofs.Rescaling

namespace Patchbay.Number

variable {x y : Float} {a b m n s : Nat} {q : ℚ} {u v : Int}

/-! ## Values -/

/-- The number that a finite double stands for. -/
def value? (x : Float) : Option ℚ :=
  match exact x with
  | .finite negative m s =>
    let size : ℚ := ((m * 2 ^ s : Nat) : ℚ) / (unitsPerOne : ℚ)
    some (if negative then -size else size)
  | _ => none

/-- The part before the point: a number cut toward zero. -/
def cut (q : ℚ) : Int := if q < 0 then ⌈q⌉ else ⌊q⌋

theorem unitsPerOne_cast_pos : (0 : ℚ) < unitsPerOne := Nat.cast_pos.mpr unitsPerOne_pos

theorem size_nonneg (units : Nat) : (0 : ℚ) ≤ (units : ℚ) / unitsPerOne :=
  div_nonneg (Nat.cast_nonneg _) (Nat.cast_nonneg _)

/-- Only finite doubles stand for a number. -/
theorem value?_eq_some (h : value? x = some q) : ∃ negative m s,
    exact x = .finite negative m s ∧
      q = if negative then -(((m * 2 ^ s : Nat) : ℚ) / unitsPerOne)
        else ((m * 2 ^ s : Nat) : ℚ) / unitsPerOne := by
  unfold value? at h
  split at h
  · rename_i negative m s hx
    exact ⟨negative, m, s, hx, (Option.some.inj h).symm⟩
  · cases h

/-! ## Units -/

/-- A number of units with its sign. -/
def signed (negative : Bool) (units : Nat) : Int := if negative then -(units : Int) else units

/-- How many units a finite double has. -/
def units? (x : Float) : Option Int :=
  match exact x with
  | .finite negative m s => some (signed negative (m * 2 ^ s))
  | _ => none

theorem value?_eq_units (x : Float) :
    value? x = (units? x).map fun u : Int => (u : ℚ) / (unitsPerOne : ℚ) := by
  unfold value? units? signed
  cases exact x with
  | nan => rfl
  | infinite negative => rfl
  | finite negative m s =>
    dsimp only
    rw [Option.map_some]
    generalize m * 2 ^ s = units
    generalize unitsPerOne = one
    cases negative with
    | false => rfl
    | true =>
      refine congrArg some ?_
      change -((units : ℚ) / one) = ((-(units : Int) : Int) : ℚ) / one
      rw [Int.cast_neg, neg_div, Int.cast_natCast]

theorem value?_iff :
    value? x = some q ↔ ∃ u : Int, units? x = some u ∧ q = u / (unitsPerOne : ℚ) := by
  rw [value?_eq_units, Option.map_eq_some_iff]
  exact exists_congr fun u => and_congr_right fun _ => eq_comm

theorem units?_bitsOf (negative : Bool) (h : IsFinite m s) :
    units? (ofMagnitude negative (bitsOf m s)) = some (signed negative (m * 2 ^ s)) := by
  unfold units?
  rw [exact_bitsOf h]

theorem units?_ofMagnitude (negative : Bool) (ha : a < infinityBits) :
    units? (ofMagnitude negative a) = some (signed negative (unitsOf a)) := by
  obtain ⟨m, s, h, rfl⟩ := exists_bitsOf ha
  rw [units?_bitsOf negative h, unitsOf_bitsOf h]

theorem units?_of_finite {negative : Bool} (h : exact x = .finite negative m s) :
    units? x = some (signed negative (m * 2 ^ s)) := by
  unfold units?
  rw [h]

/-- A double with units is made of a sign and a finite magnitude. -/
theorem exists_of_units? (h : units? x = some u) : ∃ negative m s, IsFinite m s ∧
    x = ofMagnitude negative (bitsOf m s) ∧ u = signed negative (m * 2 ^ s) := by
  unfold units? at h
  split at h
  · rename_i negative m s hx
    refine ⟨negative, m, s, (exact_finite hx).1, ?_, (Option.some.inj h).symm⟩
    exact (ofMagnitude_finite hx).symm
  · cases h

/-! ## Doubles that are not below zero -/

theorem value?_ofMagnitude (ha : a < infinityBits) :
    value? (ofMagnitude false a) = some ((unitsOf a : ℚ) / unitsPerOne) := by
  have hfinite : a / fractionSize ≠ 2047 := by
    unfold infinityBits fractionSize at *
    omega
  unfold value? unitsOf
  rw [exact_ofMagnitude ha false]
  unfold Exact.ofMagnitude
  simp only [if_neg hfinite]
  by_cases hsmall : a / fractionSize = 0
  · have hmod : a % fractionSize = a :=
      Nat.mod_eq_of_lt ((Nat.div_eq_zero_iff_lt (by decide)).mp hsmall)
    rw [if_pos hsmall, if_pos hsmall]
    simp only [hmod, Nat.pow_zero, Nat.mul_one]
    rfl
  · rw [if_neg hsmall, if_neg hsmall]
    rfl

/-- Each number not below zero that a double stands for belongs to one without a sign, but for
zero, which has two. -/
theorem exists_ofMagnitude (h : value? x = some q) (hq : 0 < q) :
    ∃ a < infinityBits, x = ofMagnitude false a ∧ (unitsOf a : ℚ) = q * unitsPerOne := by
  obtain ⟨negative, m, s, hx, rfl⟩ := value?_eq_some h
  have hnonneg := size_nonneg (m * 2 ^ s)
  cases negative with
  | true =>
    simp only [if_true] at hq
    linarith
  | false =>
    obtain ⟨hfinite, -, -⟩ := exact_finite hx
    refine ⟨bitsOf m s, hfinite.bits_lt, (ofMagnitude_finite hx).symm, ?_⟩
    rw [unitsOf_bitsOf hfinite]
    simp only [Bool.false_eq_true, if_false]
    rw [div_mul_cancel₀ _ (ne_of_gt unitsPerOne_cast_pos)]

theorem unpack_infinity :
    (ofMagnitude false infinityBits).toModel.unpack = .infinity .positive := by rfl

/-- Zero is the one double, of those without a sign, that has no significand. -/
theorem IsFinite.bits_eq_zero (h : IsFinite m s) : bitsOf m s = 0 ↔ m = 0 := by
  have hnormal := h.normal
  unfold bitsOf
  unfold fractionSize at *
  omega

/-- Scales come first and significands second, as they do in the bits. -/
theorem compare_scaled {m' s' : Nat} (h : IsFinite m s) (h' : IsFinite m' s') :
    (compare ((s : Int) - 1074) (s' - 1074)).then (compare m m') =
      compare (bitsOf m s) (bitsOf m' s') := by
  have hlt := h.lt
  have hlt' := h'.lt
  have hnormal := h.normal
  have hnormal' := h'.normal
  unfold bitsOf
  unfold fractionSize at *
  rcases Nat.lt_trichotomy s s' with hs | rfl | hs
  · rw [Int.compare_eq_lt.mpr (by omega), Ordering.lt_then, eq_comm]
    exact Nat.compare_eq_lt.mpr (by omega)
  · rw [Int.compare_eq_eq.mpr rfl, Ordering.eq_then]
    rcases Nat.lt_trichotomy m m' with hm | rfl | hm
    · rw [Nat.compare_eq_lt.mpr hm, eq_comm]
      exact Nat.compare_eq_lt.mpr (by omega)
    · rw [Nat.compare_eq_eq.mpr rfl, Nat.compare_eq_eq.mpr rfl]
    · rw [Nat.compare_eq_gt.mpr hm, eq_comm]
      exact Nat.compare_eq_gt.mpr (by omega)
  · rw [Int.compare_eq_gt.mpr (by omega), Ordering.gt_then, eq_comm]
    exact Nat.compare_eq_gt.mpr (by omega)

/-- Doubles that are not below zero compare as their bits do. -/
theorem compare_ofMagnitude (ha : a ≤ infinityBits) (hb : b ≤ infinityBits) :
    (ofMagnitude false a).toModel.unpack.compare (ofMagnitude false b).toModel.unpack =
      some (compare a b) := by
  rcases Nat.lt_or_eq_of_le ha with ha | rfl <;> rcases Nat.lt_or_eq_of_le hb with hb | rfl
  · obtain ⟨m, s, h, rfl⟩ := exists_bitsOf ha
    obtain ⟨m', s', h', rfl⟩ := exists_bitsOf hb
    rw [unpack_ofMagnitude false h, unpack_ofMagnitude false h']
    split_ifs with hm hm' hm'
    · rw [h.bits_eq_zero.mpr hm, h'.bits_eq_zero.mpr hm']
      rfl
    · have hpos : 0 < bitsOf m' s' := Nat.pos_of_ne_zero (mt h'.bits_eq_zero.mp hm')
      rw [h.bits_eq_zero.mpr hm, Nat.compare_eq_lt.mpr hpos]
      rfl
    · have hpos : 0 < bitsOf m s := Nat.pos_of_ne_zero (mt h.bits_eq_zero.mp hm)
      rw [h'.bits_eq_zero.mpr hm', Nat.compare_eq_gt.mpr hpos]
      rfl
    · exact congrArg some (compare_scaled h h')
  · obtain ⟨m, s, h, rfl⟩ := exists_bitsOf ha
    rw [unpack_ofMagnitude false h, unpack_infinity, Nat.compare_eq_lt.mpr ha]
    split_ifs <;> rfl
  · obtain ⟨m, s, h, rfl⟩ := exists_bitsOf hb
    rw [unpack_ofMagnitude false h, unpack_infinity, Nat.compare_eq_gt.mpr hb]
    split_ifs <;> rfl
  · rw [unpack_infinity, Nat.compare_eq_eq.mpr rfl]
    rfl

theorem ofMagnitude_lt (ha : a ≤ infinityBits) (hb : b ≤ infinityBits) :
    ofMagnitude false a < ofMagnitude false b ↔ a < b := by
  refine decide_eq_true_iff.trans ?_
  change (Float.Model.UnpackedFloat.compare _ _ == some .lt) = true ↔ _
  rw [compare_ofMagnitude ha hb, beq_iff_eq, Option.some.injEq, Nat.compare_eq_lt]

theorem ofMagnitude_le (ha : a ≤ infinityBits) (hb : b ≤ infinityBits) :
    ofMagnitude false a ≤ ofMagnitude false b ↔ a ≤ b := by
  refine decide_eq_true_iff.trans ?_
  change (Option.any (fun o => o.isLE) (Float.Model.UnpackedFloat.compare _ _)) = true ↔ _
  rw [compare_ofMagnitude ha hb, Option.any_some, Nat.isLE_compare]

/-! ## Doubles in the order of their units -/

theorem nearest_le (num den : Nat) : nearest num den ≤ infinityBits := Nat.min_le_right _ _

/-- What a finite double has in units is rounded to the double. -/
theorem nearest_unitsOf (ha : a < infinityBits) : nearest (unitsOf a) unitsPerOne = a := by
  obtain ⟨m, s, h, rfl⟩ := exists_bitsOf ha
  exact nearest_bitsOf h unitsPerOne_pos (by rw [unitsOf_bitsOf h])

theorem compare_neg (u v : Int) : compare (-u) (-v) = (compare u v).swap := by
  rcases Int.lt_trichotomy u v with h | rfl | h
  · rw [Int.compare_eq_lt.mpr h]
    exact Int.compare_eq_gt.mpr (by omega)
  · rw [Int.compare_eq_eq.mpr rfl, Int.compare_eq_eq.mpr rfl]
    rfl
  · rw [Int.compare_eq_gt.mpr h]
    exact Int.compare_eq_lt.mpr (by omega)

theorem compare_unitsOf (a b : Nat) :
    compare a b = compare (unitsOf a : Int) (unitsOf b) := by
  rcases Nat.lt_trichotomy a b with h | rfl | h
  · have hlt := unitsOf_lt h
    rw [Nat.compare_eq_lt.mpr h, eq_comm]
    exact Int.compare_eq_lt.mpr (by omega)
  · rw [Nat.compare_eq_eq.mpr rfl, Int.compare_eq_eq.mpr rfl]
  · have hlt := unitsOf_lt h
    rw [Nat.compare_eq_gt.mpr h, eq_comm]
    exact Int.compare_eq_gt.mpr (by omega)

theorem compare_neg_neg (a b : Float.Model.UnpackedFloat) :
    a.neg.compare b.neg = (a.compare b).map Ordering.swap := by
  cases a with
  | notANumber => rfl
  | infinity sign =>
    cases b with
    | infinity sign' => cases sign <;> cases sign' <;> rfl
    | _ => cases sign <;> rfl
  | zero sign =>
    cases b with
    | finite sign' => cases sign' <;> rfl
    | infinity sign' => cases sign' <;> rfl
    | _ => rfl
  | finite sign =>
    cases b with
    | finite sign' =>
      cases sign <;> cases sign'
      · exact congrArg some Ordering.swap_swap.symm
      all_goals rfl
    | infinity sign' => cases sign <;> cases sign' <;> rfl
    | _ => cases sign <;> rfl

theorem unpack_neg (negative : Bool) (h : IsFinite m s) :
    (ofMagnitude (!negative) (bitsOf m s)).toModel.unpack =
      (ofMagnitude negative (bitsOf m s)).toModel.unpack.neg := by
  rw [unpack_ofMagnitude _ h, unpack_ofMagnitude negative h]
  cases negative <;> split_ifs <;> rfl

/-- Between a double without a sign and one with a sign only zeros are equal. -/
theorem compare_mixed {m' s' : Nat} (h : IsFinite m s) (h' : IsFinite m' s') :
    (ofMagnitude false (bitsOf m s)).toModel.unpack.compare
      (ofMagnitude true (bitsOf m' s')).toModel.unpack =
        some (compare ((m * 2 ^ s : Nat) : Int) (-((m' * 2 ^ s' : Nat) : Int))) := by
  have hpos : ∀ {m s : Nat}, m ≠ 0 → 0 < m * 2 ^ s := fun hm =>
    Nat.mul_pos (Nat.pos_of_ne_zero hm) (Nat.two_pow_pos _)
  rw [unpack_ofMagnitude false h, unpack_ofMagnitude true h']
  by_cases hm : m = 0 <;> by_cases hm' : m' = 0
  · rw [dif_pos hm, dif_pos hm', hm, hm', Nat.zero_mul, Nat.zero_mul]
    rfl
  · have hlt := hpos (s := s') hm'
    rw [dif_pos hm, dif_neg hm', hm, Nat.zero_mul]
    exact congrArg some (Int.compare_eq_gt.mpr (by omega)).symm
  · have hlt := hpos (s := s) hm
    rw [dif_neg hm, dif_pos hm', hm', Nat.zero_mul]
    exact congrArg some (Int.compare_eq_gt.mpr (by omega)).symm
  · have hlt := hpos (s := s) hm
    rw [dif_neg hm, dif_neg hm']
    exact congrArg some (Int.compare_eq_gt.mpr (by omega)).symm

/-- Finite doubles compare as their units do. -/
theorem compare_units (hx : units? x = some u) (hy : units? y = some v) :
    x.toModel.unpack.compare y.toModel.unpack = some (compare u v) := by
  obtain ⟨negative, m, s, h, rfl, rfl⟩ := exists_of_units? hx
  obtain ⟨negative', m', s', h', rfl, rfl⟩ := exists_of_units? hy
  have hsame := compare_ofMagnitude (Nat.le_of_lt h.bits_lt) (Nat.le_of_lt h'.bits_lt)
  rw [compare_unitsOf, unitsOf_bitsOf h, unitsOf_bitsOf h'] at hsame
  cases negative <;> cases negative'
  · exact hsame
  · exact compare_mixed h h'
  · have hmixed := compare_neg_neg (ofMagnitude false (bitsOf m s)).toModel.unpack
      (ofMagnitude true (bitsOf m' s')).toModel.unpack
    rw [← unpack_neg false h, ← unpack_neg true h', compare_mixed h h', Option.map_some,
      ← compare_neg, neg_neg] at hmixed
    exact hmixed
  · have hboth := compare_neg_neg (ofMagnitude false (bitsOf m s)).toModel.unpack
      (ofMagnitude false (bitsOf m' s')).toModel.unpack
    rw [← unpack_neg false h, ← unpack_neg false h', hsame, Option.map_some,
      ← compare_neg] at hboth
    exact hboth

theorem lt_units (hx : units? x = some u) (hy : units? y = some v) : x < y ↔ u < v := by
  refine decide_eq_true_iff.trans ?_
  change (Float.Model.UnpackedFloat.compare _ _ == some .lt) = true ↔ _
  rw [compare_units hx hy, beq_iff_eq, Option.some.injEq, Int.compare_eq_lt]

theorem le_units (hx : units? x = some u) (hy : units? y = some v) : x ≤ y ↔ u ≤ v := by
  refine decide_eq_true_iff.trans ?_
  change (Option.any (fun o => o.isLE) (Float.Model.UnpackedFloat.compare _ _)) = true ↔ _
  rw [compare_units hx hy, Option.any_some, Int.isLE_compare]

theorem beq_units (hx : units? x = some u) (hy : units? y = some v) : (x == y) = (u == v) := by
  change (Float.Model.UnpackedFloat.compare _ _ == some .eq) = _
  rw [compare_units hx hy, Bool.eq_iff_iff, beq_iff_eq, beq_iff_eq, Option.some.injEq,
    Int.compare_eq_eq]

/-! ## Doubles from a number on -/

/-- Whole numbers are doubles up to this power of two. -/
theorem unitsOf_nearest_whole (hn : n ≤ 2 ^ 53) : unitsOf (nearest n 1) = n * unitsPerOne := by
  have hscaled : ∀ digits k, n = digits * 2 ^ k → digits < 2 ^ 53 → k ≤ 22 →
      unitsOf (nearest n 1) = n * unitsPerOne := by
    rintro digits k rfl hdigits hk
    exact unitsOf_nearest hdigits hk
  rcases Nat.lt_or_eq_of_le hn with hlt | heq
  · exact hscaled n 0 (Nat.mul_one n).symm hlt (Nat.zero_le 22)
  · exact hscaled (2 ^ 31) 22 (heq.trans (by decide)) (by decide) (Nat.le_refl 22)

theorem nearest_lt_infinityBits (hn : n ≤ 2 ^ 53) : nearest n 1 < infinityBits := by
  have hle : nearest n 1 ≤ nearest (2 ^ 53) 1 :=
    nearest_mono Nat.one_pos Nat.one_pos (Nat.mul_le_mul_right 1 hn)
  exact Nat.lt_of_le_of_lt hle (by decide +kernel)

theorem value?_ofNat (hn : n ≤ 2 ^ 53) : value? (ofNat n) = some (n : ℚ) := by
  unfold ofNat
  rw [value?_ofMagnitude (nearest_lt_infinityBits hn), unitsOf_nearest_whole hn, Nat.cast_mul,
    mul_div_cancel_right₀ _ (ne_of_gt unitsPerOne_cast_pos)]

/-- The double is infinite, or stands for `q` or a greater number. -/
def AtLeast (x : Float) (q : ℚ) : Prop :=
  exact x = .infinite false ∨ ∃ v, value? x = some v ∧ q ≤ v

/-- The double has no sign, and is not below `q`. -/
def From (x : Float) (q : ℚ) : Prop :=
  ∃ a ≤ infinityBits, x = ofMagnitude false a ∧ (a < infinityBits → q * unitsPerOne ≤ unitsOf a)

theorem zero_from : From 0.0 0 :=
  ⟨0, Nat.zero_le _, rfl, fun _ => le_of_eq_of_le (zero_mul _) (Nat.cast_nonneg _)⟩

theorem eq_of_infinite {negative : Bool} (h : exact x = .infinite negative) :
    x = ofMagnitude negative infinityBits := by
  have hself := ofMagnitude_self x
  unfold exact Exact.ofMagnitude at h
  have hbits : magnitude x < 2048 * fractionSize := Nat.mod_lt _ (by decide)
  simp only at h
  split_ifs at h with hexponent hfraction
  have hmagnitude : magnitude x = infinityBits := by
    unfold infinityBits
    unfold fractionSize at *
    omega
  rw [Exact.infinite.inj h, hmagnitude] at hself
  exact hself.symm

theorem AtLeast.from_of_pos (h : AtLeast x q) (hq : 0 < q) : From x q := by
  rcases h with h | ⟨v, hv, hle⟩
  · exact ⟨infinityBits, Nat.le_refl _, eq_of_infinite h,
      fun hlt => absurd hlt (Nat.lt_irrefl _)⟩
  · obtain ⟨a, ha, rfl, hunits⟩ := exists_ofMagnitude hv (lt_of_lt_of_le hq hle)
    refine ⟨a, Nat.le_of_lt ha, rfl, fun _ => ?_⟩
    rw [hunits]
    exact mul_le_mul_of_nonneg_right hle (le_of_lt unitsPerOne_cast_pos)

namespace From

theorem mono {r : ℚ} (h : From x r) (hle : q ≤ r) : From x q := by
  obtain ⟨a, ha, hx, hunits⟩ := h
  refine ⟨a, ha, hx, fun hlt => le_trans ?_ (hunits hlt)⟩
  exact mul_le_mul_of_nonneg_right hle (le_of_lt unitsPerOne_cast_pos)

/-- It is not below the double nearest to a whole number that it is not below. -/
theorem ofNat_le (h : From x n) : ofNat n ≤ x ∧ ¬x < ofNat n := by
  obtain ⟨a, ha, rfl, hunits⟩ := h
  have hle : nearest n 1 ≤ a := by
    rcases Nat.lt_or_eq_of_le ha with hlt | rfl
    · rw [← nearest_unitsOf hlt]
      refine nearest_mono Nat.one_pos unitsPerOne_pos ?_
      rw [Nat.mul_one]
      exact_mod_cast hunits hlt
    · exact nearest_le n 1
  unfold ofNat
  rw [ofMagnitude_le (nearest_le n 1) ha, ofMagnitude_lt ha (nearest_le n 1)]
  exact ⟨hle, Nat.not_lt.mpr hle⟩

/-- Below a whole number it is finite. -/
theorem exists_value (h : From x q) (hlt : x < ofNat n) : ∃ v, value? x = some v ∧ q ≤ v := by
  obtain ⟨a, ha, rfl, hunits⟩ := h
  unfold ofNat at hlt
  have hfinite : a < infinityBits :=
    Nat.lt_of_lt_of_le ((ofMagnitude_lt ha (nearest_le n 1)).mp hlt) (nearest_le n 1)
  refine ⟨_, value?_ofMagnitude hfinite, ?_⟩
  rw [le_div_iff₀ unitsPerOne_cast_pos]
  exact hunits hfinite

/-- When it is not below the double of a whole number that is a double, it is not below the
number. -/
theorem atLeast_of_not_lt (h : From x q) (hx : ¬x < ofNat n) :
    ofNat n ≤ x ∧ (n ≤ 2 ^ 53 → AtLeast x n) := by
  obtain ⟨a, ha, rfl, hunits⟩ := h
  unfold ofNat at hx ⊢
  rw [ofMagnitude_lt ha (nearest_le n 1), Nat.not_lt] at hx
  refine ⟨(ofMagnitude_le (nearest_le n 1) ha).mpr hx, fun hn => ?_⟩
  rcases Nat.lt_or_eq_of_le ha with hlt | rfl
  · refine Or.inr ⟨_, value?_ofMagnitude hlt, ?_⟩
    have hmono := unitsOf_mono hx
    rw [unitsOf_nearest_whole hn] at hmono
    rw [le_div_iff₀ unitsPerOne_cast_pos]
    exact_mod_cast hmono
  · exact Or.inl rfl

end From

end Patchbay.Number
