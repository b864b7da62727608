-- How doubles are spelled in data files. Each text of a decimal is a number in its parts,
-- and the parts stand for the same double as the decimal does.
import Patchbay.Proofs.JsonNumbers
import Patchbay.Proofs.Rounding

namespace Patchbay.Number.Decimal

open Json (Spelling)

variable {d : Decimal}

/-! ## The spellings of a decimal -/

/-- The decimal with its point, after a zero or before one where digits lack. -/
def positionalSpelling (d : Decimal) : Spelling :=
  let digits := Nat.toDigits 10 d.digits
  let whole := digits.length + d.exponent
  if 0 ≤ d.exponent then ⟨digits ++ List.replicate d.exponent.toNat '0', ['0'], none⟩
  else if 0 < whole then ⟨digits.take whole.toNat, digits.drop whole.toNat, none⟩
  else ⟨['0'], List.replicate (-whole).toNat '0' ++ digits, none⟩

/-- The decimal with the point after its first digit, and the power of ten of that digit. -/
def scientificSpelling (d : Decimal) : Spelling :=
  ⟨(Nat.toDigits 10 d.digits).take 1, (Nat.toDigits 10 d.digits).drop 1, some d.leading⟩

theorem text_positionalSpelling (d : Decimal) : d.positionalSpelling.text =
    if 0 ≤ d.exponent then d.positional ++ ['.', '0'] else d.positional := by
  have hlength := Nat.length_toDigits_pos (b := 10) (n := d.digits)
  unfold positionalSpelling positional Spelling.text Spelling.powerText
  dsimp only
  split_ifs with hwhole hpoint hnil hnil
  all_goals simp_all
  omega

theorem power_positionalSpelling (d : Decimal) : d.positionalSpelling.power = none := by
  unfold positionalSpelling
  dsimp only
  split_ifs <;> rfl

theorem text_scientificSpelling (d : Decimal) : d.scientificSpelling.text = d.scientific := rfl

/-- The first digit is a zero only in the text of zero. -/
theorem take_toDigits {n k : Nat} (hk : 0 < k)
    (h : ((Nat.toDigits 10 n).take k).head? = some '0') : n = 0 := by
  rw [List.head?_take, if_neg (by omega)] at h
  exact Nat.eq_zero_of_not_pos fun hpos => Json.toDigits_head hpos h

theorem positionalSpelling_valid (hd : d.digits = 0 → d.exponent = 0) (hsmall : d.leading < 16) :
    d.positionalSpelling.Valid := by
  obtain ⟨digits, exponent⟩ := d
  have hlength := Nat.length_toDigits_pos (b := 10) (n := digits)
  have hmem : ∀ c ∈ Nat.toDigits 10 digits, c.isDigit = true := digits_mem
  unfold leading at hsmall
  unfold positionalSpelling
  simp only at hd hsmall ⊢
  split_ifs with hwhole hpoint
  · have hall : ∀ c ∈ Nat.toDigits 10 digits ++ List.replicate exponent.toNat '0',
        c.isDigit = true := by
      intro c hc
      rcases List.mem_append.mp hc with hc | hc
      · exact hmem c hc
      · exact zeros_mem c hc
    refine ⟨hall, by simp, ?_, Json.fits_of_length hall ?_, by simp, by simp, by simp⟩
    · intro hzero
      have hdigits : digits = 0 := by
        rw [List.head?_append_of_ne_nil _ Nat.toDigits_ne_nil] at hzero
        exact Nat.eq_zero_of_not_pos fun hpos => Json.toDigits_head hpos hzero
      simp [hd hdigits, hdigits]
    · rw [List.length_append, List.length_replicate]
      omega
  · generalize hcount : (((Nat.toDigits 10 digits).length : Int) + exponent).toNat = count
    have hall : ∀ c ∈ (Nat.toDigits 10 digits).take count, c.isDigit = true :=
      fun c hc => hmem c (List.mem_of_mem_take hc)
    refine ⟨hall, ?_, ?_, Json.fits_of_length hall ?_,
      fun c hc => hmem c (List.mem_of_mem_drop hc), Or.inl ?_, by simp⟩
    · simp [List.take_eq_nil_iff]
      omega
    · intro hzero
      exact absurd (hd (take_toDigits (by omega) hzero)) (by omega)
    · rw [List.length_take]
      omega
    · rw [Ne, List.drop_eq_nil_iff]
      omega
  · refine ⟨by simp, by simp, by simp, Json.fits_of_length (by simp) (by simp), ?_, by simp,
      by simp⟩
    intro c hc
    rcases List.mem_append.mp hc with hc | hc
    · exact zeros_mem c hc
    · exact hmem c hc

theorem scientificSpelling_valid (hd : 0 < d.digits) (hsmall : d.leading.natAbs < 0x80000000) :
    d.scientificSpelling.Valid := by
  have hall : ∀ c ∈ (Nat.toDigits 10 d.digits).take 1, c.isDigit = true :=
    fun c hc => digits_mem c (List.mem_of_mem_take hc)
  unfold scientificSpelling
  refine ⟨hall, ?_, ?_, Json.fits_of_length hall ?_,
    fun c hc => digits_mem c (List.mem_of_mem_drop hc), Or.inr rfl, ?_⟩
  · simp [List.take_eq_nil_iff]
  · intro hzero
    exact absurd (take_toDigits Nat.one_pos hzero) (Nat.ne_of_gt hd)
  · simp only [List.length_take]
    omega
  · rintro p ⟨⟩
    exact hsmall

/-! ## The decimals of the spellings -/

theorem decimal_scientificSpelling (d : Decimal) : d.scientificSpelling.decimal = d := by
  have hlength := Nat.length_toDigits_pos (b := 10) (n := d.digits)
  obtain ⟨digits, exponent⟩ := d
  unfold scientificSpelling Spelling.decimal ofParts shift leading
  simp only [List.take_append_drop, Nat.ofDigitChars_ten_toDigits, List.length_drop,
    Option.getD_some] at hlength ⊢
  congr 1
  omega

/-- A whole decimal gets a zero after the point, and others stay as they are. -/
theorem decimal_positionalSpelling (d : Decimal) : d.positionalSpelling.decimal =
    if 0 ≤ d.exponent then ⟨d.digits * 10 ^ d.exponent.toNat * 10, -1⟩ else d := by
  obtain ⟨digits, exponent⟩ := d
  unfold positionalSpelling Spelling.decimal
  simp only
  split_ifs with hwhole hpoint
  · unfold ofParts shift
    rw [Nat.ofDigitChars_append, Nat.ofDigitChars_append, Nat.ofDigitChars_ten_toDigits,
      Nat.ofDigitChars_replicate_zero]
    simp [Nat.ofDigitChars, Nat.mul_comm]
  · unfold ofParts shift
    simp only [List.take_append_drop, Nat.ofDigitChars_ten_toDigits, List.length_drop,
      Option.getD_none]
    congr 1
    omega
  · have hzeros := ofParts_zeros digits (-((Nat.toDigits 10 digits).length + exponent)).toNat
    rw [hzeros]
    unfold shift
    simp only [Option.getD_none]
    congr 1
    omega

/-- The spelling stands for the same double. -/
theorem magnitude_positionalSpelling (hd : d.magnitude < infinityBits) :
    d.positionalSpelling.decimal.magnitude = d.magnitude := by
  rw [decimal_positionalSpelling]
  split_ifs with hwhole
  · obtain ⟨digits, exponent⟩ := d
    simp only at hwhole ⊢
    by_cases hzero : digits = 0
    · rw [hzero, Nat.zero_mul, Nat.zero_mul, magnitude_zero, magnitude_zero]
    · have hlarge := not_huge hzero hwhole hd
      have hpow : digits * 10 ^ exponent.toNat * 10 ≠ 0 :=
        Nat.mul_ne_zero (Nat.mul_ne_zero hzero (Nat.ne_of_gt (Nat.pow_pos (by decide)))) (by decide)
      rw [magnitude_large hzero hwhole hlarge]
      refine (magnitude_fraction hpow Nat.one_pos (by omega)).trans ?_
      exact nearest_congr (by decide) Nat.one_pos (Nat.mul_one _)
  · rfl

/-! ## Bounds -/

/-- A finite double is below this power of ten. -/
theorem lt_of_nearest_lt {num den : Nat} (hden : 0 < den) (h : nearest num den < infinityBits) :
    ∃ k, k = 309 ∧ num < den * 10 ^ k := by
  obtain ⟨k, hk, -, hinfinity⟩ := exists_largest_power
  refine ⟨k + 1, congrArg Nat.succ hk, ?_⟩
  by_contra hle
  have hmono : nearest (10 ^ (k + 1)) 1 ≤ nearest num den := by
    refine nearest_mono Nat.one_pos hden ?_
    rw [Nat.mul_comm, Nat.mul_one]
    exact Nat.le_of_not_lt hle
  omega

/-- The leading digit of a decimal that stands for a finite double. -/
theorem leading_le (hpos : 0 < d.magnitude) (hd : d.magnitude < infinityBits) :
    d.leading ≤ 308 := by
  have hfinite : d.rounded < infinityBits := magnitude_eq_rounded d ▸ hd
  obtain ⟨k, hk, hlt⟩ := lt_of_nearest_lt (Nat.pow_pos (by decide)) hfinite
  have hdigits : 0 < d.digits := by
    refine Nat.pos_of_ne_zero fun hzero => ?_
    unfold magnitude at hpos
    rw [if_pos hzero] at hpos
    exact Nat.lt_irrefl _ hpos
  have hpower : 10 ^ d.exponent.toNat < 10 ^ ((-d.exponent).toNat + k) := by
    rw [Nat.pow_add]
    exact Nat.lt_of_le_of_lt (Nat.le_mul_of_pos_left _ hdigits) hlt
  have hexponent := (Nat.pow_lt_pow_iff_right (by decide)).mp hpower
  have hshort : d.digits < 10 ^ ((-d.exponent).toNat + k - d.exponent.toNat) := by
    rw [← Nat.pow_add, ← Nat.sub_add_cancel (Nat.le_of_lt hexponent),
      Nat.pow_add _ _ d.exponent.toNat] at hlt
    exact Nat.lt_of_mul_lt_mul_right hlt
  have hlength := (Nat.length_toDigits_le_iff (by decide) (by omega)).mpr hshort
  unfold leading
  omega

theorem place_ge {num den k : Nat} (hk : 0 < k) (hden : den ≤ 10 ^ k) :
    1 - (k : Int) ≤ place num den := by
  unfold place
  split_ifs
  · omega
  · have hquot : (den - 1) / num < 10 ^ k := by
      have hle := Nat.div_le_self (den - 1) num
      have hpos : 0 < 10 ^ k := Nat.pow_pos (by decide)
      omega
    have hwidth : width ((den - 1) / num) ≤ k := by
      unfold width
      split_ifs
      · omega
      · exact (Nat.length_toDigits_le_iff (by decide) hk).mpr hquot
    omega

/-- The last digit of a shortest decimal is not far behind the point. -/
theorem shortest_exponent_ge (tie : Tie) (m s : Nat) : -1074 ≤ (shortest tie m s).exponent := by
  obtain ⟨k, hk⟩ : ∃ k, k = 400 := ⟨400, rfl⟩
  have hone : unitsPerOne ≤ 10 ^ k := by
    obtain ⟨u, hu, hunits⟩ := exists_unitsPerOne
    have hpow : 2 ^ u ≤ 2 ^ (3 * k) := Nat.pow_le_pow_right (by decide) (by omega)
    rw [Nat.pow_mul] at hpow
    exact hunits ▸ Nat.le_trans hpow (Nat.pow_le_pow_left (by decide) k)
  unfold shortest
  dsimp only
  split_ifs
  · decide
  · cases hfound : (List.range 18).findSome?
        (atPrecision? tie (s * fractionSize + m) (m * Nat.pow 2 s) unitsPerOne) with
    | none => exact Int.le_refl _
    | some d =>
      obtain ⟨count, hmem, hcount⟩ := List.exists_of_findSome?_eq_some hfound
      have hrange := List.mem_range.mp hmem
      have hplace : 1 - (k : Int) ≤ place (m * Nat.pow 2 s) unitsPerOne :=
        place_ge (by omega) hone
      rw [Option.getD_some, (atPrecision?_eq_some hcount).2]
      omega

theorem shortest_zero (tie : Tie) (s : Nat) : shortest tie 0 s = ⟨0, 0⟩ := by
  unfold shortest
  simp

variable {m s : Nat}

/-- The shortest decimal of a double other than zero has digits. -/
theorem shortest_digits (tie : Tie) (h : IsFinite m s) (hm : m ≠ 0) :
    0 < (shortest tie m s).digits := by
  have hmagnitude := magnitude_shortest tie h
  refine Nat.pos_of_ne_zero fun hzero => ?_
  unfold magnitude at hmagnitude
  rw [if_pos hzero] at hmagnitude
  unfold bitsOf at hmagnitude
  omega

end Decimal

/-! ## The spelling of a double -/

open Json (Spelling)

/-- How the double `m * 2^s` is spelled, as `dataText?` has it. -/
def dataSpelling (m s : Nat) : Spelling :=
  let d := Decimal.shortest .even m s
  if m ≠ 0 && (d.leading < -5 || 16 ≤ d.leading) then d.scientificSpelling
  else d.positionalSpelling

theorem dataText?_eq {x : Float} {negative : Bool} {m s : Nat}
    (h : exact x = .finite negative m s) : dataText? x = some (String.ofList
      (if negative then '-' :: (dataSpelling m s).text else (dataSpelling m s).text)) := by
  have htext : (dataSpelling m s).text =
      if m ≠ 0 && ((Decimal.shortest .even m s).leading < -5 ||
        16 ≤ (Decimal.shortest .even m s).leading) then (Decimal.shortest .even m s).scientific
      else if 0 ≤ (Decimal.shortest .even m s).exponent then
        (Decimal.shortest .even m s).positional ++ ['.', '0']
      else (Decimal.shortest .even m s).positional := by
    unfold dataSpelling
    rw [← Decimal.text_positionalSpelling, ← Decimal.text_scientificSpelling]
    dsimp only
    split_ifs <;> rfl
  unfold dataText?
  rw [h, htext]

variable {m s : Nat}

theorem shortest_leading_bounds (h : IsFinite m s) (hm : m ≠ 0) :
    -1074 ≤ (Decimal.shortest .even m s).leading ∧ (Decimal.shortest .even m s).leading ≤ 308 := by
  have hmagnitude := Decimal.magnitude_shortest .even h
  have hexponent := Decimal.shortest_exponent_ge .even m s
  have hlength := Nat.length_toDigits_pos (b := 10) (n := (Decimal.shortest .even m s).digits)
  refine ⟨?_, Decimal.leading_le ?_ ?_⟩
  · unfold Decimal.leading
    omega
  · rw [hmagnitude]
    unfold bitsOf
    omega
  · rw [hmagnitude]
    exact h.bits_lt

theorem dataSpelling_valid (h : IsFinite m s) : (dataSpelling m s).Valid := by
  unfold dataSpelling
  dsimp only
  split_ifs with hscientific
  · simp only [ne_eq, Bool.and_eq_true, decide_eq_true_eq] at hscientific
    obtain ⟨hlower, hupper⟩ := shortest_leading_bounds h hscientific.1
    exact Decimal.scientificSpelling_valid (Decimal.shortest_digits .even h hscientific.1)
      (by omega)
  · by_cases hm : m = 0
    · rw [hm, Decimal.shortest_zero]
      exact Decimal.positionalSpelling_valid (fun _ => rfl) (by decide)
    · refine Decimal.positionalSpelling_valid (fun hzero => ?_) ?_
      · exact absurd hzero (Nat.ne_of_gt (Decimal.shortest_digits .even h hm))
      · simp [hm] at hscientific
        exact hscientific.2

/-- The spelling of a double stands for that double. -/
theorem magnitude_dataSpelling (h : IsFinite m s) :
    (dataSpelling m s).decimal.magnitude = bitsOf m s := by
  have hmagnitude := Decimal.magnitude_shortest .even h
  unfold dataSpelling
  dsimp only
  split_ifs
  · rw [Decimal.decimal_scientificSpelling, hmagnitude]
  · rw [Decimal.magnitude_positionalSpelling (hmagnitude ▸ h.bits_lt), hmagnitude]

/-- The powers of ten in a spelling are not far from the point. -/
theorem dataSpelling_power (h : IsFinite m s) : (dataSpelling m s).power.getD 0 ≤ 308 ∧
    -1074 ≤ (dataSpelling m s).decimal.exponent := by
  have hexponent := Decimal.shortest_exponent_ge .even m s
  unfold dataSpelling
  dsimp only
  split_ifs with hscientific
  · simp only [ne_eq, Bool.and_eq_true, decide_eq_true_eq] at hscientific
    rw [Decimal.decimal_scientificSpelling]
    exact ⟨(shortest_leading_bounds h hscientific.1).2, hexponent⟩
  · rw [Decimal.decimal_positionalSpelling]
    rw [Decimal.power_positionalSpelling]
    refine ⟨by decide, ?_⟩
    split_ifs
    · exact show (-1074 : Int) ≤ -1 by decide
    · exact hexponent

end Patchbay.Number
