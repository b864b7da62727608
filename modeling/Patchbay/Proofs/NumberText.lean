-- Decimals that are shown read back. The bits of a double determine it, the
-- shortest decimal of a finite double stands for that double, and the lexer
-- reads the digits of a decimal as one that stands for the same double.
import Patchbay.Number.Layout
import Patchbay.Number.Literal
import Mathlib

namespace Patchbay.Number

/-! ## Doubles and their bits -/

section Bits

open Float.Model Float.Model.UnpackedFloat

/-- The fields of some bits, put together again. -/
theorem join_fields {spec : Format} {b : BitVec spec.numBits} {e : BitVec spec.exponentBits}
    {m : BitVec spec.mantissaBitsWithoutImplicit} (he : unpackExponent b = e)
    (hm : unpackMantissa b = m) : packComponents spec (.ofBitVec (unpackSign b)) e m = b := by
  have hs : ∀ s : BitVec 1, Sign.toBitVec (Sign.ofBitVec s) = s := by decide
  subst he hm
  unfold packComponents
  rw [hs]
  ext i hi
  have hlt : i < 1 + spec.exponentBits + spec.mantissaBitsWithoutImplicit := hi
  simp only [BitVec.getElem_append, unpackSign, unpackExponent, unpackMantissa,
    BitVec.getElem_cast, BitVec.getElem_extract]
  rw [← BitVec.getLsbD_eq_getElem hi]
  split
  · congr 1
    omega
  · split
    · congr 1
      omega
    · congr 1
      omega

theorem pack_normal (s : Sign) {m e : Nat} (hp : 0 < m) (hm : m.log2 = 52) (he : e < 2047) :
    UnpackedFloat.pack .binary64 (.finite s m (e - 1075) hp) =
      packComponents .binary64 s (.ofNat _ e) (.ofNat _ m) := by
  have hbias : ((e : Int) - 1075 + Format.binary64.exponentBias +
      Format.binary64.mantissaBitsWithoutImplicit).toNat = e := by
    change ((e : Int) - 1075 + (1023 : Nat) + (52 : Nat)).toNat = e
    omega
  have hsmall : ¬2 ^ Format.binary64.exponentBits ≤ e + 1 := by
    change ¬2048 ≤ e + 1
    omega
  unfold UnpackedFloat.pack
  simp only
  rw [hbias, hm, if_neg hsmall, if_pos (by decide)]

theorem pack_subnormal (s : Sign) {m : Nat} (hp : 0 < m) (hm : m.log2 < 52) :
    UnpackedFloat.pack .binary64 (.finite s m (-1074) hp) =
      packComponents .binary64 s 0#_ (.ofNat _ m) := by
  have hne : ¬m.log2 + 1 = Format.mantissaBits .binary64 := by
    change ¬m.log2 + 1 = 53
    omega
  unfold UnpackedFloat.pack
  simp only [hne, if_false]
  rfl

theorem pack_unpack {b : BitVec Format.binary64.numBits} (h : Format.binary64.Valid b) :
    UnpackedFloat.pack .binary64 (UnpackedFloat.unpack .binary64 b) = b := by
  have hmant : (unpackMantissa b).toNat < 2 ^ 52 := (unpackMantissa b).isLt
  have hexp : (unpackExponent b).toNat < 2 ^ 11 := (unpackExponent b).isLt
  fun_cases UnpackedFloat.unpack Format.binary64 b with
  | case1 mantissa exponentVec _ sign he hm => exact join_fields he hm
  | case2 mantissa exponentVec he hm => exact (h.eq_packedNaN he hm).symm
  | case3 mantissa exponentVec _ sign _ he hm => exact join_fields he hm
  | case4 mantissa exponentVec exponent _ sign _ he hm =>
    have hpos : 0 < mantissa.toNat := by
      refine Nat.pos_of_ne_zero fun hz => hm ?_
      exact BitVec.eq_of_toNat_eq hz
    have hlowest : exponent + 1 = -1074 := by
      change ((unpackExponent b).toNat : Int) - _ + 1 = -1074
      rw [show unpackExponent b = 0#_ from he]
      rfl
    have hlog : mantissa.toNat.log2 < 52 := (Nat.log2_lt (Nat.ne_of_gt hpos)).mpr hmant
    simp only [hlowest]
    rw [pack_subnormal sign hpos hlog]
    exact join_fields he (by rw [BitVec.ofNat_toNat, BitVec.setWidth_eq])
  | case5 mantissa exponentVec exponent _ sign hinf hzero =>
    have hfraction : mantissa.toNat < 2 ^ 52 := hmant
    have hvalue : (1#1 ++ mantissa).toNat = 2 ^ 52 + mantissa.toNat := by
      rw [BitVec.toNat_append, ← Nat.shiftLeft_add_eq_or_of_lt mantissa.isLt]
      rfl
    have hpos : (1#1 ++ mantissa).toNat ≠ 0 := by omega
    have hlog : (1#1 ++ mantissa).toNat.log2 = 52 := by
      rw [Nat.log2_eq_iff hpos]
      omega
    have hlt : exponentVec.toNat < 2047 := by
      have hne : exponentVec.toNat ≠ 2047 := fun hz => hinf (BitVec.eq_of_toNat_eq hz)
      have hle : exponentVec.toNat < 2048 := hexp
      omega
    refine (pack_normal sign (Nat.pos_of_ne_zero hpos) hlog hlt).trans (join_fields ?_ ?_)
    · rw [BitVec.ofNat_toNat, BitVec.setWidth_eq]
    · refine BitVec.eq_of_toNat_eq ?_
      change mantissa.toNat = (1#1 ++ mantissa).toNat % 2 ^ 52
      omega

theorem ofBits_toBits (x : Float) : Float.ofBits x.toBits = x := by
  obtain ⟨⟨bits, hvalid⟩⟩ := x
  change Float.ofModel (.ofBits bits) = _
  congr 1
  unfold Float.Model.ofBits Float.Model.pack
  congr 1
  rw [pack_unpack hvalid]

end Bits

/-! ## Finite doubles -/

/-- The significands and scales of the finite doubles. Only the smallest scale has
significands that lack the highest bit. -/
structure IsFinite (m s : Nat) : Prop where
  lt : m < 2 * fractionSize
  scale_lt : s < 2046
  normal : fractionSize ≤ m ∨ s = 0

/-- The low 63 bits of the double `m * 2^s`. -/
def bitsOf (m s : Nat) : Nat := s * fractionSize + m

theorem IsFinite.bits_lt {m s : Nat} (h : IsFinite m s) : bitsOf m s < infinityBits := by
  have hlt := h.lt
  have hs := h.scale_lt
  unfold bitsOf infinityBits
  unfold fractionSize at *
  omega

/-- The fields of a double whose significand has the highest bit. -/
theorem IsFinite.fields {m s : Nat} (h : IsFinite m s) (hm : ¬m < fractionSize) :
    bitsOf m s / fractionSize = s + 1 ∧ fractionSize + bitsOf m s % fractionSize = m := by
  have hlt := h.lt
  unfold bitsOf
  unfold fractionSize at *
  omega

theorem exact_finite {x : Float} {negative : Bool} {m s : Nat}
    (h : exact x = .finite negative m s) :
    IsFinite m s ∧ isNegative x = negative ∧ magnitude x = bitsOf m s := by
  have hbits : magnitude x < 2048 * fractionSize := Nat.mod_lt _ (by decide)
  unfold exact Exact.ofMagnitude at h
  unfold bitsOf
  simp only at h
  split at h
  · split at h <;> cases h
  · split at h
    · injection h with hneg hm hs
      subst hm hs
      refine ⟨⟨?_, by decide, .inr rfl⟩, hneg, ?_⟩ <;> unfold fractionSize at * <;> omega
    · injection h with hneg hm hs
      subst hm hs
      refine ⟨⟨?_, ?_, .inl (Nat.le_add_right _ _)⟩, hneg, ?_⟩ <;> unfold fractionSize at * <;>
        omega

/-- A double is its sign and the rest of its bits. -/
theorem ofMagnitude_self (x : Float) : ofMagnitude (isNegative x) (magnitude x) = x := by
  have hword : x.toBits.toNat < 2 * signBit := x.toBits.toNat_lt
  have hfields : (if isNegative x then signBit + magnitude x else magnitude x) =
      x.toBits.toNat := by
    unfold magnitude
    cases hneg : isNegative x with
    | false =>
      unfold isNegative at hneg
      rw [if_neg Bool.false_ne_true]
      exact Nat.mod_eq_of_lt (Nat.not_le.mp (of_decide_eq_false hneg))
    | true =>
      unfold isNegative at hneg
      have hle : signBit ≤ x.toBits.toNat := of_decide_eq_true hneg
      rw [if_pos rfl, Nat.mod_eq_sub_mod hle, Nat.mod_eq_of_lt (by omega)]
      omega
  unfold ofMagnitude
  rw [hfields, UInt64.ofNat_toNat, ofBits_toBits]

theorem ofMagnitude_finite {x : Float} {negative : Bool} {m s : Nat}
    (h : exact x = .finite negative m s) : ofMagnitude negative (bitsOf m s) = x := by
  obtain ⟨_, hneg, hbits⟩ := exact_finite h
  rw [← hneg, ← hbits, ofMagnitude_self]

/-! ## The decimal of a double -/

theorem roundEven_mul {n den : Nat} (hden : 0 < den) : roundEven (n * den) den = n := by
  unfold roundEven
  rw [Nat.mul_mod_left, Nat.mul_div_left _ hden, Nat.mul_zero]
  simp [hden]

theorem nearest_exact {m s : Nat} (h : IsFinite m s) (hm : 0 < m) {num den : Nat} (hden : 0 < den)
    (hvalue : num * unitsPerOne = m * 2 ^ s * den) : nearest num den = bitsOf m s := by
  have hlt := h.bits_lt
  have hscale : (m * 2 ^ s).log2 - 52 = s := by
    have hpos : m * 2 ^ s ≠ 0 := Nat.ne_of_gt (Nat.mul_pos hm (Nat.two_pow_pos s))
    have hm' := h.lt
    rcases h.normal with hn | rfl
    · have hlog : (m * 2 ^ s).log2 = 52 + s := by
        rw [Nat.log2_eq_iff hpos, Nat.pow_add, show 52 + s + 1 = 53 + s by omega, Nat.pow_add]
        exact ⟨Nat.mul_le_mul_right _ hn, Nat.mul_lt_mul_of_pos_right hm' (Nat.two_pow_pos s)⟩
      omega
    · have hlog : (m * 2 ^ 0).log2 < 53 := by
        rw [Nat.log2_lt hpos]
        unfold fractionSize at hm'
        omega
      omega
  unfold nearest
  simp only [hvalue, Nat.mul_div_left _ hden, hscale]
  have hround : roundEven (m * 2 ^ s * den) (den * Nat.pow 2 s) = m := by
    rw [Nat.mul_assoc, Nat.mul_comm (2 ^ s)]
    exact roundEven_mul (Nat.mul_pos hden (Nat.two_pow_pos s))
  rw [hround]
  exact Nat.min_eq_left (Nat.le_of_lt hlt)

namespace Decimal

variable {tie : Tie} {m s : Nat}

/-- What is found at a precision stands for the double, with the last digit at that place. -/
theorem atPrecision?_eq_some {bits num den count : Nat} {d : Decimal}
    (h : atPrecision? tie bits num den count = some d) :
    d.magnitude = bits ∧ d.exponent = place num den - count := by
  unfold atPrecision? at h
  simp only at h
  split at h
  · rename_i hbelow habove
    have hb := of_decide_eq_true hbelow
    have ha := of_decide_eq_true habove
    split at h
    · cases h
      exact ⟨hb, rfl⟩
    · split at h
      · cases h
        exact ⟨ha, rfl⟩
      · cases tie with
        | up =>
          cases h
          exact ⟨ha, rfl⟩
        | even =>
          cases h
          split
          · exact ⟨hb, rfl⟩
          · exact ⟨ha, rfl⟩
  · rename_i hbelow _
    cases h
    exact ⟨of_decide_eq_true hbelow, rfl⟩
  · rename_i _ habove
    cases h
    exact ⟨of_decide_eq_true habove, rfl⟩
  · cases h

theorem magnitude_fraction {digits k : Nat} (hd : digits ≠ 0) (hk : 0 < k)
    (hlarge : k ≤ 330 + (digits.log2 / 3 + 1)) :
    (⟨digits, -(k : Int)⟩ : Decimal).magnitude = nearest digits (Nat.pow 10 k) := by
  unfold magnitude
  rw [if_neg hd, if_neg (by simp only; omega), if_neg (by simp only; omega)]
  simp only [Int.neg_neg, Int.toNat_natCast]

/-- The exact expansion stands for its double. It has so many digits that it is not small. -/
theorem magnitude_expansion (h : IsFinite m s) (hm : 0 < m) {p k : Nat} (hk : 0 < k)
    (hlarge : k ≤ 330 + (p.log2 / 3 + 1)) (hp : p * unitsPerOne = Nat.pow 10 k) :
    (⟨m * 2 ^ s * p, -(k : Int)⟩ : Decimal).magnitude = bitsOf m s := by
  have hpos : 0 < m * 2 ^ s := Nat.mul_pos hm (Nat.two_pow_pos s)
  have hten : 0 < Nat.pow 10 k := Nat.pow_pos (by decide)
  have hp0 : 0 < p := Nat.pos_of_mul_pos_right (hp ▸ hten)
  have hne : m * 2 ^ s * p ≠ 0 := Nat.ne_of_gt (Nat.mul_pos hpos hp0)
  have hlog : p.log2 ≤ (m * 2 ^ s * p).log2 := by
    rw [Nat.le_log2 hne]
    exact Nat.le_trans (Nat.log2_self_le (Nat.ne_of_gt hp0)) (Nat.le_mul_of_pos_left _ hpos)
  rw [magnitude_fraction hne hk (by omega)]
  refine nearest_exact h hm hten ?_
  rw [Nat.mul_assoc, hp]

theorem magnitude_shortest (tie : Tie) (h : IsFinite m s) :
    (shortest tie m s).magnitude = bitsOf m s := by
  unfold shortest
  simp only
  split
  · rename_i hzero
    have hm : m = 0 := by
      rcases Nat.mul_eq_zero.mp hzero with hm | hs
      · exact hm
      · exact absurd hs (Nat.ne_of_gt (Nat.two_pow_pos s))
    have hs : s = 0 := by
      rcases h.normal with hn | hs
      · subst hm
        exact absurd hn (by decide)
      · exact hs
    subst hm hs
    rfl
  · rename_i hnum
    have hm : 0 < m := Nat.pos_of_ne_zero fun hm => hnum (by rw [hm, Nat.zero_mul])
    cases hfound : (List.range 18).findSome?
        (atPrecision? tie (s * fractionSize + m) (m * Nat.pow 2 s) unitsPerOne) with
    | some d =>
      obtain ⟨count, _, hcount⟩ := List.exists_of_findSome?_eq_some hfound
      exact (atPrecision?_eq_some hcount).1
    | none =>
      exact magnitude_expansion h hm (by decide) (by decide +kernel) (by decide +kernel)

end Decimal

/-! ## Digits read back -/

/-- The next character goes on with no number. -/
def EndsNumber (rest : List Char) : Prop :=
  ∀ c, rest.head? = some c → c.isDigit = false ∧ c ≠ '.'

variable {rest : List Char}

/-- A front of characters that `p` holds of ends where the first other one stands. -/
theorem span_front {p : Char → Bool} {w : List Char} (hw : ∀ c ∈ w, p c = true)
    (hrest : ∀ c, rest.head? = some c → p c = false) :
    (w ++ rest).takeWhile p = w ∧ (w ++ rest).dropWhile p = rest := by
  rw [List.takeWhile_append_of_pos hw, List.dropWhile_append_of_pos hw]
  cases rest with
  | nil => rw [List.takeWhile_nil, List.dropWhile_nil, List.append_nil]; exact ⟨rfl, rfl⟩
  | cons c cs =>
    have hc : ¬p c = true := Bool.eq_false_iff.mp (hrest c rfl)
    rw [List.takeWhile_cons_of_neg hc, List.dropWhile_cons_of_neg hc, List.append_nil]
    exact ⟨rfl, rfl⟩

/-- The characters in front that `p` holds of, and the first one that it does not hold of. -/
theorem exists_front (p : Char → Bool) (cs : List Char) :
    ∃ x rest, cs = x ++ rest ∧ (∀ c ∈ x, p c = true) ∧
      ∀ c, rest.head? = some c → p c = false := by
  refine ⟨cs.takeWhile p, cs.dropWhile p, List.takeWhile_append_dropWhile.symm,
    fun c hc => List.mem_takeWhile_imp hc, fun c hc => ?_⟩
  have hstop := List.head?_dropWhile_not p cs
  rw [hc] at hstop
  exact Bool.eq_false_iff.mpr (by simpa using hstop)

theorem splitDigits_append {w : List Char} (hw : ∀ c ∈ w, c.isDigit = true)
    (hrest : ∀ c, rest.head? = some c → c.isDigit = false) :
    splitDigits (w ++ rest) = (w, rest) := by
  obtain ⟨htake, hdrop⟩ := span_front hw hrest
  unfold splitDigits
  rw [htake, hdrop]

theorem splitPointed_whole {w : List Char} (hw : ∀ c ∈ w, c.isDigit = true)
    (hrest : EndsNumber rest) : splitPointed (w ++ rest) = (w, [], rest) := by
  unfold splitPointed
  rw [splitDigits_append hw fun c hc => (hrest c hc).1]
  cases rest with
  | nil => rfl
  | cons c cs =>
    split
    · rename_i heq
      cases heq
      exact absurd rfl (hrest '.' rfl).2
    · rename_i heq
      cases heq
      rfl

theorem splitPointed_fraction {w f : List Char} (hw : ∀ c ∈ w, c.isDigit = true)
    (hf : ∀ c ∈ f, c.isDigit = true) (hrest : ∀ c, rest.head? = some c → c.isDigit = false) :
    splitPointed (w ++ '.' :: (f ++ rest)) = (w, f, rest) := by
  have hpoint : ∀ c, ('.' :: (f ++ rest)).head? = some c → c.isDigit = false := by
    rintro c ⟨⟩
    rfl
  unfold splitPointed
  rw [splitDigits_append hw hpoint]
  simp only
  rw [splitDigits_append hf hrest]

namespace Decimal

theorem digits_mem {n : Nat} : ∀ c ∈ Nat.toDigits 10 n, c.isDigit = true :=
  fun _ => Nat.isDigit_of_mem_toDigits (by decide) (by decide)

theorem zeros_mem {n : Nat} : ∀ c ∈ List.replicate n '0', c.isDigit = true := by
  intro c hc
  rw [List.eq_of_mem_replicate hc]
  rfl

/-- Zeros before the digits count for nothing. -/
theorem ofParts_zeros (n k : Nat) :
    ofParts ['0'] (List.replicate k '0' ++ Nat.toDigits 10 n) =
      ⟨n, -((k + (Nat.toDigits 10 n).length : Nat) : Int)⟩ := by
  unfold ofParts
  rw [← List.append_assoc, List.singleton_append, ← List.replicate_succ, Nat.ofDigitChars_append,
    Nat.ofDigitChars_replicate_zero, Nat.mul_zero, Nat.ofDigitChars_ten_toDigits,
    List.length_append, List.length_replicate]

theorem magnitude_zero (exponent : Int) : (⟨0, exponent⟩ : Decimal).magnitude = 0 := by
  unfold magnitude
  rw [if_pos rfl]

theorem magnitude_large {digits : Nat} {exponent : Int} (hd : digits ≠ 0) (he : 0 ≤ exponent)
    (hlarge : ¬310 < exponent) : (⟨digits, exponent⟩ : Decimal).magnitude =
      nearest (digits * Nat.pow 10 exponent.toNat) 1 := by
  unfold magnitude
  rw [if_neg hd, if_pos he, if_neg hlarge]

/-- A decimal that is no infinity has no huge power of ten. -/
theorem not_huge {digits : Nat} {exponent : Int} (hzero : digits ≠ 0) (he : 0 ≤ exponent)
    (hd : (⟨digits, exponent⟩ : Decimal).magnitude < infinityBits) : ¬310 < exponent := by
  intro hlarge
  unfold magnitude at hd
  rw [if_neg hzero, if_pos he, if_pos hlarge] at hd
  exact Nat.lt_irrefl _ hd

/-- The power of ten of a whole decimal can be written out. -/
theorem magnitude_whole {digits : Nat} {exponent : Int} (he : 0 ≤ exponent)
    (hd : (⟨digits, exponent⟩ : Decimal).magnitude < infinityBits) :
    (⟨digits * 10 ^ exponent.toNat, 0⟩ : Decimal).magnitude =
      (⟨digits, exponent⟩ : Decimal).magnitude := by
  by_cases hzero : digits = 0
  · rw [hzero, Nat.zero_mul, magnitude_zero, magnitude_zero]
  · have hsmall := not_huge hzero he hd
    have hpow : digits * 10 ^ exponent.toNat ≠ 0 :=
      Nat.mul_ne_zero hzero (Nat.ne_of_gt (Nat.pow_pos (by decide)))
    rw [magnitude_large hzero he hsmall, magnitude_large hpow (by decide) (by decide)]
    rw [Int.toNat_zero]
    exact congrArg (nearest · 1) (Nat.mul_one _)

/-- What is read of the digits of a decimal stands for the same double. -/
theorem splitPointed_positional {d : Decimal} (hd : d.magnitude < infinityBits)
    (hrest : EndsNumber rest) :
    ∃ whole fraction, splitPointed (d.positional ++ rest) = (whole, fraction, rest) ∧
      (ofParts whole fraction).magnitude = d.magnitude := by
  obtain ⟨digits, exponent⟩ := d
  unfold positional
  simp only
  split
  · rename_i he
    refine ⟨_, _, splitPointed_whole ?_ hrest, ?_⟩
    · intro c hc
      rcases List.mem_append.mp hc with hc | hc
      · exact digits_mem c hc
      · exact zeros_mem c hc
    · unfold ofParts
      rw [List.append_nil, Nat.ofDigitChars_append, Nat.ofDigitChars_ten_toDigits,
        Nat.ofDigitChars_replicate_zero, Nat.mul_comm]
      exact magnitude_whole he hd
  · rename_i he
    split
    · rename_i hwhole
      rw [List.append_assoc, List.cons_append]
      refine ⟨_, _, splitPointed_fraction (fun c hc => digits_mem c (List.mem_of_mem_take hc))
        (fun c hc => digits_mem c (List.mem_of_mem_drop hc)) fun c hc => (hrest c hc).1, ?_⟩
      unfold ofParts
      rw [List.take_append_drop, Nat.ofDigitChars_ten_toDigits, List.length_drop]
      congr 2
      omega
    · rename_i hwhole
      generalize hz : (-((Nat.toDigits 10 digits).length + exponent)).toNat = zeros
      refine ⟨['0'], List.replicate zeros '0' ++ Nat.toDigits 10 digits, ?_, ?_⟩
      · refine splitPointed_fraction (zeros_mem (n := 1)) (fun c hc => ?_) fun c hc =>
          (hrest c hc).1
        rcases List.mem_append.mp hc with hc | hc
        · exact zeros_mem c hc
        · exact digits_mem c hc
      · rw [ofParts_zeros]
        congr 2
        omega

/-- A decimal starts with a digit. -/
theorem positional_head (d : Decimal) : ∃ c cs, d.positional = c :: cs ∧ c.isDigit = true := by
  have hdigits : ∃ c cs, Nat.toDigits 10 d.digits = c :: cs ∧ c.isDigit = true := by
    cases h : Nat.toDigits 10 d.digits with
    | nil => exact absurd h Nat.toDigits_ne_nil
    | cons c cs => exact ⟨c, cs, rfl, digits_mem c (h ▸ List.mem_cons_self)⟩
  obtain ⟨c, cs, hcs, hc⟩ := hdigits
  unfold positional
  simp only [hcs]
  split
  · exact ⟨c, _, rfl, hc⟩
  · split
    · rename_i hwhole
      cases hn : (((c :: cs).length : Int) + d.exponent).toNat with
      | zero => omega
      | succ n => exact ⟨c, _, rfl, hc⟩
    · exact ⟨'0', _, rfl, rfl⟩

end Decimal

end Patchbay.Number
