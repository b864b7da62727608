-- Slices of lists. A count of any kind, with a fraction or without, below zero,
-- infinite or no number at all, splits a list in two, and an index takes what
-- stands first after such a split.
import Patchbay.Language.Eval
import Patchbay.Proofs.WholeParts

namespace Patchbay

namespace Number

variable {x c : Float} {k n : Nat} {t : Int} {q : ℚ}

/-! ## Counts -/

theorem greater_zero_of_neg {a : Nat} (hpos : 0 < a) (ha : a ≤ infinityBits) :
    greater (ofMagnitude true a) 0.0 = 0.0 := by
  unfold greater
  rcases Nat.lt_or_eq_of_le ha with hlt | rfl
  · have hunits := units?_ofMagnitude true hlt
    have hsize := unitsOf_lt hpos
    have hneg : ofMagnitude true a < 0.0 := by
      rw [lt_units hunits units?_zero]
      unfold signed
      rw [if_pos rfl]
      omega
    rw [isNaN_of_units hunits, if_neg Bool.false_ne_true, if_pos hneg]
  · rfl

theorem isNaN_infinity (negative : Bool) : (ofMagnitude negative infinityBits).isNaN = false := by
  cases negative <;> rfl

theorem lt_zero_iff (hx : units? x = some (t * unitsPerOne)) : x < 0.0 ↔ t < 0 :=
  lt_whole hx (units?_zero.trans (congrArg some (Int.zero_mul _).symm))

/-- What is left of a length when so much is taken off, and nothing when that is too much. -/
theorem toWord_fromEnd (hn : n < 2 ^ 53) (hx : units? x = some (t * unitsPerOne)) (ht : t < 0) :
    (toWord (greater (ofNat n + x) 0.0) : Int) = max (n + t) 0 := by
  have hlen := units?_ofNat (Nat.le_of_lt hn)
  rw [Nat.cast_mul] at hlen
  by_cases hleft : 0 ≤ n + t
  · obtain ⟨k, hk⟩ := Int.eq_ofNat_of_zero_le hleft
    have hsum := units?_add_whole hlen hx (by omega)
    have hnonneg : ¬ofNat n + x < 0.0 := by
      rw [lt_zero_iff hsum]
      omega
    unfold greater
    rw [isNaN_of_units hsum, if_neg Bool.false_ne_true, if_neg hnonneg]
    rw [hk, ← Nat.cast_mul] at hsum
    rw [toWord_whole hsum (by omega)]
    omega
  · obtain ⟨negative, hsum, hbelow, -⟩ := add_units hlen hx
    rw [← Int.add_mul] at hsum hbelow
    have hpos : (0 : Int) < unitsPerOne := Int.natCast_pos.mpr unitsPerOne_pos
    have hneg := Int.mul_neg_of_neg_of_pos (Int.not_le.mp hleft) hpos
    rw [hsum, hbelow hneg, greater_zero_of_neg (nearest_pos (by omega)) (nearest_le _ _)]
    rw [Int.max_eq_right (by omega)]
    rfl

/-- A count from the start stops at the end, and one from the end at the start. -/
theorem sliceBound_of_value? (hn : n < 2 ^ 53) (h : value? c = some q) :
    (sliceBound c n : Int) = if 0 ≤ cut q then min (cut q) n else max (n + cut q) 0 := by
  obtain ⟨u, hu, rfl⟩ := value?_iff.mp h
  have htrunc := units?_trunc hu
  have hlen := units?_ofNat (Nat.le_of_lt hn)
  rw [Nat.cast_mul] at hlen
  rw [cut_units]
  unfold sliceBound
  rw [isNaN_of_units hu, if_neg Bool.false_ne_true]
  generalize u.tdiv unitsPerOne = t at *
  dsimp only
  by_cases ht : t < 0
  · rw [if_pos ((lt_zero_iff htrunc).mpr ht), if_neg (Int.not_le.mpr ht)]
    exact toWord_fromEnd hn htrunc ht
  · rw [if_neg (mt (lt_zero_iff htrunc).mp ht), if_pos (Int.not_lt.mp ht)]
    obtain ⟨k, rfl⟩ := Int.eq_ofNat_of_zero_le (Int.not_lt.mp ht)
    unfold lesser
    rw [isNaN_of_units htrunc, if_neg Bool.false_ne_true]
    split_ifs with hlt
    · rw [lt_whole hlen htrunc] at hlt
      rw [← Nat.cast_mul] at hlen
      rw [toWord_whole hlen (by omega)]
      omega
    · rw [lt_whole hlen htrunc] at hlt
      rw [← Nat.cast_mul] at htrunc
      rw [toWord_whole htrunc (by omega)]
      omega

theorem sliceBound_of_natural (hn : n < 2 ^ 53) (h : value? c = some (k : ℚ)) :
    sliceBound c n = min k n := by
  have hcut : cut (k : ℚ) = k := by
    unfold cut
    rw [if_neg (not_lt.mpr (Nat.cast_nonneg k)), Int.floor_natCast]
  have hcount := sliceBound_of_value? hn h
  rw [hcut, if_pos (Int.natCast_nonneg k)] at hcount
  omega

theorem ofNat_add_infinity (hn : n ≤ 2 ^ 53) :
    ofNat n + ofMagnitude true infinityBits = ofMagnitude true infinityBits := by
  obtain ⟨negative, m, s, h, heq, -⟩ := exists_of_units? (units?_ofNat hn)
  change Float.ofModel (.pack (Float.Model.UnpackedFloat.add .binary64 (ofNat n).toModel.unpack
    (.infinity .negative))) = _
  rw [heq, unpack_ofMagnitude negative h]
  split_ifs <;> rfl

/-- An infinite count passes the end or the start. -/
theorem sliceBound_of_infinite {negative : Bool} (hn : n < 2 ^ 53)
    (h : exact c = .infinite negative) : sliceBound c n = if negative then 0 else n := by
  have hlen := units?_ofNat (Nat.le_of_lt hn)
  rw [eq_of_infinite h]
  unfold sliceBound trunc
  rw [isNaN_infinity, exact_infinity, if_neg Bool.false_ne_true]
  dsimp only
  cases negative with
  | false =>
    have hlt : ofNat n < ofMagnitude false infinityBits :=
      (ofMagnitude_lt (nearest_le n 1) (Nat.le_refl _)).mpr
        (nearest_lt_infinityBits (Nat.le_of_lt hn))
    unfold lesser
    rw [if_neg (by decide +kernel), isNaN_infinity, if_neg Bool.false_ne_true, if_pos hlt,
      if_neg Bool.false_ne_true]
    exact toWord_whole hlen (by omega)
  | true =>
    rw [if_pos (by decide +kernel), ofNat_add_infinity (Nat.le_of_lt hn), if_pos rfl]
    rfl

theorem sliceBound_of_nan (h : exact c = .nan) : sliceBound c n = 0 := by
  rw [eq_of_nan h]
  rfl

theorem value?_of_finite {negative : Bool} {m s : Nat} (h : exact c = .finite negative m s) :
    ∃ q, value? c = some q :=
  ⟨_, value?_iff.mpr ⟨_, units?_of_finite h, rfl⟩⟩

/-- Whatever the count, it stays within the length. -/
theorem sliceBound_le (c : Float) (hn : n < 2 ^ 53) : sliceBound c n ≤ n := by
  cases h : exact c with
  | nan =>
    rw [sliceBound_of_nan h]
    exact Nat.zero_le n
  | infinite negative =>
    rw [sliceBound_of_infinite hn h]
    split_ifs <;> omega
  | finite negative m s =>
    obtain ⟨q, hq⟩ := value?_of_finite h
    have hcount := sliceBound_of_value? hn hq
    split_ifs at hcount <;> omega

/-- A place before the end of any length is the whole part of the number, as far as that has room
in 64 bits. -/
theorem From.sliceBound_eq (h : From x 0) (hlt : x < ofNat n) :
    ∃ q, value? x = some q ∧ 0 ≤ q ∧ ⌊q⌋₊ < n ∧ sliceBound x n = min ⌊q⌋₊ (2 ^ 64 - 1) := by
  obtain ⟨a, ha, rfl, -⟩ := h
  unfold ofNat at hlt
  have hbits := (ofMagnitude_lt ha (nearest_le n 1)).mp hlt
  have hfinite : a < infinityBits := Nat.lt_of_lt_of_le hbits (nearest_le n 1)
  have hunits := units?_ofMagnitude false hfinite
  have hself := nearest_unitsOf hfinite
  refine ⟨_, value?_ofMagnitude hfinite, size_nonneg _, ?_, ?_⟩
  all_goals rw [Rat.natFloor_natCast_div_natCast]
  · -- A double that is not below the length is not before it when the length is rounded.
    rw [Nat.div_lt_iff_lt_mul unitsPerOne_pos]
    by_contra hle
    have hmono : nearest n 1 ≤ nearest (unitsOf a) unitsPerOne :=
      nearest_mono Nat.one_pos unitsPerOne_pos (by omega)
    omega
  · obtain ⟨hwhole, hwholeUnits⟩ := nearest_whole hfinite
    have hle : nearest (unitsOf a / unitsPerOne) 1 ≤ nearest (unitsOf a) unitsPerOne := by
      refine nearest_mono Nat.one_pos unitsPerOne_pos ?_
      rw [Nat.mul_one]
      exact Nat.div_mul_le_self _ _
    have hnonneg : ¬ofMagnitude false (nearest (unitsOf a / unitsPerOne) 1) < 0.0 :=
      mt (ofMagnitude_lt (b := 0) (nearest_le _ 1) (Nat.zero_le _)).mp (Nat.not_lt_zero _)
    have hbefore : ¬ofNat n < ofMagnitude false (nearest (unitsOf a / unitsPerOne) 1) := by
      unfold ofNat
      rw [ofMagnitude_lt (nearest_le n 1) (nearest_le _ 1)]
      omega
    unfold sliceBound lesser
    rw [isNaN_of_units hunits, trunc_ofMagnitude false hfinite, if_neg Bool.false_ne_true]
    dsimp only
    rw [if_neg hnonneg, isNaN_of_units (units?_ofMagnitude false hwhole),
      if_neg Bool.false_ne_true, if_neg hbefore, toWord_units (units?_ofMagnitude false hwhole),
      hwholeUnits]
    exact congrArg (min · _) (Nat.mul_div_cancel _ unitsPerOne_pos)

/-! ## Indices -/

/-- The whole numbers from zero on and below a length, and no other doubles, are indices. -/
theorem isIndex_iff (hn : n < 2 ^ 53) :
    isIndex c n = true ↔ ∃ k : Nat, value? c = some (k : ℚ) ∧ k < n := by
  have hlen := units?_ofNat (Nat.le_of_lt hn)
  unfold isIndex
  rw [Bool.and_eq_true, Bool.and_eq_true, decide_eq_true_iff, decide_eq_true_iff]
  constructor
  · rintro ⟨⟨hnonneg, hwhole⟩, hlt⟩
    cases hu : units? c with
    | none =>
      rw [fract_of_no_units hu] at hwhole
      cases hwhole
    | some u =>
      rw [fract_beq_zero hu, decide_eq_true_iff] at hwhole
      rw [le_units units?_zero hu] at hnonneg
      rw [lt_units hu hlen] at hlt
      obtain ⟨w, rfl⟩ := Int.eq_ofNat_of_zero_le hnonneg
      have hless : w < n * unitsPerOne := Int.ofNat_lt.mp hlt
      obtain ⟨k, hk⟩ := exists_eq_mul_left_of_dvd (Int.natCast_dvd_natCast.mp hwhole)
      rw [hk] at hless
      refine ⟨k, value?_iff.mpr ⟨_, hu, ?_⟩, Nat.lt_of_mul_lt_mul_right hless⟩
      rw [eq_div_iff (ne_of_gt unitsPerOne_cast_pos)]
      exact_mod_cast hk.symm
  · rintro ⟨k, hk, hlt⟩
    have hu := units?_of_natural hk
    rw [le_units units?_zero hu, fract_beq_zero hu, lt_units hu hlen, decide_eq_true_iff]
    refine ⟨⟨Int.natCast_nonneg _, ?_⟩, ?_⟩
    · exact Int.natCast_dvd_natCast.mpr (Nat.dvd_mul_left _ _)
    · exact Int.ofNat_lt.mpr (Nat.mul_lt_mul_of_pos_right hlt unitsPerOne_pos)

/-- An index is below the length, so there is an item to take. -/
theorem toWord_index (hn : n < 2 ^ 53) (hk : value? c = some (k : ℚ)) (hlt : k < n) :
    toWord c = k :=
  toWord_whole (units?_of_natural hk) (by omega)

end Number

namespace Language

open Patchbay.Action

/-- A built-in function on arguments that it gets one after the other. -/
def Builtin.on (b : Builtin) (args : List Value) (depth : Nat) (caller : ScopeId) : Eval Value :=
  foldList (apply depth caller) (.builtin b []) args

section

variable (c : Float) (xs : List Value) (depth : Nat) (caller : ScopeId) (st : Store)

theorem take_on : Builtin.take.on [.number c, .list xs] (depth + 1) caller st =
    (demand (Builtin.front? xs (Number.sliceBound c xs.length)) >>= fun front =>
      pure (.list front)) st := by
  simp only [Builtin.on, foldList, bind_pure]
  rfl

theorem skip_on : Builtin.skip.on [.number c, .list xs] (depth + 1) caller st =
    (demand (Builtin.back? xs (Number.sliceBound c xs.length)) >>= fun back =>
      pure (.list back)) st := by
  simp only [Builtin.on, foldList, bind_pure]
  rfl

theorem first_on : Builtin.first.on [.list xs] (depth + 1) caller st =
    ofOption (.emptyList .first) xs.head? st := by
  simp only [Builtin.on, foldList, bind_pure]
  rfl

theorem nth_on : Builtin.nth.on [.number c, .list xs] (depth + 1) caller st =
    (if Number.isIndex c xs.length then demand xs[Number.toWord c]?
      else fail (.indexOutOfBounds c xs.length) : Eval Value) st := by
  simp only [Builtin.on, foldList, bind_pure]
  rfl

variable {c xs}

/-- The places of slices are there, so no slice breaks off. -/
theorem take_on_of_le (h : Number.sliceBound c xs.length ≤ xs.length) :
    Builtin.take.on [.number c, .list xs] (depth + 1) caller st =
      .done (.list (xs.take (Number.sliceBound c xs.length))) st := by
  rw [take_on, Builtin.front?, if_pos h]
  rfl

theorem skip_on_of_le (h : Number.sliceBound c xs.length ≤ xs.length) :
    Builtin.skip.on [.number c, .list xs] (depth + 1) caller st =
      .done (.list (xs.drop (Number.sliceBound c xs.length))) st := by
  rw [skip_on, Builtin.back?, if_pos h]
  rfl

/-- An index within the list takes what stands first after as many items. -/
theorem nth_on_of_lt (hlen : xs.length < 2 ^ 53) {k : Nat} (hc : Number.value? c = some (k : ℚ))
    (hk : k < xs.length) : ∃ v, xs[k]? = some v ∧
      Builtin.nth.on [.number c, .list xs] (depth + 1) caller st = .done v st ∧
      Builtin.first.on [.list (xs.drop (Number.sliceBound c xs.length))] (depth + 1) caller st =
        .done v st := by
  refine ⟨xs[k], List.getElem?_eq_getElem hk, ?_, ?_⟩
  · rw [nth_on, (Number.isIndex_iff hlen).mpr ⟨k, hc, hk⟩, if_pos rfl,
      Number.toWord_index hlen hc hk, List.getElem?_eq_getElem hk]
    rfl
  · rw [first_on, Number.sliceBound_of_natural hlen hc, Nat.min_eq_left (Nat.le_of_lt hk),
      List.head?_drop, List.getElem?_eq_getElem hk]
    rfl

/-- Any other index is out of bounds. -/
theorem nth_on_of_not (hlen : xs.length < 2 ^ 53)
    (hc : ¬∃ k : Nat, Number.value? c = some (k : ℚ) ∧ k < xs.length) :
    Builtin.nth.on [.number c, .list xs] (depth + 1) caller st =
      .failed (.indexOutOfBounds c xs.length) st := by
  have hout : Number.isIndex c xs.length = false :=
    Bool.eq_false_iff.mpr (mt (Number.isIndex_iff hlen).mp hc)
  rw [nth_on, hout, if_neg Bool.false_ne_true]
  rfl

variable (c xs)

/-- Whatever the count, `take` and `skip` split the list: after as many items as the count has
before its point, or that many before the end when it is below zero, and at an end of the list
when it would pass that. An infinite count passes it, and what is no number takes nothing. `nth`
has an item exactly for the whole numbers from zero on and below the length, the first one that
`skip` leaves, and is out of bounds for all others. So no slice and no item is asked for that the
list does not have, as long as the length of the list is a double. -/
theorem take_and_skip_split_and_nth_indexes (hlen : xs.length < 2 ^ 53) :
    Number.sliceBound c xs.length ≤ xs.length ∧
    (Number.isIndex c xs.length = true → Number.toWord c < xs.length) ∧
    ∃ front back,
      Builtin.take.on [.number c, .list xs] (depth + 1) caller st = .done (.list front) st ∧
      Builtin.skip.on [.number c, .list xs] (depth + 1) caller st = .done (.list back) st ∧
      front ++ back = xs ∧
      (∀ q, Number.value? c = some q → (front.length : Int) =
        if 0 ≤ Number.cut q then min (Number.cut q) xs.length
        else max (xs.length + Number.cut q) 0) ∧
      (Number.exact c = .infinite false → front = xs) ∧
      (Number.exact c = .infinite true → front = []) ∧
      (Number.exact c = .nan → front = []) ∧
      (∀ k : Nat, Number.value? c = some (k : ℚ) → k < xs.length → ∃ v, xs[k]? = some v ∧
        Builtin.nth.on [.number c, .list xs] (depth + 1) caller st = .done v st ∧
        Builtin.first.on [.list back] (depth + 1) caller st = .done v st) ∧
      ((¬∃ k : Nat, Number.value? c = some (k : ℚ) ∧ k < xs.length) →
        Builtin.nth.on [.number c, .list xs] (depth + 1) caller st =
          .failed (.indexOutOfBounds c xs.length) st) := by
  have hle := Number.sliceBound_le c hlen
  have hfront : (xs.take (Number.sliceBound c xs.length)).length =
      Number.sliceBound c xs.length := List.length_take_of_le hle
  refine ⟨hle, fun hindex => ?_, _, _, take_on_of_le depth caller st hle,
    skip_on_of_le depth caller st hle, List.take_append_drop _ xs, fun q hq => ?_,
    fun hc => ?_, fun hc => ?_, fun hc => ?_,
    fun k hk hlt => nth_on_of_lt depth caller st hlen hk hlt,
    nth_on_of_not depth caller st hlen⟩
  · obtain ⟨k, hk, hlt⟩ := (Number.isIndex_iff hlen).mp hindex
    rw [Number.toWord_index hlen hk hlt]
    exact hlt
  · rw [hfront]
    exact Number.sliceBound_of_value? hlen hq
  · rw [Number.sliceBound_of_infinite hlen hc, if_neg Bool.false_ne_true, List.take_length]
  · rw [Number.sliceBound_of_infinite hlen hc, if_pos rfl, List.take_zero]
  · rw [Number.sliceBound_of_nan hc, List.take_zero]

end

theorem eq_take_and_drop {front back xs : List Value} {n : Nat} (h : front ++ back = xs)
    (hn : (front.length : Int) = n) : front = xs.take n ∧ back = xs.drop n := by
  obtain rfl := Int.ofNat_inj.mp hn
  subst h
  exact ⟨List.take_left.symm, List.drop_left.symm⟩

/-- A number that is not a whole one from zero on and below the length is no index. -/
theorem not_index {c : Float} {q : ℚ} {n : Nat} (hq : Number.value? c = some q)
    (hne : ∀ k : Nat, k < n → q ≠ k) : ¬∃ k : Nat, Number.value? c = some (k : ℚ) ∧ k < n := by
  rintro ⟨k, hk, hlt⟩
  exact hne k hlt (Option.some.inj (hq.symm.trans hk))

def threeItems : List Value := [.number 7.0, .text "b", .number 9.0]

/-- A count with a fraction from the end, one that is too large, one that is no number, and an
index. -/
theorem three_items_are_split_and_indexed :
    Builtin.take.on [.number (-1.5), .list threeItems] 1 0 .empty =
        .done (.list [.number 7.0, .text "b"]) .empty ∧
      Builtin.skip.on [.number (-1.5), .list threeItems] 1 0 .empty =
        .done (.list [.number 9.0]) .empty ∧
      Builtin.nth.on [.number (-1.5), .list threeItems] 1 0 .empty =
        .failed (.indexOutOfBounds (-1.5) 3) .empty ∧
      Builtin.take.on [.number 1.0e18, .list threeItems] 1 0 .empty =
        .done (.list threeItems) .empty ∧
      Builtin.skip.on [.number 1.0e18, .list threeItems] 1 0 .empty = .done (.list []) .empty ∧
      Builtin.nth.on [.number 1.0e18, .list threeItems] 1 0 .empty =
        .failed (.indexOutOfBounds 1.0e18 3) .empty ∧
      Builtin.take.on [.number (0.0 / 0.0), .list threeItems] 1 0 .empty =
        .done (.list []) .empty ∧
      Builtin.nth.on [.number (0.0 / 0.0), .list threeItems] 1 0 .empty =
        .failed (.indexOutOfBounds (0.0 / 0.0) 3) .empty ∧
      Builtin.nth.on [.number 2.0, .list threeItems] 1 0 .empty = .done (.number 9.0) .empty := by
  have hall := fun c => take_and_skip_split_and_nth_indexes c threeItems 0 0 .empty (by decide)
  obtain ⟨-, -, front, back, htake, hskip, hjoin, hcount, -, -, -, -, hout⟩ := hall (-1.5)
  obtain ⟨-, -, front', back', htake', hskip', hjoin', hcount', -, -, -, -, hout'⟩ := hall 1.0e18
  obtain ⟨-, -, front'', back'', htake'', -, -, -, -, -, hnan, -, hout''⟩ := hall (0.0 / 0.0)
  obtain ⟨-, -, _, _, -, -, -, -, -, -, -, hindex, -⟩ := hall 2.0
  have hvalue : Number.value? (-1.5) = some (-3 / 2) := by decide +kernel
  have hvalue' : Number.value? 1.0e18 = some (10 ^ 18) := by decide +kernel
  have hvalue'' : Number.value? 2.0 = some ((2 : Nat) : ℚ) := by decide +kernel
  have hnone : Number.value? (0.0 / 0.0) = none := rfl
  have hlength : (front.length : Int) = (2 : Nat) := (hcount _ hvalue).trans (by decide +kernel)
  have hlength' : (front'.length : Int) = (3 : Nat) := (hcount' _ hvalue').trans (by decide +kernel)
  obtain ⟨rfl, rfl⟩ := eq_take_and_drop hjoin hlength
  obtain ⟨rfl, rfl⟩ := eq_take_and_drop hjoin' hlength'
  obtain ⟨v, hv, hnth, -⟩ := hindex 2 hvalue'' (by decide)
  cases hv
  have hnothing := hnan rfl
  subst hnothing
  refine ⟨htake, hskip, hout (not_index hvalue ?_), htake', hskip',
    hout' (not_index hvalue' ?_), htake'', hout'' ?_, hnth⟩
  · decide +kernel
  · decide +kernel
  · rintro ⟨k, hk, -⟩
    rw [hnone] at hk
    cases hk

end Language

end Patchbay
