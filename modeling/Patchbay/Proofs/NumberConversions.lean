-- Numbers through texts and back. The text that is shown for a number is a numeral
-- as a whole, so each reader of numbers takes all of it: the conversions of the
-- language give the number again, and its lexer gives it after its sign.
import Patchbay.Proofs.Numerals

namespace Patchbay

namespace Number

variable {x : Float} {negative : Bool} {m s : Nat} {q : ℚ}

/-! ## The text of a number is a numeral -/

/-- The number itself, and zero in place of minus zero. -/
def withoutMinusZero (x : Float) : Float := if exact x = .finite true 0 0 then 0.0 else x

theorem withoutMinusZero_eq (h : exact x ≠ .finite true 0 0) : withoutMinusZero x = x := if_neg h

theorem withoutMinusZero_zero (h : exact x = .finite negative 0 0) :
    withoutMinusZero x = ofMagnitude false (bitsOf 0 0) := by
  cases negative with
  | false =>
    rw [withoutMinusZero_eq (by rw [h]; decide)]
    exact (ofMagnitude_finite h).symm
  | true => exact if_pos h

theorem withoutMinusZero_finite (h : exact x = .finite negative m s) (hm : m ≠ 0) :
    withoutMinusZero x = ofMagnitude negative (bitsOf m s) := by
  rw [withoutMinusZero_eq (by rw [h]; simp [hm])]
  exact (ofMagnitude_finite h).symm

/-- The digits of a finite double are a numeral that stands for it. -/
theorem IsFinite.unsigned (h : IsFinite m s) (negative : Bool) :
    Unsigned exponent negative (shown m s).positional (ofMagnitude negative (bitsOf m s)) := by
  have hmagnitude := magnitude_shown h
  have hfinite : (shown m s).magnitude < infinityBits := hmagnitude ▸ h.bits_lt
  have hend : EndsNumber [] := by rintro c ⟨⟩
  obtain ⟨whole, fraction, hread, hvalue⟩ := Decimal.splitPointed_positional hfinite hend
  obtain ⟨c, cs, hcs, hdigit⟩ := Decimal.positional_head (shown m s)
  obtain ⟨text, _, _, _, hsplit, htext, -, hnone | ht⟩ :=
    splitPointed_spec ((shown m s).positional ++ [])
  all_goals
    rw [hread] at hsplit
    cases hsplit
    obtain rfl := List.append_cancel_right htext
  · -- A decimal starts with a digit, so it is no point alone.
    rw [hnone.2.2 c (hcs ▸ List.mem_cons_self)] at hdigit
    cases hdigit
  · have hunsigned : Unsigned exponent negative (_ ++ []) _ := .decimal ht .none
    rwa [Decimal.shift_zero, ← Decimal.magnitude_eq_rounded, hvalue, hmagnitude,
      List.append_nil] at hunsigned

/-- The text of a double is a numeral as a whole, and stands for that double. -/
theorem numeral_plain (hx : exact x ≠ .nan) :
    Numeral exponent (plain x).toList (withoutMinusZero x) := by
  cases hexact : exact x with
  | nan => exact absurd hexact hx
  | infinite negative =>
    have hself : withoutMinusZero x = ofMagnitude negative infinityBits := by
      rw [withoutMinusZero_eq (by rw [hexact]; exact Exact.noConfusion)]
      exact eq_of_infinite hexact
    rw [hself, plain_of_infinite hexact]
    cases negative with
    | false => exact .signed .none .infinity
    | true => exact .signed .minus .infinity
  | finite negative m s =>
    have hfinite := (exact_finite hexact).1
    rw [plain_finite hexact]
    by_cases hm : m = 0
    · subst hm
      obtain rfl := hfinite.scale_zero (by decide)
      rw [withoutMinusZero_zero hexact, decide_eq_false (fun h => h rfl), Bool.and_false,
        if_neg Bool.false_ne_true]
      exact .signed .none (hfinite.unsigned false)
    · rw [withoutMinusZero_finite hexact hm, decide_eq_true hm, Bool.and_true]
      cases negative with
      | false => exact .signed .none (hfinite.unsigned false)
      | true => exact .signed .minus (hfinite.unsigned true)

/-- What is read of the text of a number is that number. -/
theorem leading?_plain (hx : exact x ≠ .nan) : leading? (plain x) = some (withoutMinusZero x) := by
  have hread := (numeral_plain hx).leading?_eq
  rwa [String.ofList_toList] at hread

/-! ## Numbers below zero -/

theorem plain_minusZero (h : exact x = .finite true 0 0) : plain x = plain 0.0 := by
  have hzero : exact 0.0 = .finite false 0 0 := rfl
  refine String.toList_injective ?_
  rw [plain_finite h, plain_finite hzero]
  rfl

theorem plain_negative (h : exact x = .finite true m s) (hm : m ≠ 0) :
    (plain x).toList = '-' :: (plain (-x)).toList := by
  rw [plain_finite h, plain_finite (exact_neg h), decide_eq_true hm]
  rfl

/-- Only minus zero has a sign and a number that is not below zero. -/
theorem exact_of_nonneg (h : value? x = some q) (hq : 0 ≤ q) :
    (∃ m s, exact x = .finite false m s) ∨ exact x = .finite true 0 0 := by
  obtain ⟨negative, m, s, hx, rfl⟩ := value?_eq_some h
  cases negative with
  | false => exact Or.inl ⟨m, s, hx⟩
  | true =>
    have hnonneg := size_nonneg (m * 2 ^ s)
    have hsize : ((m * 2 ^ s : Nat) : ℚ) / unitsPerOne = 0 := by
      simp only [if_true] at hq
      linarith
    have hunits : m * 2 ^ s = 0 := by
      have hone := ne_of_gt unitsPerOne_cast_pos
      exact_mod_cast (div_eq_zero_iff.mp hsize).resolve_right hone
    obtain rfl := (Nat.mul_eq_zero.mp hunits).resolve_right (Nat.ne_of_gt (Nat.two_pow_pos s))
    obtain rfl := (exact_finite hx).1.scale_zero (by decide)
    exact Or.inr hx

theorem exact_of_neg (h : value? x = some q) (hq : q < 0) :
    ∃ m s, exact x = .finite true m s ∧ m ≠ 0 := by
  obtain ⟨negative, m, s, hx, rfl⟩ := value?_eq_some h
  have hnonneg := size_nonneg (m * 2 ^ s)
  cases negative with
  | false =>
    simp only [Bool.false_eq_true, if_false] at hq
    linarith
  | true =>
    refine ⟨m, s, hx, ?_⟩
    rintro rfl
    simp only [if_true, Nat.zero_mul, Nat.cast_zero, zero_div, neg_zero, lt_self_iff_false] at hq

end Number

namespace Language

open Patchbay.Number

section

variable {x : Float} {m s : Nat} {q : ℚ}

theorem tokenize_plain (h : exact x = .finite false m s) :
    tokenize (plain x) = .ok [.number x] := by
  have hspells := Spells.number h Ends.nil.endsNumber Spells.nil
  rw [List.append_nil] at hspells
  exact spells_iff.mp hspells

theorem tokenize_plain_nonneg (h : value? x = some q) (hq : 0 ≤ q) :
    tokenize (plain x) = .ok [.number (withoutMinusZero x)] := by
  rcases exact_of_nonneg h hq with ⟨m, s, hx⟩ | hx
  · rw [withoutMinusZero_eq (by rw [hx]; simp), tokenize_plain hx]
  · rw [plain_minusZero hx, show withoutMinusZero x = 0.0 from if_pos hx]
    exact tokenize_plain (m := 0) (s := 0) rfl

theorem tokenize_plain_neg (h : value? x = some q) (hq : q < 0) :
    tokenize (plain x) = .ok [.symbol .minus, .number (-x)] := by
  obtain ⟨m, s, hx, hm⟩ := exact_of_neg h hq
  have hnumber := Spells.number (exact_neg hx) Ends.nil.endsNumber Spells.nil
  have hminus := Spells.cuts (.mark (s := .minus) rfl (by rintro ⟨⟩)) hnumber
  rw [List.append_nil] at hminus
  refine spells_iff.mp ?_
  rw [plain_negative hx hm]
  exact hminus

end

/-- A number that is turned into a text and back. -/
def throughText (x : Float) (depth : Nat) (caller : ScopeId) : Eval Value := do
  let text ← Builtin.toStr.on [.number x] depth caller
  Builtin.toNum.on [text] depth caller

theorem throughText_eq (x : Float) (depth : Nat) (caller : ScopeId) (st : Store) :
    throughText x (depth + 1) caller st =
      Builtin.toNum.on [.text (plain x)] (depth + 1) caller st := rfl

/-- The text of a number holds the number, for each of its readers. From the text `toNum` makes
the number again, below zero and infinite ones as well, but it makes no minus zero, and it fails on
the text of what is no number. The lexer reads the text of a finite number from zero on as one
number, and that of a number below zero as the minus sign and the number without its sign. -/
theorem numbers_come_back_from_their_texts (x : Float) (depth : Nat) (caller : ScopeId)
    (st : Store) :
    (exact x ≠ .nan →
      throughText x (depth + 1) caller st = .done (.number (withoutMinusZero x)) st) ∧
      (exact x = .nan → ∃ e, throughText x (depth + 1) caller st = .failed e st ∧
        e.code = "eval-not-a-number") ∧
      (∀ q, value? x = some q → 0 ≤ q →
        tokenize (plain x) = .ok [.number (withoutMinusZero x)]) ∧
      (∀ q, value? x = some q → q < 0 →
        tokenize (plain x) = .ok [.symbol .minus, .number (-x)]) := by
  rw [throughText_eq]
  refine ⟨fun hx => ?_, fun hx => ?_, fun q => tokenize_plain_nonneg, fun q => tokenize_plain_neg⟩
  · exact toNum_on_some _ depth caller st (leading?_plain hx)
  · have hread : leading? (plain x) = none := by
      rw [plain_of_nan hx]
      decide +kernel
    exact ⟨_, toNum_on_none _ depth caller st hread, rfl⟩

theorem minusZero_loses_its_sign_and_belowZero_keeps_it :
    throughText (-2.5) 1 0 .empty = .done (.number (-2.5)) .empty ∧
      tokenize (plain (-2.5)) = .ok [.symbol .minus, .number 2.5] ∧
      throughText (-0.0) 1 0 .empty = .done (.number 0.0) .empty ∧
      tokenize (plain (-0.0)) = .ok [.number 0.0] ∧
      ∃ e, throughText (0.0 / 0.0) 1 0 .empty = .failed e .empty ∧
        e.code = "eval-not-a-number" := by
  obtain ⟨hread, -, -, hlexed⟩ := numbers_come_back_from_their_texts (-2.5) 0 0 .empty
  obtain ⟨hread', -, hlexed', -⟩ := numbers_come_back_from_their_texts (-0.0) 0 0 .empty
  obtain ⟨-, hfails, -, -⟩ := numbers_come_back_from_their_texts (0.0 / 0.0) 0 0 .empty
  have hvalue : value? (-2.5) = some (-5 / 2) := by decide +kernel
  have hzero : value? (-0.0) = some 0 := by decide +kernel
  exact ⟨hread (by decide), hlexed _ hvalue (by norm_num), hread' (by decide),
    hlexed' _ hzero (le_refl 0), hfails rfl⟩

end Language

end Patchbay
