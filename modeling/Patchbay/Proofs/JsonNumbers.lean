-- Numbers in data files. A number is its digits and a power of ten. The reader takes the
-- digits as far as they fit into 64 bits, makes up for the others in the power, and what
-- follows the number makes no difference. Whole numbers that fit come back as they were.
import Patchbay.Proofs.JsonReading
import Patchbay.Proofs.NumberText

namespace Patchbay.Json

/-! ## The parts of a number -/

/-- A number without its sign: the digits before the point and after it, and a power of ten. -/
structure Spelling where
  whole : List Char
  fraction : List Char
  power : Option Int

namespace Spelling

def powerText : Option Int → List Char
  | none => []
  | some power => 'e' :: (if power < 0 then '-' else '+') :: Nat.toDigits 10 power.natAbs

def text (n : Spelling) : List Char :=
  n.whole ++ (if n.fraction = [] then [] else '.' :: n.fraction) ++ powerText n.power

/-- The number as it is, with all its digits. -/
def decimal (n : Spelling) : Number.Decimal :=
  (Number.Decimal.ofParts n.whole n.fraction).shift (n.power.getD 0)

/-- The digits that the reader takes, as a number, and how many they are. -/
def taken (n : Spelling) : Nat × Nat := Reader.takeDigits 0 (n.whole ++ n.fraction)

/-- The power of ten with what the point and the digits that are not taken add to it. -/
def exponent (n : Spelling) : Int := n.power.getD 0 + n.whole.length - n.taken.2

/-- A number whose whole part fits into 64 bits, has no zero in front and does not stand
alone. -/
structure Valid (n : Spelling) : Prop where
  whole : ∀ c ∈ n.whole, c.isDigit = true
  whole_ne : n.whole ≠ []
  zero : n.whole.head? = some '0' → n.whole = ['0']
  fits : Nat.ofDigitChars 10 n.whole 0 < Reader.wordLimit
  fraction : ∀ c ∈ n.fraction, c.isDigit = true
  marked : n.fraction ≠ [] ∨ n.power.isSome = true
  power : ∀ p, n.power = some p → p.natAbs < 0x80000000

end Spelling

/-! ## Digits that fit -/

theorem le_ofDigitChars (ds : List Char) (start : Nat) :
    start * 10 ^ ds.length ≤ Nat.ofDigitChars 10 ds start := by
  rw [Nat.ofDigitChars_eq_ofDigitChars_zero, Nat.mul_comm]
  exact Nat.le_add_right _ _

theorem takeDigits_cons (start : Nat) (c : Char) (ds : List Char) :
    Reader.takeDigits start (c :: ds) =
      if 10 * start + (c.toNat - 48) < Reader.wordLimit then
        ((Reader.takeDigits (10 * start + (c.toNat - 48)) ds).1,
          (Reader.takeDigits (10 * start + (c.toNat - 48)) ds).2 + 1)
      else (start, 0) := rfl

/-- Digits of a number that fits into 64 bits are all taken. -/
theorem takeDigits_eq (ds : List Char) (start : Nat)
    (h : Nat.ofDigitChars 10 ds start < Reader.wordLimit) :
    Reader.takeDigits start ds = (Nat.ofDigitChars 10 ds start, ds.length) := by
  induction ds generalizing start with
  | nil => rfl
  | cons c ds ih =>
    rw [Nat.ofDigitChars_cons] at h ⊢
    have hle : 10 * start + (c.toNat - 48) ≤
        Nat.ofDigitChars 10 ds (10 * start + (c.toNat - 48)) :=
      Nat.le_trans (Nat.le_mul_of_pos_right _ (Nat.pow_pos (by decide))) (le_ofDigitChars ds _)
    have hfits : 10 * start + (c.toNat - 48) < Reader.wordLimit := Nat.lt_of_le_of_lt hle h
    have hrest : Reader.takeDigits (10 * start + (c.toNat - 48)) ds = _ := ih _ h
    rw [takeDigits_cons, if_pos hfits, hrest, List.length_cons]
    rfl

/-- Past digits that are all taken, the others go on from their number. -/
theorem takeDigits_append {ds : List Char} {start value : Nat}
    (h : Reader.takeDigits start ds = (value, ds.length)) (more : List Char) :
    Reader.takeDigits start (ds ++ more) =
      ((Reader.takeDigits value more).1, ds.length + (Reader.takeDigits value more).2) := by
  induction ds generalizing start with
  | nil =>
    cases h
    simp
  | cons c ds ih =>
    rw [takeDigits_cons] at h
    rw [List.cons_append, takeDigits_cons]
    split_ifs at h ⊢
    · obtain ⟨hvalue, hlength⟩ := Prod.mk.inj h
      rw [ih (Prod.ext hvalue (Nat.succ.inj hlength))]
      refine Prod.ext rfl ?_
      simp only [List.length_cons]
      omega
    · simp at h

/-- What is taken fits. -/
theorem takeDigits_fits (ds : List Char) {start : Nat} (h : start < Reader.wordLimit) :
    (Reader.takeDigits start ds).1 < Reader.wordLimit := by
  induction ds generalizing start with
  | nil => exact h
  | cons c ds ih =>
    rw [takeDigits_cons]
    split_ifs with hfits
    · exact ih hfits
    · exact h

/-- What is taken is the number from its first digit on, and never more. -/
theorem takeDigits_le (ds : List Char) (start : Nat) :
    start ≤ (Reader.takeDigits start ds).1 ∧ (Reader.takeDigits start ds).2 ≤ ds.length ∧
      (Reader.takeDigits start ds).1 * 10 ^ (ds.length - (Reader.takeDigits start ds).2) ≤
        Nat.ofDigitChars 10 ds start := by
  induction ds generalizing start with
  | nil => simp [Reader.takeDigits]
  | cons c ds ih =>
    obtain ⟨hstart, hlength, hle⟩ := ih (10 * start + (c.toNat - 48))
    rw [takeDigits_cons]
    split_ifs
    · refine ⟨by dsimp only; omega, Nat.succ_le_succ hlength, ?_⟩
      rw [List.length_cons, Nat.add_sub_add_right, Nat.ofDigitChars_cons]
      exact hle
    · exact ⟨Nat.le_refl _, Nat.zero_le _, le_ofDigitChars (c :: ds) start⟩

theorem ofDigitChars_lt {ds : List Char} (hds : ∀ c ∈ ds, c.isDigit = true) :
    Nat.ofDigitChars 10 ds 0 < 10 ^ ds.length := by
  induction ds with
  | nil => simp
  | cons c ds ih =>
    have hrest := ih fun d hd => hds d (List.mem_cons_of_mem _ hd)
    have hc : c.toNat - 48 < 10 := by
      have hdigit := hds c List.mem_cons_self
      rw [Char.isDigit_iff_toNat] at hdigit
      have hbound : c.toNat ≤ 57 := hdigit.2
      omega
    have hfirst : (c.toNat - 48 + 1) * 10 ^ ds.length ≤ 10 * 10 ^ ds.length :=
      Nat.mul_le_mul_right _ hc
    rw [Nat.ofDigitChars_cons, Nat.ofDigitChars_eq_ofDigitChars_zero, List.length_cons,
      Nat.pow_succ, Nat.mul_comm _ 10, Nat.mul_zero, Nat.zero_add]
    rw [Nat.add_mul, Nat.one_mul, Nat.mul_comm (c.toNat - 48)] at hfirst
    exact Nat.lt_of_lt_of_le (Nat.add_lt_add_left hrest _) hfirst

/-- A whole part of few digits fits. -/
theorem fits_of_length {ds : List Char} (hds : ∀ c ∈ ds, c.isDigit = true) (h : ds.length ≤ 19) :
    Nat.ofDigitChars 10 ds 0 < Reader.wordLimit :=
  Nat.lt_of_lt_of_le (ofDigitChars_lt hds)
    (Nat.le_trans (Nat.pow_le_pow_right (by decide) h) (by decide))

namespace Spelling

variable {n : Spelling}

/-- What is taken of a number: all of the whole part, and not more than there is. -/
theorem Valid.taken_bounds (hn : n.Valid) :
    n.taken.1 < Reader.wordLimit ∧ Nat.ofDigitChars 10 n.whole 0 ≤ n.taken.1 ∧
      n.exponent ≤ n.power.getD 0 ∧ n.decimal.exponent ≤ n.exponent := by
  have htaken := takeDigits_append (takeDigits_eq n.whole 0 hn.fits) n.fraction
  obtain ⟨hstart, hlength, -⟩ := takeDigits_le n.fraction (Nat.ofDigitChars 10 n.whole 0)
  have hfits := takeDigits_fits n.fraction hn.fits
  unfold exponent decimal taken Number.Decimal.shift Number.Decimal.ofParts
  rw [htaken]
  dsimp only
  exact ⟨hfits, hstart, by omega, by omega⟩

/-- The number without the digits that are not taken is not above the number. -/
theorem taken_le (n : Spelling) :
    n.taken.1 * 10 ^ (n.exponent - n.decimal.exponent).toNat ≤ n.decimal.digits := by
  obtain ⟨-, hlength, hle⟩ := takeDigits_le (n.whole ++ n.fraction) 0
  have hdropped : (n.exponent - n.decimal.exponent).toNat =
      (n.whole ++ n.fraction).length - n.taken.2 := by
    unfold exponent decimal Number.Decimal.shift Number.Decimal.ofParts
    rw [List.length_append]
    dsimp only
    omega
  rw [hdropped]
  exact hle

/-- A number whose digits all fit is taken as it is. -/
theorem taken_eq (h : n.decimal.digits < Reader.wordLimit) :
    n.taken.1 = n.decimal.digits ∧ n.exponent = n.decimal.exponent := by
  have htaken : n.taken = (n.decimal.digits, (n.whole ++ n.fraction).length) :=
    takeDigits_eq (n.whole ++ n.fraction) 0 h
  unfold exponent
  rw [htaken]
  refine ⟨rfl, ?_⟩
  unfold decimal Number.Decimal.shift Number.Decimal.ofParts
  rw [List.length_append]
  dsimp only
  omega

end Spelling

/-! ## Reading a number -/

namespace Reader

variable {α : Type} {ds rest : List Char}

/-- Digits are taken as far as they go. -/
theorem digits_append (hds : ∀ c ∈ ds, c.isDigit = true)
    (hrest : ∀ c, rest.head? = some c → c.isDigit = false) :
    digits (ds ++ rest) = .done ds rest := by
  have hsplit := Number.splitDigits_append hds hrest
  unfold Number.splitDigits at hsplit
  obtain ⟨htake, hdrop⟩ := Prod.mk.inj hsplit
  unfold digits
  rw [Action.read_bind, Action.change_bind, htake, hdrop]
  rfl

/-- What stops a value goes on with no number. -/
theorem not_number_of_stops (h : Stops rest) {c : Char} (hc : rest.head? = some c) :
    c.isDigit = false ∧ c ≠ '.' ∧ c ≠ 'e' ∧ c ≠ 'E' := by
  rcases h c hc with hspace | rfl | rfl | rfl
  · simp only [isSpace, Bool.or_eq_true, decide_eq_true_eq] at hspace
    rcases hspace with ((rfl | rfl) | rfl) | rfl <;> decide
  · decide
  · decide
  · decide

theorem peek_bind (f : Option Char → Reader α) (cs : List Char) :
    (peek >>= f) cs = f cs.head? cs := rfl

theorem advance_bind (f : Unit → Reader α) (cs : List Char) :
    (advance >>= f) cs = f () cs.tail := rfl

/-- The digits after the sign of a power of ten, which is known to be there. -/
theorem exponentPart_signed (negative : Bool) (value : Nat) (exponent : Int) {sign : Char}
    (hsign : some sign = some '+' ∨ some sign = some '-') {n : Nat} (hn : n < 0x80000000)
    (hrest : Stops rest) :
    exponentPart negative value exponent ('e' :: sign :: (Nat.toDigits 10 n ++ rest)) =
      double negative value (if some sign = some '-' then exponent - n else exponent + n)
        rest := by
  have hdigits := digits_append (Number.Decimal.digits_mem (n := n))
    fun c hc => (not_number_of_stops hrest hc).1
  have hvalue : Nat.ofDigitChars 10 (Nat.toDigits 10 n) 0 = n := Nat.ofDigitChars_ten_toDigits
  refine (advance_bind _ _).trans ((peek_bind _ _).trans ?_)
  refine (congrFun (if_pos hsign) _).trans ((advance_bind _ _).trans ?_)
  refine (Action.bind_of_done hdigits).trans ((congrFun (if_neg Nat.toDigits_ne_nil) rest).trans ?_)
  rw [hvalue]
  exact congrFun (if_pos hn) rest

/-- The power of ten at the end of a number adds to the one that is known. -/
theorem exponentPart_eq (negative : Bool) (value : Nat) (exponent : Int) {power : Int}
    (hpower : power.natAbs < 0x80000000) (hrest : Stops rest) :
    exponentPart negative value exponent (Spelling.powerText (some power) ++ rest) =
      double negative value (exponent + power) rest := by
  by_cases hsign : power < 0
  · have hadd : exponent - (power.natAbs : Int) = exponent + power := by omega
    simp only [Spelling.powerText, if_pos hsign, List.cons_append]
    refine (exponentPart_signed negative value exponent (Or.inr rfl) hpower hrest).trans ?_
    rw [if_pos rfl, hadd]
  · have hadd : exponent + (power.natAbs : Int) = exponent + power := by omega
    simp only [Spelling.powerText, if_neg hsign, List.cons_append]
    refine (exponentPart_signed negative value exponent (Or.inl rfl) hpower hrest).trans ?_
    rw [if_neg (by decide), hadd]

/-- The digits after the point, and the power of ten if there is one. -/
theorem fractionPart_eq (negative : Bool) (value : Nat) (exponent : Int)
    (hds : ∀ c ∈ ds, c.isDigit = true) (hne : ds ≠ []) {power : Option Int}
    (hpower : ∀ p, power = some p → p.natAbs < 0x80000000) (hrest : Stops rest) :
    fractionPart negative value exponent ('.' :: (ds ++ (Spelling.powerText power ++ rest))) =
      double negative (takeDigits value ds).1 (exponent - (takeDigits value ds).2 + power.getD 0)
        rest := by
  have hhead : ∀ c, (Spelling.powerText power ++ rest).head? = some c → c.isDigit = false := by
    intro c hc
    cases power with
    | none => exact (not_number_of_stops hrest hc).1
    | some power =>
      cases hc
      rfl
  refine (advance_bind _ _).trans ((Action.bind_of_done (digits_append hds hhead)).trans ?_)
  refine (congrFun (if_neg hne) _).trans ((peek_bind _ _).trans ?_)
  cases power with
  | some power => exact exponentPart_eq negative _ _ (hpower power rfl) hrest
  | none =>
    rw [Option.getD_none, Int.add_zero]
    refine congrFun ?_ rest
    split
    · rename_i heq
      exact absurd rfl (not_number_of_stops hrest heq).2.2.1
    · rename_i heq
      exact absurd rfl (not_number_of_stops hrest heq).2.2.2
    · rfl

/-- What a number is that ends with its whole part. -/
def wholeNumeral (negative : Bool) (value : Nat) (exponent : Int) : Reader Numeral :=
  if exponent ≠ 0 then double negative value exponent
  else if !negative then pure (.natural value)
  else if 0 < value ∧ value ≤ 0x8000000000000000 then pure (.negative value)
  else pure (.double (-Number.ofNat value))

/-- Past a whole part that fits, the next character decides. -/
theorem unsigned_eq (negative : Bool) (hds : ∀ c ∈ ds, c.isDigit = true) (hne : ds ≠ [])
    (hzero : ds.head? = some '0' → ds = ['0']) (hfits : Nat.ofDigitChars 10 ds 0 < wordLimit)
    (hrest : ∀ c, rest.head? = some c → c.isDigit = false) :
    unsigned negative (ds ++ rest) = (peek >>= fun c => match c with
      | some '.' => fractionPart negative (Nat.ofDigitChars 10 ds 0) 0
      | some 'e' | some 'E' => exponentPart negative (Nat.ofDigitChars 10 ds 0) 0
      | _ => wholeNumeral negative (Nat.ofDigitChars 10 ds 0) 0) rest := by
  have htake := takeDigits_eq ds 0 hfits
  have hvalue : (takeDigits 0 ds).1 = Nat.ofDigitChars 10 ds 0 := congrArg Prod.fst htake
  have hexponent : (ds.length : Int) - (takeDigits 0 ds).2 = 0 := by
    rw [htake]
    exact Int.sub_self _
  rw [← hvalue, ← hexponent]
  refine (Action.bind_of_done (digits_append hds hrest)).trans (congrFun ?_ rest)
  split
  · exact absurd rfl hne
  · exact absurd (hzero rfl) (by simp)
  · rfl

/-- A number is read as the digits that are taken and the power of ten that they need. -/
theorem unsigned_text (negative : Bool) {n : Spelling} (hn : n.Valid) (hrest : Stops rest) :
    unsigned negative (n.text ++ rest) = double negative n.taken.1 n.exponent rest := by
  have hwhole := takeDigits_eq n.whole 0 hn.fits
  have htaken := takeDigits_append hwhole n.fraction
  have hexponent : n.exponent = 0 -
      (takeDigits (Nat.ofDigitChars 10 n.whole 0) n.fraction).2 + n.power.getD 0 := by
    unfold Spelling.exponent Spelling.taken
    rw [htaken]
    dsimp only
    omega
  have hvalue : n.taken.1 = (takeDigits (Nat.ofDigitChars 10 n.whole 0) n.fraction).1 := by
    unfold Spelling.taken
    rw [htaken]
  rw [hexponent, hvalue]
  unfold Spelling.text
  rw [List.append_assoc, List.append_assoc]
  by_cases hfraction : n.fraction = []
  · have hmarked := hn.marked.resolve_left (not_not.mpr hfraction)
    obtain ⟨power, hpower⟩ := Option.isSome_iff_exists.mp hmarked
    rw [if_pos hfraction, hfraction, hpower]
    refine (unsigned_eq negative hn.whole hn.whole_ne hn.zero hn.fits ?_).trans ?_
    · rintro c ⟨⟩
      rfl
    · exact exponentPart_eq negative _ 0 (hn.power power hpower) hrest
  · rw [if_neg hfraction]
    refine (unsigned_eq negative hn.whole hn.whole_ne hn.zero hn.fits ?_).trans ?_
    · rintro c ⟨⟩
      rfl
    · exact fractionPart_eq negative _ 0 hn.fraction hfraction hn.power hrest

/-- The next character after white space decides that a number comes. -/
theorem anyNumeral_eq {gap : List Char} (hgap : Space gap) {c : Char}
    (hc : c = '-' ∨ c.isDigit = true) (cs : List Char) :
    anyNumeral (gap ++ c :: cs) = numeral (c :: cs) := by
  have hspace : isSpace c = false := by
    by_contra hspace
    simp only [Bool.not_eq_false, isSpace, Bool.or_eq_true, decide_eq_true_eq] at hspace
    rcases hspace with ((rfl | rfl) | rfl) | rfl <;> simp at hc
  exact (peekPastSpace_bind _ hgap hspace cs).trans (congrFun (if_pos hc) _)

theorem numeral_digit {c : Char} (hc : c.isDigit = true) (cs : List Char) :
    numeral (c :: cs) = unsigned false (c :: cs) := by
  have hsign : ¬some c = some '-' := by
    rintro ⟨⟩
    cases hc
  exact (peek_bind _ _).trans (congrFun (if_neg hsign) _)

/-- A number after white space, with the sign before it or without one. -/
theorem anyNumeral_text (negative : Bool) {n : Spelling} (hn : n.Valid) {gap : List Char}
    (hgap : Space gap) (hrest : Stops rest) :
    anyNumeral (gap ++ (if negative then '-' :: n.text else n.text) ++ rest) =
      double negative n.taken.1 n.exponent rest := by
  rw [List.append_assoc]
  cases negative with
  | true => exact (anyNumeral_eq hgap (Or.inl rfl) _).trans (unsigned_text true hn hrest)
  | false =>
    have hhead : ∃ c cs, n.text ++ rest = c :: cs ∧ c.isDigit = true := by
      obtain ⟨c, cs, hwhole⟩ := List.exists_cons_of_ne_nil hn.whole_ne
      unfold Spelling.text
      rw [hwhole]
      exact ⟨c, _, rfl, hn.whole c (hwhole ▸ List.mem_cons_self)⟩
    have hunsigned := unsigned_text false hn hrest
    obtain ⟨c, cs, htext, hc⟩ := hhead
    rw [if_neg Bool.false_ne_true, htext]
    rw [htext] at hunsigned
    exact (anyNumeral_eq hgap (Or.inr hc) cs).trans ((numeral_digit hc cs).trans hunsigned)

end Reader

/-! ## Whole numbers -/

/-- The digits of a number from one up have no zero in front. -/
theorem toDigits_head {n : Nat} (hn : 0 < n) : (Nat.toDigits 10 n).head? ≠ some '0' := by
  induction n using Nat.strong_induction_on with
  | _ n ih =>
    rw [Nat.toDigits_eq_if (by decide)]
    split
    · rename_i hlt
      have hall : ∀ d < 10, 0 < d → Nat.digitChar d ≠ '0' := by decide
      simpa using hall n hlt hn
    · rename_i hge
      have hhead := ih (n / 10) (by omega) (by omega)
      rw [List.head?_append_of_ne_nil _ Nat.toDigits_ne_nil]
      exact hhead

theorem toDigits_zero (n : Nat) (h : (Nat.toDigits 10 n).head? = some '0') :
    Nat.toDigits 10 n = ['0'] := by
  rcases Nat.eq_zero_or_pos n with rfl | hpos
  · rfl
  · exact absurd h (toDigits_head hpos)

/-- The digits of a whole number are read as that number. -/
theorem unsigned_toDigits {n : Nat} (hn : n < Reader.wordLimit) {rest : List Char}
    (hrest : Stops rest) :
    Reader.unsigned false (Nat.toDigits 10 n ++ rest) = .done (.natural n) rest := by
  have hvalue : Nat.ofDigitChars 10 (Nat.toDigits 10 n) 0 = n := Nat.ofDigitChars_ten_toDigits
  have heq := Reader.unsigned_eq false Number.Decimal.digits_mem Nat.toDigits_ne_nil
    (toDigits_zero n) (hvalue.symm ▸ hn) fun c hc => (Reader.not_number_of_stops hrest hc).1
  refine heq.trans ((Reader.peek_bind _ _).trans ?_)
  rw [hvalue]
  refine (congrFun ?_ rest).trans (rfl : Reader.wholeNumeral false n 0 rest = _)
  split
  · rename_i hc
    exact absurd rfl (Reader.not_number_of_stops hrest hc).2.1
  · rename_i hc
    exact absurd rfl (Reader.not_number_of_stops hrest hc).2.2.1
  · rename_i hc
    exact absurd rfl (Reader.not_number_of_stops hrest hc).2.2.2
  · rfl

theorem takes_index {n : Nat} (hn : n < Reader.wordLimit) :
    Takes Reader.index (toString (n : Int)).toList (.ok n) := by
  have htext : (toString (n : Int)).toList = Nat.toDigits 10 n := Nat.toList_repr
  intro gap rest hgap hrest
  obtain ⟨c, ds, hds⟩ := List.exists_cons_of_ne_nil (Nat.toDigits_ne_nil (n := n) (b := 10))
  have hc : c.isDigit = true := Number.Decimal.digits_mem c (by rw [hds]; exact List.mem_cons_self)
  have hunsigned := unsigned_toDigits hn hrest
  rw [htext, List.append_assoc]
  rw [hds] at hunsigned ⊢
  have hnumeral : Reader.anyNumeral (gap ++ c :: (ds ++ rest)) = .done (.natural n) rest :=
    (Reader.anyNumeral_eq hgap (Or.inr hc) _).trans ((Reader.numeral_digit hc _).trans hunsigned)
  have hindex : Reader.index (gap ++ (c :: ds ++ rest)) = .done n rest :=
    Action.bind_of_done hnumeral
  rw [hindex]
  exact ⟨rfl, rfl⟩

end Patchbay.Json
