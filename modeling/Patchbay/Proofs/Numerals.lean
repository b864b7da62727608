-- Numbers at the front of a text. A numeral is a sign, which may lack, and then
-- `Infinity` or digits with a point and a power of ten, which may lack as well.
-- What is read of a text is the longest numeral at its front, and nothing after
-- that numeral makes a difference.
import Patchbay.Proofs.JsonNumbers
import Patchbay.Proofs.Lexemes
import Patchbay.Proofs.Slices

namespace Patchbay

namespace Number

/-! ## Numerals -/

/-- A sign or none, and whether it is a minus. -/
inductive SignText : List Char → Bool → Prop
  | none : SignText [] false
  | plus : SignText ['+'] false
  | minus : SignText ['-'] true

/-- Digits, the digits before a point among them, and those after it. The point may lack, and so
may the digits on one side of it. -/
inductive PointedText : List Char → List Char → List Char → Prop
  | whole {ds : List Char} (hds : ∀ c ∈ ds, c.isDigit = true) (hne : ds ≠ []) :
      PointedText ds ds []
  | pointed {ds fs : List Char} (hds : ∀ c ∈ ds, c.isDigit = true)
      (hfs : ∀ c ∈ fs, c.isDigit = true) (hne : ds ≠ [] ∨ fs ≠ []) :
      PointedText (ds ++ '.' :: fs) ds fs

/-- A power of ten or none, where `size` is what its digits stand for. -/
inductive PowerText (size : List Char → Nat) : List Char → Int → Prop
  | none : PowerText size [] 0
  | power {e : Char} {sign ds : List Char} {negative : Bool} (he : e = 'e' ∨ e = 'E')
      (hs : SignText sign negative) (hds : ∀ c ∈ ds, c.isDigit = true) (hne : ds ≠ []) :
      PowerText size (e :: (sign ++ ds)) (if negative then -(size ds : Int) else size ds)

/-- A numeral after its sign, and the double nearest to it. -/
inductive Unsigned (size : List Char → Nat) (negative : Bool) : List Char → Float → Prop
  | infinity : Unsigned size negative "Infinity".toList (ofMagnitude negative infinityBits)
  | decimal {text tail whole fraction : List Char} {power : Int}
      (ht : PointedText text whole fraction) (hp : PowerText size tail power) :
      Unsigned size negative (text ++ tail)
        (ofMagnitude negative ((Decimal.ofParts whole fraction).shift power).rounded)

/-- A numeral, and the double nearest to it. -/
inductive Numeral (size : List Char → Nat) : List Char → Float → Prop
  | signed {sign body : List Char} {negative : Bool} {x : Float} (hs : SignText sign negative)
      (hb : Unsigned size negative body x) : Numeral size (sign ++ body) x

/-- The longest numeral at the front of a text. -/
structure IsLongest (w cs : List Char) : Prop where
  front : w <+: cs
  numeral : ∃ x, Numeral exponent w x
  longest : ∀ v x, v <+: cs → Numeral exponent v x → v.length ≤ w.length

variable {size : List Char → Nat} {cs rest text tail whole fraction sign body v w : List Char}
  {negative : Bool} {x y : Float} {power : Int}

/-! ## Signs -/

/-- The text goes on with no sign. -/
def StartsNoSign (cs : List Char) : Prop := ∀ c, cs.head? = some c → c ≠ '-' ∧ c ≠ '+'

theorem startsNoSign_of_digit (hcs : cs ≠ []) (h : ∀ c ∈ cs, c.isDigit = true) :
    StartsNoSign (cs ++ rest) := by
  intro c hc
  rw [List.head?_append_of_ne_nil _ hcs] at hc
  have hdigit := h c (List.mem_of_head? hc)
  constructor <;> rintro rfl <;> cases hdigit

theorem splitSign_append (hs : SignText sign negative) (hcs : StartsNoSign cs) :
    splitSign (sign ++ cs) = (negative, cs) := by
  cases hs with
  | plus => rfl
  | minus => rfl
  | none =>
    rw [List.nil_append]
    unfold splitSign
    split
    · exact absurd rfl (hcs '-' rfl).1
    · exact absurd rfl (hcs '+' rfl).2
    · rfl

theorem exists_signText (cs : List Char) :
    ∃ sign, SignText sign (splitSign cs).1 ∧ cs = sign ++ (splitSign cs).2 := by
  fun_cases splitSign cs with
  | case1 cs => exact ⟨['-'], .minus, rfl⟩
  | case2 cs => exact ⟨['+'], .plus, rfl⟩
  | case3 cs => exact ⟨[], .none, rfl⟩

/-! ## Digits with a point -/

namespace PointedText

variable (h : PointedText text whole fraction)
include h

theorem mem {c : Char} (hc : c ∈ text) : c.isDigit = true ∨ c = '.' := by
  cases h with
  | whole hds _ => exact Or.inl (hds c hc)
  | pointed hds hfs _ =>
    rcases List.mem_append.mp hc with hc | hc
    · exact Or.inl (hds c hc)
    · rcases List.mem_cons.mp hc with rfl | hc
      · exact Or.inr rfl
      · exact Or.inl (hfs c hc)

theorem count_le : text.count '.' ≤ 1 := by
  have hnone : ∀ {ds : List Char}, (∀ c ∈ ds, c.isDigit = true) → ds.count '.' = 0 := by
    intro ds hds
    exact List.count_eq_zero.mpr fun hmem => by cases hds '.' hmem
  cases h with
  | whole hds _ => simp [hnone hds]
  | pointed hds hfs _ => simp [hnone hds, hnone hfs]

theorem exists_digit : ∃ c ∈ text, c.isDigit = true := by
  cases h with
  | whole hds hne =>
    obtain ⟨c, hc⟩ := List.exists_mem_of_ne_nil _ hne
    exact ⟨c, hc, hds c hc⟩
  | pointed hds hfs hne =>
    rcases hne with hne | hne
    · obtain ⟨c, hc⟩ := List.exists_mem_of_ne_nil _ hne
      exact ⟨c, List.mem_append_left _ hc, hds c hc⟩
    · obtain ⟨c, hc⟩ := List.exists_mem_of_ne_nil _ hne
      exact ⟨c, List.mem_append_right _ (List.mem_cons_of_mem _ hc), hfs c hc⟩

theorem ne_nil : text ≠ [] := by
  obtain ⟨c, hc, -⟩ := h.exists_digit
  exact List.ne_nil_of_mem hc

/-- Where no digit comes next, and no point after a point, no such text goes further. -/
theorem prefix_of_prefix {front : List Char} (hpre : text <+: front ++ rest)
    (hstop : ∀ c, rest.head? = some c → c.isDigit = false ∧ (c = '.' → '.' ∈ front)) :
    text <+: front := by
  rcases Nat.le_total text.length front.length with hle | hle
  · exact List.prefix_of_prefix_length_le hpre (List.prefix_append _ _) hle
  · obtain ⟨more, rfl⟩ := List.prefix_of_prefix_length_le (List.prefix_append _ _) hpre hle
    cases more with
    | nil => rw [List.append_nil]
    | cons c more =>
      have hmore : c :: more <+: rest := (List.prefix_append_right_inj front).mp hpre
      have hc : rest.head? = some c := by
        obtain ⟨_, rfl⟩ := hmore
        rfl
      obtain ⟨hdigit, hpoint⟩ := hstop c hc
      have hcount := h.count_le
      rcases h.mem (c := c) (by simp) with hmem | rfl
      · rw [hdigit] at hmem
        cases hmem
      · have hpos := List.count_pos_iff.mpr (hpoint rfl)
        simp at hcount
        omega

theorem splitPointed_append (hrest : EndsNumber rest) :
    splitPointed (text ++ rest) = (whole, fraction, rest) := by
  cases h with
  | whole hds _ => exact splitPointed_whole hds hrest
  | pointed hds hfs _ =>
    rw [List.append_assoc, List.cons_append]
    exact splitPointed_fraction hds hfs fun c hc => (hrest c hc).1

end PointedText

/-- What is read as digits with a point goes as far as it can. -/
theorem splitPointed_spec (cs : List Char) : ∃ text whole fraction rest,
    splitPointed cs = (whole, fraction, rest) ∧ cs = text ++ rest ∧
      (∀ c, rest.head? = some c → c.isDigit = false ∧ (c = '.' → '.' ∈ text)) ∧
      ((whole = [] ∧ fraction = [] ∧ ∀ c ∈ text, c = '.') ∨ PointedText text whole fraction) := by
  obtain ⟨ds, rest, rfl, hds, hrest⟩ := exists_front Char.isDigit cs
  by_cases hpoint : rest.head? = some '.'
  · obtain ⟨more, rfl⟩ := List.head?_eq_some_iff.mp hpoint
    obtain ⟨fs, rest, rfl, hfs, hrest⟩ := exists_front Char.isDigit more
    refine ⟨ds ++ '.' :: fs, ds, fs, rest, splitPointed_fraction hds hfs hrest, by simp,
      fun c hc => ⟨hrest c hc, fun _ => by simp⟩, ?_⟩
    by_cases hnone : ds = [] ∧ fs = []
    · obtain ⟨rfl, rfl⟩ := hnone
      exact Or.inl ⟨rfl, rfl, by simp⟩
    · exact Or.inr (.pointed hds hfs (not_and_or.mp hnone))
  · have hends : EndsNumber rest := fun c hc => ⟨hrest c hc, fun heq => hpoint (heq ▸ hc)⟩
    refine ⟨ds, ds, [], rest, splitPointed_whole hds hends, rfl,
      fun c hc => ⟨hrest c hc, fun heq => absurd heq (hends c hc).2⟩, ?_⟩
    by_cases hnone : ds = []
    · subst hnone
      exact Or.inl ⟨rfl, rfl, List.forall_mem_nil _⟩
    · exact Or.inr (.whole hds hnone)

/-! ## Powers of ten -/

/-- A power of ten goes on up to the first character that is no digit. -/
theorem power?_append {e : Char} {ds : List Char} (he : e = 'e' ∨ e = 'E')
    (hs : SignText sign negative) (hds : ∀ c ∈ ds, c.isDigit = true) (hne : ds ≠ [])
    (hrest : ∀ c, rest.head? = some c → c.isDigit = false) :
    power? (e :: (sign ++ (ds ++ rest))) =
      some (if negative then -(exponent ds : Int) else exponent ds, rest) := by
  have hletter : (e = 'e' || e = 'E') = true := by simpa using he
  unfold power?
  simp only [hletter, if_true, splitSign_append hs (startsNoSign_of_digit hne hds),
    splitDigits_append hds hrest]

theorem power?_eq_some (h : power? cs = some (power, rest)) :
    ∃ tail, tail ≠ [] ∧ cs = tail ++ rest ∧ PowerText exponent tail power := by
  cases cs with
  | nil => cases h
  | cons e cs =>
    obtain ⟨sign, hs, hcs⟩ := exists_signText cs
    obtain ⟨ds, more, hsplit, hds, hmore⟩ := exists_front Char.isDigit (splitSign cs).2
    unfold power? at h
    dsimp only at h
    rw [hsplit, splitDigits_append hds hmore] at h
    split at h
    · rename_i hletter
      split at h
      · cases h
      · rename_i hne heq
        obtain ⟨rfl, rfl⟩ := Prod.mk.inj heq
        obtain ⟨rfl, rfl⟩ := Prod.mk.inj (Option.some.inj h)
        refine ⟨e :: (sign ++ ds), List.cons_ne_nil _ _, ?_, .power (by simpa using hletter) hs hds
          hne⟩
        rw [List.cons_append, List.append_assoc, ← hsplit, ← hcs]
    · cases h

namespace PowerText

theorem head?_eq (h : PowerText size tail power) :
    ∀ c, tail.head? = some c → c = 'e' ∨ c = 'E' := by
  cases h with
  | none => rintro c ⟨⟩
  | power he _ _ _ =>
    rintro c ⟨⟩
    exact he

theorem endsNumber (h : PowerText size tail power) : EndsNumber tail := by
  intro c hc
  rcases h.head?_eq c hc with rfl | rfl <;> decide

/-- A power of ten at the front is read, and what stands after it perhaps too. -/
theorem exists_power? (h : PowerText exponent tail power) (hne : tail ≠ []) (rest : List Char) :
    ∃ q more, power? (tail ++ rest) = some (q, more) ∧ more.length ≤ rest.length := by
  cases h with
  | none => exact absurd rfl hne
  | power he hs hds hdigits =>
    obtain ⟨fs, more, rfl, hfs, hmore⟩ := exists_front Char.isDigit rest
    have hread := power?_append he hs (List.forall_mem_append.mpr ⟨hds, hfs⟩)
      (List.append_ne_nil_of_left_ne_nil hdigits fs) hmore
    simp only [← List.append_assoc, ← List.cons_append] at hread ⊢
    exact ⟨_, more, hread, List.length_append ▸ Nat.le_add_left _ _⟩

/-- A power of ten alone is read as it is. -/
theorem power?_getD (h : PowerText exponent tail power) :
    (power? tail).getD (0, tail) = (power, []) := by
  cases h with
  | none => rfl
  | power he hs hds hne =>
    have hend : ∀ c, ([] : List Char).head? = some c → c.isDigit = false := by
      rintro c ⟨⟩
    have hread := power?_append he hs hds hne hend
    rw [List.append_nil] at hread
    rw [hread, Option.getD_some]

end PowerText

/-- What is read as a power of ten is the longest one at the front. -/
theorem power?_spec (cs : List Char) : ∃ tail power rest, cs = tail ++ rest ∧
    PowerText exponent tail power ∧ (power? cs).getD (0, cs) = (power, rest) ∧
    ∀ v q, v <+: cs → PowerText exponent v q → v.length ≤ tail.length := by
  cases hread : power? cs with
  | none =>
    refine ⟨[], 0, cs, rfl, .none, rfl, fun v q hv hpower => ?_⟩
    obtain ⟨more, rfl⟩ := hv
    by_cases hne : v = []
    · rw [hne]
    · obtain ⟨_, _, hsome, -⟩ := hpower.exists_power? hne more
      rw [hread] at hsome
      cases hsome
  | some found =>
    obtain ⟨power, rest⟩ := found
    obtain ⟨tail, -, rfl, htail⟩ := power?_eq_some hread
    refine ⟨tail, power, rest, rfl, htail, rfl, fun v q hv hpower => ?_⟩
    obtain ⟨more, hsplit⟩ := hv
    by_cases hne : v = []
    · rw [hne]
      exact Nat.zero_le _
    · obtain ⟨_, _, hsome, hle⟩ := hpower.exists_power? hne more
      rw [hsplit, hread] at hsome
      obtain ⟨-, rfl⟩ := Prod.mk.inj (Option.some.inj hsome)
      have hlength := congrArg List.length hsplit
      simp only [List.length_append] at hlength
      omega

/-! ## Numbers without a sign -/

theorem Decimal.shift_zero (d : Decimal) : d.shift 0 = d := by
  unfold shift
  rw [Int.add_zero]

theorem decimal?_eq {more : List Char} (h : splitPointed cs = (whole, fraction, rest))
    (hne : whole ≠ [] ∨ fraction ≠ []) (hread : (power? rest).getD (0, rest) = (power, more)) :
    decimal? cs = some ((Decimal.ofParts whole fraction).shift power, more) := by
  unfold decimal?
  rw [h]
  split
  · rename_i heq
    cases heq
    simp at hne
  · rename_i heq
    cases heq
    cases hpower : power? rest with
    | none =>
      rw [hpower] at hread
      cases hread
      rw [Decimal.shift_zero]
    | some found =>
      rw [hpower] at hread
      cases hread
      rfl

theorem decimal?_eq_none (h : splitPointed cs = ([], [], rest)) : decimal? cs = none := by
  unfold decimal?
  rw [h]

theorem PointedText.parts_ne_nil (h : PointedText text whole fraction) :
    whole ≠ [] ∨ fraction ≠ [] := by
  cases h with
  | whole _ hne => exact Or.inl hne
  | pointed _ _ hne => exact hne

/-- No text of digits with a power of ten goes further than the digits and the power that are
longest, each at its place. -/
theorem length_le_of_longest {text' tail' whole' fraction' : List Char} {power' : Int}
    (ht' : PointedText text' whole' fraction') (hp' : PowerText exponent tail' power')
    (hpre : text' ++ tail' <+: text ++ rest) (htext : ∀ c ∈ text, c.isDigit = true ∨ c = '.')
    (hstop : ∀ c, rest.head? = some c → c.isDigit = false ∧ (c = '.' → '.' ∈ text))
    (hlongest : ∀ v q, v <+: rest → PowerText exponent v q → v.length ≤ tail.length) :
    (text' ++ tail').length ≤ (text ++ tail).length := by
  have hfront : text' <+: text :=
    ht'.prefix_of_prefix ((List.prefix_append _ _).trans hpre) hstop
  obtain ⟨more, rfl⟩ := hfront
  rw [List.append_assoc, List.prefix_append_right_inj] at hpre
  cases more with
  | nil =>
    have hle := hlongest tail' power' hpre hp'
    simp only [List.append_nil, List.length_append]
    omega
  | cons c more =>
    -- After fewer digits there is a digit or the point, where no power starts.
    have hnone : tail' = [] := by
      cases tail' with
      | nil => rfl
      | cons e tail' =>
        rw [List.cons_append, List.cons_prefix_cons] at hpre
        have hc := htext c (by simp)
        rcases hp'.head?_eq e rfl with rfl | rfl <;> rw [← hpre.1] at hc <;> simp at hc
    rw [hnone, List.append_nil, List.length_append, List.length_append]
    omega

/-- The number that is read once the sign is. -/
def unsigned? (negative : Bool) (cs : List Char) : Option Float :=
  match afterWord? "Infinity".toList cs with
  | some _ => some (ofMagnitude negative infinityBits)
  | none => (decimal? cs).map fun (d, _) => d.toFloat negative

theorem signed?_eq (cs : List Char) :
    signed? cs = unsigned? (splitSign cs).1 (splitSign cs).2 := rfl

theorem afterWord?_eq_some {word : List Char} :
    afterWord? word cs = some rest ↔ cs = word ++ rest := by
  fun_induction afterWord? word cs with
  | case1 cs => simp
  | case2 c word => simp
  | case3 word c cs ih => simp [ih]
  | case4 c word d cs hne => simp [Ne.symm hne]

theorem unsigned?_of_infinity (h : "Infinity".toList <+: cs) :
    unsigned? negative cs = some (ofMagnitude negative infinityBits) := by
  obtain ⟨rest, hrest⟩ := h
  unfold unsigned?
  rw [afterWord?_eq_some.mpr hrest.symm]

theorem unsigned?_of_not_infinity (h : ¬"Infinity".toList <+: cs) :
    unsigned? negative cs = (decimal? cs).map fun (d, _) => d.toFloat negative := by
  unfold unsigned?
  cases hword : afterWord? "Infinity".toList cs with
  | none => rfl
  | some rest => exact absurd ⟨rest, (afterWord?_eq_some.mp hword).symm⟩ h

/-- Digits with a point do not start as the word does. -/
theorem PointedText.not_infinity (h : PointedText text whole fraction) :
    ¬"Infinity".toList <+: text ++ rest := by
  cases hcs : text with
  | nil => exact absurd hcs h.ne_nil
  | cons c text =>
    intro hpre
    have hc : c = 'I' := (List.cons_prefix_cons.mp hpre).1.symm
    have hmem := h.mem (c := c) (hcs ▸ List.mem_cons_self)
    rw [hc] at hmem
    simp at hmem

theorem unsigned?_of_decimal {more : List Char} (hword : ¬"Infinity".toList <+: cs)
    (h : splitPointed cs = (whole, fraction, rest)) (hne : whole ≠ [] ∨ fraction ≠ [])
    (hread : (power? rest).getD (0, rest) = (power, more)) : unsigned? negative cs =
      some (ofMagnitude negative ((Decimal.ofParts whole fraction).shift power).rounded) := by
  rw [unsigned?_of_not_infinity hword, decimal?_eq h hne hread, Option.map_some,
    ← Decimal.magnitude_eq_rounded]
  rfl

/-- What is read is the longest number at the front. -/
theorem unsigned?_eq_some (h : unsigned? negative cs = some x) :
    ∃ body, body <+: cs ∧ Unsigned exponent negative body x ∧
      ∀ v y, v <+: cs → Unsigned exponent negative v y → v.length ≤ body.length := by
  by_cases hword : "Infinity".toList <+: cs
  · rw [unsigned?_of_infinity hword] at h
    obtain rfl := Option.some.inj h
    refine ⟨_, hword, .infinity, fun v y hv hy => ?_⟩
    cases hy with
    | infinity => exact Nat.le_refl _
    | decimal ht hp =>
      obtain ⟨more, rfl⟩ := hv
      rw [List.append_assoc] at hword
      exact absurd hword ht.not_infinity
  · obtain ⟨text, whole, fraction, rest, hsplit, rfl, hstop, hnone | ht⟩ := splitPointed_spec cs
    · obtain ⟨rfl, rfl, -⟩ := hnone
      rw [unsigned?_of_not_infinity hword, decimal?_eq_none hsplit] at h
      cases h
    · obtain ⟨tail, power, rest, rfl, hp, hread, hlongest⟩ := power?_spec rest
      rw [unsigned?_of_decimal hword hsplit ht.parts_ne_nil hread] at h
      obtain rfl := Option.some.inj h
      refine ⟨text ++ tail, ⟨rest, List.append_assoc _ _ _⟩, .decimal ht hp, fun v y hv hy => ?_⟩
      cases hy with
      | infinity => exact absurd hv hword
      | decimal ht' hp' =>
        exact length_le_of_longest ht' hp' hv (fun c => ht.mem) hstop hlongest

/-- Where there is a number at the front, one is read. -/
theorem Unsigned.unsigned?_ne_none (h : Unsigned exponent negative body x) (hpre : body <+: cs) :
    unsigned? negative cs ≠ none := by
  by_cases hword : "Infinity".toList <+: cs
  · rw [unsigned?_of_infinity hword]
    exact Option.some_ne_none _
  · cases h with
    | infinity => exact absurd hpre hword
    | decimal ht' hp' =>
      obtain ⟨text, whole, fraction, rest, hsplit, rfl, hstop, hnone | ht⟩ := splitPointed_spec cs
      · obtain ⟨c, hc, hdigit⟩ := ht'.exists_digit
        have hfront := ht'.prefix_of_prefix ((List.prefix_append _ _).trans hpre) hstop
        rw [hnone.2.2 c (hfront.subset hc)] at hdigit
        cases hdigit
      · rw [unsigned?_of_decimal hword hsplit ht.parts_ne_nil rfl]
        exact Option.some_ne_none _

/-- A number alone is read as it is. -/
theorem Unsigned.unsigned?_eq (h : Unsigned exponent negative body x) :
    unsigned? negative body = some x := by
  cases h with
  | infinity => exact unsigned?_of_infinity (List.prefix_refl _)
  | decimal ht hp =>
    exact unsigned?_of_decimal ht.not_infinity (ht.splitPointed_append hp.endsNumber)
      ht.parts_ne_nil hp.power?_getD

/-! ## Numbers with a sign -/

theorem Unsigned.startsNoSign (h : Unsigned size negative body x) (rest : List Char) :
    StartsNoSign (body ++ rest) := by
  cases h with
  | infinity =>
    rintro c ⟨⟩
    decide
  | decimal ht _ =>
    intro c hc
    rw [List.append_assoc, List.head?_append_of_ne_nil _ ht.ne_nil] at hc
    rcases ht.mem (List.mem_of_mem_head? hc) with hdigit | rfl
    · constructor <;> rintro rfl <;> cases hdigit
    · decide

/-- The sign at the front of a text is the sign of each numeral there. -/
theorem Numeral.exists_unsigned (h : Numeral size v x) (hpre : v <+: cs) :
    ∃ sign body, v = sign ++ body ∧ SignText sign (splitSign cs).1 ∧
      cs = sign ++ (splitSign cs).2 ∧ body <+: (splitSign cs).2 ∧
      Unsigned size (splitSign cs).1 body x := by
  obtain @⟨sign, body, negative, _, hs, hb⟩ := h
  obtain ⟨rest, rfl⟩ := hpre
  rw [List.append_assoc, splitSign_append hs (hb.startsNoSign rest)]
  exact ⟨sign, body, rfl, hs, rfl, List.prefix_append _ _, hb⟩

/-! ## The longest numeral -/

theorem Numeral.signed?_ne_none (h : Numeral exponent w x) (hpre : w <+: cs) :
    signed? cs ≠ none := by
  obtain ⟨_, body, -, -, -, hbody, hread⟩ := h.exists_unsigned hpre
  rw [signed?_eq]
  exact hread.unsigned?_ne_none hbody

/-- A numeral alone is read as it is. -/
theorem Numeral.signed?_eq_some (h : Numeral exponent w x) : signed? w = some x := by
  cases h with
  | signed hs hb =>
    have hsign := hb.startsNoSign []
    rw [List.append_nil] at hsign
    rw [signed?_eq, splitSign_append hs hsign]
    exact hb.unsigned?_eq

theorem exists_isLongest (h : signed? cs = some x) :
    ∃ w, IsLongest w cs ∧ Numeral exponent w x := by
  obtain ⟨sign, hsign, hcs⟩ := exists_signText cs
  rw [signed?_eq] at h
  obtain ⟨body, hbody, hread, hlongest⟩ := unsigned?_eq_some h
  have hw : Numeral exponent (sign ++ body) x := .signed hsign hread
  refine ⟨sign ++ body, ⟨?_, ⟨x, hw⟩, fun v y hv hy => ?_⟩, hw⟩
  · rw [hcs]
    exact (List.prefix_append_right_inj sign).mpr hbody
  · obtain ⟨sign', body', rfl, -, hcs', hbody', hread'⟩ := hy.exists_unsigned hv
    have hle := hlongest body' y hbody' hread'
    have hsame : sign' = sign := List.append_cancel_right (hcs'.symm.trans hcs)
    rw [hsame, List.length_append, List.length_append]
    omega

theorem IsLongest.unique (h : IsLongest v cs) (h' : IsLongest w cs) : v = w := by
  obtain ⟨x, hx⟩ := h.numeral
  obtain ⟨y, hy⟩ := h'.numeral
  have hle := h'.longest v x h.front hx
  have hle' := h.longest w y h'.front hy
  exact (List.prefix_of_prefix_length_le h.front h'.front hle).eq_of_length
    (Nat.le_antisymm hle hle')

/-- What stands after the longest numeral makes no difference. -/
theorem IsLongest.signed?_eq (h : IsLongest w cs) : signed? cs = signed? w := by
  obtain ⟨x, hx⟩ := h.numeral
  cases hread : signed? cs with
  | none => exact absurd hread (hx.signed?_ne_none h.front)
  | some y =>
    obtain ⟨v, hv, hy⟩ := exists_isLongest hread
    rw [hv.unique h] at hy
    exact hy.signed?_eq_some.symm

theorem signed?_eq_some_iff :
    signed? cs = some x ↔ ∃ w, IsLongest w cs ∧ Numeral exponent w x := by
  constructor
  · exact exists_isLongest
  · rintro ⟨w, hw, hx⟩
    exact hw.signed?_eq.trans hx.signed?_eq_some

theorem isBlank_of_isDigit {c : Char} (h : c.isDigit = true) : Text.isBlank c = false := by
  rw [Char.isDigit_iff_toNat] at h
  have hlow : 48 ≤ c.toNat := h.1
  have hhigh : c.toNat ≤ 57 := h.2
  simp [Text.isBlank]
  omega

theorem Unsigned.not_blank (h : Unsigned size negative body x) :
    ∀ c, body.head? = some c → Text.isBlank c = false := by
  cases h with
  | infinity =>
    rintro c ⟨⟩
    rfl
  | decimal ht _ =>
    intro c hc
    rw [List.head?_append_of_ne_nil _ ht.ne_nil] at hc
    rcases ht.mem (List.mem_of_mem_head? hc) with hdigit | rfl
    · exact isBlank_of_isDigit hdigit
    · rfl

/-- No blanks stand before a numeral that is a text of its own. -/
theorem Numeral.dropWhile_eq (h : Numeral size w x) : w.dropWhile Text.isBlank = w := by
  have hhead : ∀ c, w.head? = some c → Text.isBlank c = false := by
    cases h with
    | signed hs hb =>
      cases hs with
      | none => exact hb.not_blank
      | plus =>
        rintro c ⟨⟩
        rfl
      | minus =>
        rintro c ⟨⟩
        rfl
  exact (span_front (List.forall_mem_nil _) hhead).2

/-! ## The values of numerals -/

/-- The text without the blanks in front. -/
def afterBlanks (s : String) : List Char := s.toList.dropWhile Text.isBlank

theorem leading?_eq_some_iff {s : String} : leading? s = some x ↔
    ∃ w, IsLongest w (afterBlanks s) ∧ Numeral exponent w x := signed?_eq_some_iff

/-- A numeral that is a text of its own is what is read of it. -/
theorem Numeral.leading?_eq (h : Numeral exponent w x) : leading? (.ofList w) = some x := by
  unfold leading?
  rw [String.toList_ofList, h.dropWhile_eq]
  exact h.signed?_eq_some

theorem IsLongest.leading?_eq {s : String} (h : IsLongest w (afterBlanks s)) :
    leading? (.ofList w) = leading? s := by
  obtain ⟨x, hx⟩ := h.numeral
  rw [hx.leading?_eq]
  exact (leading?_eq_some_iff.mpr ⟨w, h, hx⟩).symm

end Number

namespace Language

open Patchbay.Action Patchbay.Number

section

variable (s : String) (depth : Nat) (caller : ScopeId) (st : Store)

theorem toNum_on : Builtin.toNum.on [.text s] (depth + 1) caller st =
    ofOption (.notANumber s) ((leading? s).map Value.number) st := by
  simp only [Builtin.on, foldList, bind_pure]
  rfl

theorem toNum_on_some {x : Float} (h : leading? s = some x) :
    Builtin.toNum.on [.text s] (depth + 1) caller st = .done (.number x) st := by
  rw [toNum_on, h]
  rfl

theorem toNum_on_none (h : leading? s = none) :
    Builtin.toNum.on [.text s] (depth + 1) caller st = .failed (.notANumber s) st := by
  rw [toNum_on, h]
  rfl

end

end Language

end Patchbay
