-- What the lexer does on a text of which the front is known. `Spells cs ts`
-- says that the text is lexed to the tokens; each rule puts one more blank or
-- one more token in front.
import Patchbay.Language.Lexer
import Patchbay.Proofs.WholeParts

namespace Patchbay.Language

open Patchbay.Number

def Spells (cs : List Char) (ts : List Token) : Prop := scan cs = .ok ts

/-! ## One step of a scan -/

theorem scan_of_end {cs : List Char} (h : skipBlanks cs = []) : scan cs = .ok [] := by
  rw [scan]
  split
  · rfl
  · rename_i heq
    rw [h] at heq
    cases heq

theorem scan_of_none {cs rest : List Char} {c : Char} (h : skipBlanks cs = c :: rest)
    (ht : lexeme? c rest = none) : scan cs = .error (c, rest) := by
  rw [scan]
  split
  · rename_i heq
    rw [h] at heq
    cases heq
  · rename_i heq
    rw [h] at heq
    cases heq
    split
    · rfl
    · rename_i heq
      rw [ht] at heq
      cases heq

theorem scan_of_some {cs rest rest' : List Char} {c : Char} {t : Token}
    (h : skipBlanks cs = c :: rest) (ht : lexeme? c rest = some (t, rest')) :
    scan cs = (scan rest').map (t :: ·) := by
  rw [scan]
  split
  · rename_i heq
    rw [h] at heq
    cases heq
  · rename_i heq
    rw [h] at heq
    cases heq
    split
    · rename_i heq
      rw [ht] at heq
      cases heq
    · rename_i heq
      rw [ht] at heq
      cases heq
      cases scan rest' <;> rfl

/-- A scan starts with the blanks. -/
theorem scan_skipBlanks {cs cs' : List Char} (h : skipBlanks cs = skipBlanks cs') :
    scan cs = scan cs' := by
  cases hc : skipBlanks cs' with
  | nil => rw [scan_of_end (h.trans hc), scan_of_end hc]
  | cons c rest =>
    cases ht : lexeme? c rest with
    | none => rw [scan_of_none (h.trans hc) ht, scan_of_none hc ht]
    | some found => rw [scan_of_some (h.trans hc) ht, scan_of_some hc ht]

/-! ## Characters -/

theorem forall_ne {d : Char} {cs : List Char} (h : d ∉ cs) :
    ∀ c ∈ cs, decide (c ≠ d) = true := fun _ hc => decide_eq_true fun heq => h (heq ▸ hc)

/-- No lexeme starts with a blank or a hash. -/
theorem lexeme?_not_blank {c : Char} {cs rest : List Char} {t : Token}
    (h : lexeme? c cs = some (t, rest)) : isBlank c = false ∧ c ≠ '#' := by
  constructor
  · refine Bool.eq_false_iff.mpr fun hblank => ?_
    simp only [isBlank, Bool.or_eq_true, decide_eq_true_eq] at hblank
    rcases hblank with (((rfl | rfl) | rfl) | rfl) | rfl <;> cases h
  · rintro rfl
    cases h

theorem not_isDigit_of_isLower {c : Char} (h : c.isLower = true) : ¬c.isDigit = true := by
  intro hd
  simp only [Char.isLower, Char.isDigit, Bool.and_eq_true, decide_eq_true_eq,
    UInt32.le_iff_toNat_le, ge_iff_le] at h hd
  have ha : 'a'.val.toNat = 97 := rfl
  have hnine : '9'.val.toNat = 57 := rfl
  omega

/-- The next character goes on with no word. -/
def EndsWord (rest : List Char) : Prop := ∀ c, rest.head? = some c → isWordChar c = false

/-- The next character goes on with no word and no number. -/
def Ends (rest : List Char) : Prop :=
  ∀ c, rest.head? = some c → isWordChar c = false ∧ c ≠ '.'

namespace Ends

variable {rest : List Char}

theorem nil : Ends [] := by
  rintro d ⟨⟩

theorem cons {c : Char} (hc : isWordChar c = false) (hdot : c ≠ '.') (rest : List Char) :
    Ends (c :: rest) := by
  rintro d ⟨⟩
  exact ⟨hc, hdot⟩

theorem endsWord (h : Ends rest) : EndsWord rest := fun c hc => (h c hc).1

theorem endsNumber (h : Ends rest) : EndsNumber rest := by
  intro c hc
  refine ⟨Bool.eq_false_iff.mpr fun hd => ?_, (h c hc).2⟩
  have hword := (h c hc).1
  simp [isWordChar, Char.isAlphanum, hd] at hword

end Ends

/-- A name of the language: a small letter and word characters, and no keyword. -/
structure IsName (name : String) : Prop where
  start : ∃ c cs, name.toList = c :: cs ∧ c.isLower = true ∧ ∀ d ∈ cs, isWordChar d = true
  free : Symbol.ofWord? name = none

/-! ## Lexemes -/

/-- The number that digits before and after a point stand for. -/
def Token.ofDigits (whole fraction : List Char) : Token :=
  .number ((Decimal.ofParts whole fraction).toFloat false)

/-- The characters `w`, with `rest` after them, are one lexeme, which stands for the token, and
the next character does not go on with it. -/
inductive Cuts : List Char → List Char → Token → Prop
  | whole {d : Char} {ds rest : List Char} (hd : d.isDigit = true)
      (hds : ∀ c ∈ ds, c.isDigit = true) (hrest : EndsNumber rest) :
      Cuts (d :: ds) rest (.ofDigits (d :: ds) [])
  | pointed {d : Char} {ds fs rest : List Char} (hd : d.isDigit = true)
      (hds : ∀ c ∈ ds, c.isDigit = true) (hfs : ∀ c ∈ fs, c.isDigit = true)
      (hrest : ∀ c, rest.head? = some c → c.isDigit = false) :
      Cuts (d :: (ds ++ '.' :: fs)) rest (.ofDigits (d :: ds) fs)
  | closed {body rest : List Char} (h : '"' ∉ body) :
      Cuts ('"' :: (body ++ ['"'])) rest (.text (String.ofList body))
  | unclosed {body : List Char} (h : '"' ∉ body) :
      Cuts ('"' :: body) [] (.text (String.ofList body))
  | word {c : Char} {cs rest : List Char} (hc : c.isLower = true)
      (hcs : ∀ d ∈ cs, isWordChar d = true) (hrest : EndsWord rest) :
      Cuts (c :: cs) rest (.ofWord (String.ofList (c :: cs)))
  | equals {rest : List Char} : Cuts ['=', '='] rest (.symbol .equals)
  | mark {s : Symbol} {rest : List Char} (h : s.spelling.length = 1)
      (hrest : s = .assign → rest.head? ≠ some '=') : Cuts s.spelling.toList rest (.symbol s)

namespace Cuts

variable {w rest : List Char} {t : Token}

/-- This is what the lexer reads. -/
theorem read (h : Cuts w rest t) :
    ∃ c cs, w = c :: cs ∧ lexeme? c (cs ++ rest) = some (t, rest) := by
  cases h with
  | @whole d ds _ hd hds hrest =>
    refine ⟨d, ds, rfl, ?_⟩
    have hsplit := splitPointed_whole (List.forall_mem_cons.mpr ⟨hd, hds⟩) hrest
    rw [List.cons_append] at hsplit
    unfold lexeme? Token.ofDigits
    rw [if_pos hd, hsplit]
  | @pointed d ds fs _ hd hds hfs hrest =>
    refine ⟨d, ds ++ '.' :: fs, rfl, ?_⟩
    have hsplit := splitPointed_fraction (List.forall_mem_cons.mpr ⟨hd, hds⟩) hfs hrest
    rw [List.cons_append] at hsplit
    unfold lexeme? Token.ofDigits
    rw [if_pos hd, List.append_assoc, List.cons_append, hsplit]
  | @closed body _ h =>
    refine ⟨'"', body ++ ['"'], rfl, ?_⟩
    have hquote : ∀ c, ('"' :: rest).head? = some c → decide (c ≠ '"') = false := by
      rintro c ⟨⟩
      rfl
    obtain ⟨htake, hdrop⟩ := span_front (forall_ne h) hquote
    unfold lexeme?
    rw [if_neg (by decide), if_pos rfl, List.append_assoc, List.singleton_append, htake, hdrop]
    rfl
  | @unclosed body h =>
    refine ⟨'"', body, rfl, ?_⟩
    have hend : ∀ c, ([] : List Char).head? = some c → decide (c ≠ '"') = false := nofun
    obtain ⟨htake, hdrop⟩ := span_front (forall_ne h) hend
    unfold lexeme?
    rw [if_neg (by decide), if_pos rfl, htake, hdrop]
    rfl
  | @word c cs _ hc hcs hrest =>
    refine ⟨c, cs, rfl, ?_⟩
    have hquote : c ≠ '"' := by
      rintro rfl
      revert hc
      decide
    obtain ⟨htake, hdrop⟩ := span_front hcs hrest
    unfold lexeme?
    rw [if_neg (not_isDigit_of_isLower hc), if_neg hquote, if_pos hc, htake, hdrop]
  | equals => exact ⟨'=', ['='], rfl, rfl⟩
  | @mark s _ h hrest =>
    cases s
    case assign =>
      refine ⟨'=', [], rfl, ?_⟩
      cases rest with
      | nil => rfl
      | cons d rest =>
        have hd : d ≠ '=' := fun heq => hrest rfl (congrArg some heq)
        unfold lexeme?
        rw [if_neg (by decide), if_neg (by decide), if_neg (by decide), if_pos rfl]
        split
        · rename_i heq
          exact absurd (List.cons.inj heq).1 hd
        · rfl
    all_goals first
      | exact ⟨_, [], rfl, rfl⟩
      | exact absurd h (by decide)

end Cuts

/-! ## Texts and tokens -/

theorem spells_iff {source : String} {ts : List Token} :
    Spells source.toList ts ↔ tokenize source = .ok ts := by
  unfold Spells tokenize
  cases scan source.toList with
  | ok ts => simp
  | error stop => simp

namespace Spells

variable {cs rest : List Char} {ts : List Token}

theorem nil : Spells [] [] := scan_of_end (by rw [skipBlanks])

theorem blank {c : Char} (hc : isBlank c = true) (h : Spells cs ts) : Spells (c :: cs) ts := by
  refine (scan_skipBlanks ?_).trans h
  rw [skipBlanks, if_pos hc]

theorem lexeme {c : Char} {t : Token} (ht : lexeme? c cs = some (t, rest)) (h : Spells rest ts) :
    Spells (c :: cs) (t :: ts) := by
  obtain ⟨hblank, hc⟩ := lexeme?_not_blank ht
  have hskip : skipBlanks (c :: cs) = c :: cs := by
    rw [skipBlanks, if_neg (Bool.eq_false_iff.mp hblank), if_neg hc]
  have hrest : scan rest = .ok ts := h
  unfold Spells
  rw [scan_of_some hskip ht, hrest]
  rfl

theorem cuts {w : List Char} {t : Token} (hw : Cuts w rest t) (h : Spells rest ts) :
    Spells (w ++ rest) (t :: ts) := by
  obtain ⟨c, cs, rfl, ht⟩ := hw.read
  exact lexeme ht h

theorem number {x : Float} {m s : Nat} (hx : exact x = .finite false m s) (hrest : EndsNumber rest)
    (h : Spells rest ts) : Spells ((plain x).toList ++ rest) (.number x :: ts) := by
  obtain ⟨c, cs, hcs, hc, hread⟩ := plain_reads_back hx
  obtain ⟨whole, fraction, hsplit, hvalue⟩ := hread rest hrest
  rw [hcs, List.cons_append]
  refine lexeme ?_ h
  unfold lexeme?
  rw [if_pos hc, hsplit, ← hvalue]

theorem text {s : String} (hs : '"' ∉ s.toList) (h : Spells rest ts) :
    Spells ('"' :: (s.toList ++ '"' :: rest)) (.text s :: ts) := by
  have hclosed := cuts (.closed hs) h
  rwa [String.ofList_toList, List.cons_append, List.append_assoc] at hclosed

/-- A keyword or a name. -/
theorem word {w : String} (hw : ∃ c cs, w.toList = c :: cs ∧ c.isLower = true ∧
    ∀ d ∈ cs, isWordChar d = true) (hrest : EndsWord rest) (h : Spells rest ts) :
    Spells (w.toList ++ rest) (.ofWord w :: ts) := by
  obtain ⟨c, cs, hcs, hc, hword⟩ := hw
  have hcuts := cuts (.word hc hword hrest) h
  rwa [← hcs, String.ofList_toList] at hcuts

theorem name {n : String} (hn : IsName n) (hrest : EndsWord rest) (h : Spells rest ts) :
    Spells (n.toList ++ rest) (.ident n :: ts) := by
  have hword := word hn.start hrest h
  unfold Token.ofWord at hword
  rwa [hn.free] at hword

end Spells

end Patchbay.Language
