-- Lexing line by line. A line feed ends every lexeme and comment but a string, so
-- a text in which no string is left open, a line feed and another text have the
-- tokens of the two, and a place in the second text moves by what stands before it.
import Patchbay.Proofs.Lexemes

namespace Patchbay.Language

/-! ## What a character stands in -/

/-- What the characters of a text stand in: the program itself, a string or a comment. -/
inductive Inside
  | code
  | string
  | comment
  deriving DecidableEq, Repr

/-- A quote opens a string and closes it, and a hash outside strings opens a comment, which the
end of the line closes. -/
def Inside.next : Inside → Char → Inside
  | .code, c => if c = '"' then .string else if c = '#' then .comment else .code
  | .string, c => if c = '"' then .code else .string
  | .comment, c => if c = '\n' then .code else .comment

/-- What the end of a text stands in. -/
def endsInside (cs : List Char) : Inside := cs.foldl Inside.next .code

variable {u v w rest : List Char} {t : Token} {ts : List Token}

theorem foldl_stays {s : Inside} (h : ∀ c ∈ w, s.next c = s) : w.foldl Inside.next s = s := by
  induction w with
  | nil => rfl
  | cons c w ih =>
    obtain ⟨hc, hw⟩ := List.forall_mem_cons.mp h
    rw [List.foldl_cons, hc, ih hw]

/-- Inside a string all is of the string but a quote. -/
theorem foldl_string (h : '"' ∉ w) : w.foldl Inside.next .string = .string :=
  foldl_stays fun c hc => if_neg fun heq : c = '"' => h (heq ▸ hc)

theorem foldl_comment (h : '\n' ∉ w) : w.foldl Inside.next .comment = .comment :=
  foldl_stays fun c hc => if_neg fun heq : c = '\n' => h (heq ▸ hc)

theorem Inside.next_code {c : Char} (hquote : c ≠ '"') (hhash : c ≠ '#') :
    Inside.code.next c = .code := by
  rw [Inside.next, if_neg hquote, if_neg hhash]

theorem endsInside_append (u w : List Char) :
    endsInside (u ++ w) = w.foldl Inside.next (endsInside u) := List.foldl_append

/-- What comes after the program itself stands in the same as on its own. -/
theorem endsInside_after (h : endsInside u = .code) (w : List Char) :
    endsInside (u ++ w) = endsInside w := by
  rw [endsInside_append, h]
  rfl

/-! ## Lexemes -/

/-- A lexeme is closed, but for a string that runs to the end of the text. -/
theorem Cuts.inside (h : Cuts w rest t) :
    endsInside w = .code ∨ rest = [] ∧ endsInside w = .string := by
  have hword : ∀ c : Char, isWordChar c = true → Inside.code.next c = .code := by
    intro c hc
    refine Inside.next_code ?_ ?_ <;>
      · rintro rfl
        exact absurd hc (by decide)
  have hdigit : ∀ c : Char, c.isDigit = true → Inside.code.next c = .code :=
    fun c hc => hword c (by simp [isWordChar, Char.isAlphanum, hc])
  cases h with
  | whole hd hds _ =>
    refine Or.inl (foldl_stays (List.forall_mem_cons.mpr ⟨hdigit _ hd, ?_⟩))
    exact fun c hc => hdigit c (hds c hc)
  | pointed hd hds hfs _ =>
    refine Or.inl (foldl_stays (List.forall_mem_cons.mpr ⟨hdigit _ hd, ?_⟩))
    refine List.forall_mem_append.mpr ⟨fun c hc => hdigit c (hds c hc), ?_⟩
    exact List.forall_mem_cons.mpr ⟨rfl, fun c hc => hdigit c (hfs c hc)⟩
  | @closed body _ h =>
    left
    change (body ++ ['"']).foldl Inside.next .string = .code
    rw [List.foldl_append, foldl_string h]
    rfl
  | unclosed h => exact Or.inr ⟨rfl, foldl_string h⟩
  | @word c cs _ hc hcs _ =>
    have hfirst : isWordChar c = true := by simp [isWordChar, Char.isAlphanum, Char.isAlpha, hc]
    refine Or.inl (foldl_stays (List.forall_mem_cons.mpr ⟨hword c hfirst, ?_⟩))
    exact fun d hd => hword d (hcs d hd)
  | equals => exact Or.inl rfl
  | @mark s => cases s <;> exact Or.inl rfl

/-- Unless a string is left open, a lexeme at the end of a text is also one before a line
feed. -/
theorem Cuts.line (h : Cuts w [] t) (hclosed : endsInside w ≠ .string) (v : List Char) :
    Cuts w ('\n' :: v) t := by
  have hends : Ends ('\n' :: v) := .cons (by decide) (by decide) v
  cases h with
  | whole hd hds _ => exact .whole hd hds hends.endsNumber
  | pointed hd hds hfs _ =>
    exact .pointed hd hds hfs fun c hc => (hends.endsNumber c hc).1
  | closed h => exact .closed h
  | unclosed h => exact absurd (foldl_string h) hclosed
  | word hc hcs _ => exact .word hc hcs hends.endsWord
  | equals => exact .equals
  | mark h _ => exact .mark h fun _ => nofun

/-! ## Blanks and comments -/

/-- A comment at the end of a text is also one before a line feed. -/
theorem Trivia.line (h : Trivia u []) (v : List Char) : Trivia u ('\n' :: v) := by
  generalize hrest : ([] : List Char) = rest at h
  induction h with
  | nil => exact .nil
  | blank hc _ ih => exact .blank hc (ih hrest)
  | @comment body u rest hbody hend _ ih =>
    subst hrest
    refine .comment hbody (fun c hc => ?_) (ih rfl)
    cases u with
    | nil => exact (Option.some.inj hc).symm
    | cons d u => exact hend c hc

/-- Blanks and comments in front of something on their last line are closed. -/
theorem Trivia.inside (h : Trivia u rest) :
    endsInside u = .code ∨ ∀ c, rest.head? = some c → c = '\n' := by
  induction h with
  | nil => exact Or.inl rfl
  | @blank c u _ hc _ ih =>
    have hcode : Inside.code.next c = .code := by
      refine Inside.next_code ?_ ?_ <;>
        · rintro rfl
          exact absurd hc (by decide)
    refine ih.imp_left fun hu => ?_
    rwa [endsInside, List.foldl_cons, hcode]
  | @comment body u rest hbody hend _ ih =>
    have hsame : endsInside ('#' :: (body ++ u)) = u.foldl Inside.next .comment := by
      change (body ++ u).foldl Inside.next .comment = _
      rw [List.foldl_append, foldl_comment hbody]
    cases u with
    | nil => exact Or.inr hend
    | cons d u =>
      -- The line feed that ends the comment is a blank, so it leads to the same from there on.
      obtain rfl : d = '\n' := hend d rfl
      exact ih.imp_left fun hu => hsame.trans hu

/-! ## A text before a line feed -/

/-- The lexemes of a text are cut as before. -/
theorem Splits.line {cs : List Char} (h : Splits cs ts []) (hclosed : endsInside cs ≠ .string)
    (v : List Char) : Splits (cs ++ '\n' :: v) ts ('\n' :: v) := by
  generalize hstop : ([] : List Char) = stop at h
  induction h with
  | stop hu =>
    subst hstop
    rw [List.append_nil]
    exact .stop (hu.line v)
  | @lexeme u w rest stop t ts hu hw _ ih =>
    have hcuts := longest_iff_cuts.mp hw
    obtain ⟨c, cs, rfl, hread⟩ := hcuts.read
    have hcode : endsInside u = .code := by
      refine hu.inside.resolve_right fun hline => ?_
      obtain rfl : c = '\n' := hline c rfl
      exact absurd (lexeme?_not_blank hread).1 (by decide)
    rw [endsInside_after hcode] at hclosed
    have hu' : Trivia u (c :: cs ++ (rest ++ '\n' :: v)) := hu.congr rfl
    rw [List.append_assoc, List.append_assoc]
    cases rest with
    | nil =>
      rw [List.append_nil] at hclosed
      exact .lexeme hu' (longest_iff_cuts.mpr (hcuts.line hclosed v)) (ih (by decide) hstop)
    | cons d rest =>
      have hinside : endsInside (c :: cs) = .code := hcuts.inside.resolve_right nofun
      rw [endsInside_after hinside] at hclosed
      have hcuts' : Cuts (c :: cs) (d :: rest ++ '\n' :: v) t :=
        hcuts.congr (List.cons_ne_nil _ _) rfl
      exact .lexeme hu' (longest_iff_cuts.mpr hcuts') (ih hclosed hstop)

/-! ## Places after a line feed -/

/-- The place in a text that follows `read` and a line feed. -/
def Position.below (p : Position) (read : List Char) : Position :=
  ⟨p.line + read.count '\n' + 1, p.column, p.offset + read.length + 1⟩

theorem Position.after_line (read before : List Char) :
    Position.after (read ++ '\n' :: before) = (Position.after before).below read := by
  obtain ⟨-, -, earlier, current, hsplit, hcurrent, hearlier, hcolumn⟩ :=
    Position.marks_iff.mpr (rfl : Position.after before = .after before)
  have hmarks : ((Position.after before).below read).Marks (read ++ '\n' :: before) := by
    refine ⟨?_, ?_, read ++ '\n' :: earlier, current, ?_, hcurrent, Or.inr ?_, hcolumn⟩
    · simp only [below, after, List.length_append, List.length_cons]
      omega
    · simp only [below, after, List.count_append, List.count_cons_self]
      omega
    · rw [hsplit, List.append_assoc, List.cons_append]
    · rw [List.getLast?_append, List.getLast?_cons]
      rcases hearlier with rfl | hlast
      · rfl
      · rw [hlast]
        rfl
  exact (Position.marks_iff.mp hmarks).symm

/-! ## The lexer -/

/-- The lexer of two texts with a line feed between them. -/
theorem scan_line {u : String} (hu : tokenize u = .ok ts) (hclosed : endsInside u.toList ≠ .string)
    (v : List Char) : scan (u.toList ++ '\n' :: v) = (scan v).map (ts ++ ·) := by
  have hskip : skipBlanks ('\n' :: v) = skipBlanks v := by rw [skipBlanks, if_pos (by decide)]
  rw [((tokenize_eq_ok.mp hu).line hclosed v).scan, scan_skipBlanks hskip]

/-- A text that is lexed and leaves no string open, a line feed and a second text have the tokens
of the two. Where the second text fails, the whole fails for the same character: its column is
the same, its line is further by the line feeds before it, and its offset by the characters. -/
theorem lexing_goes_line_by_line (u v : String) (ts : List Token) (hu : tokenize u = .ok ts)
    (hclosed : endsInside u.toList ≠ .string) :
    (∀ ts', tokenize v = .ok ts' → tokenize (u ++ "\n" ++ v) = .ok (ts ++ ts')) ∧
      ∀ c line column offset, tokenize v = .error ⟨c, ⟨line, column, offset⟩⟩ →
        tokenize (u ++ "\n" ++ v) = .error
          ⟨c, ⟨line + u.toList.count '\n' + 1, column, offset + u.length + 1⟩⟩ := by
  have hsource : (u ++ "\n" ++ v).toList = u.toList ++ '\n' :: v.toList := by simp
  have hscan := scan_line hu hclosed v.toList
  constructor
  · intro ts' hv
    have hv' : scan v.toList = .ok ts' := by
      rw [(tokenize_eq_ok.mp hv).scan, scan_of_end (by rw [skipBlanks])]
      exact congrArg Except.ok (List.append_nil ts')
    rw [hv', ← hsource] at hscan
    exact tokenize_eq_ok.mpr ((splits_of_scan _).1 _ hscan)
  · intro c line column offset hv
    obtain ⟨before, rest, hsplit, ⟨ts', hreads⟩, hnothing, hmarks⟩ := tokenize_eq_error.mp hv
    rw [hreads.scan, hnothing.scan, ← hsource] at hscan
    have hplace : (u ++ "\n" ++ v).toList = u.toList ++ '\n' :: before ++ c :: rest := by
      rw [hsource, hsplit, List.append_assoc, List.cons_append]
    rw [tokenize_of_scan_error hplace hscan, Position.after_line, ← Position.marks_iff.mp hmarks]
    rfl

/-- A hash in a string, and a quote in the comment that the text ends with. -/
def noteText : String := "f = \"a # b\" # not \"open"

theorem noteText_comes_before_other_lines :
    tokenize (noteText ++ "\n" ++ "== g") =
        .ok [.ident "f", .symbol .assign, .text "a # b", .symbol .equals, .ident "g"] ∧
      tokenize (noteText ++ "\n" ++ "=\n @") = .error ⟨'@', ⟨2, 1, 27⟩⟩ := by
  have hnote : tokenize noteText = .ok [.ident "f", .symbol .assign, .text "a # b"] := by
    decide +kernel
  have hclosed : endsInside noteText.toList ≠ .string := by decide
  obtain ⟨hok, -⟩ := lexing_goes_line_by_line noteText "== g" _ hnote hclosed
  obtain ⟨-, herror⟩ := lexing_goes_line_by_line noteText "=\n @" _ hnote hclosed
  exact ⟨hok [.symbol .equals, .ident "g"] (by decide +kernel),
    herror '@' 1 1 3 (by decide +kernel)⟩

end Patchbay.Language
