-- The caret under a character that starts no token. The lexer counts line feeds
-- and the characters after the last one; the report takes a line of the text, from
-- which a carriage return may be cut. Both mean the same line and the same place on it.
import Patchbay.CommandLine
import Patchbay.Proofs.Lexemes
import Patchbay.Proofs.Splitting

namespace Patchbay

namespace Text

variable {w u : List Char} {c : Char} {k : Nat}

/-! ## Lines one by one -/

theorem firstAt_lineFeed (h : '\n' ∉ w) (rest : List Char) :
    FirstAt ['\n'] (w ++ '\n' :: rest) w.length := by
  induction w with
  | nil => exact FirstAt.zero_iff.mpr ⟨rest, rfl⟩
  | cons c w ih =>
    refine FirstAt.succ_iff.mpr ⟨fun hp => ?_, ih (List.not_mem_of_not_mem_cons h)⟩
    exact List.ne_of_not_mem_cons h (List.cons_prefix_cons.mp hp).1

theorem splitOn_line (h : '\n' ∉ w) (rest : List Char) :
    splitOn ['\n'] (w ++ '\n' :: rest) = w :: splitOn ['\n'] rest := by
  have hmark : ['\n'] ≠ [] := List.cons_ne_nil _ _
  refine splitOn_of_some hmark ((cut?_eq_some hmark).mpr ⟨?_, firstAt_lineFeed h rest⟩)
  rw [List.append_assoc, List.singleton_append]

theorem splitOn_last (h : '\n' ∉ w) : splitOn ['\n'] w = [w] := by
  refine splitOn_of_none (List.cons_ne_nil _ _) (cut?_eq_none.mpr fun hin => h ?_)
  exact hin.subset List.mem_cons_self

theorem lines_nil : lines [] = [] := by
  rw [lines, splitOn_last List.not_mem_nil]
  rfl

/-- A line feed ends a line, and the text goes on after it. -/
theorem lines_line (h : '\n' ∉ w) (rest : List Char) :
    lines (w ++ '\n' :: rest) = dropReturn w :: lines rest := by
  have hne := splitOn_ne_nil ['\n'] rest
  simp only [lines]
  rw [splitOn_line h, List.dropLast_cons_of_ne_nil hne, List.getLast?_cons_of_ne_nil hne]
  rfl

theorem lines_last (h : '\n' ∉ w) (hne : w ≠ []) : lines w = [w] := by
  rw [lines, splitOn_last h]
  simp [hne]

/-! ## Whole lines in front -/

/-- The text is lines with a line feed after each. -/
inductive WholeLines : List Char → Prop
  | nil : WholeLines []
  | line {w rest : List Char} (h : '\n' ∉ w) (hrest : WholeLines rest) :
      WholeLines (w ++ '\n' :: rest)

/-- Every text is whole lines and the start of one more. -/
theorem exists_wholeLines (cs : List Char) :
    ∃ earlier current, cs = earlier ++ current ∧ WholeLines earlier ∧ '\n' ∉ current := by
  induction cs with
  | nil => exact ⟨[], [], rfl, .nil, List.not_mem_nil⟩
  | cons c cs ih =>
    obtain ⟨earlier, current, rfl, hearlier, hcurrent⟩ := ih
    by_cases hc : '\n' = c
    · subst hc
      exact ⟨'\n' :: earlier, current, rfl, .line List.not_mem_nil hearlier, hcurrent⟩
    · cases hearlier with
      | nil => exact ⟨[], c :: current, rfl, .nil, List.not_mem_cons_of_ne_of_not_mem hc hcurrent⟩
      | @line w rest h hrest =>
        have hline : '\n' ∉ c :: w := List.not_mem_cons_of_ne_of_not_mem hc h
        exact ⟨c :: w ++ '\n' :: rest, current, rfl, .line hline hrest, hcurrent⟩

namespace WholeLines

theorem getLast? (h : WholeLines u) : u = [] ∨ u.getLast? = some '\n' := by
  induction h with
  | nil => exact Or.inl rfl
  | line _ _ ih =>
    right
    rw [List.getLast?_append, List.getLast?_cons]
    rcases ih with rfl | hlast
    · rfl
    · rw [hlast]
      rfl

theorem lines_append (h : WholeLines u) (cs : List Char) :
    lines (u ++ cs) = lines u ++ lines cs := by
  induction h with
  | nil => rw [lines_nil, List.nil_append, List.nil_append]
  | line h _ ih =>
    rw [List.append_assoc, List.cons_append, lines_line h, lines_line h, ih, List.cons_append]

theorem length_lines (h : WholeLines u) : (lines u).length = u.count '\n' := by
  induction h with
  | nil => rw [lines_nil, List.length_nil, List.count_nil]
  | line h _ ih =>
    rw [lines_line h, List.length_cons, ih, List.count_append, List.count_eq_zero_of_not_mem h,
      List.count_cons_self, Nat.zero_add]

end WholeLines

/-! ## A character on its line -/

theorem getElem?_dropReturn (h : w[k]? = some c) (hc : c ≠ '\r') :
    (dropReturn w)[k]? = some c := by
  unfold dropReturn
  split
  · rename_i hreturn
    obtain ⟨front, rfl⟩ := List.getLast?_eq_some_iff.mp hreturn
    rw [List.dropLast_concat]
    -- The character is not the one that is cut off, so it stands before it.
    by_cases hk : k < front.length
    · rwa [List.getElem?_append_left hk] at h
    · rw [List.getElem?_append_right (Nat.le_of_not_lt hk), List.getElem?_singleton] at h
      split at h
      · exact absurd (Option.some.inj h).symm hc
      · cases h
  · exact h

/-- A character that ends no line stands on the first line, after what stands before it. -/
theorem lines_head (hbefore : '\n' ∉ w) (hfeed : c ≠ '\n') (hreturn : c ≠ '\r')
    (rest : List Char) :
    ∃ first, (lines (w ++ c :: rest)).head? = some first ∧ first[w.length]? = some c := by
  obtain ⟨more, after, rfl, hmore, hafter⟩ := Number.exists_front (· ≠ '\n') rest
  have hmore' : '\n' ∉ more := fun hmem => of_decide_eq_true (hmore '\n' hmem) rfl
  have hline : '\n' ∉ w ++ c :: more :=
    List.not_mem_append hbefore (List.not_mem_cons_of_ne_of_not_mem hfeed.symm hmore')
  have hplace : (w ++ c :: more)[w.length]? = some c := by simp
  cases after with
  | nil =>
    have hne : w ++ c :: more ≠ [] := by simp
    rw [List.append_nil, lines_last hline hne]
    exact ⟨_, rfl, hplace⟩
  | cons d after =>
    obtain rfl : d = '\n' := by simpa using hafter d rfl
    rw [← List.cons_append, ← List.append_assoc, lines_line hline]
    exact ⟨_, rfl, getElem?_dropReturn hplace hreturn⟩

end Text

namespace Language

/-- The place of a character leads to it on the lines of the text. -/
theorem Position.on_lines (before rest : List Char) {c : Char} (hfeed : c ≠ '\n')
    (hreturn : c ≠ '\r') :
    ∃ shown, (Text.lines (before ++ c :: rest))[(after before).line]? = some shown ∧
      shown[(after before).column]? = some c := by
  obtain ⟨earlier, current, rfl, hearlier, hcurrent⟩ := Text.exists_wholeLines before
  obtain ⟨shown, hshown, hplace⟩ := Text.lines_head hcurrent hfeed hreturn rest
  have hline : (after (earlier ++ current)).line = (Text.lines earlier).length := by
    rw [hearlier.length_lines, after, List.count_append, List.count_eq_zero_of_not_mem hcurrent,
      Nat.add_zero]
  refine ⟨shown, ?_, ?_⟩
  · rw [hline, List.append_assoc, hearlier.lines_append,
      List.getElem?_append_right (Nat.le_refl _), Nat.sub_self, ← List.head?_eq_getElem?, hshown]
  · rw [column_after rfl hcurrent hearlier.getLast?, hplace]

end Language

namespace CommandLine

open Patchbay.Language

theorem caret_of_line {source : String} {place : Position} {shown : List Char}
    (h : (Text.lines source.toList)[place.line]? = some shown) :
    caret source place =
      "ERROR AT LINE " ++ toString (place.line + 1) ++ ":\n" ++ String.ofList shown ++ "\n" ++
        String.ofList (List.replicate place.column ' ') ++ "^\n" := by
  unfold caret
  rw [h]
  rfl

/-- A text that cannot be lexed is reported with the line of the error, which is one of its lines,
and with a caret below the character that starts no token: as many blanks stand before the caret
as characters before that one. -/
theorem caret_points_at_the_character (w : Wording) (source : String) (e : LexError)
    (h : tokenize source = .error e) :
    ∃ shown, (Text.lines source.toList)[e.position.line]? = some shown ∧
      shown[e.position.column]? = some e.character ∧
      report w source (.syntaxError (.lex e)) =
        "ERROR AT LINE " ++ toString (e.position.line + 1) ++ ":\n" ++
          String.ofList shown ++ "\n" ++
          String.ofList (List.replicate e.position.column ' ') ++ "^\n" ++
          e.message ++ " (" ++ "lex-unrecognized-character" ++ ")\n\n" := by
  obtain ⟨before, rest, hsource, -, hnothing, hmarks⟩ := tokenize_eq_error.mp h
  have hblank : ∀ c ∈ blanks, e.character ≠ c := by
    rintro c hc rfl
    exact hnothing.blank hc
  obtain ⟨shown, hshown, hplace⟩ :=
    Position.on_lines before rest (hblank '\n' (by decide)) (hblank '\r' (by decide))
  rw [← Position.marks_iff.mp hmarks] at hshown hplace
  rw [← hsource] at hshown
  refine ⟨shown, hshown, hplace, ?_⟩
  rw [← caret_of_line hshown]
  rfl

/-- Lines that end in a carriage return and a line feed, one of them in a string, and after it a
carriage return that ends no line. -/
def returnsText : String := "# 9 \u00e9\r\n\"a\r\nb\" +\r\u00a0@\r\n1"

theorem returnsText_has_its_caret_at_the_sign :
    tokenize returnsText = .error ⟨'@', ⟨2, 6, 17⟩⟩ ∧
      report .silent returnsText (.syntaxError (.lex ⟨'@', ⟨2, 6, 17⟩⟩)) =
        "ERROR AT LINE 3:\nb\" +\r\u00a0@\n      ^\n" ++
          "Unrecognized token '@' at 2:6 (lex-unrecognized-character)\n\n" := by
  have herror : tokenize returnsText = .error ⟨'@', ⟨2, 6, 17⟩⟩ := by decide +kernel
  obtain ⟨shown, hshown, -, hreport⟩ := caret_points_at_the_character .silent returnsText _ herror
  have hline : (Text.lines returnsText.toList)[2]? = some "b\" +\r\u00a0@".toList := by
    decide +kernel
  obtain rfl := Option.some.inj (hshown.symm.trans hline)
  exact ⟨herror, hreport.trans (by decide +kernel)⟩

end CommandLine

end Patchbay
