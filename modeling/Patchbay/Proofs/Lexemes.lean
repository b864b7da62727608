-- What the lexer reads, told without it. A text is blanks and lexemes in turn, each
-- lexeme the longest one that starts at its place, and the first character that starts
-- none is an error. The lexer finds just this split, with one character in sight.
import Patchbay.Proofs.LexerSteps
import Patchbay.Proofs.NearestDoubles

namespace Patchbay.Language

open Patchbay.Number

/-! ## Lexemes -/

/-- The words that are no names. -/
def keywords : List (String × Symbol) :=
  [("let", .letWord), ("if", .ifWord), ("then", .thenWord), ("else", .elseWord)]

/-- The marks of one character. -/
def marks : List (Char × Symbol) :=
  [(';', .semicolon), ('\\', .backslash), (':', .colon), ('|', .pipe), ('.', .dot), ('*', .star),
    ('/', .slash), ('+', .plus), ('-', .minus), ('(', .leftParen), (')', .rightParen),
    ('{', .leftBrace), ('}', .rightBrace), (',', .comma), ('[', .leftBracket),
    (']', .rightBracket), ('%', .percent), ('=', .assign)]

/-- The characters `w`, with `rest` after them, are one lexeme, which stands for the token. -/
inductive Lexeme : List Char → List Char → Token → Prop
  | whole {d : Char} {ds rest : List Char} {x : Float} (hd : d.isDigit = true)
      (hds : ∀ c ∈ ds, c.isDigit = true) (hx : IsNearest (numberOf (d :: ds) []) x) :
      Lexeme (d :: ds) rest (.number x)
  | pointed {d : Char} {ds fs rest : List Char} {x : Float} (hd : d.isDigit = true)
      (hds : ∀ c ∈ ds, c.isDigit = true) (hfs : ∀ c ∈ fs, c.isDigit = true)
      (hx : IsNearest (numberOf (d :: ds) fs) x) : Lexeme (d :: (ds ++ '.' :: fs)) rest (.number x)
  | closed {body rest : List Char} (h : '"' ∉ body) :
      Lexeme ('"' :: (body ++ ['"'])) rest (.text (String.ofList body))
  /-- Without a second quote the string runs to the end. -/
  | unclosed {body : List Char} (h : '"' ∉ body) :
      Lexeme ('"' :: body) [] (.text (String.ofList body))
  | keyword {word : String} {s : Symbol} {rest : List Char} (h : (word, s) ∈ keywords) :
      Lexeme word.toList rest (.symbol s)
  | name {c : Char} {cs rest : List Char} (hc : c.isLower = true)
      (hcs : ∀ d ∈ cs, d.isAlphanum = true ∨ d = '_')
      (hfree : ∀ s, (String.ofList (c :: cs), s) ∉ keywords) :
      Lexeme (c :: cs) rest (.ident (String.ofList (c :: cs)))
  | equals {rest : List Char} : Lexeme ['=', '='] rest (.symbol .equals)
  | mark {c : Char} {s : Symbol} {rest : List Char} (h : (c, s) ∈ marks) :
      Lexeme [c] rest (.symbol s)

/-- No lexeme that starts at the same place is longer. -/
def Longest (w rest : List Char) (t : Token) : Prop :=
  Lexeme w rest t ∧
    ∀ w' rest' t', w' ++ rest' = w ++ rest → Lexeme w' rest' t' → w'.length ≤ w.length

/-! ## Words and marks -/

theorem isWordChar_iff {c : Char} : isWordChar c = true ↔ c.isAlphanum = true ∨ c = '_' := by
  unfold isWordChar
  rw [Bool.or_eq_true, decide_eq_true_eq]

/-- A keyword is read as its symbol. -/
theorem ofWord_keyword : ∀ k ∈ keywords, Token.ofWord k.1 = .symbol k.2 := by decide

/-- A keyword is a small letter, and characters of a word. -/
theorem keyword_letters {word : String} {s : Symbol} (h : (word, s) ∈ keywords) :
    ∃ c cs, word.toList = c :: cs ∧ c.isLower = true ∧ ∀ d ∈ cs, isWordChar d = true := by
  simp only [keywords, List.mem_cons, Prod.mk.injEq, List.not_mem_nil, or_false] at h
  rcases h with ⟨rfl, -⟩ | ⟨rfl, -⟩ | ⟨rfl, -⟩ | ⟨rfl, -⟩
  · exact ⟨'l', ['e', 't'], rfl, by decide, List.all_eq_true.mp rfl⟩
  · exact ⟨'i', ['f'], rfl, by decide, List.all_eq_true.mp rfl⟩
  · exact ⟨'t', ['h', 'e', 'n'], rfl, by decide, List.all_eq_true.mp rfl⟩
  · exact ⟨'e', ['l', 's', 'e'], rfl, by decide, List.all_eq_true.mp rfl⟩

/-- A word is read as the keyword that it is, or else as a name. -/
theorem ofWord_cases (word : String) : (∃ s, (word, s) ∈ keywords ∧ Token.ofWord word = .symbol s) ∨
    (∀ s, (word, s) ∉ keywords) ∧ Token.ofWord word = .ident word := by
  by_cases hword : word ∈ keywords.map Prod.fst
  · obtain ⟨⟨_, s⟩, hmem, rfl⟩ := List.mem_map.mp hword
    exact .inl ⟨s, hmem, ofWord_keyword _ hmem⟩
  · refine .inr ⟨fun s hmem => hword (List.mem_map_of_mem hmem), ?_⟩
    simp only [keywords, List.map_cons, List.map_nil, List.mem_cons, List.not_mem_nil, or_false,
      not_or] at hword
    obtain ⟨hlet, hif, hthen, helse⟩ := hword
    unfold Token.ofWord Symbol.ofWord?
    rw [if_neg hlet, if_neg hif, if_neg hthen, if_neg helse]

/-- A mark is spelled with its character. -/
theorem spelling_of_mark : ∀ m ∈ marks, m.2.spelling.toList = [m.1] ∧ m.2.spelling.length = 1 := by
  decide

/-- The symbols that are spelled with one character are marks. -/
theorem exists_mark {s : Symbol} (h : s.spelling.length = 1) :
    ∃ c, (c, s) ∈ marks ∧ s.spelling.toList = [c] := by
  cases s <;> first
    | exact ⟨_, by decide, rfl⟩
    | exact absurd h (by decide)

/-! ## One character in sight -/

namespace Cuts

variable {w rest rest' : List Char} {t : Token}

theorem lexeme (h : Cuts w rest t) : Lexeme w rest t := by
  cases h with
  | whole hd hds _ => exact .whole hd hds (isNearest_ofParts_iff.mpr rfl)
  | pointed hd hds hfs _ => exact .pointed hd hds hfs (isNearest_ofParts_iff.mpr rfl)
  | closed h => exact .closed h
  | unclosed h => exact .unclosed h
  | @word c cs _ hc hcs _ =>
    rcases ofWord_cases (String.ofList (c :: cs)) with ⟨s, hmem, heq⟩ | ⟨hfree, heq⟩
    · have hword : Lexeme (String.ofList (c :: cs)).toList rest (.symbol s) := .keyword hmem
      rwa [heq, ← String.toList_ofList (l := c :: cs)]
    · rw [heq]
      exact .name hc (fun d hd => isWordChar_iff.mp (hcs d hd)) hfree
  | equals => exact .equals
  | mark h _ =>
    obtain ⟨c, hmem, heq⟩ := exists_mark h
    rw [heq]
    exact .mark hmem

/-- Of the text after the lexeme only the first character counts. -/
theorem congr (h : Cuts w rest t) (hne : rest ≠ []) (hsame : rest'.head? = rest.head?) :
    Cuts w rest' t := by
  cases h with
  | whole hd hds hrest => exact .whole hd hds fun c hc => hrest c (hsame ▸ hc)
  | pointed hd hds hfs hrest => exact .pointed hd hds hfs fun c hc => hrest c (hsame ▸ hc)
  | closed h => exact .closed h
  | unclosed h => exact absurd rfl hne
  | word hc hcs hrest => exact .word hc hcs fun c hc => hrest c (hsame ▸ hc)
  | equals => exact .equals
  | mark h hrest => exact .mark h fun hs => hsame ▸ hrest hs

end Cuts

/-- A word is the front of one that the next character does not go on with. -/
theorem extends_word {c : Char} {cs : List Char} (hc : c.isLower = true)
    (hcs : ∀ d ∈ cs, isWordChar d = true) (rest : List Char) :
    ∃ x rest' t, rest = x ++ rest' ∧ Cuts ((c :: cs) ++ x) rest' t ∧
      (x = [] → t = .ofWord (String.ofList (c :: cs))) := by
  obtain ⟨x, rest, rfl, hx, hrest⟩ := exists_front isWordChar rest
  refine ⟨x, rest, .ofWord (String.ofList (c :: (cs ++ x))), rfl, ?_, ?_⟩
  · exact .word hc (List.forall_mem_append.mpr ⟨hcs, hx⟩) hrest
  · rintro rfl
    rw [List.append_nil]

/-- Every lexeme is the front of one that the next character does not go on with. -/
theorem Lexeme.extends {w rest : List Char} {t : Token} (h : Lexeme w rest t) :
    ∃ x rest' t', rest = x ++ rest' ∧ Cuts (w ++ x) rest' t' ∧ (x = [] → t' = t) := by
  cases h with
  | @whole d ds _ _ hd hds hx =>
    obtain rfl := isNearest_ofParts_iff.mp hx
    obtain ⟨x, rest, rfl, hx, hrest⟩ := exists_front Char.isDigit rest
    have hall : ∀ c ∈ ds ++ x, c.isDigit = true := List.forall_mem_append.mpr ⟨hds, hx⟩
    -- After whole digits a dot goes on with the number, and the digits after it do so too.
    by_cases hpoint : rest.head? = some '.'
    · obtain ⟨more, rfl⟩ := List.head?_eq_some_iff.mp hpoint
      obtain ⟨fs, rest, rfl, hfs, hrest⟩ := exists_front Char.isDigit more
      refine ⟨x ++ '.' :: fs, rest, .ofDigits (d :: (ds ++ x)) fs, by simp, ?_, by simp⟩
      rw [List.cons_append, ← List.append_assoc]
      exact .pointed hd hall hfs hrest
    · refine ⟨x, rest, .ofDigits (d :: (ds ++ x)) [], rfl, .whole hd hall ?_, ?_⟩
      · exact fun c hc => ⟨hrest c hc, fun heq => hpoint (heq ▸ hc)⟩
      · rintro rfl
        rw [List.append_nil]
        rfl
  | @pointed d ds fs _ _ hd hds hfs hx =>
    obtain rfl := isNearest_ofParts_iff.mp hx
    obtain ⟨x, rest, rfl, hx, hrest⟩ := exists_front Char.isDigit rest
    refine ⟨x, rest, .ofDigits (d :: ds) (fs ++ x), rfl, ?_, ?_⟩
    · rw [List.cons_append, List.append_assoc, List.cons_append]
      exact .pointed hd hds (List.forall_mem_append.mpr ⟨hfs, hx⟩) hrest
    · rintro rfl
      rw [List.append_nil]
      rfl
  | closed h => exact ⟨[], rest, _, rfl, by simpa using .closed h, fun _ => rfl⟩
  | unclosed h => exact ⟨[], [], _, rfl, by simpa using .unclosed h, fun _ => rfl⟩
  | @keyword word s _ h =>
    obtain ⟨c, cs, hword, hc, hcs⟩ := keyword_letters h
    have hself : String.ofList (c :: cs) = word := by rw [← hword, String.ofList_toList]
    have hkeyword : Token.ofWord word = .symbol s := ofWord_keyword _ h
    rw [hword, ← hkeyword, ← hself]
    exact extends_word hc hcs rest
  | @name c cs _ hc hcs hfree =>
    have hname : Token.ofWord (String.ofList (c :: cs)) = .ident (String.ofList (c :: cs)) := by
      rcases ofWord_cases (String.ofList (c :: cs)) with ⟨s, hmem, -⟩ | ⟨-, heq⟩
      · exact absurd hmem (hfree s)
      · exact heq
    rw [← hname]
    exact extends_word hc (fun d hd => isWordChar_iff.mpr (hcs d hd)) rest
  | equals => exact ⟨[], rest, _, rfl, .equals, fun _ => rfl⟩
  | @mark c s _ h =>
    obtain ⟨hspelling, hlength⟩ := spelling_of_mark _ h
    dsimp only at hspelling hlength
    by_cases hequals : s = .assign ∧ rest.head? = some '='
    · obtain ⟨rfl, hhead⟩ := hequals
      obtain ⟨more, rfl⟩ := List.head?_eq_some_iff.mp hhead
      rw [← hspelling]
      exact ⟨['='], more, _, rfl, .equals, nofun⟩
    · refine ⟨[], rest, _, rfl, ?_, fun _ => rfl⟩
      rw [List.append_nil, ← hspelling]
      exact .mark hlength fun hs hhead => hequals ⟨hs, hhead⟩

theorem mem_marks_of_ofChar? {c : Char} {s : Symbol} (h : Symbol.ofChar? c = some s) :
    (c, s) ∈ marks := by
  unfold Symbol.ofChar? at h
  split at h <;> cases h <;> decide

/-- Where the lexer reads a token, some lexeme starts. -/
theorem exists_lexeme {c : Char} {cs rest : List Char} {t : Token}
    (h : lexeme? c cs = some (t, rest)) : ∃ w rest t, c :: cs = w ++ rest ∧ Lexeme w rest t := by
  unfold lexeme? at h
  split at h
  · rename_i hd
    exact ⟨[c], cs, _, rfl, .whole hd (List.forall_mem_nil _) (isNearest_ofParts_iff.mpr rfl)⟩
  split at h
  · rename_i hquote
    subst hquote
    obtain ⟨body, rest, rfl, hbody, hrest⟩ := exists_front (· ≠ '"') cs
    have hnone : '"' ∉ body := fun hmem => of_decide_eq_true (hbody '"' hmem) rfl
    cases rest with
    | nil => exact ⟨'"' :: body, [], _, rfl, .unclosed hnone⟩
    | cons q rest =>
      have hq : q = '"' := by simpa using hrest q rfl
      subst hq
      exact ⟨'"' :: (body ++ ['"']), rest, _, by simp, .closed hnone⟩
  split at h
  · rename_i hc
    obtain ⟨x, after, t, rfl, hcuts, -⟩ := extends_word hc (List.forall_mem_nil _) cs
    exact ⟨[c] ++ x, after, t, rfl, hcuts.lexeme⟩
  split at h
  · rename_i hassign
    subst hassign
    exact ⟨['='], cs, _, rfl, .mark (s := .assign) (by decide)⟩
  · obtain ⟨s, hs, -⟩ := Option.map_eq_some_iff.mp h
    exact ⟨[c], cs, _, rfl, .mark (mem_marks_of_ofChar? hs)⟩

theorem lexeme?_eq_some {c : Char} {cs rest : List Char} {t : Token} :
    lexeme? c cs = some (t, rest) ↔ ∃ w, c :: cs = w ++ rest ∧ Cuts w rest t := by
  constructor
  · intro h
    obtain ⟨w, after, t', hsplit, hlexeme⟩ := exists_lexeme h
    obtain ⟨x, rest', t'', rfl, hcuts, -⟩ := hlexeme.extends
    obtain ⟨d, ds, hw, hread⟩ := hcuts.read
    rw [← List.append_assoc, hw, List.cons_append] at hsplit
    obtain ⟨rfl, rfl⟩ := List.cons.inj hsplit
    rw [h] at hread
    cases hread
    exact ⟨w ++ x, hw ▸ rfl, hcuts⟩
  · rintro ⟨w, hsplit, hcuts⟩
    obtain ⟨d, ds, rfl, hread⟩ := hcuts.read
    obtain ⟨rfl, rfl⟩ := List.cons.inj hsplit
    exact hread

/-- At each place there is one such lexeme at most. -/
theorem Cuts.unique {w w' rest rest' : List Char} {t t' : Token} (h : Cuts w rest t)
    (h' : Cuts w' rest' t') (hsame : w ++ rest = w' ++ rest') : w = w' := by
  obtain ⟨c, cs, rfl, hread⟩ := h.read
  obtain ⟨d, ds, rfl, hread'⟩ := h'.read
  obtain ⟨rfl, hrest⟩ : c = d ∧ cs ++ rest = ds ++ rest' := List.cons.inj hsame
  rw [hrest, hread'] at hread
  cases hread
  exact List.append_cancel_right hsame

/-- The longest lexeme is the one that the next character does not go on with. -/
theorem longest_iff_cuts {w rest : List Char} {t : Token} : Longest w rest t ↔ Cuts w rest t := by
  constructor
  · rintro ⟨hlexeme, hlongest⟩
    obtain ⟨x, rest', t', rfl, hcuts, hsame⟩ := hlexeme.extends
    have hlength := hlongest (w ++ x) rest' t' (List.append_assoc ..) hcuts.lexeme
    have hx : x = [] := by
      rw [List.length_append] at hlength
      exact List.eq_nil_of_length_eq_zero (by omega)
    subst hx
    rwa [List.append_nil, hsame rfl] at hcuts
  · intro h
    refine ⟨h.lexeme, fun w' rest' t' hsame hlexeme => ?_⟩
    obtain ⟨x, rest'', t'', rfl, hcuts, -⟩ := hlexeme.extends
    rw [← hcuts.unique h (by rw [← hsame, List.append_assoc]), List.length_append]
    exact Nat.le_add_right _ _

theorem lexeme?_eq_none {c : Char} {cs : List Char} :
    lexeme? c cs = none ↔ ∀ w rest t, c :: cs = w ++ rest → ¬Lexeme w rest t := by
  constructor
  · intro hnone w rest t hsplit hlexeme
    obtain ⟨x, rest', t', rfl, hcuts, -⟩ := hlexeme.extends
    have hsome := lexeme?_eq_some.mpr ⟨w ++ x, by rw [hsplit, List.append_assoc], hcuts⟩
    rw [hnone] at hsome
    cases hsome
  · intro h
    cases hread : lexeme? c cs with
    | none => rfl
    | some found =>
      obtain ⟨w, rest, t, hsplit, hlexeme⟩ := exists_lexeme hread
      exact absurd hlexeme (h w rest t hsplit)

/-- Whether a lexeme starts is told by its first character. -/
theorem lexeme?_none_congr {c : Char} {cs : List Char} (h : lexeme? c cs = none)
    (cs' : List Char) : lexeme? c cs' = none := by
  unfold lexeme? at h ⊢
  split at h
  · cases h
  rename_i hdigit
  split at h
  · cases h
  rename_i hquote
  split at h
  · cases h
  rename_i hlower
  split at h
  · split at h <;> cases h
  rename_i hassign
  rw [if_neg hdigit, if_neg hquote, if_neg hlower, if_neg hassign]
  rwa [Option.map_eq_none_iff] at h ⊢

/-! ## Blanks and comments -/

/-- The blanks: space, tab, the two of a line end, and the space that does not break. -/
def blanks : List Char := [' ', '\t', '\r', '\n', '\u00a0']

theorem isBlank_iff {c : Char} : isBlank c = true ↔ c ∈ blanks := by
  simp [isBlank, blanks, or_assoc]

/-- The characters `u`, with `rest` after them, are blanks and comments. A comment stops before
the next line feed. -/
inductive Trivia : List Char → List Char → Prop
  | nil {rest : List Char} : Trivia [] rest
  | blank {c : Char} {u rest : List Char} (hc : c ∈ blanks) (h : Trivia u rest) :
      Trivia (c :: u) rest
  | comment {body u rest : List Char} (hbody : '\n' ∉ body)
      (hend : ∀ c, (u ++ rest).head? = some c → c = '\n') (h : Trivia u rest) :
      Trivia ('#' :: (body ++ u)) rest

theorem head?_append_congr {rest rest' : List Char} (h : rest'.head? = rest.head?)
    (w : List Char) : (w ++ rest').head? = (w ++ rest).head? := by
  rw [List.head?_append, List.head?_append, h]

namespace Trivia

variable {u rest rest' : List Char}

theorem congr (h : Trivia u rest) (hsame : rest'.head? = rest.head?) : Trivia u rest' := by
  induction h with
  | nil => exact .nil
  | blank hc _ ih => exact .blank hc (ih hsame)
  | comment hbody hend _ ih =>
    exact .comment hbody (fun c hc => hend c (head?_append_congr hsame _ ▸ hc)) (ih hsame)

theorem skip (h : Trivia u rest) : skipBlanks (u ++ rest) = skipBlanks rest := by
  induction h with
  | nil => rfl
  | blank hc _ ih => rw [List.cons_append, skipBlanks, if_pos (isBlank_iff.mpr hc), ih]
  | @comment body u rest hbody hend _ ih =>
    have hend' : ∀ c, (u ++ rest).head? = some c → decide (c ≠ '\n') = false :=
      fun c hc => decide_eq_false (not_not.mpr (hend c hc))
    rw [List.cons_append, skipBlanks, if_neg (by decide), if_pos rfl, List.append_assoc,
      (span_front (forall_ne hbody) hend').2, ih]

end Trivia

theorem exists_trivia (cs : List Char) :
    ∃ u, cs = u ++ skipBlanks cs ∧ Trivia u (skipBlanks cs) := by
  fun_induction skipBlanks cs with
  | case1 => exact ⟨[], rfl, .nil⟩
  | case2 c cs hc ih =>
    obtain ⟨u, hsplit, htrivia⟩ := ih
    exact ⟨c :: u, congrArg (c :: ·) hsplit, .blank (isBlank_iff.mp hc) htrivia⟩
  | case3 cs _ ih =>
    obtain ⟨u, hsplit, htrivia⟩ := ih
    refine ⟨'#' :: (cs.takeWhile (· ≠ '\n') ++ u), ?_, .comment ?_ ?_ htrivia⟩
    · rw [List.cons_append, List.append_assoc, ← hsplit, List.takeWhile_append_dropWhile]
    · intro hmem
      simpa using List.mem_takeWhile_imp hmem
    · intro c hc
      rw [← hsplit] at hc
      have hstop := List.head?_dropWhile_not (· ≠ '\n') cs
      rw [hc] at hstop
      simpa using hstop
  | case4 c cs _ _ => exact ⟨[], rfl, .nil⟩

theorem not_blank_of_skipBlanks {cs rest : List Char} {c : Char} (h : skipBlanks cs = c :: rest) :
    isBlank c = false ∧ c ≠ '#' := by
  fun_induction skipBlanks cs with
  | case1 => cases h
  | case2 _ _ _ ih => exact ih h
  | case3 _ _ ih => exact ih h
  | case4 d cs hblank hhash =>
    cases h
    exact ⟨Bool.eq_false_iff.mpr hblank, hhash⟩

/-! ## Whole texts -/

/-- The text up to `stop` is blanks, comments and lexemes in turn, each lexeme the longest one
that starts at its place, and these stand for the tokens. -/
inductive Splits : List Char → List Token → List Char → Prop
  | stop {u rest : List Char} (hu : Trivia u rest) : Splits (u ++ rest) [] rest
  | lexeme {u w rest stop : List Char} {t : Token} {ts : List Token} (hu : Trivia u (w ++ rest))
      (hw : Longest w rest t) (h : Splits rest ts stop) :
      Splits (u ++ (w ++ rest)) (t :: ts) stop

/-- The character, with `rest` after it, starts no lexeme, blank or comment. -/
structure StartsNothing (c : Char) (rest : List Char) : Prop where
  blank : c ∉ blanks
  hash : c ≠ '#'
  lexeme : ∀ w after t, c :: rest = w ++ after → ¬Lexeme w after t

namespace StartsNothing

variable {c : Char} {rest : List Char}

theorem congr (h : StartsNothing c rest) (rest' : List Char) : StartsNothing c rest' :=
  ⟨h.blank, h.hash, lexeme?_eq_none.mp (lexeme?_none_congr (lexeme?_eq_none.mpr h.lexeme) rest')⟩

theorem scan (h : StartsNothing c rest) : scan (c :: rest) = .error (c, rest) := by
  refine scan_of_none ?_ (lexeme?_eq_none.mpr h.lexeme)
  rw [skipBlanks, if_neg (mt isBlank_iff.mp h.blank), if_neg h.hash]

end StartsNothing

namespace Splits

variable {cs stop : List Char} {ts : List Token}

/-- The lexer goes on from where the reading stops. -/
theorem scan (h : Splits cs ts stop) : scan cs = (scan stop).map (ts ++ ·) := by
  induction h with
  | @stop u rest hu =>
    rw [scan_skipBlanks hu.skip]
    cases Language.scan rest <;> rfl
  | @lexeme u w rest stop t ts hu hw _ ih =>
    obtain ⟨c, cs, rfl, hread⟩ := (longest_iff_cuts.mp hw).read
    obtain ⟨hblank, hhash⟩ := lexeme?_not_blank hread
    have hskip : skipBlanks (u ++ (c :: cs ++ rest)) = c :: (cs ++ rest) := by
      rw [hu.skip, List.cons_append, skipBlanks, if_neg (Bool.eq_false_iff.mp hblank),
        if_neg hhash]
    rw [scan_of_some hskip hread, ih]
    cases Language.scan stop <;> rfl

/-- What was read stands before the place of the stop, and what stands after the first character
there does not matter to it. -/
theorem split (h : Splits cs ts stop) :
    ∃ before, cs = before ++ stop ∧
      ∀ stop', stop ≠ [] → stop'.head? = stop.head? → Splits (before ++ stop') ts stop' := by
  induction h with
  | stop hu => exact ⟨_, rfl, fun stop' _ hsame => .stop (hu.congr hsame)⟩
  | @lexeme u w rest stop t ts hu hw _ ih =>
    obtain ⟨before, rfl, hbefore⟩ := ih
    refine ⟨u ++ (w ++ before), by simp only [List.append_assoc], fun stop' hne hsame => ?_⟩
    have hhead := head?_append_congr hsame before
    have hu' := hu.congr (head?_append_congr hhead w)
    have hne' : before ++ stop ≠ [] := fun hnil => hne (List.append_eq_nil_iff.mp hnil).2
    have hw' := longest_iff_cuts.mpr ((longest_iff_cuts.mp hw).congr hne' hhead)
    rw [List.append_assoc, List.append_assoc]
    exact .lexeme hu' hw' (hbefore stop' hne hsame)

end Splits

theorem splits_of_scan (cs : List Char) :
    (∀ ts, scan cs = .ok ts → Splits cs ts []) ∧
      ∀ c rest, scan cs = .error (c, rest) →
        (∃ ts, Splits cs ts (c :: rest)) ∧ StartsNothing c rest := by
  -- On the length of the text: a token takes at least one character.
  induction hn : cs.length using Nat.strong_induction_on generalizing cs with
  | _ n ih =>
    obtain ⟨u, hsplit, hu⟩ := exists_trivia cs
    cases hskip : skipBlanks cs with
    | nil =>
      rw [hskip] at hsplit hu
      rw [scan_of_end hskip]
      refine ⟨?_, nofun⟩
      rintro ts ⟨⟩
      rw [hsplit]
      exact .stop hu
    | cons c rest =>
      rw [hskip] at hsplit hu
      cases hread : lexeme? c rest with
      | none =>
        rw [scan_of_none hskip hread]
        refine ⟨nofun, ?_⟩
        rintro d after ⟨⟩
        obtain ⟨hblank, hhash⟩ := not_blank_of_skipBlanks hskip
        have hnone : c ∉ blanks := mt isBlank_iff.mpr (Bool.eq_false_iff.mp hblank)
        exact ⟨⟨[], hsplit ▸ .stop hu⟩, hnone, hhash, lexeme?_eq_none.mp hread⟩
      | some found =>
        obtain ⟨t, rest'⟩ := found
        obtain ⟨w, hw, hcuts⟩ := lexeme?_eq_some.mp hread
        rw [hw] at hsplit hu
        have hlonger : rest'.length < n := by
          have hle := length_lexeme?_le hread
          have hskip' := length_skipBlanks_le cs
          rw [hskip, List.length_cons] at hskip'
          omega
        obtain ⟨hok, herror⟩ := ih rest'.length hlonger rest' rfl
        rw [scan_of_some hskip hread, hsplit]
        have hlongest := longest_iff_cuts.mpr hcuts
        cases hscan : scan rest' with
        | ok ts =>
          refine ⟨?_, nofun⟩
          rintro ts ⟨⟩
          exact .lexeme hu hlongest (hok _ hscan)
        | error found =>
          refine ⟨nofun, ?_⟩
          rintro d after ⟨⟩
          obtain ⟨⟨ts, hreads⟩, hnothing⟩ := herror _ _ hscan
          exact ⟨⟨t :: ts, .lexeme hu hlongest hreads⟩, hnothing⟩

/-! ## Places -/

/-- The place of the character after `read`: how many characters and line feeds stand before it,
and how many characters on its own line. -/
structure Position.Marks (p : Position) (read : List Char) : Prop where
  offset : p.offset = read.length
  line : p.line = read.count '\n'
  column : ∃ earlier current, read = earlier ++ current ∧ '\n' ∉ current ∧
    (earlier = [] ∨ earlier.getLast? = some '\n') ∧ p.column = current.length

theorem Position.column_after {read earlier current : List Char}
    (hsplit : read = earlier ++ current) (hcurrent : '\n' ∉ current)
    (hearlier : earlier = [] ∨ earlier.getLast? = some '\n') :
    (after read).column = current.length := by
  have hinside := forall_ne (mt List.mem_reverse.mp hcurrent)
  have hstop : ∀ c, earlier.reverse.head? = some c → decide (c ≠ '\n') = false := by
    intro c hc
    rw [List.head?_reverse] at hc
    rcases hearlier with rfl | hlast
    · cases hc
    · rw [hlast] at hc
      cases hc
      rfl
  unfold after
  rw [hsplit, List.reverse_append, (span_front hinside hstop).1, List.length_reverse]

theorem Position.marks_iff {p : Position} {read : List Char} : p.Marks read ↔ p = .after read := by
  constructor
  · rintro ⟨hoffset, hline, earlier, current, hsplit, hcurrent, hearlier, hcolumn⟩
    rw [← column_after hsplit hcurrent hearlier] at hcolumn
    obtain ⟨line, column, offset⟩ := p
    cases hoffset
    cases hline
    cases hcolumn
    rfl
  · rintro rfl
    obtain ⟨current, earlier, hsplit, hcurrent, hearlier⟩ := exists_front (· ≠ '\n') read.reverse
    have hread : read = earlier.reverse ++ current.reverse := by
      rw [← List.reverse_append, ← hsplit, List.reverse_reverse]
    have hnone : '\n' ∉ current.reverse :=
      fun hmem => by simpa using hcurrent '\n' (List.mem_reverse.mp hmem)
    have hends : earlier.reverse = [] ∨ earlier.reverse.getLast? = some '\n' := by
      cases earlier with
      | nil => exact Or.inl rfl
      | cons c earlier =>
        have hc : c = '\n' := by simpa using hearlier c rfl
        exact Or.inr (by rw [List.getLast?_reverse, hc]; rfl)
    exact ⟨rfl, rfl, _, _, hread, hnone, hends, column_after hread hnone hends⟩

/-! ## The lexer -/

theorem tokenize_eq_ok {source : String} {ts : List Token} :
    tokenize source = .ok ts ↔ Splits source.toList ts [] := by
  rw [← spells_iff]
  constructor
  · exact (splits_of_scan source.toList).1 ts
  · intro h
    unfold Spells
    rw [h.scan, scan_of_end (by rw [skipBlanks])]
    exact congrArg Except.ok (List.append_nil ts)

theorem tokenize_of_scan_error {source : String} {before rest : List Char} {c : Char}
    (hsource : source.toList = before ++ c :: rest)
    (hscan : scan source.toList = .error (c, rest)) :
    tokenize source = .error ⟨c, .after before⟩ := by
  have hlength : source.toList.length - rest.length - 1 = before.length := by
    rw [hsource, List.length_append, List.length_cons]
    omega
  unfold tokenize
  rw [hscan]
  simp only
  rw [hlength, hsource, List.take_left]

theorem tokenize_eq_error {source : String} {e : LexError} :
    tokenize source = .error e ↔ ∃ before rest, source.toList = before ++ e.character :: rest ∧
      (∃ ts, Splits source.toList ts (e.character :: rest)) ∧ StartsNothing e.character rest ∧
        e.position.Marks before := by
  constructor
  · intro h
    cases hscan : scan source.toList with
    | ok ts =>
      rw [tokenize, hscan] at h
      cases h
    | error stop =>
      obtain ⟨c, rest⟩ := stop
      obtain ⟨⟨ts, hreads⟩, hnothing⟩ := (splits_of_scan source.toList).2 c rest hscan
      obtain ⟨before, hsource, -⟩ := hreads.split
      rw [tokenize_of_scan_error hsource hscan] at h
      cases h
      exact ⟨before, rest, hsource, ⟨ts, hreads⟩, hnothing, Position.marks_iff.mpr rfl⟩
  · rintro ⟨before, rest, hsource, ⟨ts, hreads⟩, hnothing, hmarks⟩
    have hscan : scan source.toList = .error (e.character, rest) := by
      rw [hreads.scan, hnothing.scan]
      rfl
    rw [tokenize_of_scan_error hsource hscan, ← Position.marks_iff.mp hmarks]

/-- What stands after the character of an error does not matter. -/
theorem tokenize_error_congr {source : String} {e : LexError} (h : tokenize source = .error e)
    (more : List Char) :
    tokenize (String.ofList (source.toList.take (e.position.offset + 1) ++ more)) = .error e := by
  obtain ⟨before, rest, hsource, ⟨ts, hreads⟩, hnothing, hmarks⟩ := tokenize_eq_error.mp h
  have htake : source.toList.take (e.position.offset + 1) = before ++ [e.character] := by
    rw [hsource, hmarks.offset, List.take_length_add_append]
    rfl
  obtain ⟨before', hsource', hmore⟩ := hreads.split
  obtain rfl := List.append_cancel_right (hsource.symm.trans hsource')
  refine tokenize_eq_error.mpr ⟨before, more, ?_, ⟨ts, ?_⟩, hnothing.congr more, hmarks⟩
  · rw [String.toList_ofList, htake, List.append_assoc]
    rfl
  · rw [String.toList_ofList, htake, List.append_assoc]
    exact hmore (e.character :: more) (List.cons_ne_nil _ _) rfl

/-- The lexer gives the tokens of a text just when the text is blanks, comments and longest
lexemes in turn. Else it gives the first character that starts nothing, with its place, and does
so whatever stands after it. -/
theorem lexer_is_exact (source : String) :
    (∀ ts, tokenize source = .ok ts ↔ Splits source.toList ts []) ∧
      (∀ e, tokenize source = .error e ↔
        ∃ before rest, source.toList = before ++ e.character :: rest ∧
          (∃ ts, Splits source.toList ts (e.character :: rest)) ∧
            StartsNothing e.character rest ∧ e.position.Marks before) ∧
      ∀ e, tokenize source = .error e → ∀ more,
        tokenize (String.ofList (source.toList.take (e.position.offset + 1) ++ more)) =
          .error e :=
  ⟨fun _ => tokenize_eq_ok, fun _ => tokenize_eq_error, fun _ h => tokenize_error_congr h⟩

/-- A hash and a stray character stand in a comment and in a string, where they do no harm, and
another one stands on the second line. -/
def strayText : String := "let xs = 12.5.6 # not @ here\n  \"a # b\" @ \"c"

theorem strayText_fails_on_its_second_line :
    tokenize strayText = .error ⟨'@', ⟨1, 10, 39⟩⟩ ∧
      (∃ rest ts, Splits strayText.toList ts ('@' :: rest)) ∧
      ∀ more, tokenize (String.ofList (strayText.toList.take (39 + 1) ++ more)) =
        .error ⟨'@', ⟨1, 10, 39⟩⟩ := by
  have herror : tokenize strayText = .error ⟨'@', ⟨1, 10, 39⟩⟩ := by decide +kernel
  obtain ⟨-, hreads, hmore⟩ := lexer_is_exact strayText
  obtain ⟨before, rest, -, ⟨ts, hts⟩, -⟩ := (hreads _).mp herror
  have hcut := hmore _ herror
  dsimp only at hcut
  exact ⟨herror, ⟨rest, ts, hts⟩, hcut⟩

end Patchbay.Language
