-- From text to tokens. A text is blanks and tokens in turn, each token the
-- longest that starts at its place. The first character that starts no
-- token is an error, with its line and column.
import Patchbay.Language.Token
import Patchbay.Number.Literal

namespace Patchbay.Language

open Patchbay.Number

/-! ## Places in a text -/

/-- A place, counted from zero. Only a line feed starts a line. -/
structure Position where
  line : Nat
  column : Nat
  offset : Nat
  deriving DecidableEq, Repr

/-- The place right after the characters that were read. -/
def Position.after (read : List Char) : Position where
  line := read.count '\n'
  column := (read.reverse.takeWhile (· ≠ '\n')).length
  offset := read.length

/-- A character that starts no token. -/
structure LexError where
  character : Char
  position : Position
  deriving DecidableEq, Repr

def LexError.message (e : LexError) : String :=
  "Unrecognized token '" ++ e.character.toString ++ "' at " ++ toString e.position.line ++ ":" ++
    toString e.position.column

/-! ## Blanks -/

def isBlank (c : Char) : Bool := c = ' ' || c = '\t' || c = '\r' || c = '\n' || c = '\u00a0'

theorem length_dropWhile_le (p : Char → Bool) (cs : List Char) :
    (cs.dropWhile p).length ≤ cs.length := (List.dropWhile_sublist p).length_le

/-- The text after the blanks and comments at the front. A comment runs from
a hash to the end of its line. -/
def skipBlanks : List Char → List Char
  | [] => []
  | c :: cs =>
    if isBlank c then skipBlanks cs
    else if c = '#' then skipBlanks (cs.dropWhile (· ≠ '\n'))
    else c :: cs
  termination_by cs => cs.length
  decreasing_by
    · simp
    · simp only [List.length_cons]
      exact Nat.lt_succ_of_le (length_dropWhile_le _ cs)

theorem length_skipBlanks_le (cs : List Char) : (skipBlanks cs).length ≤ cs.length := by
  fun_induction skipBlanks cs with
  | case1 => simp
  | case2 c cs _ ih => simp only [List.length_cons]; omega
  | case3 cs _ ih =>
    have := length_dropWhile_le (· ≠ '\n') cs
    simp only [List.length_cons]
    omega
  | case4 => simp

/-! ## Tokens -/

/-- The characters that go on with a word. -/
def isWordChar (c : Char) : Bool := c.isAlphanum || c = '_'

/-- The keyword or the name that a word is. -/
def Token.ofWord (word : String) : Token :=
  match Symbol.ofWord? word with
  | some s => .symbol s
  | none => .ident word

/-- The token at the front of the text `c :: cs`, and the text after it. A
string that is not closed runs to the end. -/
def lexeme? (c : Char) (cs : List Char) : Option (Token × List Char) :=
  if c.isDigit then
    let (whole, fraction, rest) := splitPointed (c :: cs)
    some (.number ((Decimal.ofParts whole fraction).toFloat false), rest)
  else if c = '"' then
    some (.text (String.ofList (cs.takeWhile (· ≠ '"'))), (cs.dropWhile (· ≠ '"')).drop 1)
  else if c.isLower then
    some (.ofWord (String.ofList (c :: cs.takeWhile isWordChar)), cs.dropWhile isWordChar)
  else if c = '=' then
    match cs with
    | '=' :: rest => some (.symbol .equals, rest)
    | _ => some (.symbol .assign, cs)
  else (Symbol.ofChar? c).map fun s => (.symbol s, cs)

theorem length_splitPointed_le {c : Char} (cs : List Char) (h : c.isDigit = true) :
    (splitPointed (c :: cs)).2.2.length ≤ cs.length := by
  have hw := length_dropWhile_le Char.isDigit cs
  unfold splitPointed splitDigits
  simp only [List.dropWhile_cons, h, if_true]
  split
  · rename_i rest heq
    have hr : cs.dropWhile Char.isDigit = '.' :: rest := (Prod.mk.inj heq).2
    have := length_dropWhile_le Char.isDigit rest
    rw [hr] at hw
    simp only [List.length_cons] at hw
    show (rest.dropWhile Char.isDigit).length ≤ cs.length
    omega
  · rename_i rest _ heq
    have hr : cs.dropWhile Char.isDigit = rest := (Prod.mk.inj heq).2
    rw [← hr]
    exact hw

/-- A token takes at least its first character. -/
theorem length_lexeme?_le {c : Char} {cs rest : List Char} {t : Token}
    (h : lexeme? c cs = some (t, rest)) : rest.length ≤ cs.length := by
  unfold lexeme? at h
  split at h
  · rename_i hd
    have hl := length_splitPointed_le cs hd
    simp only [Option.some.injEq, Prod.mk.injEq] at h
    rw [← h.2]
    exact hl
  · split at h
    · simp only [Option.some.injEq, Prod.mk.injEq] at h
      rw [← h.2, List.length_drop]
      have := length_dropWhile_le (· ≠ '"') cs
      omega
    · split at h
      · simp only [Option.some.injEq, Prod.mk.injEq] at h
        rw [← h.2]
        exact length_dropWhile_le _ cs
      · split at h
        · split at h
          · simp only [Option.some.injEq, Prod.mk.injEq] at h
            rw [← h.2]
            simp
          · simp only [Option.some.injEq, Prod.mk.injEq] at h
            exact h.2 ▸ Nat.le_refl _
        · simp only [Option.map_eq_some_iff, Prod.mk.injEq] at h
          obtain ⟨_, _, _, rfl⟩ := h
          exact Nat.le_refl _

/-- All tokens of a text. Where none starts, the character there and the text
after it. -/
def scan (cs : List Char) : Except (Char × List Char) (List Token) :=
  match _ : skipBlanks cs with
  | [] => .ok []
  | c :: rest =>
    match _ : lexeme? c rest with
    | none => .error (c, rest)
    | some (t, rest') =>
      match scan rest' with
      | .ok ts => .ok (t :: ts)
      | .error stop => .error stop
  termination_by cs.length
  decreasing_by
    have h1 := length_skipBlanks_le cs
    have h2 := length_lexeme?_le ‹lexeme? c rest = some (t, rest')›
    rw [‹skipBlanks cs = c :: rest›] at h1
    simp only [List.length_cons] at h1
    omega

/-- The tokens of a source text. -/
def tokenize (source : String) : Except LexError (List Token) :=
  match scan source.toList with
  | .ok ts => .ok ts
  | .error (c, rest) =>
    .error ⟨c, .after (source.toList.take (source.toList.length - rest.length - 1))⟩

end Patchbay.Language
