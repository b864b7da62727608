-- Splitting a text. The parts stand between the occurrences of a mark, of which
-- the first one counts and then the first one after it. Joined by the mark the
-- parts are the text again, and no other list of parts is cut like that.
import Patchbay.Proofs.Slices
import Patchbay.Text.Split

namespace Patchbay

namespace Text

variable {mark cs before after : List Char} {parts : List (List Char)} {j k : Nat}

/-! ## The first occurrence -/

/-- The mark occurs at place `k` and at no place before it. -/
structure FirstAt (mark cs : List Char) (k : Nat) : Prop where
  here : mark <+: cs.drop k
  none_before : ∀ j < k, ¬mark <+: cs.drop j

namespace FirstAt

theorem unique (h : FirstAt mark cs j) (h' : FirstAt mark cs k) : j = k := by
  rcases Nat.lt_trichotomy j k with hlt | heq | hlt
  · exact absurd h.here (h'.none_before j hlt)
  · exact heq
  · exact absurd h'.here (h.none_before k hlt)

theorem zero_iff : FirstAt mark cs 0 ↔ mark <+: cs :=
  ⟨fun h => h.here, fun h => ⟨h, fun j hj => absurd hj (Nat.not_lt_zero j)⟩⟩

theorem succ_iff {c : Char} :
    FirstAt mark (c :: cs) (k + 1) ↔ ¬mark <+: c :: cs ∧ FirstAt mark cs k := by
  constructor
  · intro h
    exact ⟨h.none_before 0 (Nat.succ_pos k), h.here,
      fun j hj => h.none_before (j + 1) (Nat.succ_lt_succ hj)⟩
  · rintro ⟨hstart, h⟩
    refine ⟨h.here, fun j hj => ?_⟩
    cases j with
    | zero => exact hstart
    | succ j => exact h.none_before j (Nat.lt_of_succ_lt_succ hj)

end FirstAt

/-- A cut is made at the first occurrence. -/
theorem cut?_eq_some (hmark : mark ≠ []) : cut? mark cs = some (before, after) ↔
    cs = before ++ mark ++ after ∧ FirstAt mark cs before.length := by
  induction cs generalizing before with
  | nil => simp [cut?, hmark]
  | cons c cs ih =>
    by_cases hp : mark <+: c :: cs
    · obtain ⟨rest, hrest⟩ := hp
      have hstart : FirstAt mark (c :: cs) 0 := FirstAt.zero_iff.mpr ⟨rest, hrest⟩
      have hcut : cut? mark (c :: cs) = some ([], rest) := by
        simp [cut?, ← hrest]
      rw [hcut]
      constructor
      · rintro ⟨⟩
        exact ⟨hrest.symm, hstart⟩
      · rintro ⟨hcs, hfirst⟩
        obtain rfl := List.length_eq_zero_iff.mp (hfirst.unique hstart)
        rw [List.nil_append, ← hrest] at hcs
        rw [List.append_cancel_left hcs]
    · have hcut : cut? mark (c :: cs) = (cut? mark cs).map fun found =>
          (c :: found.1, found.2) := by
        simp [cut?, hp]
      rw [hcut]
      cases before with
      | nil => simp [FirstAt.zero_iff, hp]
      | cons b before =>
        constructor
        · intro h
          obtain ⟨found, hfound, heq⟩ := Option.map_eq_some_iff.mp h
          cases heq
          obtain ⟨hcs, hfirst⟩ := ih.mp hfound
          exact ⟨congrArg (c :: ·) hcs, FirstAt.succ_iff.mpr ⟨hp, hfirst⟩⟩
        · rintro ⟨hcs, hfirst⟩
          obtain ⟨rfl, htail⟩ := List.cons.inj hcs
          rw [ih.mpr ⟨htail, (FirstAt.succ_iff.mp hfirst).2⟩]
          rfl

theorem cut?_eq_none : cut? mark cs = none ↔ ¬mark <:+: cs := by
  induction cs with
  | nil => simp [cut?]
  | cons c cs ih =>
    by_cases hp : mark <+: c :: cs
    · simp [cut?, hp, List.infix_cons_iff]
    · simp [cut?, hp, List.infix_cons_iff, ih]

/-! ## All parts -/

theorem splitOn_of_none (hmark : mark ≠ []) (h : cut? mark cs = none) :
    splitOn mark cs = [cs] := by
  rw [splitOn, dif_neg hmark]
  split
  · rfl
  · rename_i heq
    rw [h] at heq
    cases heq

theorem splitOn_of_some (hmark : mark ≠ []) (h : cut? mark cs = some (before, after)) :
    splitOn mark cs = before :: splitOn mark after := by
  rw [splitOn, dif_neg hmark]
  split
  · rename_i heq
    rw [h] at heq
    cases heq
  · rename_i heq
    rw [h] at heq
    cases heq
    rfl

/-- Joined by the mark the parts are the text. After each part but the last the mark occurs for
the first time in what is left of the text, and in the last part it does not occur. -/
structure IsSplit (mark cs : List Char) (parts : List (List Char)) : Prop where
  ne_nil : parts ≠ []
  joined : mark.intercalate parts = cs
  first : ∀ front x rest, parts = front ++ x :: rest → rest ≠ [] →
    FirstAt mark (x ++ mark ++ mark.intercalate rest) x.length
  last : ∀ front x, parts = front ++ [x] → ¬mark <:+: x

namespace IsSplit

theorem single_iff {x : List Char} : IsSplit mark cs [x] ↔ x = cs ∧ ¬mark <:+: x := by
  constructor
  · intro h
    exact ⟨by simpa using h.joined, h.last [] x rfl⟩
  · rintro ⟨rfl, hx⟩
    refine ⟨List.cons_ne_nil _ _, by simp, ?_, ?_⟩
    · intro front y rest heq hrest
      have hlength := congrArg List.length heq
      have := List.length_pos_iff.mpr hrest
      simp at hlength
      omega
    · intro front y heq
      cases front with
      | nil =>
        cases heq
        exact hx
      | cons z front => simp at heq

/-- The first part, the mark, and what the other parts are the parts of. -/
theorem cons_iff {x : List Char} (hparts : parts ≠ []) : IsSplit mark cs (x :: parts) ↔
    ∃ after, cs = x ++ mark ++ after ∧ FirstAt mark cs x.length ∧ IsSplit mark after parts := by
  have hjoined : mark.intercalate (x :: parts) = x ++ mark ++ mark.intercalate parts := by
    simp [List.intercalate_cons_of_ne_nil hparts]
  constructor
  · intro h
    have hcs := h.joined.symm.trans hjoined
    refine ⟨mark.intercalate parts, hcs, hcs ▸ h.first [] x parts rfl hparts, hparts, rfl, ?_, ?_⟩
    · intro front y rest heq
      exact h.first (x :: front) y rest (congrArg (x :: ·) heq)
    · intro front y heq
      exact h.last (x :: front) y (congrArg (x :: ·) heq)
  · rintro ⟨after, hcs, hfirst, h⟩
    have hafter := h.joined
    subst hafter
    refine ⟨List.cons_ne_nil _ _, hjoined.trans hcs.symm, ?_, ?_⟩
    · intro front y rest heq hrest
      cases front with
      | nil =>
        cases heq
        exact hcs ▸ hfirst
      | cons z front => exact h.first front y rest (List.cons.inj heq).2 hrest
    · intro front y heq
      cases front with
      | nil => exact absurd (List.cons.inj heq).2 hparts
      | cons z front => exact h.last front y (List.cons.inj heq).2

end IsSplit

theorem splitOn_ne_nil (mark cs : List Char) : splitOn mark cs ≠ [] := by
  rw [splitOn]
  split
  · exact List.cons_ne_nil _ _
  · split <;> exact List.cons_ne_nil _ _

theorem splitOn_isSplit (hmark : mark ≠ []) (cs : List Char) :
    IsSplit mark cs (splitOn mark cs) := by
  fun_induction splitOn mark cs with
  | case1 cs h => exact absurd h hmark
  | case2 cs _ hcut => exact IsSplit.single_iff.mpr ⟨rfl, cut?_eq_none.mp hcut⟩
  | case3 cs _ before after hcut ih =>
    obtain ⟨hcs, hfirst⟩ := (cut?_eq_some hmark).mp hcut
    exact (IsSplit.cons_iff (splitOn_ne_nil mark after)).mpr ⟨after, hcs, hfirst, ih⟩

/-- No other list of parts is cut at the first occurrences. -/
theorem isSplit_iff (hmark : mark ≠ []) : IsSplit mark cs parts ↔ parts = splitOn mark cs := by
  constructor
  · intro h
    induction parts generalizing cs with
    | nil => exact absurd rfl h.ne_nil
    | cons x parts ih =>
      by_cases hparts : parts = []
      · subst hparts
        obtain ⟨rfl, hlast⟩ := IsSplit.single_iff.mp h
        rw [splitOn_of_none hmark (cut?_eq_none.mpr hlast)]
      · obtain ⟨after, hcs, hfirst, hrest⟩ := (IsSplit.cons_iff hparts).mp h
        rw [splitOn_of_some hmark ((cut?_eq_some hmark).mpr ⟨hcs, hfirst⟩), ← ih hrest]
  · rintro rfl
    exact splitOn_isSplit hmark cs

end Text

namespace Language

/-- The parts that `split` gives, as texts. -/
def splitTexts (mark text : String) : List String :=
  if mark = "" then text.toList.map Char.toString
  else (Text.splitOn mark.toList text.toList).map String.ofList

theorem split_on (mark text : String) (depth : Nat) (caller : ScopeId) (st : Store) :
    Builtin.split.on [.text mark, .text text] (depth + 1) caller st =
      .done (.list ((splitTexts mark text).map Value.text)) st := by
  have hparts : Builtin.parts mark text = (splitTexts mark text).map Value.text := by
    unfold Builtin.parts splitTexts
    split <;> simp
  rw [← hparts]
  rfl

theorem splitTexts_iff {mark text : String} (hmark : mark ≠ "") (parts : List String) :
    Text.IsSplit mark.toList text.toList (parts.map String.toList) ↔
      parts = splitTexts mark text := by
  have hne : mark.toList ≠ [] := by simpa using hmark
  rw [Text.isSplit_iff hne, splitTexts, if_neg hmark]
  constructor
  · intro h
    simp [← h, Function.comp_def]
  · rintro rfl
    simp [Function.comp_def]

/-- The parts that `split` gives for a mark of one character or more are cut at its first
occurrences, one after the other and without overlaps, and no other list of texts is. Without a
mark the parts are the characters. -/
theorem split_cuts_at_first_occurrences (mark text : String) (depth : Nat) (caller : ScopeId)
    (st : Store) : ∃ parts : List String,
      Builtin.split.on [.text mark, .text text] (depth + 1) caller st =
        .done (.list (parts.map Value.text)) st ∧
      (mark ≠ "" → ∀ others : List String,
        Text.IsSplit mark.toList text.toList (others.map String.toList) ↔ others = parts) ∧
      (mark = "" → parts = text.toList.map Char.toString) :=
  ⟨splitTexts mark text, split_on mark text depth caller st, splitTexts_iff,
    fun hempty => if_pos hempty⟩

/-- The second occurrence overlaps the first one, so it does not count. -/
theorem overlapping_marks_split_once :
    Builtin.split.on [.text "aa", .text "éaaab"] 1 0 .empty =
        .done (.list [.text "é", .text "ab"]) .empty ∧
      ∀ others : List String,
        Text.IsSplit ['a', 'a'] ['é', 'a', 'a', 'a', 'b'] (others.map String.toList) ↔
          others = ["é", "ab"] := by
  have htexts : splitTexts "aa" "éaaab" = ["é", "ab"] := by decide +kernel
  have hmark : "aa" ≠ "" := by decide
  obtain ⟨parts, hsplit, hunique, -⟩ :=
    split_cuts_at_first_occurrences "aa" "éaaab" 0 0 .empty
  obtain rfl : ["é", "ab"] = parts :=
    (hunique hmark _).mp ((splitTexts_iff hmark _).mpr htexts.symm)
  exact ⟨hsplit, hunique hmark⟩

end Language

end Patchbay
