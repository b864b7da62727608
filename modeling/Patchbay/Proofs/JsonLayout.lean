-- The layout of a document: its parts in a row, with white space between the marks.
-- The compact text and the pretty one differ in that white space only.
import Patchbay.Json.Reader
import Patchbay.Json.Writer

namespace Patchbay.Json

variable {gap last : List Char}

/-! ## White space -/

/-- White space alone. -/
def Space (cs : List Char) : Prop := ∀ c ∈ cs, Reader.isSpace c = true

theorem Space.nil : Space [] := by simp [Space]

theorem Space.append (hgap : Space gap) (hlast : Space last) : Space (gap ++ last) := by
  intro c hc
  rcases List.mem_append.mp hc with hc | hc
  · exact hgap c hc
  · exact hlast c hc

/-! ## Parts in a row -/

/-- Parts with a comma and the gap before each one. -/
def further (gap : List Char) (parts : List (List Char)) : List Char :=
  parts.flatMap fun part => ',' :: (gap ++ part)

/-- The parts in a row, with commas between them. -/
def row (gap : List Char) : List (List Char) → List Char
  | [] => []
  | part :: parts => part ++ further gap parts

/-- A text in brackets, with its parts in a row. -/
structure Bracketed (start close : Char) (parts : List (List Char)) (cs : List Char) : Prop where
  exists_gaps : ∃ gap last, Space gap ∧ Space last ∧
    cs = start :: (gap ++ row gap parts ++ last ++ [close])

theorem length_le_further (gap : List Char) (parts : List (List Char)) :
    parts.length ≤ (further gap parts).length := by
  induction parts with
  | nil => simp [further]
  | cons part parts ih =>
    unfold further at *
    simp only [List.flatMap_cons, List.length_append, List.length_cons]
    omega

theorem length_le_row (gap : List Char) (parts : List (List Char)) :
    parts.length ≤ (row gap parts).length + 1 := by
  cases parts with
  | nil => simp
  | cons part parts =>
    have hfurther := length_le_further gap parts
    simp only [row, List.length_append, List.length_cons]
    omega

/-- A key in quotes, and the value after the colon and a gap. -/
def member (colon : List Char) (key : String) (value : List Char) : List Char :=
  (quote key).toList ++ ':' :: (colon ++ value)

theorem toList_quote (s : String) :
    (quote s).toList = '"' :: (s.toList.flatMap escape ++ ['"']) := by
  unfold quote
  rw [String.toList_ofList]
  rfl

/-! ## The two layouts -/

/-- What the compact text and the pretty one have in common: the marks and the order of the
parts. They differ in the white space between them. -/
structure LaidOut (write : Nat → Json → List Char) : Prop where
  string : ∀ level s, write level (.string s) = (quote s).toList
  number : ∀ level x, write level (.number x) = (atom (.number x)).toList
  whole : ∀ level n, write level (.whole n) = (toString n).toList
  array : ∀ level items,
    Bracketed '[' ']' (items.map (write (level + 1))) (write level (.array items))
  object : ∃ colon, Space colon ∧ ∀ level members, Bracketed '{' '}'
    (members.map fun m => member colon m.1 (write (level + 1) m.2))
    (write level (.object members))

theorem intercalate_eq_row (gap : List Char) (parts : List (List Char)) :
    List.intercalate (',' :: gap) parts = row gap parts := by
  cases parts with
  | nil => rfl
  | cons part parts =>
    unfold row further
    induction parts generalizing part with
    | nil => simp [List.intercalate]
    | cons next parts ih =>
      have hnext := ih next
      simp [List.intercalate] at hnext ⊢
      exact hnext

theorem compactItems_eq_map (items : List Json) : compactItems items = items.map compact := by
  induction items with
  | nil => rfl
  | cons item rest ih => rw [compactItems, ih, List.map_cons]

theorem compactMembers_eq_map (members : List (String × Json)) :
    compactMembers members = members.map fun m => quote m.1 ++ ":" ++ compact m.2 := by
  induction members with
  | nil => rfl
  | cons m rest ih => rw [compactMembers, ih, List.map_cons]

theorem compact_laidOut : LaidOut fun _ doc => doc.compact.toList := by
  refine ⟨fun _ _ => rfl, fun _ _ => rfl, fun _ _ => rfl, ?_, [], Space.nil, ?_⟩
  · intro level items
    refine ⟨[], [], Space.nil, Space.nil, ?_⟩
    rw [compact, compactItems_eq_map]
    simp [intercalate_eq_row, Function.comp_def]
  · intro level members
    refine ⟨[], [], Space.nil, Space.nil, ?_⟩
    rw [compact, compactMembers_eq_map]
    simp [intercalate_eq_row, Function.comp_def, member]

theorem prettyItems_eq_map (level : Nat) (items : List Json) :
    prettyItems level items = items.map (prettyAt level) := by
  induction items with
  | nil => rfl
  | cons item rest ih => rw [prettyItems, ih, List.map_cons]

theorem prettyMembers_eq_map (level : Nat) (members : List (String × Json)) :
    prettyMembers level members =
      members.map fun m => quote m.1 ++ ": " ++ prettyAt level m.2 := by
  induction members with
  | nil => rfl
  | cons m rest ih => rw [prettyMembers, ih, List.map_cons]

theorem lineStart_space (level : Nat) : Space (lineStart level).toList := by
  unfold lineStart Space
  rw [String.toList_ofList]
  intro c hc
  rcases List.mem_cons.mp hc with rfl | hc
  · rfl
  · rw [List.eq_of_mem_replicate hc]
    rfl

theorem block_bracketed (level : Nat) (start close : String) {a b : Char}
    (hstart : start.toList = [a]) (hclose : close.toList = [b]) (lines : List String) :
    Bracketed a b (lines.map String.toList) (block level start close lines).toList := by
  unfold block
  split
  · rename_i hnil
    refine ⟨[], [], Space.nil, Space.nil, ?_⟩
    simp [hnil, hstart, hclose, row]
  · refine ⟨_, _, lineStart_space (level + 1), lineStart_space level, ?_⟩
    simp [hstart, hclose, intercalate_eq_row]

theorem pretty_laidOut : LaidOut fun level doc => (prettyAt level doc).toList := by
  refine ⟨fun _ _ => rfl, fun _ _ => rfl, fun _ _ => rfl, ?_, [' '], by simp [Space]; rfl, ?_⟩
  · intro level items
    have hblock : Bracketed '[' ']' _ _ :=
      block_bracketed level "[" "]" (by simp) (by simp) (prettyItems (level + 1) items)
    rw [prettyItems_eq_map, List.map_map] at hblock
    rw [prettyAt, prettyItems_eq_map]
    exact hblock
  · intro level members
    have hblock : Bracketed '{' '}' _ _ :=
      block_bracketed level "\x7b" "\x7d" (by simp) (by simp)
        (prettyMembers (level + 1) members)
    rw [prettyMembers_eq_map, List.map_map] at hblock
    rw [prettyAt, prettyMembers_eq_map]
    simp [Function.comp_def, member] at hblock ⊢
    exact hblock

end Patchbay.Json
