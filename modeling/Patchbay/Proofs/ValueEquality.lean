-- Equality of the language as a relation on values. It looks each field of the
-- left record up in the right one and counts the fields, which is symmetric
-- because a record has its names once. Lists, functions and NaN equal nothing,
-- so no value that holds one at any depth equals itself.
import Mathlib
import Patchbay.Language.Value

namespace Patchbay.Language

/-! ## Numbers -/

theorem double_equal_comm (a b : Float) : (a == b) = (b == a) := by
  rw [Bool.eq_iff_iff, Float.beq_iff_ne_nan_and_eq, Float.beq_iff_ne_nan_and_eq]
  constructor <;> rintro ⟨ha, hb, rfl | ⟨rfl, rfl⟩ | ⟨rfl, rfl⟩⟩ <;> simp_all

/-- The two zeros are equal, and apart from them only a number and itself. -/
theorem double_equal_trans {a b c : Float} (hab : (a == b) = true) (hbc : (b == c) = true) :
    (a == c) = true := by
  rw [Float.beq_iff_ne_nan_and_eq] at *
  obtain ⟨ha, -, hab⟩ := hab
  obtain ⟨-, hc, hbc⟩ := hbc
  refine ⟨ha, hc, ?_⟩
  rcases hab with rfl | ⟨rfl, rfl⟩ | ⟨rfl, rfl⟩
  · exact hbc
  · rcases hbc with rfl | ⟨-, rfl⟩ | ⟨-, rfl⟩
    · exact Or.inr (Or.inl ⟨rfl, rfl⟩)
    · exact Or.inr (Or.inl ⟨rfl, rfl⟩)
    · exact Or.inl rfl
  · rcases hbc with rfl | ⟨-, rfl⟩ | ⟨-, rfl⟩
    · exact Or.inr (Or.inr ⟨rfl, rfl⟩)
    · exact Or.inl rfl
    · exact Or.inr (Or.inr ⟨rfl, rfl⟩)

namespace Value

/-! ## Records as maps, parts, and orders of fields -/

/-- Every record in the value, at any depth, has each of its names once, as a map from names to
values has. -/
inductive NamesOnce : Value → Prop
  | number (x : Float) : NamesOnce (.number x)
  | text (s : String) : NamesOnce (.text s)
  | record {fields : List (String × Value)} (hnodup : (Fields.names fields).Nodup)
      (hfields : ∀ field ∈ fields, NamesOnce field.2) : NamesOnce (.record fields)
  | list {items : List Value} (hitems : ∀ v ∈ items, NamesOnce v) : NamesOnce (.list items)
  | closure (param : String) (body : Expr) (home : ScopeId) : NamesOnce (.closure param body home)
  | builtin (op : Builtin) {held : List Value} (hheld : ∀ v ∈ held, NamesOnce v) :
      NamesOnce (.builtin op held)

/-- The values at any depth of a value, itself among them. -/
inductive Contains : Value → Value → Prop
  | self (v : Value) : Contains v v
  | field {fields : List (String × Value)} {field : String × Value} {part : Value}
      (hmem : field ∈ fields) (h : Contains field.2 part) : Contains (.record fields) part
  | item {items : List Value} {v part : Value} (hmem : v ∈ items) (h : Contains v part) :
      Contains (.list items) part
  | held (op : Builtin) {held : List Value} {v part : Value} (hmem : v ∈ held)
      (h : Contains v part) : Contains (.builtin op held) part

/-- The fields of one record in the value, at any depth, stand in another order. -/
inductive Reorders : Value → Value → Prop
  | fields {fields others : List (String × Value)} (h : fields.Perm others) :
      Reorders (.record fields) (.record others)
  | field (before : List (String × Value)) (name : String) {v v' : Value} (h : Reorders v v')
      (after : List (String × Value)) :
      Reorders (.record (before ++ (name, v) :: after)) (.record (before ++ (name, v') :: after))
  | item (before : List Value) {v v' : Value} (h : Reorders v v') (after : List Value) :
      Reorders (.list (before ++ v :: after)) (.list (before ++ v' :: after))
  | held (op : Builtin) (before : List Value) {v v' : Value} (h : Reorders v v')
      (after : List Value) :
      Reorders (.builtin op (before ++ v :: after)) (.builtin op (before ++ v' :: after))

theorem Reorders.symm {v v' : Value} (h : Reorders v v') : Reorders v' v := by
  induction h with
  | fields h => exact .fields h.symm
  | field before name _ after ih => exact .field before name ih after
  | item before _ after ih => exact .item before ih after
  | held op before _ after ih => exact .held op before ih after

/-- A place in a list stands for a predicate of its members as the rest of them does. -/
theorem forall_mem_middle {α : Type} {P : α → Prop} {before after : List α} {a b : α}
    (h : ∀ c ∈ before ++ a :: after, P c) (hb : P a → P b) : ∀ c ∈ before ++ b :: after, P c := by
  simp only [List.forall_mem_append, List.forall_mem_cons] at h ⊢
  exact ⟨h.1, hb h.2.1, h.2.2⟩

theorem names_middle (before : List (String × Value)) (name : String) (v v' : Value)
    (after : List (String × Value)) :
    Fields.names (before ++ (name, v') :: after) = Fields.names (before ++ (name, v) :: after) := by
  simp only [Fields.names, List.map_append, List.map_cons]

theorem Reorders.namesOnce {v v' : Value} (h : Reorders v v') (hv : v.NamesOnce) :
    v'.NamesOnce := by
  induction h with
  | fields h =>
    cases hv with
    | record hnodup hfields =>
      exact .record ((h.map Prod.fst).nodup_iff.mp hnodup) fun field hmem =>
        hfields field (h.mem_iff.mpr hmem)
  | field before name _ after ih =>
    cases hv with
    | record hnodup hfields =>
      refine .record ?_ (forall_mem_middle hfields ih)
      rwa [names_middle]
  | item before _ after ih =>
    cases hv with
    | list hitems => exact .list (forall_mem_middle hitems ih)
  | held op before _ after ih =>
    cases hv with
    | builtin _ hheld => exact .builtin op (forall_mem_middle hheld ih)

/-! ## What equality says -/

/-- Two equal numbers, one text, or two records of one size where each name of the first
stands in the second, for an equal value. -/
inductive Equals : Value → Value → Prop
  | number {a b : Float} (h : (a == b) = true) : Equals (.number a) (.number b)
  | text (s : String) : Equals (.text s) (.text s)
  | record {fields others : List (String × Value)} (hlength : fields.length = others.length)
      (hnames : Fields.names fields ⊆ Fields.names others)
      (hfields : ∀ field ∈ fields, ∀ other, Fields.get? others field.1 = some other →
        Equals field.2 other) :
      Equals (.record fields) (.record others)

theorem equalFields_iff {fields others : List (String × Value)} :
    equalFields fields others = true ↔
      ∀ field ∈ fields, ∃ other, Fields.get? others field.1 = some other ∧
        field.2.equal other = true := by
  induction fields with
  | nil => simp [equalFields]
  | cons field rest ih =>
    obtain ⟨name, v⟩ := field
    rw [equalFields, Bool.and_eq_true, ih, List.forall_mem_cons]
    rcases Fields.get? others name with _ | other <;> simp

theorem equal_record {fields others : List (String × Value)} :
    (record fields).equal (.record others) = true ↔
      fields.length = others.length ∧ ∀ field ∈ fields, ∃ other,
        Fields.get? others field.1 = some other ∧ field.2.equal other = true := by
  rw [equal, Bool.and_eq_true, beq_iff_eq, equalFields_iff]

theorem Equals.equal {u v : Value} (h : Equals u v) : u.equal v = true := by
  induction h with
  | number h => exact h
  | text s => exact beq_self_eq_true s
  | record hlength hnames _ ih =>
    refine equal_record.mpr ⟨hlength, fun field hmem => ?_⟩
    obtain ⟨other, hget⟩ := Fields.exists_of_mem_names (hnames (List.mem_map_of_mem hmem))
    exact ⟨other, hget, ih field hmem other hget⟩

mutual

theorem equals_of_equal : ∀ {u v : Value}, u.equal v = true → Equals u v
  | .number a, v, h => by
    cases v with
    | number b => exact .number h
    | _ => cases h
  | .text s, v, h => by
    cases v with
    | text t => exact eq_of_beq h ▸ .text s
    | _ => cases h
  | .record fields, v, h => by
    cases v with
    | record others =>
      obtain ⟨hlength, hfields⟩ := equal_record.mp h
      refine .record hlength (fun name hname => ?_)
        (equals_of_equalFields (equalFields_iff.mpr hfields))
      obtain ⟨field, hmem, rfl⟩ := List.mem_map.mp hname
      obtain ⟨other, hget, -⟩ := hfields field hmem
      exact List.mem_map.mpr ⟨_, Fields.mem_of_get? hget, rfl⟩
    | _ => cases h
  | .list _, _, h => by cases h
  | .closure .., _, h => by cases h
  | .builtin .., _, h => by cases h

theorem equals_of_equalFields : ∀ {fields others : List (String × Value)},
    equalFields fields others = true → ∀ field ∈ fields, ∀ other,
      Fields.get? others field.1 = some other → Equals field.2 other
  | [], _, _ => fun _ hmem => nomatch hmem
  | (name, v) :: rest, others, h => by
    obtain ⟨⟨other, hget, hv⟩, hrest⟩ := List.forall_mem_cons.mp (equalFields_iff.mp h)
    refine List.forall_mem_cons.mpr ⟨fun found hfound => ?_,
      equals_of_equalFields (equalFields_iff.mpr hrest)⟩
    rw [hget] at hfound
    cases hfound
    exact equals_of_equal hv

end

theorem equal_iff {u v : Value} : u.equal v = true ↔ Equals u v := ⟨equals_of_equal, Equals.equal⟩

theorem equal_congr {u v u' v' : Value} (h : Equals u v ↔ Equals u' v') :
    u.equal v = u'.equal v' := by
  rw [Bool.eq_iff_iff, equal_iff, equal_iff, h]

namespace Equals

/-- A name of the second record is one of the first, since the names of the first are as many
and none comes twice. -/
theorem names_back {fields others : List (String × Value)}
    (hnodup : (Fields.names fields).Nodup) (hlength : fields.length = others.length)
    (hnames : Fields.names fields ⊆ Fields.names others) :
    Fields.names others ⊆ Fields.names fields := by
  refine ((List.subperm_of_subset hnodup hnames).perm_of_length_le ?_).symm.subset
  simp only [Fields.names, List.length_map, hlength, Nat.le_refl]

theorem symm {u v : Value} (h : Equals u v) (hu : u.NamesOnce) (hv : v.NamesOnce) : Equals v u := by
  induction h with
  | number h => exact .number (double_equal_comm _ _ ▸ h)
  | text s => exact .text s
  | @record fields others hlength hnames _ ih =>
    cases hu with
    | record hfields huf =>
      cases hv with
      | record hothers hvo =>
        have hback := names_back hfields hlength hnames
        refine .record hlength.symm hback fun other hother v hget => ?_
        have hfield : (other.1, v) ∈ fields := Fields.mem_of_get? hget
        have hother' := Fields.get?_of_mem hothers hother
        exact ih _ hfield other.2 hother' (huf _ hfield) (hvo other hother)

theorem trans {u v w : Value} (h : Equals u v) (hw : Equals v w) : Equals u w := by
  induction h generalizing w with
  | number h =>
    cases hw with
    | number hw => exact .number (double_equal_trans h hw)
  | text s => exact hw
  | @record fields others hlength hnames _ ih =>
    cases hw with
    | record hlength' hnames' hfields' =>
      refine .record (hlength.trans hlength') (List.Subset.trans hnames hnames') ?_
      intro field hmem third hget
      obtain ⟨other, hother⟩ := Fields.exists_of_mem_names (hnames (List.mem_map_of_mem hmem))
      have hthird := hfields' (field.1, other) (Fields.mem_of_get? hother) third hget
      exact ih field hmem other hother hthird

/-- What a record equals does not depend on the order of its fields. -/
theorem reorders {u u' w : Value} (hre : Reorders u u') (h : Equals u w) : Equals u' w := by
  induction hre generalizing w with
  | fields hperm =>
    cases h with
    | record hlength hnames hfields =>
      exact .record (hperm.length_eq.symm.trans hlength)
        (List.Subset.trans (hperm.map Prod.fst).symm.subset hnames)
        fun field hmem => hfields field (hperm.mem_iff.mpr hmem)
  | field before name hre after ih =>
    cases h with
    | record hlength hnames hfields =>
      refine .record ?_ ?_ (forall_mem_middle hfields fun hv other hget => ih (hv other hget))
      · rw [← hlength, List.length_append, List.length_append]; rfl
      · rwa [names_middle]
  | item => cases h
  | held => cases h

end Equals

/-- Equality is symmetric on values whose records have their names once. -/
theorem equal_comm {u v : Value} (hu : u.NamesOnce) (hv : v.NamesOnce) : u.equal v = v.equal u :=
  equal_congr ⟨fun h => h.symm hu hv, fun h => h.symm hv hu⟩

theorem equal_trans {u v w : Value} (huv : u.equal v = true) (hvw : v.equal w = true) :
    u.equal w = true :=
  equal_iff.mpr ((equal_iff.mp huv).trans (equal_iff.mp hvw))

/-! ## What equals itself -/

/-- The value is no list, no function and not NaN. -/
structure SelfEqual (v : Value) : Prop where
  not_list : v.kind ≠ .list
  not_function : v.kind ≠ .lambda
  not_nan : ∀ x, v = .number x → x.isNaN = false

/-- In its own record each field is found where it stands. -/
theorem Equals.parts {v : Value} (hv : v.NamesOnce) :
    Equals v v → ∀ part, v.Contains part → part.SelfEqual := by
  induction hv with
  | number x =>
    rintro (hself | _) part ⟨⟩
    refine ⟨nofun, nofun, fun y hy => ?_⟩
    cases hy
    rw [Float.isNaN_eq_decide_eq_nan]
    exact decide_eq_false (Float.beq_self_iff.mp hself)
  | text s =>
    rintro - part ⟨⟩
    exact ⟨nofun, nofun, nofun⟩
  | record hnodup _ ih =>
    rintro (_ | _ | ⟨-, -, hfields⟩) part hpart
    cases hpart with
    | self => exact ⟨nofun, nofun, nofun⟩
    | field hmem hpart =>
      exact ih _ hmem (hfields _ hmem _ (Fields.get?_of_mem hnodup hmem)) part hpart
  | _ => rintro ⟨⟩

theorem equals_self {v : Value} (hv : v.NamesOnce)
    (h : ∀ part, v.Contains part → part.SelfEqual) : Equals v v := by
  induction hv with
  | number x =>
    have hx := (h _ (.self _)).not_nan x rfl
    rw [Float.isNaN_eq_decide_eq_nan] at hx
    exact .number (Float.beq_self_iff.mpr (of_decide_eq_false hx))
  | text s => exact .text s
  | record hnodup _ ih =>
    refine .record rfl (List.Subset.refl _) fun field hmem other hget => ?_
    rw [Fields.get?_of_mem hnodup hmem] at hget
    cases hget
    exact ih field hmem fun part hpart => h part (.field hmem hpart)
  | list => exact absurd rfl (h _ (.self _)).not_list
  | closure => exact absurd rfl (h _ (.self _)).not_function
  | builtin => exact absurd rfl (h _ (.self _)).not_function

/-! ## Equality as a relation -/

/-- Fields in another order, in any number of records. -/
abbrev Reordered : Value → Value → Prop := Relation.ReflTransGen Reorders

theorem Reordered.namesOnce {v v' : Value} (h : Reordered v v') (hv : v.NamesOnce) :
    v'.NamesOnce := by
  induction h with
  | refl => exact hv
  | tail _ h ih => exact h.namesOnce ih

theorem Reordered.symm {v v' : Value} (h : Reordered v v') : Reordered v' v := by
  induction h with
  | refl => exact .refl
  | tail _ h ih => exact .head h.symm ih

theorem Equals.reordered {u u' w : Value} (hre : Reordered u u') (h : Equals u w) :
    Equals u' w := by
  induction hre with
  | refl => exact h
  | tail _ hre ih => exact ih.reorders hre

/-- The order of the fields has no say on either side: on the left each field is looked up by its
name, and on the right by symmetry. -/
theorem equal_reordered {u u' v v' : Value} (hu : u.NamesOnce) (hv : v.NamesOnce)
    (huu : Reordered u u') (hvv : Reordered v v') : u'.equal v' = u.equal v := by
  have hu' := huu.namesOnce hu
  have hv' := hvv.namesOnce hv
  have hleft : u'.equal v' = u.equal v' :=
    equal_congr ⟨fun h => h.reordered huu.symm, fun h => h.reordered huu⟩
  have hright : v'.equal u = v.equal u :=
    equal_congr ⟨fun h => h.reordered hvv.symm, fun h => h.reordered hvv⟩
  rw [hleft, equal_comm hu hv', hright, equal_comm hu hv]

/-- Equality is symmetric and transitive, it holds of a value and itself exactly when the value
contains no list, no function and no NaN at any depth, and the order of the fields of the records
in its two sides has no say. -/
theorem equality_is_a_partial_equivalence (u v w : Value) (hu : u.NamesOnce) (hv : v.NamesOnce) :
    u.equal v = v.equal u ∧
      (u.equal v = true → v.equal w = true → u.equal w = true) ∧
      (v.equal v = true ↔ ∀ part, v.Contains part →
        part.kind ≠ .list ∧ part.kind ≠ .lambda ∧ ∀ x, part = .number x → x.isNaN = false) ∧
      ∀ u' v', Reordered u u' → Reordered v v' → u'.equal v' = u.equal v := by
  refine ⟨equal_comm hu hv, equal_trans, ?_, fun u' v' => equal_reordered hu hv⟩
  constructor
  · intro h part hpart
    obtain ⟨hlist, hfunction, hnan⟩ := (equal_iff.mp h).parts hv part hpart
    exact ⟨hlist, hfunction, hnan⟩
  · intro h
    refine (equals_self hv fun part hpart => ?_).equal
    obtain ⟨hlist, hfunction, hnan⟩ := h part hpart
    exact ⟨hlist, hfunction, hnan⟩

/-- A line of text with its place, and how often it was read. -/
def shelf : Value :=
  .record [("line", .record [("row", .text "a"), ("text", .text "b")]), ("reads", .number 0.0)]

/-- The same with its fields the other way round, at both depths. -/
def turnedShelf : Value :=
  .record [("reads", .number 0.0), ("line", .record [("text", .text "b"), ("row", .text "a")])]

theorem turnedShelf_equals_the_shelf :
    shelf.NamesOnce ∧ Reordered shelf turnedShelf ∧ shelf.equal shelf = true ∧
      turnedShelf.equal shelf = true ∧ shelf.equal turnedShelf = true := by
  have honce : shelf.NamesOnce := by
    have hline : NamesOnce (.record [("row", .text "a"), ("text", .text "b")]) :=
      .record (by decide) (by simp [NamesOnce.text])
    exact .record (by decide) (by simp [hline, NamesOnce.number])
  have hturned : Reordered shelf turnedShelf :=
    .trans (.single (.field [] "line" (.fields (.swap ..)) _)) (.single (.fields (.swap ..)))
  obtain ⟨-, -, hself, hreorder⟩ :=
    equality_is_a_partial_equivalence shelf shelf shelf honce honce
  obtain ⟨hcomm, -, -, -⟩ :=
    equality_is_a_partial_equivalence turnedShelf shelf shelf (hturned.namesOnce honce) honce
  have hequal : shelf.equal shelf = true := by
    refine hself.mpr fun part hpart => ?_
    rcases hpart with _ | ⟨hmem, hpart⟩
    · exact ⟨nofun, nofun, nofun⟩
    rcases List.mem_pair.mp hmem with rfl | rfl
    · rcases hpart with _ | ⟨hmem, hpart⟩
      · exact ⟨nofun, nofun, nofun⟩
      rcases List.mem_pair.mp hmem with rfl | rfl <;> cases hpart <;> exact ⟨nofun, nofun, nofun⟩
    · cases hpart
      refine ⟨nofun, nofun, fun x hx => ?_⟩
      cases hx
      decide
  have hleft := hreorder turnedShelf shelf hturned .refl
  exact ⟨honce, hturned, hequal, hleft.trans hequal, hcomm ▸ hleft.trans hequal⟩

end Value

end Patchbay.Language
