-- The text that shows a value is a source text of that value: it evaluates to
-- the same numbers, texts, lists and records, in the same order, whatever the
-- nesting. Functions have no such text, nor do numbers that the language has
-- no literals for, and a quote inside a text would end it.
import Patchbay.Language.Eval
import Patchbay.Proofs.Actions
import Patchbay.Proofs.Rereading

namespace Patchbay

/-- Where each step answers and leaves the state as it was, so does the list of them. -/
theorem Action.mapList_map {ε σ α β γ : Type} {f : α → Action ε σ β} {g : γ → α} {k : γ → β}
    {cs : List γ} {st : σ} (h : ∀ c ∈ cs, f (g c) st = .done (k c) st) :
    mapList f (cs.map g) st = .done (cs.map k) st := by
  induction cs with
  | nil => rfl
  | cons c cs ih =>
    exact mapList_cons_of_done (h c List.mem_cons_self)
      (ih fun d hd => h d (List.mem_cons_of_mem c hd))

namespace Language

/-! ## Values with a text of their own -/

/-- The values that are made of finite numbers from zero up, texts with no quote, lists, and
records with distinct names. -/
inductive Readable : Value → Prop
  | number {x : Float} {m s : Nat} (h : Number.exact x = .finite false m s) :
      Readable (.number x)
  | text {s : String} (h : '"' ∉ s.toList) : Readable (.text s)
  | record {fields : List (String × Value)} (hnodup : (Fields.names fields).Nodup)
      (hnames : ∀ field ∈ fields, IsName field.1)
      (hfields : ∀ field ∈ fields, Readable field.2) : Readable (.record fields)
  | list {items : List Value} (hitems : ∀ v ∈ items, Readable v) : Readable (.list items)

mutual

/-- The expression that makes a value, with no names but those of built-in functions. -/
def Value.literal : Value → Expr
  | .number x => .number x
  | .text s => .text s
  | .record fields => .record (Value.literalFields fields)
  | .list items => .list (Value.literalItems items)
  | .closure param body _ => .lambda param body
  | .builtin op _ => .ident op.name

def Value.literalFields : List (String × Value) → List (String × Expr)
  | [] => []
  | (name, v) :: rest => (name, v.literal) :: Value.literalFields rest

def Value.literalItems : List Value → List Expr
  | [] => []
  | v :: rest => v.literal :: Value.literalItems rest

end

mutual

/-- How deep lists and records stand inside each other. -/
def Value.nesting : Value → Nat
  | .record fields => Value.nestingOfFields fields + 1
  | .list items => Value.nestingOfItems items + 1
  | _ => 0

def Value.nestingOfFields : List (String × Value) → Nat
  | [] => 0
  | (_, v) :: rest => max v.nesting (Value.nestingOfFields rest)

def Value.nestingOfItems : List Value → Nat
  | [] => 0
  | v :: rest => max v.nesting (Value.nestingOfItems rest)

end

namespace Value

theorem literalFields_eq_map (fields : List (String × Value)) :
    literalFields fields = fields.map fun field => (field.1, field.2.literal) := by
  induction fields with
  | nil => rfl
  | cons field rest ih => rw [literalFields, ih, List.map_cons]

theorem literalItems_eq_map (items : List Value) : literalItems items = items.map literal := by
  induction items with
  | nil => rfl
  | cons v rest ih => rw [literalItems, ih, List.map_cons]

theorem nesting_le_of_field {fields : List (String × Value)} {field : String × Value}
    (h : field ∈ fields) : field.2.nesting ≤ nestingOfFields fields := by
  induction fields with
  | nil => cases h
  | cons first rest ih =>
    rw [nestingOfFields]
    rcases List.mem_cons.mp h with rfl | h
    · exact Nat.le_max_left _ _
    · exact Nat.le_trans (ih h) (Nat.le_max_right _ _)

theorem nesting_le_of_item {items : List Value} {v : Value} (h : v ∈ items) :
    v.nesting ≤ nestingOfItems items := by
  induction items with
  | nil => cases h
  | cons first rest ih =>
    rw [nestingOfItems]
    rcases List.mem_cons.mp h with rfl | h
    · exact Nat.le_max_left _ _
    · exact Nat.le_trans (ih h) (Nat.le_max_right _ _)

theorem displayFields_eq_map (fields : List (String × Value)) :
    displayFields fields = fields.map fun field => field.1 ++ ": " ++ field.2.display := by
  induction fields with
  | nil => rfl
  | cons field rest ih => rw [displayFields, ih, List.map_cons]

theorem displayItems_eq_map (items : List Value) : displayItems items = items.map display := by
  induction items with
  | nil => rfl
  | cons v rest ih => rw [displayItems, ih, List.map_cons]

end Value

/-! ## The text is the printed literal -/

theorem toList_listed (texts : List String) :
    (String.intercalate ", " texts).toList = listed (texts.map String.toList) :=
  String.toList_intercalate

namespace Readable

theorem display_eq_print {v : Value} (h : Readable v) (part : Bool) :
    v.display.toList = v.literal.print part := by
  induction h generalizing part with
  | number _ => rfl
  | @text s _ =>
    simp only [Value.display, Value.literal, Expr.print, String.toList_append]
    rfl
  | @record fields _ _ _ ih =>
    have hfields : (fields.map fun field => field.1 ++ ": " ++ field.2.display).map String.toList =
        (fields.map fun field => (field.1, field.2.literal)).map
          fun entry => entry.1.toList ++ ':' :: ' ' :: entry.2.print true := by
      rw [List.map_map, List.map_map]
      refine List.map_congr_left fun field hmem => ?_
      simp only [Function.comp_apply, String.toList_append, ih field hmem true, List.append_assoc]
      rfl
    simp only [Value.display, Value.literal, Expr.print, Value.displayFields_eq_map,
      Value.literalFields_eq_map, Expr.printFields_eq_map, String.toList_append, toList_listed,
      hfields, List.append_assoc]
    rfl
  | @list items _ ih =>
    have hitems : (items.map Value.display).map String.toList =
        (items.map Value.literal).map fun e => e.print true := by
      rw [List.map_map, List.map_map]
      exact List.map_congr_left fun v hmem => ih v hmem true
    simp only [Value.display, Value.literal, Expr.print, Value.displayItems_eq_map,
      Value.literalItems_eq_map, Expr.printItems_eq_map, String.toList_append, toList_listed,
      hitems, List.append_assoc]
    rfl

theorem literal_printable {v : Value} (h : Readable v) : Printable v.literal := by
  induction h with
  | number hx => exact .number hx
  | text hs => exact .text hs
  | @record fields hnodup hnames _ ih =>
    have hsame : Fields.names (fields.map fun field => (field.1, field.2.literal)) =
        Fields.names fields := by
      unfold Fields.names
      rw [List.map_map]
      rfl
    rw [Value.literal, Value.literalFields_eq_map]
    refine .record (hsame ▸ hnodup) (fun entry hmem => ?_) (fun entry hmem => ?_)
    · obtain ⟨field, hfield, rfl⟩ := List.mem_map.mp hmem
      exact hnames field hfield
    · obtain ⟨field, hfield, rfl⟩ := List.mem_map.mp hmem
      exact ih field hfield
  | @list items _ ih =>
    rw [Value.literal, Value.literalItems_eq_map]
    refine .list fun e hmem => ?_
    obtain ⟨v, hv, rfl⟩ := List.mem_map.mp hmem
    exact ih v hv

/-! ## The literal evaluates to the value -/

/-- In every scope, and without a change to any. -/
theorem evaluate_literal {v : Value} (h : Readable v) {depth : Nat} (hdepth : v.nesting < depth)
    (s : ScopeId) (st : Store) : evaluate depth s v.literal st = .done v st := by
  induction h generalizing depth with
  | number _ =>
    cases depth with
    | zero => exact absurd hdepth (Nat.not_lt_zero _)
    | succ depth => rfl
  | text _ =>
    cases depth with
    | zero => exact absurd hdepth (Nat.not_lt_zero _)
    | succ depth => rfl
  | @record fields _ _ _ ih =>
    cases depth with
    | zero => exact absurd hdepth (Nat.not_lt_zero _)
    | succ depth =>
      have hinner : Value.nestingOfFields fields < depth := Nat.lt_of_succ_lt_succ hdepth
      have hfield : ∀ field ∈ fields,
          (evaluate depth s field.2.literal >>= fun v => pure (field.1, v) :
            Eval (String × Value)) st = .done field st := by
        intro field hmem
        have hlt := Nat.lt_of_le_of_lt (Value.nesting_le_of_field hmem) hinner
        rw [Action.bind_of_done (ih field hmem hlt)]
        rfl
      have hfields := Action.mapList_map
        (f := fun entry : String × Expr => (evaluate depth s entry.2 >>= fun v =>
          pure (entry.1, v) : Eval (String × Value)))
        (g := fun field : String × Value => (field.1, field.2.literal)) (k := id) hfield
      rw [List.map_id] at hfields
      rw [Value.literal, Value.literalFields_eq_map, evaluate]
      exact Action.bind_of_done hfields
  | @list items _ ih =>
    cases depth with
    | zero => exact absurd hdepth (Nat.not_lt_zero _)
    | succ depth =>
      have hinner : Value.nestingOfItems items < depth := Nat.lt_of_succ_lt_succ hdepth
      have hitem : ∀ v ∈ items, evaluate depth s v.literal st = .done v st := fun v hmem =>
        ih v hmem (Nat.lt_of_le_of_lt (Value.nesting_le_of_item hmem) hinner)
      have hitems := Action.mapList_map (f := evaluate depth s) (g := Value.literal) (k := id) hitem
      rw [List.map_id] at hitems
      rw [Value.literal, Value.literalItems_eq_map, evaluate]
      exact Action.bind_of_done hitems

end Readable

/-! ## The text reads back -/

/-- The text that shows a readable value evaluates to that value. -/
theorem display_reads_back {v : Value} (hv : Readable v) {depth : Nat}
    (hdepth : v.nesting < depth) : ∃ st, evaluateSource depth v.display = .done v st := by
  have htext : v.display = String.ofList (v.literal.print false) := by
    rw [← hv.display_eq_print false, String.ofList_toList]
  have hparse : parseSource v.display = .ok v.literal := by
    rw [htext]
    exact hv.literal_printable.parseSource_print false
  unfold evaluateSource evaluateIn
  simp only [hparse, hv.evaluate_literal hdepth]
  exact ⟨_, rfl⟩

/-- `{ size_2: [0.1, "a # b"], z: {  }, a: [] }` -/
def nestedValue : Value :=
  .record [("size_2", .list [.number 0.1, .text "a # b"]), ("z", .record []), ("a", .list [])]

theorem nestedValue_reads_back :
    ∃ st, evaluateSource 3 nestedValue.display = .done nestedValue st := by
  have hnumber : Readable (.number 0.1) :=
    .number (show Number.exact 0.1 = .finite false 7205759403792794 1018 by decide +kernel)
  have htext : Readable (.text "a # b") := .text (by decide)
  have hsize : IsName "size_2" :=
    ⟨⟨'s', ['i', 'z', 'e', '_', '2'], rfl, rfl, List.all_eq_true.mp rfl⟩, by decide⟩
  have hz : IsName "z" := ⟨⟨'z', [], rfl, rfl, List.forall_mem_nil _⟩, by decide⟩
  have ha : IsName "a" := ⟨⟨'a', [], rfl, rfl, List.forall_mem_nil _⟩, by decide⟩
  have hempty : Readable (.record []) :=
    .record List.nodup_nil (List.forall_mem_nil _) (List.forall_mem_nil _)
  have hnone : Readable (.list []) := .list (List.forall_mem_nil _)
  have hitems : Readable (.list [.number 0.1, .text "a # b"]) :=
    .list (by simpa using ⟨hnumber, htext⟩)
  refine display_reads_back (.record (by decide) ?_ ?_) (by decide)
  · simpa using ⟨hsize, hz, ha⟩
  · simpa using ⟨hitems, hempty, hnone⟩

example : nestedValue.display = "\x7b size_2: [0.1, \"a # b\"], z: \x7b  \x7d, a: [] \x7d" := by
  decide +kernel

end Language

end Patchbay
