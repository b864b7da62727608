-- Values and stores that are alike. Two values are alike when they differ at
-- most in the places of the scopes that functions keep, and a relation on
-- places says which place of one store stands for which one of the other.
import Patchbay.Language.Value
import Patchbay.Proofs.Scopes
import Mathlib.Data.List.Forall2

namespace Patchbay.Language

/-- Which scopes of one store stand for which ones of another, by their places. -/
abbrev Pairing := Nat → Nat → Prop

variable {R V : Pairing}

/-! ## Values -/

mutual

/-- The same value, but for the scopes that functions keep. -/
inductive Value.Like (R : Pairing) : Value → Value → Prop
  | number (x : Float) : Value.Like R (.number x) (.number x)
  | text (t : String) : Value.Like R (.text t) (.text t)
  | record {fields others : List (String × Value)} (h : FieldsLike R fields others) :
    Value.Like R (.record fields) (.record others)
  | list {items others : List Value} (h : ItemsLike R items others) :
    Value.Like R (.list items) (.list others)
  | closure (param : String) (body : Expr) {home other : ScopeId} (h : R home other) :
    Value.Like R (.closure param body home) (.closure param body other)
  | builtin (op : Builtin) {held others : List Value} (h : ItemsLike R held others) :
    Value.Like R (.builtin op held) (.builtin op others)

/-- The same names in the same order, and values that are alike. -/
inductive FieldsLike (R : Pairing) : List (String × Value) → List (String × Value) → Prop
  | nil : FieldsLike R [] []
  | cons (name : String) {v w : Value} {fields others : List (String × Value)}
    (h : Value.Like R v w) (hrest : FieldsLike R fields others) :
    FieldsLike R ((name, v) :: fields) ((name, w) :: others)

inductive ItemsLike (R : Pairing) : List Value → List Value → Prop
  | nil : ItemsLike R [] []
  | cons {v w : Value} {items others : List Value} (h : Value.Like R v w)
    (hrest : ItemsLike R items others) : ItemsLike R (v :: items) (w :: others)

end

mutual

theorem Value.Like.mono (hrv : ∀ a b, R a b → V a b) {v w : Value} :
    Value.Like R v w → Value.Like V v w
  | .number x => .number x
  | .text t => .text t
  | .record h => .record (FieldsLike.mono hrv h)
  | .list h => .list (ItemsLike.mono hrv h)
  | .closure param body h => .closure param body (hrv _ _ h)
  | .builtin op h => .builtin op (ItemsLike.mono hrv h)

theorem FieldsLike.mono (hrv : ∀ a b, R a b → V a b) {fields others : List (String × Value)} :
    FieldsLike R fields others → FieldsLike V fields others
  | .nil => .nil
  | .cons name h hrest => .cons name (Value.Like.mono hrv h) (FieldsLike.mono hrv hrest)

theorem ItemsLike.mono (hrv : ∀ a b, R a b → V a b) {items others : List Value} :
    ItemsLike R items others → ItemsLike V items others
  | .nil => .nil
  | .cons h hrest => .cons (Value.Like.mono hrv h) (ItemsLike.mono hrv hrest)

end

theorem itemsLike_iff {items others : List Value} :
    ItemsLike R items others ↔ List.Forall₂ (Value.Like R) items others := by
  constructor
  · intro h
    induction items generalizing others with
    | nil =>
      cases h
      exact .nil
    | cons v items ih =>
      cases h with
      | cons h hrest => exact .cons h (ih hrest)
  · intro h
    induction h with
    | nil => exact .nil
    | cons h _ ih => exact .cons h ih

theorem fieldsLike_of_forall₂ {fields others : List (String × Value)}
    (h : List.Forall₂ (fun a b => a.1 = b.1 ∧ Value.Like R a.2 b.2) fields others) :
    FieldsLike R fields others := by
  induction h with
  | nil => exact .nil
  | @cons a b fields others hab _ ih =>
    obtain ⟨name, v⟩ := a
    obtain ⟨name', w⟩ := b
    obtain ⟨rfl, hvw⟩ := hab
    exact .cons name hvw ih

namespace ItemsLike

variable {items others : List Value} (h : ItemsLike R items others)
include h

theorem length : items.length = others.length := (itemsLike_iff.mp h).length_eq

theorem append {more more' : List Value} (k : ItemsLike R more more') :
    ItemsLike R (items ++ more) (others ++ more') :=
  itemsLike_iff.mpr (List.rel_append (itemsLike_iff.mp h) (itemsLike_iff.mp k))

theorem take (n : Nat) : ItemsLike R (items.take n) (others.take n) :=
  itemsLike_iff.mpr (List.forall₂_take n (itemsLike_iff.mp h))

theorem drop (n : Nat) : ItemsLike R (items.drop n) (others.drop n) :=
  itemsLike_iff.mpr (List.forall₂_drop n (itemsLike_iff.mp h))

theorem getElem? (n : Nat) : Option.Rel (Value.Like R) items[n]? others[n]? := by
  induction items generalizing others n with
  | nil =>
    cases h
    exact .none
  | cons v items ih =>
    cases h with
    | cons h hrest =>
      cases n with
      | zero => exact .some h
      | succ n => exact ih hrest n

theorem head? : Option.Rel (Value.Like R) items.head? others.head? := by
  rw [List.head?_eq_getElem?, List.head?_eq_getElem?]
  exact h.getElem? 0

theorem getLast? : Option.Rel (Value.Like R) items.getLast? others.getLast? := by
  rw [List.getLast?_eq_getElem?, List.getLast?_eq_getElem?, h.length]
  exact h.getElem? _

end ItemsLike

/-- Texts and numbers have no scopes in them. -/
theorem itemsLike_texts (texts : List String) :
    ItemsLike R (texts.map Value.text) (texts.map Value.text) := by
  induction texts with
  | nil => exact .nil
  | cons t texts ih => exact .cons (.text t) ih

theorem fieldsLike_texts (texts : List (String × String)) :
    FieldsLike R (texts.map fun (name, t) => (name, .text t))
      (texts.map fun (name, t) => (name, .text t)) := by
  induction texts with
  | nil => exact .nil
  | cons entry texts ih => exact .cons entry.1 (.text entry.2) ih

/-! ## What values that are alike have in common -/

theorem Value.Like.kind {v w : Value} (h : Value.Like R v w) : v.kind = w.kind := by
  cases h <;> rfl

theorem Value.Like.isTrue {v w : Value} (h : Value.Like R v w) : v.isTrue = w.isTrue := by
  cases h <;> rfl

theorem Value.Like.ofBool (b : Bool) : Value.Like R (.ofBool b) (.ofBool b) := .number _

theorem FieldsLike.length {fields others : List (String × Value)}
    (h : FieldsLike R fields others) : fields.length = others.length := by
  induction fields generalizing others with
  | nil =>
    cases h
    rfl
  | cons entry fields ih =>
    cases h with
    | cons name h hrest => simp [ih hrest]

mutual

/-- They are shown by the same text. -/
theorem Value.Like.display {v w : Value} : Value.Like R v w → v.display = w.display
  | .number x => rfl
  | .text t => rfl
  | .record h => by
    unfold Value.display
    rw [FieldsLike.display h]
  | .list h => by
    unfold Value.display
    rw [ItemsLike.display h]
  | .closure param body h => by
    unfold Value.display
    rfl
  | .builtin op h => by
    unfold Value.display
    rw [ItemsLike.length h]

theorem FieldsLike.display {fields others : List (String × Value)} :
    FieldsLike R fields others → Value.displayFields fields = Value.displayFields others
  | .nil => rfl
  | .cons name h hrest => by
    unfold Value.displayFields
    rw [Value.Like.display h, FieldsLike.display hrest]

theorem ItemsLike.display {items others : List Value} :
    ItemsLike R items others → Value.displayItems items = Value.displayItems others
  | .nil => rfl
  | .cons h hrest => by
    unfold Value.displayItems
    rw [Value.Like.display h, ItemsLike.display hrest]

end

/-- Both have a field of the name, with values that are alike, or neither has. -/
theorem FieldsLike.get? {fields others : List (String × Value)} (h : FieldsLike R fields others)
    (name : String) :
    Option.Rel (Value.Like R) (Fields.get? fields name) (Fields.get? others name) := by
  induction fields generalizing others with
  | nil =>
    cases h
    exact .none
  | cons entry fields ih =>
    cases h with
    | cons key h hrest =>
      unfold Fields.get?
      split
      · exact .some h
      · exact ih hrest

theorem FieldsLike.set {fields others : List (String × Value)} (h : FieldsLike R fields others)
    (name : String) {v w : Value} (hv : Value.Like R v w) :
    FieldsLike R (Fields.set fields name v) (Fields.set others name w) := by
  induction fields generalizing others with
  | nil =>
    cases h
    exact .cons name hv .nil
  | cons entry fields ih =>
    cases h with
    | cons key h hrest =>
      unfold Fields.set
      split
      · exact .cons key hv hrest
      · exact .cons key h (ih hrest)

mutual

/-- They equal the same values. -/
theorem Value.Like.equal {a a' : Value} :
    Value.Like R a a' → ∀ {b b' : Value}, Value.Like R b b' → a.equal b = a'.equal b'
  | .number x, _, _, hb => by cases hb <;> rfl
  | .text t, _, _, hb => by cases hb <;> rfl
  | .record h, _, _, hb => by
    cases hb with
    | record hb =>
      unfold Value.equal
      rw [FieldsLike.length h, FieldsLike.length hb, FieldsLike.equal h hb]
    | _ => rfl
  | .list h, _, _, hb => by cases hb <;> rfl
  | .closure param body h, _, _, hb => by cases hb <;> rfl
  | .builtin op h, _, _, hb => by cases hb <;> rfl

theorem FieldsLike.equal {fields fields' : List (String × Value)} :
    FieldsLike R fields fields' → ∀ {others others' : List (String × Value)},
      FieldsLike R others others' →
        Value.equalFields fields others = Value.equalFields fields' others'
  | .nil, _, _, _ => rfl
  | .cons name h hrest, others, others', ho => by
    unfold Value.equalFields
    rw [FieldsLike.equal hrest ho]
    rcases hget : Fields.get? others name with _ | b <;>
      rcases hget' : Fields.get? others' name with _ | b' <;>
      have hrel := ho.get? name <;>
      rw [hget, hget'] at hrel
    · cases hrel
    · cases hrel
    · cases hrel with
      | some hb =>
        dsimp only
        rw [Value.Like.equal h hb]

end

/-! ## Stores -/

/-- The scopes that `R` pairs are in the stores, each has one partner, and partners bind
the same names to values that are alike and have partners around them. -/
structure StoreLike (R : Pairing) (st st' : Store) : Prop where
  left_lt : ∀ {a b}, R a b → a < st.size
  right_lt : ∀ {a b}, R a b → b < st'.size
  right_unique : ∀ {a b c}, R a b → R a c → b = c
  left_unique : ∀ {a b c}, R a c → R b c → a = b
  bindings : ∀ {a b}, R a b → FieldsLike R (st.bindings a) (st'.bindings b)
  outward : ∀ {a b}, R a b → List.Forall₂ R (st.outward a) (st'.outward b)

/-- `R`, and pairs of the scopes that come next: `k` of them from `n` on and from `m` on. -/
def Pairing.grown (R : Pairing) (n m k : Nat) : Pairing :=
  fun a b => R a b ∨ ∃ i < k, a = n + i ∧ b = m + i

theorem Pairing.le_grown {n m k a b : Nat} (h : R a b) : R.grown n m k a b := Or.inl h

theorem Pairing.grown_zero (R : Pairing) (n m : Nat) : R.grown n m 0 = R := by
  funext a b
  simp [Pairing.grown]

/-- Growing twice is growing once. -/
theorem Pairing.grown_grown (R : Pairing) (n m k j : Nat) :
    (R.grown n m k).grown (n + k) (m + k) j = R.grown n m (k + j) := by
  funext a b
  unfold Pairing.grown
  apply propext
  constructor
  · rintro ((h | ⟨i, hi, rfl, rfl⟩) | ⟨i, hi, rfl, rfl⟩)
    · exact Or.inl h
    · exact Or.inr ⟨i, by omega, rfl, rfl⟩
    · exact Or.inr ⟨k + i, by omega, by omega, by omega⟩
  · rintro (h | ⟨i, hi, rfl, rfl⟩)
    · exact Or.inl (Or.inl h)
    · by_cases hik : i < k
      · exact Or.inl (Or.inr ⟨i, hik, rfl, rfl⟩)
      · exact Or.inr ⟨i - k, by omega, by omega, by omega⟩

namespace StoreLike

variable {st st' : Store} {s s' : ScopeId}

/-- A name has values that are alike in partners, or none in both. -/
theorem lookup? (h : StoreLike R st st') (hs : R s s') (name : String) :
    Option.Rel (Value.Like R) (st.lookup? s name) (st'.lookup? s' name) := by
  unfold Store.lookup?
  have hchain : List.Forall₂ R (s :: st.outward s) (s' :: st'.outward s') :=
    .cons hs (h.outward hs)
  generalize s :: st.outward s = chain at hchain
  generalize s' :: st'.outward s' = chain' at hchain
  induction hchain with
  | nil => exact .none
  | cons hab _ ih =>
    rw [List.findSome?_cons, List.findSome?_cons]
    have hget := (h.bindings hab).get? name
    generalize Fields.get? (st.bindings _) name = found at hget
    generalize Fields.get? (st'.bindings _) name = found' at hget
    cases hget with
    | none => exact ih
    | some hv => exact .some hv

theorem define (h : StoreLike R st st') (hs : R s s') (name : String) {v w : Value}
    (hv : Value.Like R v w) : StoreLike R (st.define s name v) (st'.define s' name w) := by
  refine ⟨?_, ?_, h.right_unique, h.left_unique, ?_, ?_⟩
  · intro a b hab
    rw [Store.size_define]
    exact h.left_lt hab
  · intro a b hab
    rw [Store.size_define]
    exact h.right_lt hab
  · intro a b hab
    by_cases ha : a = s
    · subst ha
      obtain rfl := h.right_unique hab hs
      rw [Store.bindings_define_self _ _ _ (h.left_lt hs),
        Store.bindings_define_self _ _ _ (h.right_lt hs)]
      exact (h.bindings hs).set name hv
    · have hb : b ≠ s' := by
        rintro rfl
        exact ha (h.left_unique hab hs)
      rw [Store.bindings_congr (Store.getElem?_define_ne st name v ha),
        Store.bindings_congr (Store.getElem?_define_ne st' name w hb)]
      exact h.bindings hab
  · intro a b hab
    rw [Store.outward_define, Store.outward_define]
    exact h.outward hab

/-- New scopes inside partners are partners. -/
theorem child (h : StoreLike R st st') (hs : R s s') :
    StoreLike (R.grown st.size st'.size 1) (st.child s).2 (st'.child s').2 := by
  have hcases : ∀ {a b}, R.grown st.size st'.size 1 a b →
      (R a b ∧ a < st.size ∧ b < st'.size) ∨ (a = st.size ∧ b = st'.size) := by
    rintro a b (hab | ⟨i, hi, rfl, rfl⟩)
    · exact Or.inl ⟨hab, h.left_lt hab, h.right_lt hab⟩
    · exact Or.inr ⟨by omega, by omega⟩
  have hle : ∀ a b, R a b → R.grown st.size st'.size 1 a b := fun _ _ => Pairing.le_grown
  refine ⟨?_, ?_, ?_, ?_, ?_, ?_⟩
  · intro a b hab
    rw [Store.size_child]
    rcases hcases hab with ⟨-, ha, -⟩ | ⟨rfl, -⟩ <;> omega
  · intro a b hab
    rw [Store.size_child]
    rcases hcases hab with ⟨-, -, hb⟩ | ⟨-, rfl⟩ <;> omega
  · intro a b c hab hac
    rcases hcases hab with ⟨h₁, ha, -⟩ | ⟨rfl, rfl⟩ <;>
      rcases hcases hac with ⟨h₂, ha', -⟩ | ⟨ha', rfl⟩
    · exact h.right_unique h₁ h₂
    · omega
    · omega
    · rfl
  · intro a b c hac hbc
    rcases hcases hac with ⟨h₁, -, hc⟩ | ⟨rfl, rfl⟩ <;>
      rcases hcases hbc with ⟨h₂, -, hc'⟩ | ⟨rfl, hc'⟩
    · exact h.left_unique h₁ h₂
    · omega
    · omega
    · rfl
  · intro a b hab
    rcases hcases hab with ⟨h₁, ha, hb⟩ | ⟨rfl, rfl⟩
    · rw [Store.bindings_congr (Store.getElem?_child_lt st s ha),
        Store.bindings_congr (Store.getElem?_child_lt st' s' hb)]
      exact (h.bindings h₁).mono hle
    · unfold Store.bindings
      rw [Store.getElem?_child_self, Store.getElem?_child_self]
      exact .nil
  · intro a b hab
    rcases hcases hab with ⟨h₁, ha, hb⟩ | ⟨rfl, rfl⟩
    · rw [Store.outward_congr (Store.getElem?_child_lt st s ha),
        Store.outward_congr (Store.getElem?_child_lt st' s' hb)]
      exact (h.outward h₁).imp hle
    · unfold Store.outward
      rw [Store.getElem?_child_self, Store.getElem?_child_self]
      exact .cons (hle _ _ hs) ((h.outward hs).imp hle)

end StoreLike

end Patchbay.Language
