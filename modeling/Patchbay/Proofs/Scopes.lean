-- The laws of the store: what a change of one scope leaves as it was. A
-- scope never goes away, and the scopes around it never change.
import Patchbay.Language.Store

namespace Patchbay.Language

namespace Store

/-- How many scopes there are. The next new scope gets this number. -/
def size (st : Store) : Nat := st.scopes.size

/-! ## Reading after a change -/

theorem getElem?_eq_none {st : Store} {s : ScopeId} (h : st.size ≤ s) : st.scopes[s]? = none :=
  Array.getElem?_eq_none h

theorem exists_scope {st : Store} {s : ScopeId} (h : s < st.size) :
    ∃ scope, st.scopes[s]? = some scope := ⟨st.scopes[s], Array.getElem?_eq_getElem h⟩

/-- Two stores with the same scope at `s` bind the same names in it. -/
theorem bindings_congr {st st' : Store} {s : ScopeId} (h : st'.scopes[s]? = st.scopes[s]?) :
    st'.bindings s = st.bindings s := by
  unfold bindings
  rw [h]

theorem outward_congr {st st' : Store} {s : ScopeId} (h : st'.scopes[s]? = st.scopes[s]?) :
    st'.outward s = st.outward s := by
  unfold outward
  rw [h]

@[simp] theorem size_define (st : Store) (s : ScopeId) (name : String) (value : Value) :
    (st.define s name value).size = st.size := Array.size_modify

@[simp] theorem size_clear (st : Store) (s : ScopeId) : (st.clear s).size = st.size :=
  Array.size_modify

@[simp] theorem size_child (st : Store) (s : ScopeId) : (st.child s).2.size = st.size + 1 :=
  Array.size_push _

@[simp] theorem child_fst (st : Store) (s : ScopeId) : (st.child s).1 = st.size := rfl

theorem getElem?_define_ne (st : Store) {s t : ScopeId} (name : String) (value : Value)
    (h : t ≠ s) : (st.define s name value).scopes[t]? = st.scopes[t]? := by
  unfold define
  rw [Array.getElem?_modify, if_neg h.symm]

theorem getElem?_clear_ne (st : Store) {s t : ScopeId} (h : t ≠ s) :
    (st.clear s).scopes[t]? = st.scopes[t]? := by
  unfold clear
  rw [Array.getElem?_modify, if_neg h.symm]

theorem getElem?_child_lt (st : Store) (s : ScopeId) {t : ScopeId} (h : t < st.size) :
    (st.child s).2.scopes[t]? = st.scopes[t]? := by
  unfold size at h
  unfold child
  rw [Array.getElem?_push, if_neg (Nat.ne_of_lt h)]

theorem getElem?_child_self (st : Store) (s : ScopeId) :
    (st.child s).2.scopes[st.size]? = some ⟨[], s :: st.outward s⟩ := by
  unfold child size
  rw [Array.getElem?_push, if_pos rfl]

theorem bindings_of_size_le {st : Store} {s : ScopeId} (h : st.size ≤ s) : st.bindings s = [] := by
  unfold bindings
  rw [getElem?_eq_none h]
  rfl

theorem outward_of_size_le {st : Store} {s : ScopeId} (h : st.size ≤ s) : st.outward s = [] := by
  unfold outward
  rw [getElem?_eq_none h]
  rfl

/-- A new scope binds nothing. -/
theorem bindings_child (st : Store) (r s : ScopeId) :
    (st.child r).2.bindings s = st.bindings s := by
  by_cases hs : s < st.size
  · exact bindings_congr (getElem?_child_lt st r hs)
  · have hnone : st.scopes[s]? = none := getElem?_eq_none (Nat.le_of_not_lt hs)
    unfold bindings child
    rw [hnone, Array.getElem?_push]
    split <;> simp_all

theorem outward_child_self (st : Store) (s : ScopeId) :
    (st.child s).2.outward st.size = s :: st.outward s := by
  unfold outward
  rw [getElem?_child_self]
  rfl

theorem outward_child_ne (st : Store) (s : ScopeId) {t : ScopeId} (h : t ≠ st.size) :
    (st.child s).2.outward t = st.outward t := by
  rcases Nat.lt_or_gt_of_ne h with hlt | hgt
  · exact outward_congr (getElem?_child_lt st s hlt)
  · rw [outward_of_size_le (Nat.le_of_lt hgt), outward_of_size_le]
    rw [size_child]
    exact hgt

theorem bindings_define_self (st : Store) {s : ScopeId} (name : String) (value : Value)
    (h : s < st.size) :
    (st.define s name value).bindings s = (st.bindings s).set name value := by
  obtain ⟨scope, hs⟩ := exists_scope h
  unfold bindings define
  rw [Array.getElem?_modify, if_pos rfl, hs]
  rfl

theorem bindings_clear_self (st : Store) (s : ScopeId) : (st.clear s).bindings s = [] := by
  unfold bindings clear
  rw [Array.getElem?_modify, if_pos rfl]
  cases st.scopes[s]? <;> rfl

theorem outward_define (st : Store) (s t : ScopeId) (name : String) (value : Value) :
    (st.define s name value).outward t = st.outward t := by
  unfold outward define
  rw [Array.getElem?_modify]
  split
  · cases st.scopes[t]? <;> rfl
  · rfl

theorem outward_clear (st : Store) (s t : ScopeId) : (st.clear s).outward t = st.outward t := by
  unfold outward clear
  rw [Array.getElem?_modify]
  split
  · cases st.scopes[t]? <;> rfl
  · rfl

/-! ## Changes within some scopes -/

/-- From `st` to `st'`, of the scopes that were there at most those in `W` are
bound anew. New scopes may have come. -/
structure Within (W : ScopeId → Prop) (st st' : Store) : Prop where
  size_le : st.size ≤ st'.size
  same : ∀ t, t < st.size → ¬W t → st'.scopes[t]? = st.scopes[t]?
  outward : ∀ t, t < st.size → st'.outward t = st.outward t

namespace Within

variable {W V : ScopeId → Prop} {a b c : Store}

theorem refl (W : ScopeId → Prop) (st : Store) : Within W st st :=
  ⟨Nat.le_refl _, fun _ _ _ => rfl, fun _ _ => rfl⟩

theorem trans (h : Within W a b) (k : Within W b c) : Within W a c := by
  refine ⟨Nat.le_trans h.size_le k.size_le, ?_, ?_⟩
  · intro t ht hw
    rw [k.same t (Nat.lt_of_lt_of_le ht h.size_le) hw, h.same t ht hw]
  · intro t ht
    rw [k.outward t (Nat.lt_of_lt_of_le ht h.size_le), h.outward t ht]

theorem mono (h : Within W a b) (hwv : ∀ t, t < a.size → W t → V t) : Within V a b := by
  refine ⟨h.size_le, ?_, h.outward⟩
  intro t ht hv
  exact h.same t ht fun hw => hv (hwv t ht hw)

/-- What is written later lies past the scopes that were there at first. -/
theorem trans_new (h : Within W a b) (k : Within V b c) (hv : ∀ t, V t → a.size ≤ t) :
    Within W a c := by
  refine ⟨Nat.le_trans h.size_le k.size_le, ?_, ?_⟩
  · intro t ht hw
    have hold : ¬V t := fun ht' => Nat.not_le_of_lt ht (hv t ht')
    rw [k.same t (Nat.lt_of_lt_of_le ht h.size_le) hold, h.same t ht hw]
  · intro t ht
    rw [k.outward t (Nat.lt_of_lt_of_le ht h.size_le), h.outward t ht]

theorem bindings (h : Within W a b) {t : ScopeId} (ht : t < a.size) (hw : ¬W t) :
    b.bindings t = a.bindings t := bindings_congr (h.same t ht hw)

theorem define (st : Store) (s : ScopeId) (name : String) (value : Value) :
    Within (· = s) st (st.define s name value) :=
  ⟨Nat.le_of_eq (size_define ..).symm, fun _ _ ht => getElem?_define_ne st name value ht,
    fun t _ => outward_define st s t name value⟩

theorem clear (st : Store) (s : ScopeId) : Within (· = s) st (st.clear s) :=
  ⟨Nat.le_of_eq (size_clear ..).symm, fun _ _ ht => getElem?_clear_ne st ht,
    fun t _ => outward_clear st s t⟩

theorem child (st : Store) (s : ScopeId) : Within (fun _ => False) st (st.child s).2 := by
  refine ⟨by simp, fun _ ht _ => getElem?_child_lt st s ht, ?_⟩
  intro t ht
  exact outward_congr (getElem?_child_lt st s ht)

end Within

end Store

end Patchbay.Language
