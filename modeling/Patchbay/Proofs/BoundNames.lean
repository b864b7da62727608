-- Names that are bound: by an expression around their use, by the scopes that a
-- scope sees, and by the scopes of the functions that a value holds. Programs only
-- add scopes and names, so what is bound stays bound.
import Patchbay.Proofs.Scopes

namespace Patchbay.Language

/-! ## Expressions -/

mutual

/-- Every name that the expression looks up is among `names`, or is bound around it: as the
parameter of a function, or by a let that it comes after. -/
def Expr.scopedIn : Expr → List String → Bool
  | .number _, _ | .text _, _ => true
  | .ident name, names => names.contains name
  | .field base _, names => names.contains base
  | .bind name value next, names => value.scopedIn names && next.scopedIn (name :: names)
  | .lambda param body, names => body.scopedIn (param :: names)
  | .record fields, names => Expr.fieldsScopedIn fields names
  | .list items, names => Expr.itemsScopedIn items names
  | .cond test yes no, names => test.scopedIn names && yes.scopedIn names && no.scopedIn names
  | .apply callee args, names => callee.scopedIn names && Expr.itemsScopedIn args names
  | .pipe seed stages, names => seed.scopedIn names && Expr.itemsScopedIn stages names
  | .binary _ left right, names => left.scopedIn names && right.scopedIn names

def Expr.fieldsScopedIn : List (String × Expr) → List String → Bool
  | [], _ => true
  | (_, e) :: rest, names => e.scopedIn names && Expr.fieldsScopedIn rest names

def Expr.itemsScopedIn : List Expr → List String → Bool
  | [], _ => true
  | e :: rest, names => e.scopedIn names && Expr.itemsScopedIn rest names

end

theorem Expr.scopedIn_of_field {names : List String} {fields : List (String × Expr)}
    (h : fieldsScopedIn fields names = true) : ∀ entry ∈ fields, entry.2.scopedIn names = true := by
  induction fields with
  | nil => exact List.forall_mem_nil _
  | cons entry rest ih =>
    obtain ⟨hentry, hrest⟩ := Bool.and_eq_true_iff.mp h
    exact List.forall_mem_cons.mpr ⟨hentry, ih hrest⟩

theorem Expr.scopedIn_of_item {names : List String} {items : List Expr}
    (h : itemsScopedIn items names = true) : ∀ e ∈ items, e.scopedIn names = true := by
  induction items with
  | nil => exact List.forall_mem_nil _
  | cons e rest ih =>
    obtain ⟨he, hrest⟩ := Bool.and_eq_true_iff.mp h
    exact List.forall_mem_cons.mpr ⟨he, ih hrest⟩

/-! ## Scopes -/

namespace Store

variable {st st' : Store} {s t : ScopeId} {name : String}

/-- The scope or one around it binds the name. -/
def Sees (st : Store) (s : ScopeId) (name : String) : Prop :=
  ∃ t ∈ s :: st.outward s, name ∈ (st.bindings t).names

/-- A name that is seen has a value, which one of these scopes binds. -/
theorem Sees.lookup? (h : st.Sees s name) :
    ∃ v, st.lookup? s name = some v ∧
      ∃ t ∈ s :: st.outward s, (name, v) ∈ st.bindings t := by
  obtain ⟨t, ht, hname⟩ := h
  obtain ⟨w, hw⟩ := Fields.exists_of_mem_names hname
  have hsome : (st.lookup? s name).isSome = true :=
    List.findSome?_isSome_iff.mpr ⟨t, ht, Option.isSome_iff_exists.mpr ⟨w, hw⟩⟩
  obtain ⟨v, hv⟩ := Option.isSome_iff_exists.mp hsome
  obtain ⟨u, hu, hget⟩ := List.exists_of_findSome?_eq_some hv
  exact ⟨v, hv, u, hu, Fields.mem_of_get? hget⟩

theorem lt_size_of_mem_names (h : name ∈ (st.bindings t).names) : t < st.size := by
  rcases Nat.lt_or_ge t st.size with hlt | hge
  · exact hlt
  · rw [bindings_of_size_le hge] at h
    cases h

/-- No scope is lost, and no name is lost to any scope. -/
structure Grows (st st' : Store) : Prop where
  size_le : st.size ≤ st'.size
  sees : ∀ s name, st.Sees s name → st'.Sees s name

theorem Grows.refl (st : Store) : st.Grows st := ⟨Nat.le_refl _, fun _ _ h => h⟩

theorem Grows.trans {st'' : Store} (h : st.Grows st') (k : st'.Grows st'') : st.Grows st'' :=
  ⟨Nat.le_trans h.size_le k.size_le, fun s name hs => k.sees s name (h.sees s name hs)⟩

theorem mem_names_define (h : name ∈ (st.bindings t).names) (s : ScopeId) (other : String)
    (value : Value) : name ∈ ((st.define s other value).bindings t).names := by
  by_cases ht : t = s
  · subst ht
    rw [bindings_define_self st other value (lt_size_of_mem_names h), Fields.names_set]
    split
    · exact h
    · exact List.mem_append_left _ h
  · rwa [bindings_congr (getElem?_define_ne st other value ht)]

theorem grows_define (st : Store) (s : ScopeId) (name : String) (value : Value) :
    st.Grows (st.define s name value) := by
  refine ⟨Nat.le_of_eq (size_define ..).symm, ?_⟩
  rintro u other ⟨t, ht, hname⟩
  refine ⟨t, ?_, mem_names_define hname s name value⟩
  rwa [outward_define]

theorem grows_child (st : Store) (s : ScopeId) : st.Grows (st.child s).2 := by
  refine ⟨by simp, ?_⟩
  rintro u other ⟨t, ht, hname⟩
  refine ⟨t, ?_, ?_⟩
  · rcases List.mem_cons.mp ht with rfl | ht
    · exact List.mem_cons_self
    · have hu : u ≠ st.size := by
        rintro rfl
        rw [outward_of_size_le (Nat.le_refl _)] at ht
        cases ht
      rw [outward_child_ne st s hu]
      exact List.mem_cons_of_mem _ ht
  · rwa [bindings_child]

/-- The scope is one of those from `base` on, and sees the names. -/
structure Offers (base : ScopeId) (st : Store) (s : ScopeId) (names : List String) : Prop where
  base_le : base ≤ s
  lt_size : s < st.size
  sees : ∀ name ∈ names, st.Sees s name

namespace Offers

variable {base : ScopeId} {names : List String}

theorem mono (h : Offers base st s names) (hg : st.Grows st') : Offers base st' s names :=
  ⟨h.base_le, Nat.lt_of_lt_of_le h.lt_size hg.size_le,
    fun name hn => hg.sees s name (h.sees name hn)⟩

theorem of_subset {names' : List String} (h : Offers base st s names)
    (hsub : ∀ name ∈ names', name ∈ names) : Offers base st s names' :=
  ⟨h.base_le, h.lt_size, fun name hn => h.sees name (hsub name hn)⟩

/-- A scope offers what it binds. -/
theorem define (h : Offers base st s names) (name : String) (value : Value) :
    Offers base (st.define s name value) s (name :: names) := by
  have hold := h.mono (grows_define st s name value)
  refine ⟨hold.base_le, hold.lt_size, List.forall_mem_cons.mpr ⟨?_, hold.sees⟩⟩
  refine ⟨s, List.mem_cons_self, ?_⟩
  rw [bindings_define_self st name value h.lt_size, Fields.names_set]
  split
  · assumption
  · exact List.mem_append_right _ List.mem_cons_self

/-- A new scope offers what the scope offers that it is inside of. -/
theorem child (h : Offers base st s names) : Offers base (st.child s).2 st.size names := by
  refine ⟨Nat.le_trans h.base_le (Nat.le_of_lt h.lt_size), by simp, ?_⟩
  intro name hn
  obtain ⟨t, ht, hname⟩ := h.sees name hn
  refine ⟨t, List.mem_cons_of_mem _ ?_, ?_⟩
  · rwa [outward_child_self]
  · rwa [bindings_child]

end Offers

end Store

/-! ## Values and stores -/

/-- Wherever the value holds a function of the program, the names that its body looks up are
its parameter and names that its scope sees. -/
inductive Value.Scoped (base : ScopeId) (st : Store) : Value → Prop
  | number (x : Float) : Scoped base st (.number x)
  | text (t : String) : Scoped base st (.text t)
  | record {fields : List (String × Value)} (h : ∀ field ∈ fields, Scoped base st field.2) :
      Scoped base st (.record fields)
  | list {items : List Value} (h : ∀ v ∈ items, Scoped base st v) : Scoped base st (.list items)
  | closure {param : String} {body : Expr} {home : ScopeId} {names : List String}
      (hhome : st.Offers base home names) (hbody : body.scopedIn (param :: names) = true) :
      Scoped base st (.closure param body home)
  | builtin (op : Builtin) {held : List Value} (h : ∀ v ∈ held, Scoped base st v) :
      Scoped base st (.builtin op held)

theorem Value.Scoped.mono {base : ScopeId} {st st' : Store} {v : Value} (h : v.Scoped base st)
    (hg : st.Grows st') : v.Scoped base st' := by
  induction h with
  | number x => exact .number x
  | text t => exact .text t
  | record _ ih => exact .record ih
  | list _ ih => exact .list ih
  | closure hhome hbody => exact .closure (hhome.mono hg) hbody
  | builtin op _ ih => exact .builtin op ih

theorem Value.Scoped.items {base : ScopeId} {st : Store} {xs : List Value}
    (h : (Value.list xs).Scoped base st) : ∀ x ∈ xs, x.Scoped base st := by
  cases h with
  | list h => exact h

/-- The scopes from `base` on are inside each other only, and all values that they bind hold
such functions only. -/
structure Store.Sound (base : ScopeId) (st : Store) : Prop where
  values : ∀ s, base ≤ s → ∀ entry ∈ st.bindings s, entry.2.Scoped base st
  outward : ∀ s, base ≤ s → ∀ t ∈ st.outward s, base ≤ t

namespace Store.Sound

variable {base s : ScopeId} {st : Store}

theorem define (h : st.Sound base) (s : ScopeId) (name : String) {value : Value}
    (hv : value.Scoped base st) : (st.define s name value).Sound base := by
  have hg := grows_define st s name value
  refine ⟨?_, ?_⟩
  · intro t ht entry hmem
    have hold : ∀ entry ∈ st.bindings t, entry.2.Scoped base (st.define s name value) :=
      fun entry hmem => (h.values t ht entry hmem).mono hg
    by_cases heq : t = s
    · subst heq
      have hlt : t < st.size := by
        rw [← size_define st t name value]
        exact lt_size_of_mem_names (List.mem_map_of_mem hmem)
      rw [bindings_define_self st name value hlt] at hmem
      rcases Fields.mem_set hmem with hmem | heq
      · exact hold entry hmem
      · exact heq ▸ hv.mono hg
    · rw [bindings_congr (getElem?_define_ne st name value heq)] at hmem
      exact hold entry hmem
  · intro t ht u hu
    rw [outward_define] at hu
    exact h.outward t ht u hu

theorem child (h : st.Sound base) (hs : base ≤ s) : (st.child s).2.Sound base := by
  refine ⟨?_, ?_⟩
  · intro t ht entry hmem
    rw [bindings_child] at hmem
    exact (h.values t ht entry hmem).mono (grows_child st s)
  · intro t ht u hu
    by_cases heq : t = st.size
    · rw [heq, outward_child_self] at hu
      rcases List.mem_cons.mp hu with rfl | hu
      · exact hs
      · exact h.outward s hs u hu
    · rw [outward_child_ne st s heq] at hu
      exact h.outward t ht u hu

end Store.Sound

end Patchbay.Language
