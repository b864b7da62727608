-- The scopes of calls. A call of a function makes one new scope, which sees what
-- the function sees; and the scopes and functions of a program point to scopes
-- of its own store, however it runs.
import Patchbay.Proofs.EvaluationFrame
import Patchbay.Proofs.EvaluationLikeness

namespace Patchbay.Language

theorem findSome?_congr {α β : Type} {f g : α → Option β} {xs : List α}
    (h : ∀ x ∈ xs, f x = g x) : xs.findSome? f = xs.findSome? g := by
  induction xs with
  | nil => rfl
  | cons x xs ih =>
    rw [List.findSome?_cons, List.findSome?_cons, h x List.mem_cons_self,
      ih fun y hy => h y (List.mem_cons_of_mem x hy)]

namespace Store

variable {st st' : Store} {s home : ScopeId} {param name : String} {arg : Value}

/-! ## Scopes that are there -/

/-- The scope and those around it are scopes of the store. -/
def Has (st : Store) (s : ScopeId) : Prop := ∀ t ∈ s :: st.outward s, t < st.size

theorem Has.lt (h : st.Has s) : s < st.size := h s List.mem_cons_self

/-- Names keep their values when only new scopes are written. -/
theorem Has.lookup?_within (h : st.Has s) (hw : Within (fun _ => False) st st') (name : String) :
    st'.lookup? s name = st.lookup? s name := by
  unfold lookup?
  rw [hw.outward s h.lt]
  refine findSome?_congr fun t ht => ?_
  rw [hw.bindings (h t ht) not_false]

/-- A scope that is there stays there. -/
theorem Has.within (h : st.Has s) (hw : Within (fun _ => False) st st') : st'.Has s := by
  intro t ht
  rw [hw.outward s h.lt] at ht
  exact Nat.lt_of_lt_of_le (h t ht) hw.size_le

/-- Only scopes that are there bind names. -/
theorem lt_size_of_lookup? {value : Value} (h : st.lookup? s name = some value) :
    s < st.size := by
  rcases Nat.lt_or_ge s st.size with hlt | hge
  · exact hlt
  · unfold lookup? at h
    rw [outward_of_size_le hge, List.findSome?_singleton, bindings_of_size_le hge] at h
    cases h

/-! ## The scope of a call -/

/-- With a new scope inside `home` that binds the parameter. -/
def frame (st : Store) (home : ScopeId) (param : String) (arg : Value) : Store :=
  (st.child home).2.define st.size param arg

theorem size_frame (st : Store) (home : ScopeId) (param : String) (arg : Value) :
    (st.frame home param arg).size = st.size + 1 := by
  unfold frame
  rw [size_define, size_child]

theorem outward_frame (st : Store) (home : ScopeId) (param : String) (arg : Value) :
    (st.frame home param arg).outward st.size = home :: st.outward home := by
  unfold frame
  rw [outward_define, outward_child_self]

theorem bindings_frame_self (st : Store) (home : ScopeId) (param : String) (arg : Value) :
    (st.frame home param arg).bindings st.size = [(param, arg)] := by
  unfold frame
  rw [bindings_define_self, bindings_child, bindings_of_size_le (Nat.le_refl _)]
  · rfl
  · rw [size_child]
    exact Nat.lt_succ_self _

theorem Within.frame (st : Store) (home : ScopeId) (param : String) (arg : Value) :
    Within (fun _ => False) st (st.frame home param arg) :=
  (Within.child st home).trans_new (Within.define _ st.size param arg)
    fun _ ht => Nat.le_of_eq ht.symm

theorem Has.frame (h : st.Has home) (param : String) (arg : Value) :
    (st.frame home param arg).Has st.size := by
  intro t ht
  rw [outward_frame] at ht
  rw [size_frame]
  rcases List.mem_cons.mp ht with rfl | ht
  · exact Nat.lt_succ_self _
  · exact Nat.lt_succ_of_lt (h t ht)

theorem lookup?_frame_self (st : Store) (home : ScopeId) (param : String) (arg : Value) :
    (st.frame home param arg).lookup? st.size param = some arg := by
  unfold lookup?
  rw [List.findSome?_cons, bindings_frame_self]
  simp [Fields.get?]

/-- Any other name is looked up where the function was made. -/
theorem Has.lookup?_frame (h : st.Has home) (hne : name ≠ param) (arg : Value) :
    (st.frame home param arg).lookup? st.size name = st.lookup? home name := by
  have hnone : Fields.get? [(param, arg)] name = none := by
    unfold Fields.get?
    rw [if_neg hne.symm]
    rfl
  have hhome := h.lookup?_within (Within.frame st home param arg) name
  unfold lookup? at hhome ⊢
  rw [(Within.frame st home param arg).outward home h.lt] at hhome
  rw [outward_frame, List.findSome?_cons, bindings_frame_self, hnone]
  exact hhome

end Store

theorem apply_closure (depth : Nat) (caller : ScopeId) (param : String) (body : Expr)
    (home : ScopeId) (arg : Value) (st : Store) :
    apply (depth + 1) caller (.closure param body home) arg st =
      evaluate depth st.size body (st.frame home param arg) := rfl

/-! ## Stores that are alike -/

namespace StoreLike

variable {R : Pairing} {st st' st'' : Store}

/-- More scopes on one side are no harm. -/
theorem within_right (h : StoreLike R st st')
    (hw : Store.Within (fun _ => False) st' st'') : StoreLike R st st'' := by
  refine ⟨h.left_lt, fun hab => Nat.lt_of_lt_of_le (h.right_lt hab) hw.size_le, h.right_unique,
    h.left_unique, fun hab => ?_, fun hab => ?_⟩
  · rw [hw.bindings (h.right_lt hab) not_false]
    exact h.bindings hab
  · rw [hw.outward _ (h.right_lt hab)]
    exact h.outward hab

theorem has_right (h : StoreLike R st st') {a b : Nat} (hab : R a b) : st'.Has b := by
  have hout : ∀ {xs ys : List Nat}, List.Forall₂ R xs ys → ∀ t ∈ ys, t < st'.size := by
    intro xs ys hxs
    induction hxs with
    | nil => exact List.forall_mem_nil _
    | cons hxy _ ih => exact List.forall_mem_cons.mpr ⟨h.right_lt hxy, ih⟩
  exact hout (.cons hab (h.outward hab))

end StoreLike

theorem Store.size_install (st : Store) (s : ScopeId) : (st.install s).size = st.size := by
  unfold Store.install
  generalize Builtin.all = bs
  induction bs generalizing st with
  | nil => rfl
  | cons b bs ih => exact (ih _).trans (size_define ..)

/-! ## Stores that point to scopes of their own -/

/-- Each of the first `n` scopes with itself. -/
def Pairing.upTo (n : Nat) : Pairing := fun a b => a = b ∧ a < n

theorem Pairing.upTo_grown (n k : Nat) : (upTo n).grown n n k = upTo (n + k) := by
  funext a b
  apply propext
  constructor
  · rintro (⟨rfl, ha⟩ | ⟨i, hi, rfl, rfl⟩)
    · exact ⟨rfl, Nat.lt_add_right k ha⟩
    · exact ⟨rfl, Nat.add_lt_add_left hi n⟩
  · rintro ⟨rfl, ha⟩
    by_cases hn : a < n
    · exact Or.inl ⟨rfl, hn⟩
    · exact Or.inr ⟨a - n, by omega, by omega, by omega⟩

/-- The scopes of the store and the functions in them point to scopes of the store. -/
def Store.Closed (st : Store) : Prop := StoreLike (.upTo st.size) st st

namespace Store.Closed

variable {st : Store} {s : ScopeId}

theorem empty : Store.empty.Closed := by
  have hno : ∀ {a b : Nat}, ¬Pairing.upTo Store.empty.size a b := fun h => Nat.not_lt_zero _ h.2
  exact ⟨fun h => (hno h).elim, fun h => (hno h).elim, fun h => (hno h).elim,
    fun h => (hno h).elim, fun h => (hno h).elim, fun h => (hno h).elim⟩

theorem define (h : st.Closed) (hs : s < st.size) (name : String) {value : Value}
    (hv : value.Like (.upTo st.size) value) : (st.define s name value).Closed := by
  unfold Closed
  rw [size_define]
  exact StoreLike.define h ⟨rfl, hs⟩ name hv

theorem child (h : st.Closed) (hs : s < st.size) : (st.child s).2.Closed := by
  unfold Closed
  rw [size_child, ← Pairing.upTo_grown]
  exact StoreLike.child h ⟨rfl, hs⟩

/-- A new scope with nothing around it. -/
theorem root (h : st.Closed) : st.root.2.Closed := by
  have hsize : st.root.2.size = st.size + 1 := Array.size_push _
  have hold : ∀ {a : Nat}, a < st.size → st.root.2.scopes[a]? = st.scopes[a]? := by
    intro a ha
    unfold Store.root
    unfold size at ha
    rw [Array.getElem?_push, if_neg (Nat.ne_of_lt ha)]
  have hnew : st.root.2.scopes[st.size]? = some ⟨[], []⟩ := by
    unfold Store.root size
    rw [Array.getElem?_push, if_pos rfl]
  have hle : ∀ a b, Pairing.upTo st.size a b → Pairing.upTo (st.size + 1) a b :=
    fun a b hab => ⟨hab.1, Nat.lt_succ_of_lt hab.2⟩
  unfold Closed
  rw [hsize]
  refine ⟨fun hab => by rw [hsize]; exact hab.2, fun hab => by rw [hsize, ← hab.1]; exact hab.2,
    fun hab hac => hab.1.symm.trans hac.1, fun hac hbc => hac.1.trans hbc.1.symm, ?_, ?_⟩
  · rintro a b ⟨rfl, ha⟩
    rcases Nat.lt_succ_iff_lt_or_eq.mp ha with ha | rfl
    · rw [bindings_congr (hold ha)]
      exact (StoreLike.bindings h ⟨rfl, ha⟩).mono hle
    · unfold bindings
      rw [hnew]
      exact .nil
  · rintro a b ⟨rfl, ha⟩
    rcases Nat.lt_succ_iff_lt_or_eq.mp ha with ha | rfl
    · rw [outward_congr (hold ha)]
      exact (StoreLike.outward h ⟨rfl, ha⟩).imp hle
    · unfold outward
      rw [hnew]
      exact .nil

theorem install (h : st.Closed) (hs : s < st.size) : (st.install s).Closed := by
  unfold Store.install
  generalize Builtin.all = bs
  induction bs generalizing st with
  | nil => exact h
  | cons b bs ih =>
    refine ih (h.define hs b.name (.builtin b .nil)) ?_
    rw [size_define]
    exact hs

/-- The functions in a value that is looked up have their scopes in the store. -/
theorem like_of_lookup? (h : st.Closed) {name : String} {value : Value}
    (hv : st.lookup? s name = some value) : value.Like (.upTo st.size) value := by
  have hrel := StoreLike.lookup? h ⟨rfl, lt_size_of_lookup? hv⟩ name
  rw [hv] at hrel
  cases hrel with
  | some hlike => exact hlike

end Store.Closed

end Patchbay.Language
