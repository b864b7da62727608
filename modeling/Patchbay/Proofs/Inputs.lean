-- The inputs of a node. No two of them have one name, so a scope that was
-- empty binds every input, in order and under its own name.
import Patchbay.Graph.Recompute
import Patchbay.Proofs.Scopes

namespace Patchbay

open Patchbay.Language

/-! ## Names -/

theorem toString_nat_injective {i j : Nat} (h : toString i = toString j) : i = j := by
  rw [Nat.toString_eq_ofList_toDigits, Nat.toString_eq_ofList_toDigits] at h
  have hd := congrArg (fun text => Nat.ofDigitChars 10 text.toList 0) h
  simpa only [String.toList_ofList, Nat.ofDigitChars_ten_toDigits] using hd

/-- The code of the character that names the input at `index`. -/
def inputCode (index : Nat) : Nat := (97 + index) % wordSize

/-- The name is one character where the index fits a word and its code is a character. -/
def HasLetter (index : Nat) : Prop := index < wordSize ∧ (inputCode index).isValidChar

instance (index : Nat) : Decidable (HasLetter index) := inferInstanceAs (Decidable (_ ∧ _))

theorem inputName_letter {index : Nat} (h : HasLetter index) :
    inputName index = (Char.ofNat (inputCode index)).toString := if_pos h

theorem inputName_number {index : Nat} (h : ¬HasLetter index) :
    inputName index = "in" ++ toString index := if_neg h

theorem inputCode_injective {i j : Nat} (hi : i < wordSize) (hj : j < wordSize)
    (h : inputCode i = inputCode j) : i = j := by
  unfold inputCode at h
  unfold wordSize at *
  omega

theorem toNat_ofNat_of_valid {n : Nat} (h : n.isValidChar) : (Char.ofNat n).toNat = n := by
  unfold Char.ofNat
  rw [dif_pos h]
  rfl

/-- The two forms of a name differ in length. -/
theorem letter_ne_number (c : Char) (index : Nat) : c.toString ≠ "in" ++ toString index := by
  intro h
  have hl := congrArg String.length h
  rw [String.length_append] at hl
  have : c.toString.length = 1 := by simp
  have : "in".length = 2 := rfl
  omega

/-- No two inputs of a node share a name. -/
theorem inputName_injective {i j : Nat} (h : inputName i = inputName j) : i = j := by
  by_cases hi : HasLetter i <;> by_cases hj : HasLetter j
  · rw [inputName_letter hi, inputName_letter hj] at h
    have hc : Char.ofNat (inputCode i) = Char.ofNat (inputCode j) := by
      have := congrArg String.toList h
      simpa using this
    apply inputCode_injective hi.1 hj.1
    rw [← toNat_ofNat_of_valid hi.2, hc, toNat_ofNat_of_valid hj.2]
  · rw [inputName_letter hi, inputName_number hj] at h
    exact absurd h (letter_ne_number _ _)
  · rw [inputName_number hi, inputName_letter hj] at h
    exact absurd h.symm (letter_ne_number _ _)
  · rw [inputName_number hi, inputName_number hj] at h
    have hl := congrArg String.toList h
    rw [String.toList_append, String.toList_append] at hl
    exact toString_nat_injective (String.toList_inj.mp (List.append_cancel_left hl))

/-! ## Bindings -/

/-- What a scope binds that holds the inputs `vs` and nothing else. -/
def inputBindings (vs : List Value) : Fields Value := vs.mapIdx fun k v => (inputName k, v)

theorem mem_names_inputBindings {vs : List Value} {name : String}
    (h : name ∈ (inputBindings vs).names) : ∃ k < vs.length, name = inputName k := by
  unfold Fields.names inputBindings at h
  obtain ⟨entry, hentry, rfl⟩ := List.mem_map.mp h
  obtain ⟨k, hk, rfl⟩ := List.mem_mapIdx.mp hentry
  exact ⟨k, hk, rfl⟩

theorem inputName_length_not_mem (vs : List Value) :
    inputName vs.length ∉ (inputBindings vs).names := by
  intro h
  obtain ⟨k, hk, hn⟩ := mem_names_inputBindings h
  exact Nat.ne_of_lt hk (inputName_injective hn).symm

namespace Graph

theorem bindInputs_within (s : ScopeId) (vs : List Value) (index : Nat) (st : Store) :
    Store.Within (· = s) st (bindInputs s index vs st) := by
  induction vs generalizing index st with
  | nil => exact Store.Within.refl _ st
  | cons v vs ih => exact (Store.Within.define st s _ v).trans (ih (index + 1) _)

@[simp] theorem size_bindInputs (s : ScopeId) (vs : List Value) (index : Nat) (st : Store) :
    (bindInputs s index vs st).size = st.size := by
  induction vs generalizing index st with
  | nil => rfl
  | cons v vs ih => rw [bindInputs, ih, Store.size_define]

/-- Inputs that come after others are bound after them. -/
theorem bindings_bindInputs_after {s : ScopeId} (before vs : List Value) {st : Store}
    (hs : s < st.size) (h : st.bindings s = inputBindings before) :
    (bindInputs s before.length vs st).bindings s = inputBindings (before ++ vs) := by
  induction vs generalizing before st with
  | nil => rw [bindInputs, h, List.append_nil]
  | cons v vs ih =>
    have hnext : (st.define s (inputName before.length) v).bindings s =
        inputBindings (before ++ [v]) := by
      rw [Store.bindings_define_self _ _ _ hs, h,
        Fields.set_new v (inputName_length_not_mem before)]
      unfold inputBindings
      rw [List.mapIdx_concat]
    have hrest := ih (before ++ [v]) (by rw [Store.size_define]; exact hs) hnext
    rw [List.length_append, List.length_singleton, List.append_assoc] at hrest
    rw [bindInputs]
    exact hrest

/-- An empty scope holds exactly the inputs afterwards. -/
theorem bindings_bindInputs {s : ScopeId} (vs : List Value) {st : Store} (hs : s < st.size)
    (h : st.bindings s = []) : (bindInputs s 0 vs st).bindings s = inputBindings vs :=
  bindings_bindInputs_after [] vs hs h

end Graph

end Patchbay
