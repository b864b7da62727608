-- Named entries in the order in which their names first came. Setting a
-- name that is there keeps its place.
namespace Patchbay

abbrev Fields (α : Type) := List (String × α)

namespace Fields

variable {α : Type}

def get? : Fields α → String → Option α
  | [], _ => none
  | (key, value) :: rest, name => if key = name then some value else get? rest name

def set : Fields α → String → α → Fields α
  | [], name, value => [(name, value)]
  | (key, old) :: rest, name, value =>
    if key = name then (key, value) :: rest else (key, old) :: set rest name value

/-- The entries set one after the other. -/
def ofList (entries : List (String × α)) : Fields α :=
  entries.foldl (fun fields entry => fields.set entry.1 entry.2) []

def names (fields : Fields α) : List String := fields.map Prod.fst

/-! ## Laws -/

theorem get?_set (fields : Fields α) (name other : String) (value : α) :
    (fields.set name value).get? other =
      if name = other then some value else fields.get? other := by
  induction fields with
  | nil => simp [set, get?]
  | cons entry rest ih =>
    obtain ⟨key, old⟩ := entry
    simp only [set]
    split
    · subst_vars
      simp only [get?]
      split <;> rfl
    · simp only [get?, ih]
      split
      · split
        · simp_all
        · rfl
      · rfl

theorem names_set (fields : Fields α) (name : String) (value : α) :
    (fields.set name value).names =
      if name ∈ fields.names then fields.names else fields.names ++ [name] := by
  induction fields with
  | nil => simp [set, names]
  | cons entry rest ih =>
    obtain ⟨key, old⟩ := entry
    by_cases hk : key = name
    · simp [set, names, hk]
    · have hn : ¬name = key := fun h => hk h.symm
      simp only [names] at ih
      by_cases hm : name ∈ rest.map Prod.fst <;>
        simp only [set, names, hk, if_false, List.map_cons, ih, List.mem_cons, hn, hm, if_true,
          or_true, or_self, List.cons_append]

/-- A new name comes last. -/
theorem set_new {fields : Fields α} {name : String} (value : α) (h : name ∉ fields.names) :
    fields.set name value = fields ++ [(name, value)] := by
  induction fields with
  | nil => rfl
  | cons entry rest ih =>
    obtain ⟨key, old⟩ := entry
    simp only [names, List.map_cons, List.mem_cons, not_or] at h
    simp only [set, if_neg (Ne.symm h.1), List.cons_append, ih h.2]

theorem exists_of_mem_names {fields : Fields α} {name : String} (h : name ∈ fields.names) :
    ∃ value, fields.get? name = some value := by
  induction fields with
  | nil => cases h
  | cons entry rest ih =>
    obtain ⟨key, value⟩ := entry
    unfold get?
    split
    · exact ⟨value, rfl⟩
    · rename_i hne
      rcases List.mem_cons.mp h with heq | hrest
      · exact absurd heq.symm hne
      · exact ih hrest

theorem mem_of_get? {fields : Fields α} {name : String} {value : α}
    (h : fields.get? name = some value) : (name, value) ∈ fields := by
  induction fields with
  | nil => cases h
  | cons entry rest ih =>
    obtain ⟨key, first⟩ := entry
    unfold get? at h
    split at h
    · rename_i heq
      cases h
      exact heq ▸ List.mem_cons_self
    · exact List.mem_cons_of_mem _ (ih h)

/-- With distinct names, each entry is the one that its name stands for. -/
theorem get?_of_mem {fields : Fields α} (hnodup : fields.names.Nodup) {entry : String × α}
    (h : entry ∈ fields) : fields.get? entry.1 = some entry.2 := by
  induction fields with
  | nil => cases h
  | cons first rest ih =>
    obtain ⟨hnew, hrest⟩ := List.nodup_cons.mp hnodup
    unfold get?
    rcases List.mem_cons.mp h with rfl | h
    · exact if_pos rfl
    · have hne : ¬first.1 = entry.1 := fun heq => hnew (heq ▸ List.mem_map_of_mem h)
      rw [if_neg hne]
      exact ih hrest h

theorem mem_set {fields : Fields α} {name : String} {value : α} {entry : String × α}
    (h : entry ∈ fields.set name value) : entry ∈ fields ∨ entry.2 = value := by
  induction fields with
  | nil =>
    rw [set, List.mem_singleton] at h
    exact Or.inr (h ▸ rfl)
  | cons first rest ih =>
    obtain ⟨key, old⟩ := first
    unfold set at h
    split at h
    · rcases List.mem_cons.mp h with rfl | h
      · exact Or.inr rfl
      · exact Or.inl (List.mem_cons_of_mem _ h)
    · rcases List.mem_cons.mp h with rfl | h
      · exact Or.inl List.mem_cons_self
      · rcases ih h with h | h
        · exact Or.inl (List.mem_cons_of_mem _ h)
        · exact Or.inr h

end Fields

end Patchbay
