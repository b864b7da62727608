-- The search for a way that one more edge would close. Nodes are visited from a
-- stack, whatever the order in which the consumers of a node go onto it. What was
-- left and what is on the stack cover all that comes after the start, and each
-- visit uses up the stack or the edges out of a node, so the search ends.
import Patchbay.Proofs.Wiring

namespace Patchbay

namespace Graph

variable {g : Graph} {goal start id : NodeId} {stack seen : List NodeId} {n : Nat}

/-! ## Visits -/

/-- How far a search has come: the nodes that are still to visit, with the next one in front,
and those that were left. -/
structure Progress where
  stack : List NodeId
  seen : List NodeId

variable {s t u : Progress}

/-- One visit to a node other than `goal`. A node that is left for the first time puts its
consumers onto the stack, in any order. -/
inductive Visit (g : Graph) (goal : NodeId) : Progress → Progress → Prop
  | again {id : NodeId} {stack seen : List NodeId} (hne : id ≠ goal) (hseen : id ∈ seen) :
      Visit g goal ⟨id :: stack, seen⟩ ⟨stack, seen⟩
  | leave {id : NodeId} {stack seen next : List NodeId} (hne : id ≠ goal) (hseen : id ∉ seen)
      (hnext : next.Perm (g.consumersOf id ++ stack)) :
      Visit g goal ⟨id :: stack, seen⟩ ⟨next, id :: seen⟩

/-- So many visits one after the other. -/
inductive Visits (g : Graph) (goal : NodeId) : Nat → Progress → Progress → Prop
  | nil (s : Progress) : Visits g goal 0 s s
  | cons {n : Nat} {s t u : Progress} (h : Visit g goal s t) (hrest : Visits g goal n t u) :
      Visits g goal (n + 1) s u

/-! ## How long a search takes -/

/-- The visits that are left to make: one for each node on the stack, and one for each edge out
of a node that was not left yet. -/
def Progress.work (g : Graph) (s : Progress) : Nat :=
  s.stack.length + g.edges.countP fun e => e.producer ∉ s.seen

/-- The edges out of a node that is left lead to its consumers. -/
theorem countP_leave (h : id ∉ seen) :
    (g.edges.countP fun e => e.producer ∉ seen) =
      (g.consumersOf id).length + g.edges.countP fun e => e.producer ∉ id :: seen := by
  unfold consumersOf
  rw [List.length_map, ← List.countP_eq_length_filter]
  induction g.edges with
  | nil => rfl
  | cons e edges ih =>
    simp only [List.countP_cons, ih, List.mem_cons]
    by_cases he : e.producer = id
    · simp [he, h]; omega
    · simp [he]; omega

theorem Visit.work (h : Visit g goal s t) : s.work g = t.work g + 1 := by
  cases h with
  | again => simp only [Progress.work, List.length_cons]; omega
  | leave _ hseen hnext =>
    simp only [Progress.work, countP_leave hseen, hnext.length_eq, List.length_cons,
      List.length_append]
    omega

theorem Visits.work (h : Visits g goal n s t) : s.work g = t.work g + n := by
  induction h with
  | nil => rfl
  | cons h _ ih => rw [h.work, ih, Nat.add_assoc]

theorem work_start (g : Graph) (start : NodeId) :
    (⟨[start], []⟩ : Progress).work g = g.edges.length + 1 := by
  have hall : (g.edges.countP fun e => e.producer ∉ ([] : List NodeId)) = g.edges.length :=
    List.countP_eq_length.mpr fun e _ => by simp
  rw [Progress.work, hall, List.length_singleton, Nat.add_comm]

/-! ## What a search has covered -/

/-- What comes after `start` was left or is still to visit, or comes after a node that is. -/
structure Covers (g : Graph) (goal start : NodeId) (s : Progress) : Prop where
  first : start ∈ s.seen ∨ start ∈ s.stack
  closed : ∀ a ∈ s.seen, ∀ b, g.Feeds a b → b ∈ s.seen ∨ b ∈ s.stack
  missed : goal ∉ s.seen
  reached : ∀ a ∈ s.stack, g.Leads start a

theorem covers_start (g : Graph) (goal start : NodeId) : Covers g goal start ⟨[start], []⟩ := by
  refine ⟨Or.inr (List.mem_singleton_self start), nofun, nofun, ?_⟩
  intro a ha
  rw [List.mem_singleton.mp ha]
  exact Leads.refl g start

theorem Covers.visit (h : Covers g goal start s) (hv : Visit g goal s t) :
    Covers g goal start t := by
  cases hv with
  | @again id stack seen _ hseen =>
    -- The node on top of the stack counts as left, and nothing else is taken away.
    have hmove : ∀ b, b ∈ seen ∨ b ∈ id :: stack → b ∈ seen ∨ b ∈ stack := by
      rintro b (hb | hb)
      · exact Or.inl hb
      · rcases List.mem_cons.mp hb with rfl | hb
        · exact Or.inl hseen
        · exact Or.inr hb
    exact ⟨hmove _ h.first, fun a ha b hf => hmove b (h.closed a ha b hf), h.missed,
      fun a ha => h.reached a (List.mem_cons_of_mem _ ha)⟩
  | @leave id stack seen next hne _ hnext =>
    have hmem : ∀ b, b ∈ next ↔ g.Feeds id b ∨ b ∈ stack := by
      intro b
      rw [hnext.mem_iff, List.mem_append, mem_consumersOf]
    have hmove : ∀ b, b ∈ seen ∨ b ∈ id :: stack → b ∈ id :: seen ∨ b ∈ next := by
      rintro b (hb | hb)
      · exact Or.inl (List.mem_cons_of_mem _ hb)
      · rcases List.mem_cons.mp hb with rfl | hb
        · exact Or.inl List.mem_cons_self
        · exact Or.inr ((hmem b).mpr (Or.inr hb))
    refine ⟨hmove _ h.first, ?_, ?_, ?_⟩
    · intro a ha b hf
      rcases List.mem_cons.mp ha with rfl | ha
      · exact Or.inr ((hmem b).mpr (Or.inl hf))
      · exact hmove b (h.closed a ha b hf)
    · intro hgoal
      rcases List.mem_cons.mp hgoal with rfl | hgoal
      · exact hne rfl
      · exact h.missed hgoal
    · intro a ha
      rcases (hmem a).mp ha with hf | ha
      · exact (h.reached id List.mem_cons_self).trans hf.leads
      · exact h.reached a (List.mem_cons_of_mem _ ha)

theorem Covers.visits (h : Covers g goal start s) (hv : Visits g goal n s t) :
    Covers g goal start t := by
  induction hv with
  | nil => exact h
  | cons hv _ ih => exact ih (h.visit hv)

/-- Where nothing is left to visit, all that comes after the start was left. -/
theorem Covers.mem_seen (h : Covers g goal start s) (hstack : s.stack = [])
    (hl : g.Leads start id) : id ∈ s.seen := by
  have hstart := h.first
  have hclosed := h.closed
  rw [hstack] at hstart hclosed
  simp only [List.not_mem_nil, or_false] at hstart hclosed
  induction hl with
  | refl => exact hstart
  | tail _ hf ih => exact hclosed _ ih _ hf

/-- A search that cannot go on has found the goal, or has nothing left to visit. -/
theorem stack_of_stopped (h : ∀ t, ¬Visit g goal s t) :
    s.stack = [] ∨ s.stack.head? = some goal := by
  obtain ⟨_ | ⟨id, stack⟩, seen⟩ := s
  · exact Or.inl rfl
  · by_cases hid : id = goal
    · exact Or.inr (congrArg some hid)
    · by_cases hseen : id ∈ seen
      · exact absurd (.again hid hseen) (h _)
      · exact absurd (.leave hid hseen (.refl _)) (h _)

/-- A search that has come to its end has the goal in front if and only if a way leads there. -/
theorem Covers.head?_iff (h : Covers g goal start s) (hstop : ∀ t, ¬Visit g goal s t) :
    s.stack.head? = some goal ↔ g.Leads start goal := by
  constructor
  · intro hhead
    exact h.reached goal (List.mem_of_mem_head? hhead)
  · intro hl
    rcases stack_of_stopped hstop with hstack | hhead
    · exact absurd (h.mem_seen hstack hl) h.missed
    · exact hhead

/-! ## The search of the graph -/

/-- With a limit as large as the work that is left, the search makes visits until it stops. -/
theorem reaches_stops (goal : NodeId) (limit : Nat)
    (hwork : (⟨stack, seen⟩ : Progress).work g ≤ limit) :
    ∃ n s, Visits g goal n ⟨stack, seen⟩ s ∧ (∀ t, ¬Visit g goal s t) ∧
      (g.reaches goal limit stack seen = true ↔ s.stack.head? = some goal) := by
  induction limit generalizing stack seen with
  | zero =>
    cases stack with
    | nil => exact ⟨0, _, .nil _, nofun, by simp [reaches]⟩
    | cons id stack => simp [Progress.work] at hwork
  | succ limit ih =>
    cases stack with
    | nil => exact ⟨0, _, .nil _, nofun, by simp [reaches]⟩
    | cons id stack =>
      rw [reaches]
      split
      case isTrue hid =>
        subst hid
        refine ⟨0, _, .nil _, ?_, by simp⟩
        rintro t (⟨hne, -⟩ | ⟨hne, -, -⟩) <;> exact hne rfl
      case isFalse hid =>
        split
        case isTrue hseen =>
          have hv : Visit g goal ⟨id :: stack, seen⟩ ⟨stack, seen⟩ :=
            .again hid (List.contains_iff_mem.mp hseen)
          rw [hv.work] at hwork
          obtain ⟨n, s, hvisits, hstop, hiff⟩ := ih (Nat.le_of_succ_le_succ hwork)
          exact ⟨n + 1, s, .cons hv hvisits, hstop, hiff⟩
        case isFalse hseen =>
          have hnext : ((g.consumersOf id).reverse ++ stack).Perm (g.consumersOf id ++ stack) :=
            (List.reverse_perm _).append_right stack
          have hv : Visit g goal ⟨id :: stack, seen⟩
              ⟨(g.consumersOf id).reverse ++ stack, id :: seen⟩ :=
            .leave hid (fun hmem => hseen (List.contains_iff_mem.mpr hmem)) hnext
          rw [hv.work] at hwork
          obtain ⟨n, s, hvisits, hstop, hiff⟩ := ih (Nat.le_of_succ_le_succ hwork)
          exact ⟨n + 1, s, .cons hv hvisits, hstop, hiff⟩

theorem createsCycle_iff_leads (g : Graph) (producer consumer : NodeId) :
    g.createsCycle producer consumer = true ↔ g.Leads consumer producer := by
  have hlimit := Nat.le_of_eq (work_start g consumer)
  obtain ⟨n, s, hvisits, hstop, hiff⟩ := reaches_stops producer _ hlimit
  exact hiff.trans (((covers_start g producer consumer).visits hvisits).head?_iff hstop)

end Graph

end Patchbay
