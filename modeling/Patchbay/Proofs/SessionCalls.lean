-- Calls on sessions, in any order. A call is about one session, so sessions do not touch each
-- other, a session that is gone stays gone, and a refusal leaves all sessions as they were.
import Patchbay.Proofs.Operations

namespace Patchbay

open Patchbay.Language (Wording)

/-! ## Calls -/

inductive Call
  | new
  | on (s : Nat) (op : Operation)
  | free (s : Nat)

namespace Sessions

def call (w : Wording) (depth : Nat) (ss : Sessions) : Call → Answer × Sessions
  | .new => ss.open?.map Answer.session id
  | .on s op => ss.perform w depth s op
  | .free s => (.freed, ss.free s)

/-- The sessions after calls one after the other, from the first one on. -/
def after (w : Wording) (depth : Nat) (calls : List Call) : Sessions :=
  calls.foldl (fun ss c => (ss.call w depth c).2) start

theorem after_concat (w : Wording) (depth : Nat) (calls : List Call) (c : Call) :
    after w depth (calls ++ [c]) = ((after w depth calls).call w depth c).2 := List.foldl_append

end Sessions

theorem Status.refusal_inj {code message code' message' : String}
    (h : refusal code message = refusal code' message') : code = code' ∧ message = message' := by
  simpa [refusal] using h

/-! ## Calls one after the other -/

/-- The session that a call is about, where `next` is the number of the next new one. -/
def Call.session (next : Nat) : Call → Nat
  | new => next
  | on s _ => s
  | free s => s

def Call.opens : Call → Bool
  | new => true
  | _ => false

/-- How many sessions the calls open. -/
def opened (calls : List Call) : Nat := calls.countP Call.opens

/-- Session `s` is freed after it was opened. -/
def Freed (calls : List Call) (s : Nat) : Prop :=
  ∃ before rest, calls = before ++ .free s :: rest ∧ 0 < s ∧ s ≤ opened before

theorem opened_concat (calls : List Call) (c : Call) :
    opened (calls ++ [c]) = opened calls + if c.opens then 1 else 0 := by
  simp [opened, List.countP_append, List.countP_singleton]

theorem Freed.append {calls : List Call} {s : Nat} (h : Freed calls s) (more : List Call) :
    Freed (calls ++ more) s := by
  obtain ⟨before, rest, rfl, hs⟩ := h
  exact ⟨before, rest ++ more, by simp, hs⟩

theorem Freed.le {calls : List Call} {s : Nat} (h : Freed calls s) : s ≤ opened calls := by
  obtain ⟨before, rest, rfl, -, hs⟩ := h
  unfold opened at hs ⊢
  rw [List.countP_append]
  exact Nat.le_add_right_of_le hs

theorem freed_concat_iff {calls : List Call} {c : Call} {s : Nat} :
    Freed (calls ++ [c]) s ↔ Freed calls s ∨ c = .free s ∧ 0 < s ∧ s ≤ opened calls := by
  constructor
  · rintro ⟨before, rest, heq, hs⟩
    rcases List.eq_nil_or_concat rest with rfl | ⟨rest, d, rfl⟩
    · obtain ⟨rfl, hc⟩ := List.append_inj' heq rfl
      exact Or.inr ⟨List.head_eq_of_cons_eq hc, hs⟩
    · rw [List.concat_eq_append, ← List.cons_append, ← List.append_assoc] at heq
      exact Or.inl ⟨before, rest, (List.append_inj' heq rfl).1, hs⟩
  · rintro (h | ⟨rfl, hs⟩)
    · exact h.append [c]
    · exact ⟨calls, [], rfl, hs⟩

namespace Sessions

variable {w : Wording} {depth : Nat} {ss : Sessions} {s t : Nat} {g : Graph} {c : Call}

theorem graph?_open? (ss : Sessions) (s : Nat) :
    ss.open?.2.graph? s = if s = ss.length then some .empty else ss.graph? s := by
  unfold open? graph?
  rcases Nat.lt_trichotomy s ss.length with hlt | rfl | hgt
  · simp [List.getElem?_append_left hlt, Nat.ne_of_lt hlt]
  · simp
  · have hle : (ss ++ [some Graph.empty]).length ≤ s := by simpa using Nat.succ_le_of_lt hgt
    rw [List.getElem?_eq_none hle, if_neg (Nat.ne_of_gt hgt),
      List.getElem?_eq_none (Nat.le_of_lt hgt)]

theorem graph?_free_self (ss : Sessions) (s : Nat) : (ss.free s).graph? s = none := by
  unfold free graph?
  rw [List.getElem?_set_self']
  rcases ss[s]? <;> rfl

theorem graph?_free_ne (h : t ≠ s) : (ss.free s).graph? t = ss.graph? t := by
  simp [graph?, free, List.getElem?_set_ne h.symm]

theorem free_of_unknown (h : ss.graph? s = none) : ss.free s = ss := by
  rcases hs : ss[s]? with _ | o
  · exact List.set_eq_of_length_le (List.getElem?_eq_none_iff.mp hs)
  · obtain ⟨hlt, rfl⟩ := List.getElem?_eq_some_iff.mp hs
    have hnone : ss[s] = none := by
      rw [graph?, hs] at h
      exact h
    unfold free
    rw [← hnone, List.set_getElem_self]

theorem length_call (w : Wording) (depth : Nat) (ss : Sessions) (c : Call) :
    (ss.call w depth c).2.length = ss.length + if c.opens then 1 else 0 := by
  cases c with
  | new => simp [call, open?, Call.opens]
  | on s op =>
    rcases h : ss.graph? s with _ | g
    · simp [call, perform_of_unknown h, Call.opens]
    · simp [call, perform_of_known h, keeping, put, Call.opens]
  | free s => simp [call, free, Call.opens]

/-- The number of the next session is one more than that of the last. -/
theorem length_after (w : Wording) (depth : Nat) (calls : List Call) :
    (after w depth calls).length = opened calls + 1 := by
  induction calls using List.reverseRecOn with
  | nil => rfl
  | append_singleton calls c ih => rw [after_concat, length_call, opened_concat, ih]; omega

/-- A call is about one session, and the others keep their graphs. -/
theorem graph?_call_ne (h : t ≠ c.session ss.length) :
    (ss.call w depth c).2.graph? t = ss.graph? t := by
  cases c with
  | new =>
    change ss.open?.2.graph? t = ss.graph? t
    rw [graph?_open?]
    exact if_neg h
  | on s op =>
    change (ss.perform w depth s op).2.graph? t = ss.graph? t
    rcases hs : ss.graph? s with _ | g
    · rw [perform_of_unknown hs]
    · rw [perform_of_known hs]
      exact graph?_put_ne h
  | free s => exact graph?_free_ne h

/-- A session becomes unknown when it is freed, and known when it is opened. -/
theorem graph?_call_eq_none_iff :
    (ss.call w depth c).2.graph? s = none ↔
      (ss.graph? s = none ∧ ¬(c.opens ∧ s = ss.length)) ∨ c = .free s := by
  by_cases hs : s = c.session ss.length
  · subst hs
    cases c with
    | new => simp [call, Call.session, Call.opens, graph?_open?]
    | on s op =>
      change (ss.perform w depth s op).2.graph? s = none ↔ _
      rcases h : ss.graph? s with _ | g
      · simp [perform_of_unknown h, h, Call.session, Call.opens]
      · simp [perform_of_known h, h, keeping, graph?_put_self (lt_of_graph? h), Call.session]
    | free s => simp [call, Call.session, graph?_free_self]
  · rw [graph?_call_ne hs]
    cases c with
    | new =>
      have hne : s ≠ ss.length := hs
      simp [hne]
    | on t op => simp [Call.opens]
    | free t =>
      have hne : t ≠ s := Ne.symm hs
      simp [Call.opens, hne]

/-- The unknown sessions are number zero, those that were never opened, and those that were
freed. -/
theorem graph?_after_eq_none_iff (w : Wording) (depth : Nat) (calls : List Call) (s : Nat) :
    (after w depth calls).graph? s = none ↔ s = 0 ∨ opened calls < s ∨ Freed calls s := by
  induction calls using List.reverseRecOn with
  | nil =>
    have hnone : (after w depth []).graph? s = none := by
      change (start[s]?).join = none
      cases s <;> rfl
    have hopened : opened [] = 0 := rfl
    simp only [hnone, hopened, true_iff]
    omega
  | append_singleton calls c ih =>
    rw [after_concat, graph?_call_eq_none_iff, ih, freed_concat_iff, opened_concat, length_after]
    have hle : Freed calls s → s ≤ opened calls := Freed.le
    cases c with
    | new =>
      simp only [Call.opens, reduceCtorEq, false_and, or_false, true_and, if_true]
      constructor
      · rintro ⟨hzero | hlt | hfreed, hne⟩
        · exact Or.inl hzero
        · exact Or.inr (Or.inl (by omega))
        · exact Or.inr (Or.inr hfreed)
      · rintro (hzero | hlt | hfreed)
        · exact ⟨Or.inl hzero, by omega⟩
        · exact ⟨Or.inr (Or.inl (by omega)), by omega⟩
        · have hs := hle hfreed
          exact ⟨Or.inr (Or.inr hfreed), by omega⟩
    | on t op => simp [Call.opens]
    | free t =>
      simp only [Call.opens, Call.free.injEq, Bool.false_eq_true, false_and, not_false_eq_true,
        and_true, if_false, Nat.add_zero]
      constructor
      · rintro ((hzero | hlt | hfreed) | rfl)
        · exact Or.inl hzero
        · exact Or.inr (Or.inl hlt)
        · exact Or.inr (Or.inr (Or.inl hfreed))
        · by_cases hzero : t = 0
          · exact Or.inl hzero
          · rcases Nat.lt_or_ge (opened calls) t with hlt | hge
            · exact Or.inr (Or.inl hlt)
            · exact Or.inr (Or.inr (Or.inr ⟨rfl, Nat.pos_of_ne_zero hzero, hge⟩))
      · rintro (hzero | hlt | hfreed | ⟨rfl, -⟩)
        · exact Or.inl (Or.inl hzero)
        · exact Or.inl (Or.inr (Or.inl hlt))
        · exact Or.inl (Or.inr (Or.inr hfreed))
        · exact Or.inr rfl

/-! ## Isolation -/

/-- The graphs of sessions come from the empty graph by requests. -/
theorem wellFormed_after (w : Wording) (depth : Nat) (calls : List Call) :
    ∀ s g, (after w depth calls).graph? s = some g → g.WellFormed := by
  induction calls using List.reverseRecOn with
  | nil =>
    intro s g h
    have hnone := (graph?_after_eq_none_iff w depth [] s).mpr (by
      have hopened : opened [] = 0 := rfl
      omega)
    rw [hnone] at h
    cases h
  | append_singleton calls c ih =>
    intro s g h
    rw [after_concat] at h
    by_cases hs : s = c.session (after w depth calls).length
    · subst hs
      cases c with
      | new =>
        change (after w depth calls).open?.2.graph? _ = _ at h
        rw [graph?_open?, Call.session, if_pos rfl] at h
        obtain rfl := Option.some.inj h
        exact Graph.empty_wellFormed
      | on s op =>
        change ((after w depth calls).perform w depth s op).2.graph? s = some g at h
        rcases hg₀ : (after w depth calls).graph? s with _ | g₀
        · rw [perform_of_unknown hg₀, hg₀] at h
          cases h
        · rw [perform_of_known hg₀, keeping, graph?_put_self (lt_of_graph? hg₀)] at h
          obtain rfl := Option.some.inj h
          exact (ih s g₀ hg₀).becomes (Graph.perform_becomes (ih s g₀ hg₀) w depth op)
      | free s =>
        change ((after w depth calls).free s).graph? s = some g at h
        rw [graph?_free_self] at h
        cases h
    · rw [graph?_call_ne hs] at h
      exact ih s g h

/-- A report of something else leaves all sessions as they were. -/
theorem acted_or_call_eq {status : Status} (hss : ∀ s g, ss.graph? s = some g → g.WellFormed)
    (h : (ss.call w depth c).1 = .status status) : status.Acted ∨ (ss.call w depth c).2 = ss := by
  cases c with
  | new => cases h
  | on s op =>
    change (ss.perform w depth s op).1 = _ at h
    change _ ∨ (ss.perform w depth s op).2 = ss
    rcases hs : ss.graph? s with _ | g
    · rw [perform_of_unknown hs]
      exact Or.inr rfl
    · rw [perform_of_known hs] at h ⊢
      refine (Graph.perform_refuses (hss s g hs) depth op h).imp_right fun hsame => ?_
      unfold keeping
      rw [hsame, put_self hs]
  | free s => cases h

/-- What a call does among sessions of which the next new one is number `next`. -/
structure Contained (w : Wording) (depth next : Nat) (ss : Sessions) (c : Call) : Prop where
  /-- A new session gets the next number, and its graph is empty. -/
  new : c = .new → (ss.call w depth c).1 = .session next ∧
    (ss.call w depth c).2.graph? next = some .empty
  /-- Sessions that the call is not about keep their graphs. -/
  others : ∀ t, t ≠ c.session next → (ss.call w depth c).2.graph? t = ss.graph? t
  /-- An operation on an unknown session answers so, and has no effect. -/
  unknown : ∀ s op, c = .on s op → ss.graph? s = none → ss.call w depth c = (op.unknown, ss)
  unknown_free : ∀ s, c = .free s → ss.graph? s = none → ss.call w depth c = (.freed, ss)
  /-- An answer that is a refusal, and tells of no cycle, leaves all sessions as they were. An
  evaluation that nests too deep to end has no answer of its own, so nothing is said of it. -/
  refused : ∀ status code message, (ss.call w depth c).1 = .status status →
    status.toJson w = Status.refusal code message → code ≠ "graph-cycle-detected" →
    code ≠ "too-deep" → (ss.call w depth c).2 = ss

/-- Calls one after the other keep to their sessions, which are numbered from one on. A session
is unknown where it was never opened or was freed, and stays so once it was freed. -/
theorem calls_keep_to_their_sessions (w : Wording) (depth : Nat) (calls : List Call) :
    (∀ s, (after w depth calls).graph? s = none ↔ s = 0 ∨ opened calls < s ∨ Freed calls s) ∧
    (∀ s, Freed calls s → ∀ more, (after w depth (calls ++ more)).graph? s = none) ∧
    ∀ c, Contained w depth (opened calls + 1) (after w depth calls) c := by
  refine ⟨graph?_after_eq_none_iff w depth calls, ?_, ?_⟩
  · intro s hs more
    exact (graph?_after_eq_none_iff w depth _ s).mpr (Or.inr (Or.inr (hs.append more)))
  · intro c
    rw [← length_after w depth calls]
    have hss := wellFormed_after w depth calls
    generalize after w depth calls = ss at hss
    refine ⟨?_, fun t ht => graph?_call_ne ht, ?_, ?_, ?_⟩
    · rintro rfl
      refine ⟨rfl, ?_⟩
      change ss.open?.2.graph? ss.length = _
      rw [graph?_open?, if_pos rfl]
    · rintro s op rfl hs
      exact perform_of_unknown hs op
    · rintro s rfl hs
      exact Prod.ext rfl (free_of_unknown hs)
    · intro status code message hstatus hjson hcycle hdeep
      refine (acted_or_call_eq hss hstatus).resolve_left fun hacted => ?_
      cases hacted with
      | ok => cases hjson
      | cycle n =>
        obtain ⟨rfl, -⟩ := Status.refusal_inj hjson
        exact hcycle rfl
      | tooDeep =>
        obtain ⟨rfl, -⟩ := Status.refusal_inj hjson
        exact hdeep rfl

/-- Two sessions with a node each. The first one is freed. -/
def sampleCalls : List Call :=
  [.new, .new, .on 1 (.addNode [49]), .on 2 (.addNode [50]), .free 1]

/-- A text with an edge and no nodes. -/
def strayEdge : Operation :=
  .load "\x7b\"node_data\":[],\"edges\":[\x7b\"a\":0,\"b\":0\x7d]\x7d".toUTF8.toList

/-- The freed session stays unknown, though a third one is opened. In the other one an edge to a
place past the nodes is refused, and so is a text with such an edge. -/
theorem sampleCalls_keep_to_their_sessions :
    (after .silent 20 (sampleCalls ++ [.new, .on 1 (.addNode [51])])).graph? 1 = none ∧
    (after .silent 20 sampleCalls).graph? 2 ≠ none ∧
    (after .silent 20 sampleCalls).call .silent 20 (.on 1 .save) =
      (.text "\x7b\x7d", after .silent 20 sampleCalls) ∧
    ((after .silent 20 sampleCalls).call .silent 20 (.on 2 (.recompute 0))).2.graph? 1 = none ∧
    ((after .silent 20 sampleCalls).call .silent 20 (.on 2 (.addEdge 0 5))).1 =
      .status (.failed (.indexOutOfRange 5 1)) ∧
    ((after .silent 20 sampleCalls).call .silent 20 (.on 2 (.addEdge 0 5))).2 =
      after .silent 20 sampleCalls ∧
    ((after .silent 20 sampleCalls).call .silent 20 (.on 2 strayEdge)).1 =
      .status (.failed (.invalidEdge 0 0 0)) ∧
    ((after .silent 20 sampleCalls).call .silent 20 (.on 2 strayEdge)).2 =
      after .silent 20 sampleCalls := by
  obtain ⟨hunknown, hstays, hcontained⟩ := calls_keep_to_their_sessions .silent 20 sampleCalls
  have hfreed : Freed sampleCalls 1 := ⟨sampleCalls.dropLast, [], rfl, by decide⟩
  have hnone := (hunknown 1).mpr (Or.inr (Or.inr hfreed))
  have hpast : ((after .silent 20 sampleCalls).call .silent 20 (.on 2 (.addEdge 0 5))).1 =
      .status (.failed (.indexOutOfRange 5 1)) := by decide +kernel
  have hstray : ((after .silent 20 sampleCalls).call .silent 20 (.on 2 strayEdge)).1 =
      .status (.failed (.invalidEdge 0 0 0)) := by decide +kernel
  refine ⟨hstays 1 hfreed _, ?_, (hcontained _).unknown 1 .save rfl hnone, ?_, hpast, ?_,
    hstray, ?_⟩
  · rw [Ne, hunknown]
    rintro (hzero | hlt | ⟨before, rest, heq, -⟩)
    · exact absurd hzero (by decide)
    · exact absurd hlt (by decide)
    · have hmem : Call.free 2 ∈ sampleCalls := by simp [heq]
      simp [sampleCalls] at hmem
  · rw [(hcontained _).others 1 (by decide)]
    exact hnone
  · exact (hcontained _).refused _ _ _ hpast rfl (by decide) (by decide)
  · exact (hcontained _).refused _ _ _ hstray rfl (by decide) (by decide)

end Sessions

end Patchbay
