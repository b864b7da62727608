-- Settled nodes. A node is settled when its output is what its latest turn
-- makes of the present outputs of its producers. Steps on other nodes keep
-- this, unless they give a new output to a producer that had one.
import Patchbay.Proofs.Steps
import Mathlib.Data.List.Forall2

namespace Patchbay

open Patchbay.Language

/-- All answers are there, one for each element. -/
theorem mapM_eq_some_iff {α β : Type} {f : α → Option β} {xs : List α} {ys : List β} :
    xs.mapM f = some ys ↔ List.Forall₂ (fun x y => f x = some y) xs ys := by
  induction xs generalizing ys with
  | nil => simp [eq_comm]
  | cons x xs ih =>
    rw [List.mapM_cons]
    constructor
    · intro h
      rcases hx : f x with _ | y
      · simp [hx] at h
      · rcases hxs : xs.mapM f with _ | zs
        · simp [hx, hxs] at h
        · simp only [hx, hxs, Option.bind_eq_bind, Option.bind_some, Option.pure_def,
            Option.some.injEq] at h
          subst h
          exact .cons hx (ih.mp hxs)
    · intro h
      cases h with
      | cons hx hxs => simp [hx, ih.mpr hxs]

namespace Graph

variable {depth : Nat} {g g' : Graph} {ev : Event} {log log' : List Event} {m n p : NodeId}
  {vs : List Value}

/-! ## The values of the inputs -/

theorem value?_eq_some_iff {out : Option Output} {v : Value} :
    out.bind Output.value? = some v ↔ out = some (.value v) := by
  rcases out with _ | out
  · simp
  · cases out <;> simp [Output.value?]

theorem inputValues?_eq_some_iff : g.inputValues? n = some vs ↔
    List.Forall₂ (fun p v => g.output? p = some (.value v)) (g.inputsOf n) vs := by
  unfold inputValues?
  rw [mapM_eq_some_iff]
  simp only [value?_eq_some_iff]

/-- Where all inputs have values, every producer has one. -/
theorem exists_value_of_feeds (hv : g.inputValues? n = some vs) (hp : g.Feeds p n) :
    ∃ v, g.output? p = some (.value v) := by
  have hall := inputValues?_eq_some_iff.mp hv
  have hmem := mem_inputsOf.mpr hp
  clear hv hp
  generalize g.inputsOf n = ps at hall hmem
  induction hall with
  | nil => cases hmem
  | cons hx _ ih =>
    rcases List.mem_cons.mp hmem with rfl | hin
    · exact ⟨_, hx⟩
    · exact ih hin

/-- Where two graphs give a node the same values, each producer has the same value in both. -/
theorem exists_value_both (hv : g.inputValues? n = some vs) (hv' : g'.inputValues? n = some vs)
    (he : g'.edges = g.edges) (hp : g.Feeds p n) :
    ∃ v, g.output? p = some (.value v) ∧ g'.output? p = some (.value v) := by
  have hall := inputValues?_eq_some_iff.mp hv
  have hall' := inputValues?_eq_some_iff.mp hv'
  have hmem := mem_inputsOf.mpr hp
  rw [inputsOf_congr he] at hall'
  clear hv hv' hp
  generalize g.inputsOf n = ps at hall hall' hmem
  induction hall with
  | nil => cases hmem
  | cons hx _ ih =>
    cases hall' with
    | cons hx' hrest =>
      rcases List.mem_cons.mp hmem with rfl | hin
      · exact ⟨_, hx, hx'⟩
      · exact ih hrest hin

theorem inputValues?_congr (hi : g'.inputsOf n = g.inputsOf n)
    (h : ∀ p, g.Feeds p n → g'.output? p = g.output? p) :
    g'.inputValues? n = g.inputValues? n := by
  unfold inputValues?
  rw [hi]
  have hall : ∀ p ∈ g.inputsOf n, g'.output? p = g.output? p := fun p hp => h p (mem_inputsOf.mp hp)
  generalize g.inputsOf n = ps at hall
  induction ps with
  | nil => rfl
  | cons p ps ih =>
    rw [List.mapM_cons, List.mapM_cons, hall p List.mem_cons_self,
      ih fun q hq => hall q (List.mem_cons_of_mem _ hq)]

/-! ## The latest turn of a node -/

/-- The last event that gave a node an output. -/
def latest? (log : List Event) (n : NodeId) : Option Event :=
  log.reverse.find? fun ev => ev.settles? = some n

theorem latest?_append (log log' : List Event) (n : NodeId) :
    latest? (log ++ log') n = (latest? log' n).or (latest? log n) := by
  unfold latest?
  rw [List.reverse_append, List.find?_append]

theorem latest?_concat_self (log : List Event) (h : ev.settles? = some n) :
    latest? (log ++ [ev]) n = some ev := by
  rw [latest?_append]
  simp [latest?, h]

theorem latest?_concat_ne (log : List Event) (h : ev.settles? ≠ some n) :
    latest? (log ++ [ev]) n = latest? log n := by
  rw [latest?_append]
  simp [latest?, h]

theorem mem_of_latest? (h : latest? log n = some ev) : ev ∈ log :=
  List.mem_reverse.mp (List.mem_of_find?_eq_some h)

theorem settles?_of_latest? (h : latest? log n = some ev) : ev.settles? = some n := by
  have := List.find?_some h
  exact of_decide_eq_true this

/-! ## Explained outputs -/

/-- The event `ev` explains the output of node `n` from the present outputs of its producers:
either one of them has a fault, or all have values, these were bound as the inputs
and the evaluation gave the output. -/
def Explained (depth : Nat) (g : Graph) (n : NodeId) : Event → Prop
  | .opened _ => False
  | .refused _ => (∃ p f, g.Feeds p n ∧ g.output? p = some (.fault f)) ∧
      g.output? n = some (.fault .input)
  | .ran _ start => ∃ node vs out st, g.node? n = some node ∧ g.inputValues? n = some vs ∧
      start.inputValues? n = some vs ∧ start.store.bindings node.scope = inputBindings vs ∧
      start.evaluation depth n = Language.evaluateIn depth node.scope node.source start.store ∧
      (start.evaluation depth n).result? = some (out, st) ∧ g.output? n = some out

/-- The latest turn of the node explains its output. -/
def Settled (depth : Nat) (log : List Event) (g : Graph) (n : NodeId) : Prop :=
  ∃ ev, latest? log n = some ev ∧ Explained depth g n ev

theorem Explained.output_isSome (h : Explained depth g n ev) : (g.output? n).isSome := by
  cases ev with
  | opened => exact absurd h id
  | refused => rw [h.2]; rfl
  | ran id start =>
    obtain ⟨node, vs, out, st, -, -, -, -, -, -, hout⟩ := h
    rw [hout]
    rfl

theorem Settled.output_isSome (h : Settled depth log g n) : (g.output? n).isSome := by
  obtain ⟨ev, _, hex⟩ := h
  exact hex.output_isSome

/-- No producer of a node that was evaluated has a fault. -/
theorem Explained.faultless {start : Graph} (h : Explained depth g n (.ran n start)) :
    ¬∃ p f, g.Feeds p n ∧ g.output? p = some (.fault f) := by
  rintro ⟨p, f, hp, hf⟩
  obtain ⟨node, vs, out, st, -, hv, -⟩ := h
  obtain ⟨v, hpv⟩ := exists_value_of_feeds hv hp
  simp [hf] at hpv

/-- The explanation of an output reads the source, the scope and the inputs of the
node, its output, and the outputs that its producers have. -/
theorem Explained.congr (h : Explained depth g n ev) (hi : g'.inputsOf n = g.inputsOf n)
    (hplan : (g'.node? n).map Node.plan = (g.node? n).map Node.plan)
    (hout : g'.output? n = g.output? n)
    (hp : ∀ p out, g.Feeds p n → g.output? p = some out → g'.output? p = some out) :
    Explained depth g' n ev := by
  cases ev with
  | opened => exact h
  | refused =>
    obtain ⟨⟨p, f, hpn, hf⟩, hn⟩ := h
    refine ⟨⟨p, f, ?_, hp p _ hpn hf⟩, ?_⟩
    · rw [feeds_of_inputsOf hi]; exact hpn
    · rw [hout]; exact hn
  | ran id start =>
    obtain ⟨node, vs, out, st, hn, hv, hstart, hb, heq, hr, hn'⟩ := h
    rw [hn] at hplan
    obtain ⟨node', hnode', hpl⟩ := Option.map_eq_some_iff.mp hplan
    have hsame : ∀ p, g.Feeds p n → g'.output? p = g.output? p := by
      intro p hpn
      obtain ⟨v, hpv⟩ := exists_value_of_feeds hv hpn
      rw [hpv, hp p _ hpn hpv]
    refine ⟨node', vs, out, st, hnode', ?_, hstart, ?_, ?_, hr, ?_⟩
    · rw [inputValues?_congr hi hsame]; exact hv
    · rw [scope_eq_of_plan hpl]; exact hb
    · rw [scope_eq_of_plan hpl, source_eq_of_plan hpl]; exact heq
    · rw [hout]; exact hn'

theorem Frame.plan_node? {W : NodeId → Prop} (h : Frame W g g') (n : NodeId) :
    (g'.node? n).map Node.plan = (g.node? n).map Node.plan := by
  rw [node?_plan, node?_plan, h.plan]

/-! ## What a step does to settled nodes -/

/-- A step on another node keeps a node settled, unless it gives a new output to a
producer of it that had one. -/
theorem Settled.step (h : Settled depth log g n) (hs : Step depth g ev g') (hne : ev.node ≠ n)
    (hp : g.Feeds ev.node n → g.output? ev.node = none) : Settled depth (log ++ [ev]) g' n := by
  obtain ⟨last, hlast, hex⟩ := h
  have hset : ∀ m, ev.settles? = some m → ev.node = m := fun m hm => Event.node_of_settles? hm
  have hkeep : ∀ m, m ≠ ev.node → g'.output? m = g.output? m := fun m hm =>
    hs.output?_of_not_settles fun hm' => hm (hset m hm').symm
  refine ⟨last, ?_, ?_⟩
  · rw [latest?_concat_ne log fun hn => hne (hset n hn)]
    exact hlast
  · refine hex.congr (hs.frame.inputsOf n) (hs.frame.plan_node? n) (hkeep n hne.symm) ?_
    intro p out hpn hout
    have hpe : p ≠ ev.node := by
      rintro rfl
      rw [hp hpn] at hout
      cases hout
    rw [hkeep p hpe, hout]

/-- A step that settles a node explains its output, unless the node feeds itself. -/
theorem Step.explained (hs : Step depth g ev g') (hg : g.WellFormed) (hset : ev.settles? = some n)
    (hself : g.Feeds n n → g.output? n = none) : Explained depth g' n ev := by
  have hkeep : ∀ p out, g.Feeds p n → g.output? p = some out → g'.output? p = some out := by
    intro p out hpn hout
    rw [hs.output?_of_not_settles, hout]
    intro hp
    rw [hset] at hp
    obtain rfl := Option.some.inj hp
    rw [hself hpn] at hout
    cases hout
  have hedges := hs.frame.edges
  have hinputs := hs.frame.inputsOf n
  cases hs with
  | opened hn => cases hset
  | @refused id p node f hn hp hf =>
    obtain rfl := Option.some.inj hset
    exact ⟨⟨p, f, by rw [feeds_congr hedges]; exact hp, hkeep p _ hp hf⟩, output?_refusing hn⟩
  | @ran id node vs out st hn hv hempty hr =>
    obtain rfl := Option.some.inj hset
    have hsame : ∀ p, g.Feeds p id → ((g.bound node vs).finished node out st).output? p =
        g.output? p := by
      intro p hpn
      obtain ⟨v, hpv⟩ := exists_value_of_feeds hv hpn
      rw [hpv, hkeep p _ hpn hpv]
    have hn' : (g.bound node vs).node? id = some node := hn
    refine ⟨_, vs, out, st, node?_finished hn', ?_, hv, ?_, ?_, hr, output?_finished hn'⟩
    · rw [inputValues?_congr hinputs hsame]; exact hv
    · exact bindings_bindInputs vs (hg.scope_lt hn) hempty
    · unfold evaluation
      rw [hn']

theorem Step.settled (hs : Step depth g ev g') (hg : g.WellFormed) (hset : ev.settles? = some n)
    (hself : g.Feeds n n → g.output? n = none) (log : List Event) :
    Settled depth (log ++ [ev]) g' n :=
  ⟨ev, latest?_concat_self log hset, hs.explained hg hset hself⟩

/-! ## Runs over nodes without output -/

/-- Such a run keeps settled nodes settled, and settles all it comes to. -/
theorem Steps.settled (h : Steps depth Fresh g log g') (hg : g.WellFormed) (before : List Event)
    (hn : Settled depth before g n ∨ ∃ ev ∈ log, ev.settles? = some n) :
    Settled depth (before ++ log) g' n := by
  induction h generalizing before with
  | nil =>
    rcases hn with hn | ⟨ev, hev, -⟩
    · rwa [List.append_nil]
    · cases hev
  | @cons g g₁ g₂ ev log hs hok _ ih =>
    have hg₁ := hs.frame.wellFormed hg
    have hnext := ih hg₁ (before ++ [ev])
    rw [List.append_assoc, List.singleton_append] at hnext
    apply hnext
    unfold Fresh at hok
    by_cases hev : ev.settles? = some n
    · obtain rfl := Event.node_of_settles? hev
      exact Or.inl (hs.settled hg hev (fun _ => hok) before)
    · rcases hn with hn | ⟨ev', hev', hset⟩
      · refine Or.inl (hn.step hs ?_ fun _ => hok)
        rintro rfl
        have := hn.output_isSome
        rw [hok] at this
        cases this
      · rcases List.mem_cons.mp hev' with rfl | hin
        · exact absurd hset hev
        · exact Or.inr ⟨ev', hin, hset⟩

end Graph

end Patchbay
