-- Chains of operands with operators between. The parser decides on one token at a
-- time, and comes to the tree that one look at the whole chain gives: the root is the
-- first operator of the loosest kind, and what stands before and after it is grouped
-- the same way.
import Patchbay.Proofs.Operands

namespace Patchbay.Language

/-! ## Chains -/

/-- An operand, and operators with an operand each. -/
structure Chain where
  first : List Token
  more : List (BinaryOp × List Token)

namespace Chain

variable {c left right : Chain} {op : BinaryOp} {level : Level}

def operands (c : Chain) : List (List Token) := c.first :: c.more.map Prod.snd

def tokens (c : Chain) : List Token :=
  c.first ++ c.more.flatMap fun link => .symbol link.1.symbol :: link.2

/-- Two chains with an operator between. -/
def join (left : Chain) (op : BinaryOp) (right : Chain) : Chain :=
  ⟨left.first, left.more ++ (op, right.first) :: right.more⟩

theorem tokens_operand (u : List Token) : tokens ⟨u, []⟩ = u := List.append_nil u

theorem tokens_join (left : Chain) (op : BinaryOp) (right : Chain) :
    (left.join op right).tokens = left.tokens ++ .symbol op.symbol :: right.tokens := by
  simp only [tokens, join, List.flatMap_append, List.flatMap_cons, List.append_assoc,
    List.cons_append]

theorem operands_join (left : Chain) (op : BinaryOp) (right : Chain) :
    (left.join op right).operands = left.operands ++ right.operands := by
  simp only [operands, join, List.map_append, List.map_cons, List.cons_append]

/-! ## The root of a chain -/

/-- The first operator of the level, with what stands before it and after it. -/
def split? (level : Level) (c : Chain) : Option (Chain × BinaryOp × Chain) :=
  match c.more.dropWhile fun link => link.1.joins ≠ level with
  | [] => none
  | (op, next) :: after =>
    some (⟨c.first, c.more.takeWhile fun link => link.1.joins ≠ level⟩, op, ⟨next, after⟩)

/-- The first `==`, else the first `+` or `-`, else the first `*`, `/` or `%`. -/
def root? (c : Chain) : Option (Chain × BinaryOp × Chain) :=
  (c.split? .equality).or ((c.split? .additive).or (c.split? .multiplicative))

theorem split?_eq_some (h : c.split? level = some (left, op, right)) :
    c = left.join op right ∧ op.joins = level ∧ ∀ link ∈ left.more, link.1.joins ≠ level := by
  have hsplit := List.takeWhile_append_dropWhile (p := fun link => link.1.joins ≠ level)
    (l := c.more)
  have hstop := List.head?_dropWhile_not (fun link => link.1.joins ≠ level) c.more
  unfold split? at h
  split at h
  case h_1 => cases h
  case h_2 op next after hdrop =>
    cases h
    rw [hdrop] at hsplit hstop
    refine ⟨?_, by simpa using hstop, fun link hmem => ?_⟩
    · unfold join
      rw [hsplit]
    · simpa using List.mem_takeWhile_imp hmem

theorem split?_eq_none (h : c.split? level = none) : ∀ link ∈ c.more, link.1.joins ≠ level := by
  unfold split? at h
  split at h
  case h_1 hdrop => simpa using List.dropWhile_eq_nil_iff.mp hdrop
  case h_2 => cases h

theorem root?_eq_none (h : c.root? = none) : c.more = [] := by
  unfold root? at h
  rw [Option.or_eq_none_iff, Option.or_eq_none_iff] at h
  obtain ⟨heq, hadd, hmul⟩ := h
  refine List.eq_nil_iff_forall_not_mem.mpr fun link hmem => ?_
  rcases BinaryOp.joins_cases link.1 with hjoins | hjoins | hjoins
  · exact split?_eq_none heq link hmem hjoins
  · exact split?_eq_none hadd link hmem hjoins
  · exact split?_eq_none hmul link hmem hjoins

/-- The operator is the loosest of the chain, and the first one of its kind. -/
structure IsRoot (c left : Chain) (op : BinaryOp) (right : Chain) : Prop where
  joined : c = left.join op right
  loosest : ∀ link ∈ c.more, link.1.joins.rank ≤ op.joins.rank
  first : ∀ link ∈ left.more, link.1.joins.rank < op.joins.rank

theorem isRoot_of_split? (h : c.split? level = some (left, op, right))
    (hle : ∀ link ∈ c.more, link.1.joins.rank ≤ level.rank) : IsRoot c left op right := by
  obtain ⟨rfl, rfl, hfirst⟩ := split?_eq_some h
  refine ⟨rfl, hle, fun link hmem => ?_⟩
  refine Nat.lt_of_le_of_ne (hle link (List.mem_append_left _ hmem)) fun heq => ?_
  exact hfirst link hmem (Level.rank_inj heq)

theorem isRoot_of_root? (h : c.root? = some (left, op, right)) : IsRoot c left op right := by
  unfold root? at h
  rw [Option.or_eq_some_iff, Option.or_eq_some_iff] at h
  rcases h with heq | ⟨hnone, hadd | ⟨hnone', hmul⟩⟩
  · refine isRoot_of_split? heq fun link _ => ?_
    rcases BinaryOp.joins_cases link.1 with hjoins | hjoins | hjoins <;> rw [hjoins] <;> decide
  · refine isRoot_of_split? hadd fun link hmem => ?_
    have hne := split?_eq_none hnone link hmem
    rcases BinaryOp.joins_cases link.1 with hjoins | hjoins | hjoins
    · exact absurd hjoins hne
    · rw [hjoins]
    · rw [hjoins]
      decide
  · refine isRoot_of_split? hmul fun link hmem => ?_
    have hne := split?_eq_none hnone link hmem
    have hne' := split?_eq_none hnone' link hmem
    rcases BinaryOp.joins_cases link.1 with hjoins | hjoins | hjoins
    · exact absurd hjoins hne
    · exact absurd hjoins hne'
    · rw [hjoins]

theorem IsRoot.forall_operands (h : IsRoot c left op right) {P : List Token → Prop}
    (hc : ∀ u ∈ c.operands, P u) : (∀ u ∈ left.operands, P u) ∧ ∀ u ∈ right.operands, P u := by
  rw [h.joined, operands_join] at hc
  exact List.forall_mem_append.mp hc

theorem IsRoot.length_lt (h : IsRoot c left op right) :
    left.more.length < c.more.length ∧ right.more.length < c.more.length := by
  rw [h.joined]
  simp only [join, List.length_append, List.length_cons]
  omega

/-! ## The tree of a chain -/

end Chain

/-- Operands and operators as a tree. -/
inductive Grouping
  | operand (u : List Token)
  | node (op : BinaryOp) (left right : Grouping)

namespace Grouping

/-- The operands and the operators from the left to the right. -/
def reading : Grouping → Chain
  | operand u => ⟨u, []⟩
  | node op left right => left.reading.join op right.reading

/-- The tree with what the operands parse to in their places. -/
def tree : Grouping → Except ParseError Expr
  | operand u => parse u
  | node op left right => do
    let l ← left.tree
    let r ← right.tree
    pure (.binary op l r)

end Grouping

namespace Chain

variable {c left right : Chain} {op : BinaryOp} {level : Level}

/-- The chain split at its root, and the parts before and after it split in the same way. -/
def grouping (c : Chain) : Grouping :=
  match _ : c.root? with
  | none => .operand c.first
  | some (left, op, right) => .node op left.grouping right.grouping
  termination_by c.more.length
  decreasing_by
    · exact (isRoot_of_root? ‹c.root? = some (left, op, right)›).length_lt.1
    · exact (isRoot_of_root? ‹c.root? = some (left, op, right)›).length_lt.2

/-- Nothing gets lost or out of its place. -/
theorem reading_grouping (c : Chain) : c.grouping.reading = c := by
  fun_induction grouping c with
  | case1 c hroot =>
    obtain ⟨first, more⟩ := c
    obtain rfl : more = [] := root?_eq_none hroot
    rfl
  | case2 c left op right hroot ihl ihr =>
    rw [Grouping.reading, ihl, ihr]
    exact (isRoot_of_root? hroot).joined.symm

/-! ## The parser on chains -/

/-- The chain is read as the expression on every level that is loose enough for its operators,
unless what follows goes on with it. -/
def Reads (c : Chain) (e : Expr) : Prop :=
  ∀ level : Level, (∀ link ∈ c.more, link.1.joins.rank ≤ level.rank) →
    ∀ rest : List Token, rest.head? ≠ some (.symbol .dot) →
      (∀ outer, linkLevel? rest.head? = some outer → level.rank < outer.rank) →
        ∀ depth, Yields (parserAt level depth) (c.tokens ++ rest) e rest

theorem Reads.parse {e : Expr} (h : c.Reads e) : parse c.tokens = .ok e := by
  refine parse_of_yields (h .expr ?_ [] nofun nofun)
  intro link _
  rcases BinaryOp.joins_cases link.1 with hjoins | hjoins | hjoins <;> rw [hjoins] <;> decide

theorem reads_operand {u : List Token} {e : Expr} (h : ReadsAs u e) : Reads ⟨u, []⟩ e := by
  intro level _ rest hdot hnext
  rw [tokens_operand]
  exact Yields.up .atom (Nat.zero_le _) hnext (h rest hdot)

/-- Before the root the parser of the operands stops, and after it the parser of the same level
goes on. -/
theorem IsRoot.reads {l r : Expr} (h : IsRoot c left op right) (hl : left.Reads l)
    (hr : right.Reads r) : c.Reads (.binary op l r) := by
  obtain ⟨rfl, hloosest, hfirst⟩ := h
  intro level hlevel rest hdot hnext
  have hop : op.joins.rank ≤ level.rank :=
    hlevel (op, right.first) (List.mem_append_right _ List.mem_cons_self)
  have hlink := op.linkLevel?_symbol
  obtain ⟨inner, hinner, hrank⟩ := op.exists_inner
  have hleft : ∀ depth, Yields (parserAt inner depth)
      (left.tokens ++ .symbol op.symbol :: (right.tokens ++ rest)) l
      (.symbol op.symbol :: (right.tokens ++ rest)) := by
    refine hl inner (fun link hmem => ?_) _ (ReadsAsAtom.dot_of_level hlink) fun outer ho => ?_
    · have hlt := hfirst link hmem
      omega
    · cases hlink.symm.trans ho
      omega
  have hright : ∀ depth, Yields (parserAt op.joins depth) (right.tokens ++ rest) r rest := by
    refine hr op.joins (fun link hmem => ?_) rest hdot fun outer ho => ?_
    · exact hloosest link (List.mem_append_right _ (List.mem_cons_of_mem _ hmem))
    · exact Nat.lt_of_le_of_lt hop (hnext outer ho)
  rw [tokens_join, List.append_assoc, List.cons_append]
  exact Yields.up op.joins hop hnext (Yields.binary hinner op.symbol_joins hleft hright)

/-- There is one expression that the chain is read as and that its grouping stands for. -/
theorem exists_tree (c : Chain) (hc : ∀ u ∈ c.operands, Operand u) :
    ∃ e, c.Reads e ∧ c.grouping.tree = .ok e := by
  fun_induction grouping c with
  | case1 c hroot =>
    obtain ⟨first, more⟩ := c
    obtain rfl : more = [] := root?_eq_none hroot
    obtain ⟨e, he⟩ := (hc first List.mem_cons_self).reads
    have hreads := reads_operand he
    refine ⟨e, hreads, ?_⟩
    have hparse := hreads.parse
    rwa [tokens_operand] at hparse
  | case2 c left op right hroot ihl ihr =>
    have hisRoot := isRoot_of_root? hroot
    obtain ⟨hcl, hcr⟩ := hisRoot.forall_operands hc
    obtain ⟨l, hl, hltree⟩ := ihl hcl
    obtain ⟨r, hr, hrtree⟩ := ihr hcr
    refine ⟨.binary op l r, hisRoot.reads hl hr, ?_⟩
    rw [Grouping.tree, hltree, hrtree]
    rfl

end Chain

/-- A chain of operands parses, and to the tree of its grouping, which holds its operands and
operators in their order. Where it has a root, its parts are chains that parse as well, and its
tree is that of the root with the trees of the parts. -/
theorem chains_group_at_their_roots (c : Chain) (hc : ∀ u ∈ c.operands, Operand u) :
    (∃ e, parse c.tokens = .ok e ∧ c.grouping.tree = .ok e) ∧ c.grouping.reading = c ∧
      ∀ left op right, c.root? = some (left, op, right) →
        c = left.join op right ∧
          ∃ l r, parse left.tokens = .ok l ∧ parse right.tokens = .ok r ∧
            parse c.tokens = .ok (.binary op l r) := by
  refine ⟨?_, c.reading_grouping, fun left op right hroot => ?_⟩
  · obtain ⟨e, hreads, htree⟩ := c.exists_tree hc
    exact ⟨e, hreads.parse, htree⟩
  · have hisRoot := Chain.isRoot_of_root? hroot
    obtain ⟨hcl, hcr⟩ := hisRoot.forall_operands hc
    obtain ⟨l, hl, _⟩ := left.exists_tree hcl
    obtain ⟨r, hr, _⟩ := right.exists_tree hcr
    exact ⟨hisRoot.joined, l, r, hl.parse, hr.parse, (hisRoot.reads hl hr).parse⟩

/-- `a - (b) * 2 == [x] + r.k - {}` -/
def mixedChain : Chain where
  first := [.ident "a"]
  more := [
    (.sub, [.symbol .leftParen, .ident "b", .symbol .rightParen]),
    (.mul, [.number 2]),
    (.eq, [.symbol .leftBracket, .ident "x", .symbol .rightBracket]),
    (.add, [.ident "r", .symbol .dot, .ident "k"]),
    (.sub, [.symbol .leftBrace, .symbol .rightBrace])]

/-- `a - (b) * 2` -/
def mixedChainLeft : Chain where
  first := [.ident "a"]
  more := [(.sub, [.symbol .leftParen, .ident "b", .symbol .rightParen]), (.mul, [.number 2])]

/-- `[x] + r.k - {}` -/
def mixedChainRight : Chain where
  first := [.symbol .leftBracket, .ident "x", .symbol .rightBracket]
  more := [
    (.add, [.ident "r", .symbol .dot, .ident "k"]),
    (.sub, [.symbol .leftBrace, .symbol .rightBrace])]

theorem mixedChain_groups_at_its_equality :
    (∃ e, parse mixedChain.tokens = .ok e ∧ mixedChain.grouping.tree = .ok e) ∧
      mixedChain.grouping.reading = mixedChain ∧
      ∃ l r, parse mixedChainLeft.tokens = .ok l ∧ parse mixedChainRight.tokens = .ok r ∧
        parse mixedChain.tokens = .ok (.binary .eq l r) := by
  have hname : ∀ name, Phrase [.ident name] := by
    intro name
    refine ⟨.ident name, ?_⟩
    repeat refine .single rfl ?_
    exact .ident name
  have hoperands : ∀ u ∈ mixedChain.operands, Operand u := by
    intro u hmem
    unfold mixedChain Chain.operands at hmem
    simp only [List.map_cons, List.map_nil, List.mem_cons, List.not_mem_nil, or_false] at hmem
    rcases hmem with rfl | rfl | rfl | rfl | rfl | rfl
    · exact .path "a" []
    · exact .group (hname "b")
    · exact .number 2
    · exact .list [[.ident "x"]] (List.forall_mem_singleton.mpr (hname "x"))
    · exact .path "r" ["k"]
    · exact .record [] (List.forall_mem_nil _)
  obtain ⟨htree, hreading, hroot⟩ := chains_group_at_their_roots mixedChain hoperands
  exact ⟨htree, hreading, (hroot mixedChainLeft .eq mixedChainRight rfl).2⟩

end Patchbay.Language
