-- The trees that the parser gives are the trees that can be printed. The lexer makes no
-- token below zero, no string with a quote in it and no name that is a keyword, and the
-- grammar leaves no row of parts empty and no field twice. So each tree that was parsed
-- comes back from its printed text, unless it holds a number past all finite ones.
import Patchbay.Proofs.DoubleOperations
import Patchbay.Proofs.Lexemes
import Patchbay.Proofs.Rereading

namespace Patchbay

/-! ## Numbers -/

namespace Number

theorem Decimal.magnitude_le (d : Decimal) : d.magnitude ≤ infinityBits := by
  unfold Decimal.magnitude nearest
  split_ifs
  · exact Nat.zero_le _
  · exact Nat.le_refl _
  · exact Nat.min_le_right _ _
  · exact Nat.zero_le _
  · exact Nat.min_le_right _ _

/-- A number with no sign before it is not below zero. -/
theorem Decimal.not_negative {d : Decimal} {negative : Bool} {m s : Nat}
    (h : exact (d.toFloat false) = .finite negative m s) : negative = false := by
  unfold Decimal.toFloat at h
  rcases Nat.lt_or_eq_of_le d.magnitude_le with hlt | heq
  · obtain ⟨_, _, hfinite, hbits⟩ := exists_bitsOf hlt
    rw [hbits, exact_bitsOf hfinite] at h
    cases h
    rfl
  · rw [heq, exact_infinity] at h
    cases h

end Number

/-! ## Gathered entries -/

theorem nodup_eraseDups (names : List String) : names.eraseDups.Nodup := by
  induction hn : names.length using Nat.strong_induction_on generalizing names with
  | _ n ih =>
    cases names with
    | nil => exact List.nodup_nil
    | cons name names =>
      rw [List.eraseDups_cons]
      refine List.nodup_cons.mpr ⟨fun hmem => ?_, ih _ ?_ _ rfl⟩
      · simpa using List.of_mem_filter (List.mem_eraseDups.mp hmem)
      · rw [← hn]
        exact Nat.lt_succ_of_le (List.length_filter_le _ _)

namespace Fields.Gathers

variable {α : Type} {entries : List (String × α)} {fields : Fields α}

theorem nodup (h : Gathers entries fields) : fields.names.Nodup := h.names ▸ nodup_eraseDups _

/-- Every field is one of the entries. -/
theorem mem (h : Gathers entries fields) {field : String × α} (hmem : field ∈ fields) :
    field ∈ entries := by
  have hvalue := h.values field.1
  rw [get?_of_mem h.nodup hmem] at hvalue
  obtain ⟨entry, hfind, hsame⟩ := Option.map_eq_some_iff.mp hvalue.symm
  have hname : entry.1 = field.1 := by simpa using List.find?_some hfind
  have hentry : entry = field := Prod.ext hname hsame
  exact hentry ▸ List.mem_reverse.mp (List.mem_of_find?_eq_some hfind)

end Fields.Gathers

namespace Language

/-! ## Tokens -/

/-- What holds of each token that stands for a part of a text. -/
def Token.Written : Token → Prop
  | .number x => ∀ negative m s, Number.exact x = .finite negative m s → negative = false
  | .text s => '"' ∉ s.toList
  | .ident name => IsName name
  | .symbol _ => True

theorem Cuts.written {w rest : List Char} {t : Token} (h : Cuts w rest t) : t.Written := by
  cases h with
  | whole _ _ _ | pointed _ _ _ _ => exact fun _ _ _ => Number.Decimal.not_negative
  | closed hnone | unclosed hnone =>
    change _ ∉ (String.ofList _).toList
    rwa [String.toList_ofList]
  | @word c cs _ hc hcs _ =>
    unfold Token.ofWord
    split
    · exact trivial
    · rename_i hfree
      exact ⟨⟨c, cs, String.toList_ofList, hc, hcs⟩, hfree⟩
  | equals | mark _ _ => exact trivial

theorem Splits.written {cs stop : List Char} {ts : List Token} (h : Splits cs ts stop) :
    ∀ t ∈ ts, t.Written := by
  induction h with
  | stop _ => exact List.forall_mem_nil _
  | lexeme _ hw _ ih => exact List.forall_mem_cons.mpr ⟨(longest_iff_cuts.mp hw).written, ih⟩

theorem mem_commas {words : List (List Token)} {word : List Token} (hword : word ∈ words)
    {t : Token} (ht : t ∈ word) : t ∈ commas words := by
  induction words with
  | nil => cases hword
  | cons first words ih =>
    cases words with
    | nil => rwa [commas_singleton, ← List.mem_singleton.mp hword]
    | cons next words =>
      rw [commas_cons]
      rcases List.mem_cons.mp hword with rfl | hword
      · exact List.mem_append_left _ ht
      · exact List.mem_append_right _ (List.mem_cons_of_mem _ (ih hword))

/-! ## Trees -/

mutual

/-- The numbers that an expression is written with. -/
def Expr.literals : Expr → List Float
  | .number x => [x]
  | .text _ | .ident _ | .field _ _ => []
  | .bind _ value next => value.literals ++ next.literals
  | .lambda _ body => body.literals
  | .record fields => Expr.literalsOfFields fields
  | .list items => Expr.literalsOfItems items
  | .cond test yes no => test.literals ++ (yes.literals ++ no.literals)
  | .apply callee args => callee.literals ++ Expr.literalsOfItems args
  | .pipe seed stages => seed.literals ++ Expr.literalsOfItems stages
  | .binary _ left right => left.literals ++ right.literals

def Expr.literalsOfFields : List (String × Expr) → List Float
  | [] => []
  | (_, e) :: rest => e.literals ++ Expr.literalsOfFields rest

def Expr.literalsOfItems : List Expr → List Float
  | [] => []
  | e :: rest => e.literals ++ Expr.literalsOfItems rest

end

namespace Expr

/-- All numbers in the expression are finite. -/
def Finite (e : Expr) : Prop :=
  ∀ x ∈ e.literals, ∃ negative m s, Number.exact x = .finite negative m s

theorem finite_of_field {fields : List (String × Expr)} (h : (record fields).Finite) :
    ∀ field ∈ fields, field.2.Finite := by
  intro field hmem
  induction fields with
  | nil => cases hmem
  | cons first rest ih =>
    obtain ⟨hfirst, hrest⟩ := List.forall_mem_append.mp h
    rcases List.mem_cons.mp hmem with rfl | hmem
    · exact hfirst
    · exact ih hrest hmem

theorem finite_of_item {items : List Expr} (h : (list items).Finite) :
    ∀ e ∈ items, e.Finite := by
  intro e hmem
  induction items with
  | nil => cases hmem
  | cons first rest ih =>
    obtain ⟨hfirst, hrest⟩ := List.forall_mem_append.mp h
    rcases List.mem_cons.mp hmem with rfl | hmem
    · exact hfirst
    · exact ih hrest hmem

end Expr

/-- A tree that is derived from tokens of a text can be printed, when its numbers are finite. -/
theorem Derives.printable {level : Level} {u : List Token} {e : Expr} (h : Derives level u e)
    (hu : ∀ t ∈ u, t.Written) (hfinite : e.Finite) : Printable e := by
  induction h with
  | single _ _ ih => exact ih hu hfinite
  | @pipe u seed stages hne _ _ ihseed ihstages =>
    obtain ⟨hseed, hstages⟩ := List.forall_mem_append.mp hu
    obtain ⟨hseed', hstages'⟩ := List.forall_mem_append.mp hfinite
    refine .pipe (fun h => hne (List.map_eq_nil_iff.mp h)) (ihseed hseed hseed') fun e he => ?_
    obtain ⟨stage, hmem, rfl⟩ := List.mem_map.mp he
    refine ihstages stage hmem (fun t ht => hstages t ?_) (Expr.finite_of_item hstages' _ he)
    exact List.mem_flatMap.mpr ⟨stage, hmem, List.mem_cons_of_mem _ ht⟩
  | @apply u callee args hne _ _ ihcallee ihargs =>
    obtain ⟨hcallee, hargs⟩ := List.forall_mem_append.mp hu
    obtain ⟨hcallee', hargs'⟩ := List.forall_mem_append.mp hfinite
    refine .apply (fun h => hne (List.map_eq_nil_iff.mp h)) (ihcallee hcallee hcallee')
      fun e he => ?_
    obtain ⟨arg, hmem, rfl⟩ := List.mem_map.mp he
    refine ihargs arg hmem (fun t ht => hargs t ?_) (Expr.finite_of_item hargs' _ he)
    exact List.mem_flatMap.mpr ⟨arg, hmem, ht⟩
  | binary _ _ _ _ ihleft ihright =>
    simp only [List.forall_mem_append, List.forall_mem_cons] at hu
    obtain ⟨hleft, -, hright⟩ := hu
    obtain ⟨hleft', hright'⟩ := List.forall_mem_append.mp hfinite
    exact .binary (ihleft hleft hleft') (ihright hright hright')
  | number x =>
    obtain ⟨negative, m, s, hexact⟩ := hfinite x List.mem_cons_self
    have hnegative : negative = false := hu _ List.mem_cons_self negative m s hexact
    exact .number (hnegative ▸ hexact)
  | text s => exact .text (hu _ List.mem_cons_self)
  | ident name => exact .ident (hu _ List.mem_cons_self)
  | @field base fields hne =>
    refine .field (hu _ List.mem_cons_self) hne fun name hname => hu (.ident name) ?_
    exact List.mem_cons_of_mem _ (List.mem_flatMap.mpr ⟨name, hname, by simp⟩)
  | lambda param _ ih =>
    simp only [List.forall_mem_cons] at hu
    obtain ⟨-, hparam, -, hbody⟩ := hu
    exact .lambda hparam (ih hbody hfinite)
  | bind name _ _ ihvalue ihnext =>
    simp only [List.forall_mem_cons, List.forall_mem_append] at hu
    obtain ⟨-, hname, -, hvalue, -, hnext⟩ := hu
    obtain ⟨hvalue', hnext'⟩ := List.forall_mem_append.mp hfinite
    exact .bind hname (ihvalue hvalue hvalue') (ihnext hnext hnext')
  | cond _ _ _ ihtest ihyes ihno =>
    simp only [List.forall_mem_cons, List.forall_mem_append] at hu
    obtain ⟨-, htest, -, hyes, -, hno⟩ := hu
    obtain ⟨htest', hrest⟩ := List.forall_mem_append.mp hfinite
    obtain ⟨hyes', hno'⟩ := List.forall_mem_append.mp hrest
    exact .cond (ihtest htest htest') (ihyes hyes hyes') (ihno hno hno')
  | group _ ih =>
    simp only [List.forall_mem_cons, List.forall_mem_append] at hu
    exact ih hu.2.1 hfinite
  | @record entries fields _ hfields ih =>
    simp only [List.forall_mem_cons, List.forall_mem_append] at hu
    obtain ⟨-, hentries, -⟩ := hu
    -- An entry that a later one of the same name has replaced is in no field.
    have hentry : ∀ field ∈ fields, ∃ entry ∈ entries, entry.2 = field := fun field hmem =>
      List.mem_map.mp (hfields.mem hmem)
    refine .record hfields.nodup (fun field hmem => ?_) fun field hmem => ?_
    · obtain ⟨entry, hin, rfl⟩ := hentry field hmem
      exact hentries (.ident entry.2.1) (mem_commas (List.mem_map_of_mem hin) List.mem_cons_self)
    · have hfinite' := Expr.finite_of_field hfinite field hmem
      obtain ⟨entry, hin, rfl⟩ := hentry field hmem
      refine ih entry hin (fun t ht => hentries t ?_) hfinite'
      exact mem_commas (List.mem_map_of_mem hin)
        (List.mem_cons_of_mem _ (List.mem_cons_of_mem _ ht))
  | @list items _ ih =>
    simp only [List.forall_mem_cons, List.forall_mem_append] at hu
    obtain ⟨-, hitems, -⟩ := hu
    refine .list fun e he => ?_
    obtain ⟨item, hmem, rfl⟩ := List.mem_map.mp he
    refine ih item hmem (fun t ht => hitems t ?_) (Expr.finite_of_item hfinite _ he)
    exact mem_commas (List.mem_map_of_mem hmem) ht

/-! ## Sources -/

/-- A parse that succeeds takes a phrase off the tokens, with the tree that it returns. -/
theorem derives_of_parse {ts : List Token} {e : Expr} (h : parse ts = .ok e) :
    ∃ used rest, ts = used ++ rest ∧ Derives .expr used e := by
  obtain ⟨rest, hdone⟩ := parse_eq_ok.mp h
  have hreads := (readsAt (parseDepth ts)).expr ts.length (parseDepth_enough ts) ts (Nat.le_refl _)
  rw [hdone] at hreads
  obtain ⟨used, hts, hused⟩ := hreads
  exact ⟨used, rest, hts, hused⟩

theorem printable_of_parseSource {source : String} {e : Expr} (h : parseSource source = .ok e)
    (hfinite : e.Finite) : Printable e := by
  unfold parseSource at h
  split at h
  · cases h
  · rename_i ts htokens
    split at h
    · cases h
    · rename_i hparse
      cases h
      obtain ⟨used, rest, rfl, hderives⟩ := derives_of_parse hparse
      have hwritten := (tokenize_eq_ok.mp htokens).written
      exact hderives.printable (List.forall_mem_append.mp hwritten).1 hfinite

/-- Of each tree that a source text parses to, the printed text parses to the same tree, as long
as its numbers are finite. The whole may be printed with parentheses around it, or without. -/
theorem parsing_undoes_printing {source : String} {e : Expr} (hparse : parseSource source = .ok e)
    (hfinite : e.Finite) (part : Bool) : parseSource (String.ofList (e.print part)) = .ok e :=
  (printable_of_parseSource hparse hfinite).parseSource_print part

/-- A source text in which a field is set twice, and which goes on after its expression. -/
def busyText : String :=
  "\x7b a: 1, b: f x.y.z 2 | g, a: \\n: if n == 0 then [] else [n - 0.5, \"q#\"] \x7d ) # end"

/-- Its tree, where the field has the first place and the last value. -/
def busyTree : Expr :=
  .record
    [("a", .lambda "n" (.cond (.binary .eq (.ident "n") (.number 0.0)) (.list [])
      (.list [.binary .sub (.ident "n") (.number 0.5), .text "q#"]))),
    ("b", .pipe (.apply (.ident "f") [.field "x" ["y", "z"], .number 2.0]) [.ident "g"])]

theorem busyTree_comes_back :
    parseSource busyText = .ok busyTree ∧
      ∀ part, parseSource (String.ofList (busyTree.print part)) = .ok busyTree := by
  have htokens : tokenize busyText = .ok
      [.symbol .leftBrace, .ident "a", .symbol .colon, .number 1.0, .symbol .comma, .ident "b",
        .symbol .colon, .ident "f", .ident "x", .symbol .dot, .ident "y", .symbol .dot, .ident "z",
        .number 2.0, .symbol .pipe, .ident "g", .symbol .comma, .ident "a", .symbol .colon,
        .symbol .backslash, .ident "n", .symbol .colon, .symbol .ifWord, .ident "n",
        .symbol .equals, .number 0.0, .symbol .thenWord, .symbol .leftBracket,
        .symbol .rightBracket, .symbol .elseWord, .symbol .leftBracket, .ident "n", .symbol .minus,
        .number 0.5, .symbol .comma, .text "q#", .symbol .rightBracket, .symbol .rightBrace,
        .symbol .rightParen] := by
    decide +kernel
  have hparse : parseSource busyText = .ok busyTree := by
    unfold parseSource
    rw [htokens]
    rfl
  have hfinite : busyTree.Finite := by
    have hall : ∀ x ∈ [0.0, 0.5, 2.0], ∃ negative m s,
        Number.exact x = .finite negative m s := by
      simp only [List.forall_mem_cons]
      exact ⟨⟨_, _, _, rfl⟩, ⟨_, _, _, rfl⟩, ⟨_, _, _, rfl⟩, List.forall_mem_nil _⟩
    exact hall
  exact ⟨hparse, parsing_undoes_printing hparse hfinite⟩

end Language

end Patchbay
