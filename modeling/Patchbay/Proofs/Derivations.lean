-- The grammar of the language as rules, apart from any way to parse, and the
-- first half of what the parser does with it: each tree that it returns is
-- derived from the tokens that it took.
import Patchbay.Language.Parser
import Patchbay.Proofs.Actions

namespace Patchbay

/-! ## Entries gathered by name -/

namespace Fields

variable {α : Type}

/-- The fields have each name of the entries once, where it came first, and with the value
that came last. -/
structure Gathers (entries : List (String × α)) (fields : Fields α) : Prop where
  names : fields.names = (entries.map Prod.fst).eraseDups
  values : ∀ name, fields.get? name = (entries.reverse.find? (·.1 = name)).map Prod.snd

theorem Gathers.set {entries : List (String × α)} {fields : Fields α} (h : Gathers entries fields)
    (name : String) (value : α) :
    Gathers (entries ++ [(name, value)]) (fields.set name value) := by
  constructor
  · have hmem : name ∈ fields.names ↔ name ∈ entries.map Prod.fst := by
      rw [h.names, List.mem_eraseDups]
    rw [names_set, List.map_append, List.eraseDups_append, ← h.names]
    by_cases hn : name ∈ entries.map Prod.fst
    · rw [if_pos (hmem.mpr hn)]
      simp [List.removeAll, hn]
    · rw [if_neg fun h => hn (hmem.mp h)]
      simp [List.removeAll, hn, List.eraseDups_cons]
  · intro other
    rw [get?_set, List.reverse_append, h.values other]
    by_cases hn : name = other <;> simp [hn]

theorem ofList_gathers (entries : List (String × α)) : Gathers entries (ofList entries) := by
  have hrun : ∀ (rest before : List (String × α)) (fields : Fields α), Gathers before fields →
      Gathers (before ++ rest)
        (rest.foldl (fun fields entry => fields.set entry.1 entry.2) fields) := by
    intro rest
    induction rest with
    | nil =>
      intro before fields h
      rw [List.append_nil]
      exact h
    | cons entry rest ih =>
      intro before fields h
      have hstep := ih _ _ (h.set entry.1 entry.2)
      rwa [List.append_assoc] at hstep
  exact hrun entries [] [] ⟨rfl, fun _ => rfl⟩

end Fields

namespace Language

/-! ## The grammar -/

/-- How tightly an expression holds together, the loosest first. -/
inductive Level
  | expr
  | apply
  | equality
  | additive
  | multiplicative
  | atom
  deriving DecidableEq, Repr

namespace Level

/-- The level of the operands. -/
def inner? : Level → Option Level
  | expr => some apply
  | apply => some equality
  | equality => some additive
  | additive => some multiplicative
  | multiplicative => some atom
  | atom => none

/-- The operators with two operands. -/
def operators : Level → List (Symbol × BinaryOp)
  | equality => [(.equals, .eq)]
  | additive => [(.plus, .add), (.minus, .sub)]
  | multiplicative => [(.star, .mul), (.slash, .div), (.percent, .rem)]
  | _ => []

end Level

/-- The words with a comma between each two of them. -/
def commas (words : List (List Token)) : List Token :=
  (words.intersperse [.symbol .comma]).flatten

/-- The tokens are a phrase of the level, with that tree. A phrase of a tighter level is one
of every looser level, with the same tree. -/
inductive Derives : Level → List Token → Expr → Prop
  | single {level inner : Level} {u : List Token} {e : Expr} (hlevel : level.inner? = some inner)
      (hu : Derives inner u e) : Derives level u e
  /-- `apply ('|' apply)+` -/
  | pipe {u : List Token} {seed : Expr} {stages : List (List Token × Expr)} (hne : stages ≠ [])
      (hseed : Derives .apply u seed) (hstages : ∀ stage ∈ stages, Derives .apply stage.1 stage.2) :
      Derives .expr (u ++ stages.flatMap fun stage => .symbol .pipe :: stage.1)
        (.pipe seed (stages.map Prod.snd))
  /-- `equality equality+` -/
  | apply {u : List Token} {callee : Expr} {args : List (List Token × Expr)} (hne : args ≠ [])
      (hcallee : Derives .equality u callee)
      (hargs : ∀ arg ∈ args, Derives .equality arg.1 arg.2) :
      Derives .apply (u ++ args.flatMap fun arg => arg.1) (.apply callee (args.map Prod.snd))
  /-- An operand, one of the operators of the level, and a phrase of the same level. -/
  | binary {level inner : Level} {s : Symbol} {op : BinaryOp} {u v : List Token}
      {left right : Expr} (hlevel : level.inner? = some inner) (hop : (s, op) ∈ level.operators)
      (hleft : Derives inner u left) (hright : Derives level v right) :
      Derives level (u ++ .symbol s :: v) (.binary op left right)
  | number (x : Float) : Derives .atom [.number x] (.number x)
  | text (s : String) : Derives .atom [.text s] (.text s)
  | ident (name : String) : Derives .atom [.ident name] (.ident name)
  /-- `ident ('.' ident)+` -/
  | field (base : String) {fields : List String} (hne : fields ≠ []) :
      Derives .atom (.ident base :: fields.flatMap fun name => [.symbol .dot, .ident name])
        (.field base fields)
  | lambda (param : String) {u : List Token} {body : Expr} (hbody : Derives .expr u body) :
      Derives .atom (.symbol .backslash :: .ident param :: .symbol .colon :: u)
        (.lambda param body)
  | bind (name : String) {u v : List Token} {value next : Expr} (hvalue : Derives .expr u value)
      (hnext : Derives .expr v next) :
      Derives .atom
        (.symbol .letWord :: .ident name :: .symbol .assign :: (u ++ .symbol .semicolon :: v))
        (.bind name value next)
  | cond {u v w : List Token} {test yes no : Expr} (htest : Derives .expr u test)
      (hyes : Derives .expr v yes) (hno : Derives .expr w no) :
      Derives .atom
        (.symbol .ifWord :: (u ++ .symbol .thenWord :: (v ++ .symbol .elseWord :: w)))
        (.cond test yes no)
  | group {u : List Token} {e : Expr} (hu : Derives .expr u e) :
      Derives .atom (.symbol .leftParen :: (u ++ [.symbol .rightParen])) e
  | record {entries : List (List Token × String × Expr)} {fields : Fields Expr}
      (hentries : ∀ entry ∈ entries, Derives .expr entry.1 entry.2.2)
      (hfields : Fields.Gathers (entries.map Prod.snd) fields) :
      Derives .atom
        (.symbol .leftBrace ::
          (commas (entries.map fun entry => .ident entry.2.1 :: .symbol .colon :: entry.1) ++
            [.symbol .rightBrace]))
        (.record fields)
  | list {items : List (List Token × Expr)} (hitems : ∀ item ∈ items, Derives .expr item.1 item.2) :
      Derives .atom
        (.symbol .leftBracket :: (commas (items.map Prod.fst) ++ [.symbol .rightBracket]))
        (.list (items.map Prod.snd))

theorem Derives.length_pos {level : Level} {u : List Token} {e : Expr} (h : Derives level u e) :
    0 < u.length := by
  induction h with
  | single _ _ ih => exact ih
  | pipe _ _ _ ih _ | apply _ _ _ ih _ | binary _ _ _ _ ih _ =>
    rw [List.length_append]
    exact Nat.add_pos_left ih _
  | _ => exact Nat.succ_pos _

theorem commas_singleton (word : List Token) : commas [word] = word := by simp [commas]

theorem commas_cons (word next : List Token) (words : List (List Token)) :
    commas (word :: next :: words) = word ++ .symbol .comma :: commas (next :: words) := by
  simp [commas]

theorem commas_starts (word : List Token) (words : List (List Token)) :
    ∃ more, commas (word :: words) = word ++ more := by
  cases words with
  | nil => exact ⟨[], by rw [commas_singleton, List.append_nil]⟩
  | cons next words => exact ⟨_, commas_cons word next words⟩

/-! ## Parts in a row -/

variable {α β : Type}

/-- The words of some phrases, each after the token `sep`, and their trees. -/
def Series (sep : List Token) (level : Level) (used : List Token) (trees : List Expr) : Prop :=
  ∃ parts : List (List Token × Expr), (∀ part ∈ parts, Derives level part.1 part.2) ∧
    used = (parts.flatMap fun part => sep ++ part.1) ∧ trees = parts.map Prod.snd

namespace Series

variable {sep : List Token} {level : Level}

theorem nil : Series sep level [] [] := ⟨[], by simp, rfl, rfl⟩

theorem cons {u used : List Token} {e : Expr} {trees : List Expr} (hu : Derives level u e)
    (h : Series sep level used trees) : Series sep level (sep ++ u ++ used) (e :: trees) := by
  obtain ⟨parts, hparts, rfl, rfl⟩ := h
  exact ⟨(u, e) :: parts, List.forall_mem_cons.mpr ⟨hu, hparts⟩, rfl, rfl⟩

end Series

/-- The words of some parts with commas between, up to the closing mark, and their values. -/
def Listed (word : List Token × α → List Token) (D : List Token × α → Prop) (close : Symbol)
    (used : List Token) (values : List α) : Prop :=
  ∃ parts, parts ≠ [] ∧ (∀ part ∈ parts, D part) ∧
    used = commas (parts.map word) ++ [.symbol close] ∧ values = parts.map Prod.snd

namespace Listed

variable {word : List Token × α → List Token} {D : List Token × α → Prop} {close : Symbol}

theorem one (part : List Token × α) (hpart : D part) :
    Listed word D close (word part ++ [.symbol close]) [part.2] := by
  refine ⟨[part], List.cons_ne_nil _ _, List.forall_mem_singleton.mpr hpart, ?_, rfl⟩
  rw [List.map_singleton, commas_singleton]

theorem cons (part : List Token × α) {used : List Token} {values : List α} (hpart : D part)
    (h : Listed word D close used values) :
    Listed word D close (word part ++ .symbol .comma :: used) (part.2 :: values) := by
  obtain ⟨_ | ⟨next, parts⟩, hne, hparts, rfl, rfl⟩ := h
  · exact absurd rfl hne
  refine ⟨part :: next :: parts, List.cons_ne_nil _ _, List.forall_mem_cons.mpr ⟨hpart, hparts⟩,
    ?_, rfl⟩
  simp only [List.map_cons, commas_cons, List.append_assoc, List.cons_append]

end Listed

/-! ## What a parser takes -/

/-- On at most `n` tokens the parser ends. When it ends with a value, the tokens that it took
and the value are as `D` says. -/
def Reads (n : Nat) (D : List Token → α → Prop) (x : Parser α) : Prop :=
  ∀ ts : List Token, ts.length ≤ n →
    (x ts).Meets (fun a rest => ∃ used, ts = used ++ rest ∧ D used a) True False

/-- The same when the next token is `t`. -/
def ReadsFrom (t : Token) (n : Nat) (D : List Token → α → Prop) (x : Parser α) : Prop :=
  ∀ ts : List Token, ts.length < n →
    (x (t :: ts)).Meets (fun a rest => ∃ used, t :: ts = used ++ rest ∧ D used a) True False

namespace Reads

variable {n : Nat} {C : List Token → α → Prop} {D : List Token → β → Prop}

theorem pure {b : β} (h : D [] b) : Reads n D (pure b) := fun _ _ => ⟨[], rfl, h⟩

theorem fail (cause : Expected) : Reads n D (Action.fail cause) := fun _ _ => trivial

theorem bind {x : Parser α} {f : α → Parser β} (hx : Reads n C x)
    (hf : ∀ u a, u.length ≤ n → C u a → Reads (n - u.length) (fun v b => D (u ++ v) b) (f a)) :
    Reads n D (x >>= f) := by
  intro ts hts
  refine Action.Meets.andThen (hx ts hts) fun a rest => ?_
  rintro ⟨u, rfl, hu⟩
  rw [List.length_append] at hts
  refine Action.Meets.mono (hf u a (by omega) hu rest (by omega)) ?_ id id
  rintro b rest' ⟨v, rfl, hv⟩
  exact ⟨u ++ v, (List.append_assoc _ _ _).symm, hv⟩

/-- What is done once the next token has been looked at. -/
theorem peek {f : Option Token → Parser β} (hnone : Reads n D (f none))
    (hsome : ∀ t, ReadsFrom t n D (f (some t))) : Reads n D (Parser.peek >>= f) := by
  intro ts hts
  cases ts with
  | nil => exact hnone [] hts
  | cons t ts => exact hsome t ts hts

theorem from_token {t : Token} {x : Parser β} (h : Reads n D x) : ReadsFrom t n D x :=
  fun ts hts => h (t :: ts) hts

theorem advance {t : Token} {x : Parser β} (h : 0 < n → Reads (n - 1) (fun v => D (t :: v)) x) :
    ReadsFrom t n D (Parser.advance >>= fun _ => x) := by
  intro ts hts
  refine Action.Meets.mono (h (by omega) ts (by omega)) ?_ id id
  rintro b rest ⟨v, rfl, hv⟩
  exact ⟨t :: v, rfl, hv⟩

theorem eat {s : Symbol} {f : Bool → Parser β}
    (htrue : 0 < n → Reads (n - 1) (fun v => D (.symbol s :: v)) (f true))
    (hfalse : Reads n D (f false)) : Reads n D (Parser.eat s >>= f) := by
  unfold Parser.eat
  rw [bind_assoc]
  refine peek ?_ fun t => ?_
  · exact hfalse
  · by_cases ht : t = .symbol s
    · subst ht
      rw [if_pos rfl, bind_assoc]
      exact advance htrue
    · rw [if_neg fun h => ht (Option.some.inj h)]
      exact from_token hfalse

theorem expect {s : Symbol} {f : Unit → Parser β}
    (h : 0 < n → Reads (n - 1) (fun v => D (.symbol s :: v)) (f ())) :
    Reads n D (Parser.expect s >>= f) := by
  unfold Parser.expect
  rw [bind_assoc]
  exact eat h (fail _)

theorem ident {f : String → Parser β}
    (h : ∀ name, 0 < n → Reads (n - 1) (fun v => D (.ident name :: v)) (f name)) :
    Reads n D (Parser.ident >>= f) := by
  unfold Parser.ident
  rw [bind_assoc]
  refine peek (fail _) fun t => ?_
  cases t with
  | ident name => exact advance (h name)
  | _ => exact from_token (fail _)

theorem operator? {op? : Symbol → Option BinaryOp} {f : Option BinaryOp → Parser β}
    (hsome : ∀ s op, op? s = some op → 0 < n →
      Reads (n - 1) (fun v => D (.symbol s :: v)) (f (some op)))
    (hnone : Reads n D (f none)) : Reads n D (Parser.operator? op? >>= f) := by
  unfold Parser.operator?
  rw [bind_assoc]
  refine peek hnone fun t => ?_
  cases t with
  | symbol s =>
    cases hop : op? s with
    | some op =>
      simp only [hop]
      exact advance (hsome s op hop)
    | none =>
      simp only [hop]
      exact from_token hnone
  | _ => exact from_token hnone

end Reads

/-! ## The parser takes phrases -/

/-- The fields of a path, each after a dot. -/
def IsPath (used : List Token) (fields : List String) : Prop :=
  used = fields.flatMap fun name => [.symbol .dot, .ident name]

/-- The entries of a record that is not empty, up to its closing brace. -/
abbrev AreEntries : List Token → List (String × Expr) → Prop :=
  Listed (fun part => .ident part.2.1 :: .symbol .colon :: part.1)
    (fun part => Derives .expr part.1 part.2.2) .rightBrace

/-- The items of a list that is not empty, up to its closing bracket. -/
abbrev AreItems : List Token → List Expr → Prop :=
  Listed Prod.fst (fun part => Derives .expr part.1 part.2) .rightBracket

/-- At one depth, what each part of the parser takes from so many tokens that the depth is
enough for them. -/
structure ReadsAt (depth : Nat) : Prop where
  expr : ∀ n, 8 * n + 6 ≤ depth → Reads n (Derives .expr) (Grammar.expr depth)
  stages : ∀ n, 8 * n + 1 ≤ depth → Reads n (Series [.symbol .pipe] .apply) (Grammar.stages depth)
  apply : ∀ n, 8 * n + 5 ≤ depth → Reads n (Derives .apply) (Grammar.apply depth)
  arguments : ∀ n, 8 * n + 5 ≤ depth → Reads n (Series [] .equality) (Grammar.arguments depth)
  equality : ∀ n, 8 * n + 4 ≤ depth → Reads n (Derives .equality) (Grammar.equality depth)
  additive : ∀ n, 8 * n + 3 ≤ depth → Reads n (Derives .additive) (Grammar.additive depth)
  multiplicative : ∀ n, 8 * n + 2 ≤ depth →
    Reads n (Derives .multiplicative) (Grammar.multiplicative depth)
  atom : ∀ n, 8 * n + 1 ≤ depth → Reads n (Derives .atom) (Grammar.atom depth)
  path : ∀ n, 8 * n + 1 ≤ depth → Reads n IsPath (Grammar.path depth)
  entries : ∀ n, 8 * n + 1 ≤ depth → Reads n AreEntries (Grammar.entries depth)
  items : ∀ n, 8 * n + 7 ≤ depth → Reads n AreItems (Grammar.items depth)

/-- The rule for the levels with operators. -/
theorem Reads.chain {level inner : Level} {op? : Symbol → Option BinaryOp}
    {operand same : Parser Expr} {n : Nat} (hlevel : level.inner? = some inner)
    (hop : ∀ s op, op? s = some op ↔ (s, op) ∈ level.operators)
    (hoperand : Reads n (Derives inner) operand)
    (hsame : ∀ m, m + 2 ≤ n → Reads m (Derives level) same) :
    Reads n (Derives level) (Parser.chain op? operand same) := by
  refine Reads.bind hoperand fun u left hn hu => ?_
  have hpos := hu.length_pos
  refine Reads.operator? (fun s op hs hm => ?_) ?_
  · refine Reads.bind (hsame _ (by omega)) fun v right _ hv => Reads.pure ?_
    rw [List.append_nil]
    exact .binary hlevel ((hop s op).mp hs) hu hv
  · refine Reads.pure ?_
    rw [List.append_nil]
    exact .single hlevel hu

theorem equality?_eq_some (s : Symbol) (op : BinaryOp) :
    equality? s = some op ↔ (s, op) ∈ Level.equality.operators := by
  cases s <;> cases op <;> decide

theorem additive?_eq_some (s : Symbol) (op : BinaryOp) :
    additive? s = some op ↔ (s, op) ∈ Level.additive.operators := by
  cases s <;> cases op <;> decide

theorem multiplicative?_eq_some (s : Symbol) (op : BinaryOp) :
    multiplicative? s = some op ↔ (s, op) ∈ Level.multiplicative.operators := by
  cases s <;> cases op <;> decide

namespace ReadsAt

variable {depth n : Nat} (h : ReadsAt depth)
include h

theorem expr_succ (hn : 8 * n + 6 ≤ depth + 1) :
    Reads n (Derives .expr) (Grammar.expr (depth + 1)) := by
  refine Reads.bind (h.apply n (by omega)) fun u seed hun hu => ?_
  refine Reads.bind (h.stages _ (by omega)) fun v stages _ hv => ?_
  obtain ⟨parts, hparts, rfl, rfl⟩ := hv
  cases parts with
  | nil =>
    refine Reads.pure ?_
    rw [List.append_nil, List.flatMap_nil, List.append_nil]
    exact .single rfl hu
  | cons part parts =>
    refine Reads.pure ?_
    rw [List.append_nil]
    exact .pipe (List.cons_ne_nil _ _) hu hparts

theorem stages_succ (hn : 8 * n + 1 ≤ depth + 1) :
    Reads n (Series [.symbol .pipe] .apply) (Grammar.stages (depth + 1)) := by
  refine Reads.eat (fun hpos => ?_) (Reads.pure .nil)
  refine Reads.bind (h.apply _ (by omega)) fun u stage hun hu => ?_
  refine Reads.bind (h.stages _ (by omega)) fun v rest _ hv => Reads.pure ?_
  rw [List.append_nil]
  exact .cons hu hv

theorem apply_succ (hn : 8 * n + 5 ≤ depth + 1) :
    Reads n (Derives .apply) (Grammar.apply (depth + 1)) := by
  refine Reads.bind (h.equality n (by omega)) fun u callee hun hu => ?_
  have hpos := hu.length_pos
  refine Reads.bind (h.arguments _ (by omega)) fun v args _ hv => ?_
  obtain ⟨parts, hparts, rfl, rfl⟩ := hv
  cases parts with
  | nil =>
    refine Reads.pure ?_
    rw [List.append_nil, List.flatMap_nil, List.append_nil]
    exact .single rfl hu
  | cons part parts =>
    refine Reads.pure ?_
    rw [List.append_nil]
    exact .apply (List.cons_ne_nil _ _) hu hparts

theorem arguments_succ (hn : 8 * n + 5 ≤ depth + 1) :
    Reads n (Series [] .equality) (Grammar.arguments (depth + 1)) := by
  have hmore : Reads n (Series [] .equality) (Grammar.equality depth >>= fun arg =>
      Grammar.arguments depth >>= fun rest => Pure.pure (arg :: rest)) := by
    refine Reads.bind (h.equality n (by omega)) fun u arg hun hu => ?_
    have hpos := hu.length_pos
    refine Reads.bind (h.arguments _ (by omega)) fun v rest _ hv => Reads.pure ?_
    rw [List.append_nil]
    exact .cons hu hv
  refine Reads.peek (Reads.pure .nil) fun t => Reads.from_token ?_
  split
  · exact hmore
  · exact Reads.pure .nil

theorem atom_succ (hn : 8 * n + 1 ≤ depth + 1) :
    Reads n (Derives .atom) (Grammar.atom (depth + 1)) := by
  refine Reads.peek (Reads.fail _) fun t => ?_
  cases t with
  | number x => exact Reads.advance fun _ => Reads.pure (.number x)
  | text s => exact Reads.advance fun _ => Reads.pure (.text s)
  | ident base =>
    refine Reads.advance fun _ => ?_
    refine Reads.bind (h.path _ (by omega)) fun u fields _ hu => ?_
    cases hu
    cases fields with
    | nil => exact Reads.pure (.ident base)
    | cons name fields =>
      refine Reads.pure ?_
      rw [List.append_nil]
      exact .field base (List.cons_ne_nil _ _)
  | symbol s =>
    cases s with
    | backslash =>
      refine Reads.advance fun _ => Reads.ident fun param _ => Reads.expect fun _ => ?_
      refine Reads.bind (h.expr _ (by omega)) fun u body _ hu => Reads.pure ?_
      rw [List.append_nil]
      exact .lambda param hu
    | letWord =>
      refine Reads.advance fun _ => Reads.ident fun name _ => Reads.expect fun _ => ?_
      refine Reads.bind (h.expr _ (by omega)) fun u value _ hu => Reads.expect fun _ => ?_
      refine Reads.bind (h.expr _ (by omega)) fun v next _ hv => Reads.pure ?_
      rw [List.append_nil]
      exact .bind name hu hv
    | ifWord =>
      refine Reads.advance fun _ => ?_
      refine Reads.bind (h.expr _ (by omega)) fun u test _ hu => Reads.expect fun _ => ?_
      refine Reads.bind (h.expr _ (by omega)) fun v yes _ hv => Reads.expect fun _ => ?_
      refine Reads.bind (h.expr _ (by omega)) fun w no _ hw => Reads.pure ?_
      rw [List.append_nil]
      exact .cond hu hv hw
    | leftParen =>
      refine Reads.advance fun _ => ?_
      refine Reads.bind (h.expr _ (by omega)) fun u e _ hu => Reads.expect fun _ => ?_
      exact Reads.pure (.group hu)
    | leftBrace =>
      refine Reads.advance fun _ => Reads.eat (fun _ => Reads.pure ?_) ?_
      · exact .record (List.forall_mem_nil _) (Fields.ofList_gathers [])
      · refine Reads.bind (h.entries _ (by omega)) fun u entries _ hu => Reads.pure ?_
        obtain ⟨parts, _, hparts, rfl, rfl⟩ := hu
        rw [List.append_nil]
        exact .record hparts (Fields.ofList_gathers _)
    | leftBracket =>
      refine Reads.advance fun _ => Reads.eat (fun _ => Reads.pure ?_) ?_
      · exact .list (List.forall_mem_nil _)
      · refine Reads.bind (h.items _ (by omega)) fun u items _ hu => Reads.pure ?_
        obtain ⟨parts, _, hparts, rfl, rfl⟩ := hu
        rw [List.append_nil]
        exact .list hparts
    | _ => exact Reads.from_token (Reads.fail _)

theorem path_succ (hn : 8 * n + 1 ≤ depth + 1) :
    Reads n IsPath (Grammar.path (depth + 1)) := by
  refine Reads.eat (fun _ => Reads.ident fun name _ => ?_) (Reads.pure rfl)
  refine Reads.bind (h.path _ (by omega)) fun u fields _ hu => Reads.pure ?_
  cases hu
  rw [List.append_nil]
  rfl

theorem entries_succ (hn : 8 * n + 1 ≤ depth + 1) :
    Reads n AreEntries (Grammar.entries (depth + 1)) := by
  refine Reads.ident fun name _ => Reads.expect fun _ => ?_
  refine Reads.bind (h.expr _ (by omega)) fun u value _ hu => ?_
  refine Reads.eat (fun _ => Reads.pure (Listed.one (u, name, value) hu)) ?_
  refine Reads.eat (fun _ => ?_) (Reads.fail _)
  refine Reads.bind (h.entries _ (by omega)) fun v rest _ hv => Reads.pure ?_
  rw [List.append_nil]
  exact Listed.cons (u, name, value) hu hv

theorem items_succ (hn : 8 * n + 7 ≤ depth + 1) :
    Reads n AreItems (Grammar.items (depth + 1)) := by
  refine Reads.bind (h.expr _ (by omega)) fun u item hun hu => ?_
  have hpos := hu.length_pos
  refine Reads.eat (fun _ => Reads.pure (Listed.one (u, item) hu)) ?_
  refine Reads.eat (fun _ => ?_) (Reads.fail _)
  refine Reads.bind (h.items _ (by omega)) fun v rest _ hv => Reads.pure ?_
  rw [List.append_nil]
  exact Listed.cons (u, item) hu hv

/-- One level deeper. -/
theorem succ : ReadsAt (depth + 1) where
  expr _ := h.expr_succ
  stages _ := h.stages_succ
  apply _ := h.apply_succ
  arguments _ := h.arguments_succ
  equality n hn := Reads.chain rfl equality?_eq_some (h.additive n (by omega))
    fun m hm => h.equality m (by omega)
  additive n hn := Reads.chain rfl additive?_eq_some (h.multiplicative n (by omega))
    fun m hm => h.additive m (by omega)
  multiplicative n hn := Reads.chain rfl multiplicative?_eq_some (h.atom n (by omega))
    fun m hm => h.multiplicative m (by omega)
  atom _ := h.atom_succ
  path _ := h.path_succ
  entries _ := h.entries_succ
  items _ := h.items_succ

end ReadsAt

theorem readsAt (depth : Nat) : ReadsAt depth := by
  induction depth with
  | zero => constructor <;> intro n hn <;> omega
  | succ depth ih => exact ih.succ

end Language

end Patchbay
