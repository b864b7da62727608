-- A printer of expressions, and the law that the parser undoes it. A part that
-- is made of other parts with no marks around it stands in parentheses. The
-- text is made beside the tokens that it is lexed to, so the law falls apart
-- into one about texts and tokens and one about tokens and trees.
import Patchbay.Proofs.Greedy
import Patchbay.Proofs.LexerSteps

namespace Patchbay.Language

/-! ## The printer -/

def BinaryOp.symbol : BinaryOp → Symbol
  | add => .plus
  | sub => .minus
  | mul => .star
  | div => .slash
  | rem => .percent
  | eq => .equals

def Symbol.text (s : Symbol) : List Char := s.spelling.toList

/-- A text in parentheses, when it is a part. -/
def grouped (part : Bool) (text : List Char) : List Char :=
  if part then '(' :: (text ++ [')']) else text

def groupedTokens (part : Bool) (ts : List Token) : List Token :=
  if part then .symbol .leftParen :: (ts ++ [.symbol .rightParen]) else ts

/-- Texts with a comma and a blank between each two of them. -/
def listed (texts : List (List Char)) : List Char := List.intercalate [',', ' '] texts

mutual

/-- The text of an expression, by itself or as a part of another one. -/
def Expr.print : Expr → Bool → List Char
  | .number x, _ => (Number.plain x).toList
  | .text s, _ => '"' :: (s.toList ++ ['"'])
  | .ident name, _ => name.toList
  | .field base fields, _ => base.toList ++ fields.flatMap fun name => '.' :: name.toList
  | .bind name value next, part =>
    grouped part (Symbol.letWord.text ++ ' ' :: (name.toList ++ ' ' :: '=' :: ' ' ::
      (value.print true ++ ';' :: ' ' :: next.print true)))
  | .lambda param body, part =>
    grouped part ('\\' :: (param.toList ++ ':' :: ' ' :: body.print true))
  | .record fields, _ => '{' :: ' ' :: (listed (Expr.printFields fields) ++ [' ', '}'])
  | .list items, _ => '[' :: (listed (Expr.printItems items) ++ [']'])
  | .cond test yes no, part =>
    grouped part (Symbol.ifWord.text ++ ' ' :: (test.print true ++ ' ' ::
      (Symbol.thenWord.text ++ ' ' :: (yes.print true ++ ' ' ::
        (Symbol.elseWord.text ++ ' ' :: no.print true)))))
  | .apply callee args, part =>
    grouped part (callee.print true ++ (Expr.printItems args).flatMap (' ' :: ·))
  | .pipe seed stages, part =>
    grouped part (seed.print true ++ (Expr.printItems stages).flatMap (' ' :: '|' :: ' ' :: ·))
  | .binary op left right, part =>
    grouped part (left.print true ++ ' ' :: (op.symbol.text ++ ' ' :: right.print true))

def Expr.printFields : List (String × Expr) → List (List Char)
  | [] => []
  | (name, e) :: rest => (name.toList ++ ':' :: ' ' :: e.print true) :: Expr.printFields rest

def Expr.printItems : List Expr → List (List Char)
  | [] => []
  | e :: rest => e.print true :: Expr.printItems rest

end

mutual

/-- The tokens of the printed text. -/
def Expr.tokens : Expr → Bool → List Token
  | .number x, _ => [.number x]
  | .text s, _ => [.text s]
  | .ident name, _ => [.ident name]
  | .field base fields, _ =>
    .ident base :: fields.flatMap fun name => [.symbol .dot, .ident name]
  | .bind name value next, part =>
    groupedTokens part (.symbol .letWord :: .ident name :: .symbol .assign ::
      (value.tokens true ++ .symbol .semicolon :: next.tokens true))
  | .lambda param body, part =>
    groupedTokens part (.symbol .backslash :: .ident param :: .symbol .colon :: body.tokens true)
  | .record fields, _ =>
    .symbol .leftBrace :: (commas (Expr.tokensOfFields fields) ++ [.symbol .rightBrace])
  | .list items, _ =>
    .symbol .leftBracket :: (commas (Expr.tokensOfItems items) ++ [.symbol .rightBracket])
  | .cond test yes no, part =>
    groupedTokens part (.symbol .ifWord :: (test.tokens true ++ .symbol .thenWord ::
      (yes.tokens true ++ .symbol .elseWord :: no.tokens true)))
  | .apply callee args, part =>
    groupedTokens part (callee.tokens true ++ (Expr.tokensOfItems args).flatMap id)
  | .pipe seed stages, part =>
    groupedTokens part (seed.tokens true ++
      (Expr.tokensOfItems stages).flatMap (.symbol .pipe :: ·))
  | .binary op left right, part =>
    groupedTokens part (left.tokens true ++ .symbol op.symbol :: right.tokens true)

def Expr.tokensOfFields : List (String × Expr) → List (List Token)
  | [] => []
  | (name, e) :: rest => (.ident name :: .symbol .colon :: e.tokens true) :: tokensOfFields rest

def Expr.tokensOfItems : List Expr → List (List Token)
  | [] => []
  | e :: rest => e.tokens true :: Expr.tokensOfItems rest

end

theorem listed_singleton (text : List Char) : listed [text] = text := by
  simp [listed, List.intercalate]

theorem listed_cons (text next : List Char) (texts : List (List Char)) :
    listed (text :: next :: texts) = text ++ ',' :: ' ' :: listed (next :: texts) := by
  simp [listed, List.intercalate]

/-- The expressions that a parser could have read: the numbers are finite and not below zero,
no text holds a quote, names are names, and no row of parts is empty that may not be. -/
inductive Printable : Expr → Prop
  | number {x : Float} {m s : Nat} (h : Number.exact x = .finite false m s) :
      Printable (.number x)
  | text {s : String} (h : '"' ∉ s.toList) : Printable (.text s)
  | ident {name : String} (h : IsName name) : Printable (.ident name)
  | field {base : String} {fields : List String} (hbase : IsName base) (hne : fields ≠ [])
      (hfields : ∀ name ∈ fields, IsName name) : Printable (.field base fields)
  | bind {name : String} {value next : Expr} (hname : IsName name) (hvalue : Printable value)
      (hnext : Printable next) : Printable (.bind name value next)
  | lambda {param : String} {body : Expr} (hparam : IsName param) (hbody : Printable body) :
      Printable (.lambda param body)
  | record {fields : List (String × Expr)} (hnodup : (Fields.names fields).Nodup)
      (hnames : ∀ entry ∈ fields, IsName entry.1) (hfields : ∀ entry ∈ fields, Printable entry.2) :
      Printable (.record fields)
  | list {items : List Expr} (hitems : ∀ e ∈ items, Printable e) : Printable (.list items)
  | cond {test yes no : Expr} (htest : Printable test) (hyes : Printable yes)
      (hno : Printable no) : Printable (.cond test yes no)
  | apply {callee : Expr} {args : List Expr} (hne : args ≠ []) (hcallee : Printable callee)
      (hargs : ∀ e ∈ args, Printable e) : Printable (.apply callee args)
  | pipe {seed : Expr} {stages : List Expr} (hne : stages ≠ []) (hseed : Printable seed)
      (hstages : ∀ e ∈ stages, Printable e) : Printable (.pipe seed stages)
  | binary {op : BinaryOp} {left right : Expr} (hleft : Printable left)
      (hright : Printable right) : Printable (.binary op left right)

namespace Expr

theorem printFields_eq_map (fields : List (String × Expr)) :
    printFields fields =
      fields.map fun entry => entry.1.toList ++ ':' :: ' ' :: entry.2.print true := by
  induction fields with
  | nil => rfl
  | cons entry rest ih => rw [printFields, ih, List.map_cons]

theorem printItems_eq_map (items : List Expr) :
    printItems items = items.map fun e => e.print true := by
  induction items with
  | nil => rfl
  | cons e rest ih => rw [printItems, ih, List.map_cons]

theorem tokensOfFields_eq_map (fields : List (String × Expr)) :
    tokensOfFields fields =
      fields.map fun entry => .ident entry.1 :: .symbol .colon :: entry.2.tokens true := by
  induction fields with
  | nil => rfl
  | cons entry rest ih => rw [tokensOfFields, ih, List.map_cons]

theorem tokensOfItems_eq_map (items : List Expr) :
    tokensOfItems items = items.map fun e => e.tokens true := by
  induction items with
  | nil => rfl
  | cons e rest ih => rw [tokensOfItems, ih, List.map_cons]

end Expr

/-! ## Texts and tokens -/

/-- In front of what goes on with no word, the text is lexed to the tokens. -/
def Spelling (text : List Char) (tokens : List Token) : Prop :=
  ∀ rest ts, Ends rest → Spells rest ts → Spells (text ++ rest) (tokens ++ ts)

theorem Spells.mark {c : Char} {s : Symbol} {rest : List Char} {ts : List Token}
    (hs : lexeme? c rest = some (.symbol s, rest)) (h : Spells rest ts) :
    Spells (c :: rest) (.symbol s :: ts) := lexeme hs h

theorem Spells.keyword {s : Symbol} {rest : List Char} {ts : List Token}
    (hs : s = .letWord ∨ s = .ifWord ∨ s = .thenWord ∨ s = .elseWord) (hrest : EndsWord rest)
    (h : Spells rest ts) : Spells (s.text ++ rest) (.symbol s :: ts) := by
  rcases hs with rfl | rfl | rfl | rfl
  · exact word ⟨'l', ['e', 't'], rfl, rfl, List.all_eq_true.mp rfl⟩ hrest h
  · exact word ⟨'i', ['f'], rfl, rfl, List.all_eq_true.mp rfl⟩ hrest h
  · exact word ⟨'t', ['h', 'e', 'n'], rfl, rfl, List.all_eq_true.mp rfl⟩ hrest h
  · exact word ⟨'e', ['l', 's', 'e'], rfl, rfl, List.all_eq_true.mp rfl⟩ hrest h

theorem Spells.operator (op : BinaryOp) {rest : List Char} {ts : List Token} (h : Spells rest ts) :
    Spells (op.symbol.text ++ rest) (.symbol op.symbol :: ts) := by
  cases op <;> exact lexeme rfl h

theorem Spells.space {cs : List Char} {ts : List Token} (h : Spells cs ts) :
    Spells (' ' :: cs) ts := blank rfl h

theorem endsWord_space (rest : List Char) : EndsWord (' ' :: rest) :=
  (Ends.cons rfl (by decide) rest).endsWord

namespace Spelling

theorem grouped {text : List Char} {tokens : List Token} (h : Spelling text tokens)
    (part : Bool) : Spelling (Language.grouped part text) (groupedTokens part tokens) := by
  intro rest ts hrest hspells
  cases part with
  | false => exact h rest ts hrest hspells
  | true =>
    have hclose := Spells.mark (c := ')') rfl hspells
    have hinner := h _ _ (.cons rfl (by decide) rest) hclose
    have hopen := Spells.mark (c := '(') rfl hinner
    simpa only [Language.grouped, groupedTokens, if_true, List.cons_append, List.append_assoc,
      List.nil_append] using hopen

theorem nil : Spelling [] [] := fun _ _ _ h => h

theorem entry {name : String} {text : List Char} {tokens : List Token} (hname : IsName name)
    (h : Spelling text tokens) :
    Spelling (name.toList ++ ':' :: ' ' :: text) (.ident name :: .symbol .colon :: tokens) := by
  intro rest ts hrest hspells
  have hcolon := Spells.mark (c := ':') rfl (h rest ts hrest hspells).space
  have hall := Spells.name hname (Ends.cons rfl (by decide) _).endsWord hcolon
  simpa only [List.cons_append, List.append_assoc] using hall

theorem stage {text : List Char} {tokens : List Token} (h : Spelling text tokens) :
    Spelling ('|' :: ' ' :: text) (.symbol .pipe :: tokens) := fun rest ts hrest hspells =>
  .mark rfl (h rest ts hrest hspells).space

/-- The fields after the base of a path. -/
theorem path {names : List String} (hnames : ∀ name ∈ names, IsName name) {rest : List Char}
    {ts : List Token} (hrest : Ends rest) (h : Spells rest ts) :
    Spells ((names.flatMap fun name => '.' :: name.toList) ++ rest)
        ((names.flatMap fun name => [.symbol .dot, .ident name]) ++ ts) ∧
      EndsWord ((names.flatMap fun name => '.' :: name.toList) ++ rest) := by
  induction names with
  | nil => exact ⟨h, hrest.endsWord⟩
  | cons name names ih =>
    obtain ⟨hmore, hends⟩ := ih fun other hmem => hnames other (List.mem_cons_of_mem name hmem)
    constructor
    · have hname := Spells.name (hnames name List.mem_cons_self) hends hmore
      have hall := Spells.mark (c := '.') rfl hname
      simpa only [List.flatMap_cons, List.append_assoc, List.cons_append, List.nil_append]
        using hall
    · rw [List.flatMap_cons]
      rintro c ⟨⟩
      rfl

variable {α : Type} {text : α → List Char} {tokens : α → List Token} {items : List α}

/-- Texts with commas between. -/
theorem listed (h : ∀ i ∈ items, Spelling (text i) (tokens i)) :
    Spelling (Language.listed (items.map text)) (commas (items.map tokens)) := by
  induction items with
  | nil => exact nil
  | cons i items ih =>
    have hi := h i List.mem_cons_self
    have hitems := ih fun j hj => h j (List.mem_cons_of_mem i hj)
    cases items with
    | nil =>
      rw [List.map_singleton, List.map_singleton, listed_singleton, commas_singleton]
      exact hi
    | cons j items =>
      intro rest ts hrest hspells
      have hcomma := Spells.mark (c := ',') rfl
        (hitems rest ts hrest hspells).space
      have hall := hi _ _ (.cons rfl (by decide) _) hcomma
      simpa only [List.map_cons, listed_cons, commas_cons, List.append_assoc, List.cons_append]
        using hall

/-- Texts in a row, each after a blank. -/
theorem row (h : ∀ i ∈ items, Spelling (text i) (tokens i)) :
    Spelling (items.flatMap fun i => ' ' :: text i) (items.flatMap tokens) ∧
      ∀ rest, Ends rest → Ends ((items.flatMap fun i => ' ' :: text i) ++ rest) := by
  induction items with
  | nil => exact ⟨nil, fun rest hrest => hrest⟩
  | cons i items ih =>
    obtain ⟨hitems, hends⟩ := ih fun j hj => h j (List.mem_cons_of_mem i hj)
    constructor
    · intro rest ts hrest hspells
      have hmore := hitems rest ts hrest hspells
      have hall := h i List.mem_cons_self _ _ (hends rest hrest) hmore
      simpa only [List.flatMap_cons, List.append_assoc, List.cons_append] using hall.space
    · intro rest _
      rw [List.flatMap_cons]
      exact .cons rfl (by decide) _

end Spelling

/-! ## Printed expressions and their tokens -/

/-- As a part and by itself, the expression is lexed to its tokens. -/
def Spelled (e : Expr) : Prop := ∀ part, Spelling (e.print part) (e.tokens part)

namespace Spelled

theorem number {x : Float} {m s : Nat} (h : Number.exact x = .finite false m s) :
    Spelled (.number x) := fun _ _ _ hrest hspells => .number h hrest.endsNumber hspells

theorem text {s : String} (h : '"' ∉ s.toList) : Spelled (.text s) := by
  intro part rest ts _ hspells
  simpa only [Expr.print, Expr.tokens, List.cons_append, List.append_assoc, List.nil_append]
    using Spells.text h hspells

theorem ident {name : String} (h : IsName name) : Spelled (.ident name) :=
  fun _ _ _ hrest hspells => .name h hrest.endsWord hspells

theorem field {base : String} {fields : List String} (hbase : IsName base)
    (hfields : ∀ name ∈ fields, IsName name) : Spelled (.field base fields) := by
  intro part rest ts hrest hspells
  obtain ⟨hpath, hends⟩ := Spelling.path hfields hrest hspells
  simpa only [Expr.print, Expr.tokens, List.cons_append, List.append_assoc]
    using Spells.name hbase hends hpath

theorem record {fields : List (String × Expr)} (hnames : ∀ entry ∈ fields, IsName entry.1)
    (hfields : ∀ entry ∈ fields, Spelled entry.2) : Spelled (.record fields) := by
  intro part rest ts hrest hspells
  have hentries := Spelling.listed fun entry hmem =>
    Spelling.entry (hnames entry hmem) (hfields entry hmem true)
  have hclose := Spells.mark (c := '}') rfl hspells
  have hinner := hentries _ _ (.cons rfl (by decide) _) hclose.space
  have hall := Spells.mark (c := '{') rfl hinner.space
  simpa only [Expr.print, Expr.tokens, Expr.printFields_eq_map, Expr.tokensOfFields_eq_map,
    List.cons_append, List.append_assoc, List.nil_append] using hall

theorem list {items : List Expr} (hitems : ∀ e ∈ items, Spelled e) : Spelled (.list items) := by
  intro part rest ts hrest hspells
  have hlisted := Spelling.listed fun e hmem => hitems e hmem true
  have hclose := Spells.mark (c := ']') rfl hspells
  have hinner := hlisted _ _ (.cons rfl (by decide) _) hclose
  have hall := Spells.mark (c := '[') rfl hinner
  simpa only [Expr.print, Expr.tokens, Expr.printItems_eq_map, Expr.tokensOfItems_eq_map,
    List.cons_append, List.append_assoc, List.nil_append] using hall

theorem lambda {param : String} {body : Expr} (hparam : IsName param) (hbody : Spelled body) :
    Spelled (.lambda param body) := by
  refine fun part => Spelling.grouped (fun rest ts hrest hspells => ?_) part
  have hcolon := Spells.mark (c := ':') rfl
    (hbody true rest ts hrest hspells).space
  have hname := Spells.name hparam (Ends.cons rfl (by decide) _).endsWord hcolon
  have hall := Spells.mark (c := '\\') rfl hname
  simpa only [List.cons_append, List.append_assoc] using hall

theorem bind {name : String} {value next : Expr} (hname : IsName name) (hvalue : Spelled value)
    (hnext : Spelled next) : Spelled (.bind name value next) := by
  refine fun part => Spelling.grouped (fun rest ts hrest hspells => ?_) part
  have hsemicolon := Spells.mark (c := ';') rfl
    (hnext true rest ts hrest hspells).space
  have hbound := hvalue true _ _ (.cons rfl (by decide) _) hsemicolon
  have hassign := Spells.mark (c := '=') rfl hbound.space
  have hnamed := Spells.name hname (endsWord_space _) hassign.space
  have hall := Spells.keyword (.inl rfl) (endsWord_space _) hnamed.space
  simpa only [List.cons_append, List.append_assoc] using hall

theorem cond {test yes no : Expr} (htest : Spelled test) (hyes : Spelled yes)
    (hno : Spelled no) : Spelled (.cond test yes no) := by
  refine fun part => Spelling.grouped (fun rest ts hrest hspells => ?_) part
  have helse := Spells.keyword (.inr (.inr (.inr rfl))) (endsWord_space _)
    (hno true rest ts hrest hspells).space
  have hyes := hyes true _ _ (.cons rfl (by decide) _) helse.space
  have hthen := Spells.keyword (.inr (.inr (.inl rfl))) (endsWord_space _) hyes.space
  have htest := htest true _ _ (.cons rfl (by decide) _) hthen.space
  have hall := Spells.keyword (.inr (.inl rfl)) (endsWord_space _) htest.space
  simpa only [List.cons_append, List.append_assoc] using hall

theorem apply {callee : Expr} {args : List Expr} (hcallee : Spelled callee)
    (hargs : ∀ e ∈ args, Spelled e) : Spelled (.apply callee args) := by
  refine fun part => Spelling.grouped (fun rest ts hrest hspells => ?_) part
  obtain ⟨hrow, hends⟩ := Spelling.row fun e hmem => hargs e hmem true
  have hall := hcallee true _ _ (hends rest hrest) (hrow rest ts hrest hspells)
  simpa only [Expr.printItems_eq_map, Expr.tokensOfItems_eq_map, List.flatMap_map,
    List.append_assoc, id_eq] using hall

theorem pipe {seed : Expr} {stages : List Expr} (hseed : Spelled seed)
    (hstages : ∀ e ∈ stages, Spelled e) : Spelled (.pipe seed stages) := by
  refine fun part => Spelling.grouped (fun rest ts hrest hspells => ?_) part
  obtain ⟨hrow, hends⟩ := Spelling.row fun e hmem => Spelling.stage (hstages e hmem true)
  have hall := hseed true _ _ (hends rest hrest) (hrow rest ts hrest hspells)
  simpa only [Expr.printItems_eq_map, Expr.tokensOfItems_eq_map, List.flatMap_map,
    List.append_assoc] using hall

theorem binary (op : BinaryOp) {left right : Expr} (hleft : Spelled left)
    (hright : Spelled right) : Spelled (.binary op left right) := by
  refine fun part => Spelling.grouped (fun rest ts hrest hspells => ?_) part
  have hop := Spells.operator op (hright true rest ts hrest hspells).space
  have hall := hleft true _ _ (.cons rfl (by decide) _) hop.space
  simpa only [List.cons_append, List.append_assoc] using hall

end Spelled

/-- The text of a printable expression is lexed to its tokens. -/
theorem Printable.spelled {e : Expr} (h : Printable e) : Spelled e := by
  induction h with
  | number hx => exact .number hx
  | text hs => exact .text hs
  | ident hname => exact .ident hname
  | field hbase _ hfields => exact .field hbase hfields
  | record _ hnames _ ih => exact .record hnames ih
  | list _ ih => exact .list ih
  | bind hname _ _ ihv ihn => exact .bind hname ihv ihn
  | lambda hparam _ ih => exact .lambda hparam ih
  | cond _ _ _ iht ihy ihn => exact .cond iht ihy ihn
  | apply _ _ _ ihc iha => exact .apply ihc iha
  | pipe _ _ _ ihs iht => exact .pipe ihs iht
  | binary _ _ ihl ihr => exact .binary _ ihl ihr

end Patchbay.Language
