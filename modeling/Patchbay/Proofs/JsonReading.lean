-- What the readers make of texts that are laid out in some way. White space between
-- the marks makes no difference, strings come back with all their characters, and
-- arrays and records are read part by part: the first part that is wrong decides.
import Patchbay.Proofs.Actions
import Patchbay.Proofs.JsonLayout
import Mathlib.Tactic.SplitIfs

namespace Patchbay.Json

/-- How a reader ends: with this result, and these characters left where it has one. A
reader that runs out of its limit counts as one that found the text malformed. -/
def Ends {α : Type} (result : Except Problem α) (rest : List Char) :
    Outcome Problem (List Char) α → Prop
  | .done a s => result = .ok a ∧ s = rest
  | .failed problem _ => result = .error problem
  | .exhausted => result = .error .malformed

/-- What comes after a value: the end, white space or the mark after a part. -/
def Stops (rest : List Char) : Prop :=
  ∀ c, rest.head? = some c → Reader.isSpace c = true ∨ c = ',' ∨ c = ']' ∨ c = '}'

/-- A value starts with a character that is no mark after a part. -/
def Opens (cs : List Char) : Prop :=
  ∃ c, cs.head? = some c ∧ Reader.isSpace c = false ∧ c ≠ ']'

/-- A reader takes the characters after white space, and what follows makes no difference
to the result. -/
def Takes {α : Type} (r : Reader α) (cs : List Char) (result : Except Problem α) : Prop :=
  ∀ gap rest, Space gap → Stops rest → Ends result rest (r (gap ++ cs ++ rest))

variable {α β ξ δ : Type} {r : Reader α} {cs gap last rest : List Char} {c : Char}
  {result : Except Problem α}

/-! ## Ends -/

theorem Ends.bind {f : α → Reader β} {next : α → Except Problem β} {s middle : List Char}
    (hr : Ends result middle (r s))
    (hf : ∀ a, result = .ok a → Ends (next a) rest (f a middle)) :
    Ends (result >>= next) rest ((r >>= f) s) := by
  cases h : r s with
  | done a t =>
    rw [h] at hr
    obtain ⟨rfl, rfl⟩ := hr
    rw [Action.bind_of_done h]
    exact hf a rfl
  | failed problem t =>
    rw [h] at hr
    rw [Action.bind_of_failed h]
    cases hr
    rfl
  | exhausted =>
    rw [h] at hr
    rw [Action.bind_of_exhausted h]
    cases hr
    rfl

/-! ## White space and marks -/

theorem stops_nil : Stops [] := by simp [Stops]

theorem stops_mark (hc : c = ',' ∨ c = ']' ∨ c = '}') : Stops (c :: rest) := by
  intro d hd
  cases hd
  exact Or.inr hc

theorem Space.stops (hgap : Space gap) (hrest : Stops rest) : Stops (gap ++ rest) := by
  cases gap with
  | nil => exact hrest
  | cons d gap =>
    rintro _ ⟨⟩
    exact Or.inl (hgap d List.mem_cons_self)

namespace Reader

theorem peekPastSpace_space (hgap : Space gap) (cs : List Char) :
    peekPastSpace (gap ++ cs) = peekPastSpace cs := by
  unfold peekPastSpace
  rw [Action.change_bind, Action.change_bind, List.dropWhile_append_of_pos hgap]

theorem peekPastSpace_cons (hc : isSpace c = false) (cs : List Char) :
    peekPastSpace (c :: cs) = .done (some c) (c :: cs) := by
  unfold peekPastSpace
  rw [Action.change_bind, List.dropWhile_cons_of_neg (by simp [hc])]
  rfl

theorem peekPastSpace_mark (hgap : Space gap) (hc : isSpace c = false) (cs : List Char) :
    peekPastSpace (gap ++ c :: cs) = .done (some c) (c :: cs) :=
  (peekPastSpace_space hgap _).trans (peekPastSpace_cons hc cs)

/-- A reader that looks past white space first goes on at the first mark. -/
theorem peekPastSpace_bind (f : Option Char → Reader α) (hgap : Space gap)
    (hc : isSpace c = false) (cs : List Char) :
    (peekPastSpace >>= f) (gap ++ c :: cs) = f (some c) (c :: cs) :=
  Action.bind_of_done (peekPastSpace_mark hgap hc cs)

theorem expect_mark (hgap : Space gap) (hc : isSpace c = false) (cs : List Char) :
    expect c (gap ++ c :: cs) = .done () cs := by
  unfold expect
  rw [Action.bind_of_done (peekPastSpace_mark hgap hc cs)]
  simp [advance, Action.change]

/-! ## Strings -/

theorem hexValue?_hexDigit : ∀ n < 16, hexValue? (hexDigit n) = some n := by decide

/-- Takes one more character of a string. -/
def oneMore (limit : Nat) (c : Char) : Reader (List Char) := do
  let rest ← stringTail limit
  pure (c :: rest)

/-- A step after the next character is the step for that character. -/
theorem next?_bind (f : Option Char → Reader α) (c : Char) (cs : List Char) :
    (next? >>= f) (c :: cs) = f (some c) cs := rfl

theorem stringTail_short (limit : Nat) {e : Char} (he : e ≠ 'u') (hc : shortEscape? e = some c)
    (cs : List Char) : stringTail (limit + 1) ('\\' :: e :: cs) = oneMore limit c cs := by
  unfold stringTail
  rw [next?_bind]
  refine (next?_bind _ e cs).trans (congrFun ?_ cs)
  split
  · simp_all
  · simp_all
  · rename_i heq
    cases heq
    rw [hc]
    rfl

theorem stringTail_plain (limit : Nat) (hquote : c ≠ '"') (hslash : c ≠ '\\')
    (hcontrol : ¬c.toNat < 0x20) (cs : List Char) :
    stringTail (limit + 1) (c :: cs) = oneMore limit c cs := by
  unfold stringTail
  refine (next?_bind _ c cs).trans (congrFun ?_ cs)
  split
  · simp_all
  · simp_all
  · simp_all
  · rename_i heq
    cases heq
    rw [if_neg hcontrol]
    rfl

theorem hexFour_hexDigits {n : Nat} (hn : n < 0x20) (cs : List Char) :
    hexFour ('0' :: '0' :: hexDigit (n / 16) :: hexDigit (n % 16) :: cs) = .done n cs := by
  have hhigh := hexValue?_hexDigit (n / 16) (by omega)
  have hlow := hexValue?_hexDigit (n % 16) (by omega)
  have hzero : hexValue? '0' = some 0 := rfl
  unfold hexFour
  simp only [hhigh, hlow, hzero]
  congr 1
  omega

theorem stringTail_control (limit : Nat) (hcontrol : c.toNat < 0x20) (cs : List Char) :
    stringTail (limit + 1) ('\\' :: 'u' :: '0' :: '0' :: hexDigit (c.toNat / 16) ::
      hexDigit (c.toNat % 16) :: cs) = oneMore limit c cs := by
  have hescape : unicodeEscape ('0' :: '0' :: hexDigit (c.toNat / 16) ::
      hexDigit (c.toNat % 16) :: cs) = .done c cs := by
    unfold unicodeEscape
    rw [Action.bind_of_done (hexFour_hexDigits hcontrol cs), if_neg (by omega), if_neg (by omega),
      Char.ofNat_toNat]
    rfl
  refine (Action.bind_of_done rfl).trans ((Action.bind_of_done rfl).trans ?_)
  exact Action.bind_of_done hescape

/-- A character that was written inside quotes is read back. -/
theorem stringTail_escape (limit : Nat) (c : Char) (cs : List Char) :
    stringTail (limit + 1) (escape c ++ cs) = oneMore limit c cs := by
  have hshort : ∀ e, e ≠ 'u' → shortEscape? e = some c →
      stringTail (limit + 1) (['\\', e] ++ cs) = oneMore limit c cs :=
    fun e he hc => stringTail_short limit he hc cs
  unfold escape
  split_ifs with h₁ h₂ h₃ h₄ h₅ h₆ h₇ h₈
  · exact hshort '"' (by decide) (by rw [h₁]; rfl)
  · exact hshort '\\' (by decide) (by rw [h₂]; rfl)
  · exact hshort 'b' (by decide) (by rw [h₃]; rfl)
  · exact hshort 'f' (by decide) (by rw [h₄]; rfl)
  · exact hshort 'n' (by decide) (by rw [h₅]; rfl)
  · exact hshort 'r' (by decide) (by rw [h₆]; rfl)
  · exact hshort 't' (by decide) (by rw [h₇]; rfl)
  · exact stringTail_control limit h₈ cs
  · exact stringTail_plain limit h₁ h₂ h₈ cs

theorem stringTail_quoted (chars rest : List Char) (limit : Nat) (hlimit : chars.length < limit) :
    stringTail limit (chars.flatMap escape ++ '"' :: rest) = .done chars rest := by
  induction chars generalizing limit with
  | nil =>
    cases limit with
    | zero => omega
    | succ limit => rfl
  | cons c chars ih =>
    cases limit with
    | zero => omega
    | succ limit =>
      have hrest := ih limit (by simpa using hlimit)
      rw [List.flatMap_cons, List.append_assoc, stringTail_escape]
      exact Action.bind_of_done hrest

theorem length_escape (c : Char) : 1 ≤ (escape c).length := by
  unfold escape
  split_ifs <;> simp

theorem length_le_flatMap_escape (chars : List Char) :
    chars.length ≤ (chars.flatMap escape).length := by
  induction chars with
  | nil => simp
  | cons c chars ih =>
    have hc := length_escape c
    rw [List.flatMap_cons, List.length_append, List.length_cons]
    omega

/-- A string that was written comes back with all its characters. -/
theorem string_quote (s : String) (rest : List Char) :
    string ((quote s).toList ++ rest) = .done s rest := by
  have hlength := length_le_flatMap_escape s.toList
  have htail := stringTail_quoted s.toList rest
    ((s.toList.flatMap escape ++ '"' :: rest).length + 1) (by rw [List.length_append]; omega)
  rw [toList_quote, List.cons_append, List.append_assoc]
  refine (Action.bind_of_done htail).trans ?_
  rw [String.ofList_toList]
  rfl

theorem text_quote (hgap : Space gap) (s : String) (rest : List Char) :
    text (gap ++ (quote s).toList ++ rest) = .done s rest := by
  have hstring := string_quote s rest
  rw [toList_quote] at hstring ⊢
  rw [List.append_assoc]
  exact (peekPastSpace_bind _ hgap rfl _).trans hstring

theorem takes_text (s : String) : Takes text (quote s).toList (.ok s) := by
  intro gap rest hgap hrest
  rw [text_quote hgap]
  exact ⟨rfl, rfl⟩

theorem takes_text? (s : String) : Takes text? (quote s).toList (.ok (some s)) := by
  intro gap rest hgap hrest
  have htext := text_quote Space.nil s rest
  have hsome : text? (gap ++ (quote s).toList ++ rest) = .done (some s) rest := by
    rw [toList_quote] at htext ⊢
    rw [List.append_assoc]
    exact (peekPastSpace_bind _ hgap rfl _).trans (Action.bind_of_done htext)
  rw [hsome]
  exact ⟨rfl, rfl⟩

/-! ## Arrays -/

theorem stops_further (hlast : Space last) (hc : c = ',' ∨ c = ']' ∨ c = '}')
    (parts : List (List Char)) : Stops (further gap parts ++ last ++ c :: rest) := by
  cases parts with
  | nil => exact hlast.stops (stops_mark hc)
  | cons part parts => exact stops_mark (Or.inl rfl)

theorem another_close (hlast : Space last) (isFirst : Bool) (rest : List Char) :
    another isFirst (last ++ ']' :: rest) = .done false (']' :: rest) :=
  peekPastSpace_bind _ hlast rfl _

/-- What opens a value is no end of the items. -/
theorem peekPastSpace_opens (hgap : Space gap) (hopens : Opens cs) (x y z : Reader Bool)
    (rest : List Char) :
    (peekPastSpace >>= fun found => match found with
      | none => x
      | some ']' => y
      | some _ => z) (gap ++ (cs ++ rest)) = z (cs ++ rest) := by
  obtain ⟨c, hhead, hspace, hclose⟩ := hopens
  obtain ⟨tail, rfl⟩ := List.head?_eq_some_iff.mp hhead
  refine (peekPastSpace_bind _ hgap hspace (tail ++ rest)).trans (congrFun ?_ _)
  split
  · simp_all
  · simp_all
  · rfl

/-- The first item follows the bracket. -/
theorem another_first (hgap : Space gap) (hopens : Opens cs) (rest : List Char) :
    another true (gap ++ (cs ++ rest)) = .done true (cs ++ rest) :=
  peekPastSpace_opens hgap hopens _ (pure false) (pure true) rest

/-- Another item follows a comma. -/
theorem another_next (hgap : Space gap) (hopens : Opens cs) (rest : List Char) :
    another false (',' :: (gap ++ (cs ++ rest))) = .done true (cs ++ rest) :=
  (peekPastSpace_bind _ Space.nil rfl (gap ++ (cs ++ rest))).trans
    (peekPastSpace_opens hgap hopens _ (Action.fail .malformed) (pure true) rest)

section Items

variable {item : Reader α} {write : ξ → List Char} {read : ξ → Except Problem α}

/-- An item, and then those after it. -/
theorem items_one {x : ξ} {xs : List ξ} {isFirst : Bool} {s : List Char} {limit : Nat}
    (hitem : Takes item (write x) (read x)) (hstops : Stops rest)
    (hmore : another isFirst s = .done true (write x ++ rest))
    (hrest : Ends (xs.mapM read) cs (items item limit false rest)) :
    Ends ((x :: xs).mapM read) cs (items item (limit + 1) isFirst s) := by
  rw [items, Action.bind_of_done hmore, List.mapM_cons]
  refine (hitem [] rest Space.nil hstops).bind fun a _ => hrest.bind fun as _ => ?_
  exact ⟨rfl, rfl⟩

theorem items_none (hlast : Space last) {isFirst : Bool} (limit : Nat) (hlimit : 0 < limit)
    (rest : List Char) :
    Ends ([].mapM read) rest (items item limit isFirst (last ++ ']' :: rest)) := by
  cases limit with
  | zero => omega
  | succ limit =>
    rw [items, Action.bind_of_done (another_close hlast isFirst rest)]
    exact ⟨rfl, rfl⟩

variable (hgap : Space gap) (hlast : Space last)
include hgap hlast

theorem items_further (xs : List ξ) (hitem : ∀ x ∈ xs, Takes item (write x) (read x))
    (hopens : ∀ x ∈ xs, Opens (write x)) (limit : Nat) (hlimit : xs.length < limit)
    (rest : List Char) : Ends (xs.mapM read) rest
      (items item limit false (further gap (xs.map write) ++ last ++ ']' :: rest)) := by
  induction xs generalizing limit with
  | nil => exact items_none hlast limit hlimit rest
  | cons x xs ih =>
    cases limit with
    | zero => omega
    | succ limit =>
      have hrest := ih (fun y hy => hitem y (List.mem_cons_of_mem _ hy))
        (fun y hy => hopens y (List.mem_cons_of_mem _ hy)) limit (by simpa using hlimit)
      have hmore := another_next hgap (hopens x List.mem_cons_self)
        (further gap (xs.map write) ++ last ++ ']' :: rest)
      have hstops : Stops (further gap (xs.map write) ++ last ++ ']' :: rest) :=
        stops_further hlast (by simp) _
      refine items_one (hitem x List.mem_cons_self) hstops ?_ hrest
      simpa [further] using hmore

/-- All items up to the bracket. -/
theorem items_row (xs : List ξ) (hitem : ∀ x ∈ xs, Takes item (write x) (read x))
    (hopens : ∀ x ∈ xs, Opens (write x)) (limit : Nat) (hlimit : xs.length < limit)
    (rest : List Char) : Ends (xs.mapM read) rest
      (items item limit true (gap ++ row gap (xs.map write) ++ last ++ ']' :: rest)) := by
  cases limit with
  | zero => omega
  | succ limit =>
    cases xs with
    | nil =>
      rw [List.map_nil, row, List.append_nil]
      exact items_none (hgap.append hlast) (limit + 1) hlimit rest
    | cons x xs =>
      have hrest := items_further hgap hlast xs (fun y hy => hitem y (List.mem_cons_of_mem _ hy))
        (fun y hy => hopens y (List.mem_cons_of_mem _ hy)) limit (by simpa using hlimit) rest
      have hmore := another_first hgap (hopens x List.mem_cons_self)
        (further gap (xs.map write) ++ last ++ ']' :: rest)
      have hstops : Stops (further gap (xs.map write) ++ last ++ ']' :: rest) :=
        stops_further hlast (by simp) _
      refine items_one (hitem x List.mem_cons_self) hstops ?_ hrest
      simpa [row] using hmore

end Items

/-- An array is read item by item. -/
theorem takes_array {item : Reader α} {write : ξ → List Char} {read : ξ → Except Problem α}
    (xs : List ξ) (hitem : ∀ x ∈ xs, Takes item (write x) (read x))
    (hopens : ∀ x ∈ xs, Opens (write x)) (hcs : Bracketed '[' ']' (xs.map write) cs) :
    Takes (array item) cs (xs.mapM read) := by
  intro gap rest hgap hrest
  obtain ⟨inner, last, hinner, hlast, rfl⟩ := hcs.exists_gaps
  have hlength := length_le_row inner (xs.map write)
  have hitems := items_row hinner hlast xs hitem hopens
    ((inner ++ row inner (xs.map write) ++ last ++ ']' :: rest).length + 1)
    (by simp only [List.length_append, List.length_cons, List.length_map] at *; omega) rest
  have harray : array item
      (gap ++ '[' :: (inner ++ row inner (xs.map write) ++ last ++ [']']) ++ rest) =
      items item ((inner ++ row inner (xs.map write) ++ last ++ ']' :: rest).length + 1) true
        (inner ++ row inner (xs.map write) ++ last ++ ']' :: rest) := by
    rw [List.append_assoc, List.cons_append, List.append_assoc _ [']']]
    exact peekPastSpace_bind _ hgap rfl _
  rw [harray]
  exact hitems

/-! ## Records -/

/-- The fields of a record, given in this order, make this of a draft. Each one is a field
that the draft does not have yet. -/
inductive Fills (fields : List (Field δ)) :
    List (String × List Char) → δ → Except Problem δ → Prop
  | nil (draft : δ) : Fills fields [] draft (.ok draft)
  | cons {key : String} {value : List Char} {rest : List (String × List Char)} {draft : δ}
      {β : Type} {reader : Reader β} {set : β → δ} {result : Except Problem β}
      {next : β → Except Problem δ} (field : Field δ)
      (hfind : fields.find? (·.name = key) = some field) (hnew : field.given draft = false)
      (hread : field.read draft = reader >>= fun b => pure (set b))
      (htakes : Takes reader value result)
      (hrest : ∀ b, result = .ok b → Fills fields rest (set b) (next b)) :
      Fills fields ((key, value) :: rest) draft (result >>= next)

/-- A field that is read without fail. -/
theorem Fills.ok {fields : List (Field δ)} {key : String} {value : List Char}
    {rest : List (String × List Char)} {draft : δ} {reader : Reader β} {set : β → δ} (b : β)
    (field : Field δ) (hfind : fields.find? (·.name = key) = some field)
    (hnew : field.given draft = false)
    (hread : field.read draft = reader >>= fun b => pure (set b))
    (htakes : Takes reader value (.ok b)) {drafted : Except Problem δ}
    (hrest : Fills fields rest (set b) drafted) :
    Fills fields ((key, value) :: rest) draft drafted := by
  have hcons : Fills fields ((key, value) :: rest) draft (.ok b >>= fun _ => drafted) :=
    .cons field hfind hnew hread htakes fun b' hb => by
      cases hb
      exact hrest
  exact hcons

theorem anotherKey_close (hlast : Space last) (isFirst : Bool) (rest : List Char) :
    anotherKey isFirst (last ++ '}' :: rest) = .done false ('}' :: rest) :=
  peekPastSpace_bind _ hlast rfl _

/-- A member starts with a quote. -/
theorem peekPastSpace_member (f : Option Char → Reader α) (hgap : Space gap)
    (colon : List Char) (key : String) (value rest : List Char) :
    (peekPastSpace >>= f) (gap ++ (member colon key value ++ rest)) =
      f (some '"') (member colon key value ++ rest) := by
  unfold member
  rw [toList_quote]
  exact peekPastSpace_bind f hgap rfl _

theorem anotherKey_first (hgap : Space gap) (colon : List Char) (key : String)
    (value rest : List Char) : anotherKey true (gap ++ (member colon key value ++ rest)) =
      .done true (member colon key value ++ rest) :=
  peekPastSpace_member _ hgap colon key value rest

theorem anotherKey_next (hgap : Space gap) (colon : List Char) (key : String)
    (value rest : List Char) : anotherKey false (',' :: (gap ++ (member colon key value ++ rest))) =
      .done true (member colon key value ++ rest) := by
  have hcomma := peekPastSpace_cons (c := ',') rfl (gap ++ (member colon key value ++ rest))
  unfold anotherKey
  rw [Action.bind_of_done hcomma]
  refine (congrFun (if_neg Bool.false_ne_true) _).trans ((congrFun (if_pos rfl) _).trans ?_)
  refine (Action.change_bind _ _ _).trans ?_
  exact peekPastSpace_member _ hgap colon key value rest

section Members

variable {fields : List (Field δ)} {colon : List Char}

theorem members_none (hlast : Space last) {isFirst : Bool} (draft : δ) (limit : Nat)
    (hlimit : 0 < limit) (rest : List Char) :
    Ends (.ok draft) ('}' :: rest) (members fields limit isFirst draft (last ++ '}' :: rest)) := by
  cases limit with
  | zero => omega
  | succ limit =>
    rw [members, Action.bind_of_done (anotherKey_close hlast isFirst rest)]
    exact ⟨rfl, rfl⟩

variable (hcolon : Space colon)
include hcolon

/-- A member, and then those after it. -/
theorem members_one {key : String} {value s : List Char} {draft : δ} {reader : Reader β}
    {set : β → δ} {result : Except Problem β} {next : β → Except Problem δ} {field : Field δ}
    {isFirst : Bool} {limit : Nat} (hfind : fields.find? (·.name = key) = some field)
    (hnew : field.given draft = false)
    (hread : field.read draft = reader >>= fun b => pure (set b))
    (htakes : Takes reader value result) (hstops : Stops rest)
    (hmore : anotherKey isFirst s = .done true (member colon key value ++ rest))
    (hrest : ∀ b, result = .ok b →
      Ends (next b) cs (members fields limit false (set b) rest)) :
    Ends (result >>= next) cs (members fields (limit + 1) isFirst draft s) := by
  have hkey : string (member colon key value ++ rest) =
      .done key (':' :: (colon ++ value ++ rest)) := by
    unfold member
    rw [List.append_assoc]
    exact string_quote key _
  rw [members, Action.bind_of_done hmore]
  refine Eq.mpr (congrArg _ (Action.bind_of_done hkey)) ?_
  simp only [hfind, hnew]
  rw [if_neg Bool.false_ne_true]
  refine Eq.mpr (congrArg _ (Action.bind_of_done (expect_mark Space.nil rfl _))) ?_
  rw [hread, bind_assoc]
  exact (htakes colon rest hcolon hstops).bind hrest

variable (hgap : Space gap) (hlast : Space last)
include hgap hlast

theorem members_further {ms : List (String × List Char)} {draft : δ} {result : Except Problem δ}
    (h : Fills fields ms draft result) (limit : Nat) (hlimit : ms.length < limit)
    (rest : List Char) : Ends result ('}' :: rest) (members fields limit false draft
      (further gap (ms.map fun m => member colon m.1 m.2) ++ last ++ '}' :: rest)) := by
  induction h generalizing limit with
  | nil draft => exact members_none hlast draft limit hlimit rest
  | @cons key value ms draft β reader set result next field hfind hnew hread htakes _ ih =>
    cases limit with
    | zero => omega
    | succ limit =>
      have hmore := anotherKey_next hgap colon key value
        (further gap (ms.map fun m => member colon m.1 m.2) ++ last ++ '}' :: rest)
      have hstops : Stops (further gap (ms.map fun m => member colon m.1 m.2) ++ last ++
        '}' :: rest) := stops_further hlast (by simp) _
      refine members_one hcolon hfind hnew hread htakes hstops ?_ fun b h =>
        ih b h limit (by simpa using hlimit)
      simpa [further] using hmore

/-- All members up to the brace. -/
theorem members_row {ms : List (String × List Char)} {draft : δ} {result : Except Problem δ}
    (h : Fills fields ms draft result) (limit : Nat) (hlimit : ms.length < limit)
    (rest : List Char) : Ends result ('}' :: rest) (members fields limit true draft
      (gap ++ row gap (ms.map fun m => member colon m.1 m.2) ++ last ++ '}' :: rest)) := by
  cases h with
  | nil =>
    rw [List.map_nil, row, List.append_nil]
    exact members_none (hgap.append hlast) draft limit hlimit rest
  | @cons key value ms _ β reader set result next field hfind hnew hread htakes hrest =>
    cases limit with
    | zero => omega
    | succ limit =>
      have hmore := anotherKey_first hgap colon key value
        (further gap (ms.map fun m => member colon m.1 m.2) ++ last ++ '}' :: rest)
      have hstops : Stops (further gap (ms.map fun m => member colon m.1 m.2) ++ last ++
        '}' :: rest) := stops_further hlast (by simp) _
      refine members_one hcolon hfind hnew hread htakes hstops ?_ fun b h =>
        members_further hcolon hgap hlast (hrest b h) limit (by simpa using hlimit) rest
      simpa [row] using hmore

end Members

/-- A record is read from an object member by member, and then finished. -/
theorem takes_record {fields : List (Field δ)} {empty : δ} {finish : δ → Option α}
    {ms : List (String × List Char)} {drafted : Except Problem δ} {colon : List Char}
    (hcolon : Space colon) (h : Fills fields ms empty drafted)
    (hcs : Bracketed '{' '}' (ms.map fun m => member colon m.1 m.2) cs) :
    Takes (record fields empty finish) cs
      (drafted >>= fun draft => (finish draft).elim (.error .mismatch) .ok) := by
  intro gap rest hgap hrest
  obtain ⟨inner, last, hinner, hlast, rfl⟩ := hcs.exists_gaps
  have hlength := length_le_row inner (ms.map fun m => member colon m.1 m.2)
  have hmembers := members_row hcolon hinner hlast h
    ((inner ++ row inner (ms.map fun m => member colon m.1 m.2) ++ last ++ '}' :: rest).length + 1)
    (by simp only [List.length_append, List.length_cons, List.length_map] at *; omega) rest
  have hfinish : ∀ draft, Ends ((finish draft).elim (.error .mismatch) .ok) rest
      ((Action.ofOption .mismatch (finish draft) >>= fun result => advance >>= fun _ =>
        pure result : Reader α) ('}' :: rest)) := by
    intro draft
    cases finish draft with
    | none => rfl
    | some result => exact ⟨rfl, rfl⟩
  have hread := hmembers.bind fun draft _ => hfinish draft
  rw [List.append_assoc, List.cons_append, List.append_assoc _ ['}']]
  refine Eq.mpr (congrArg _ ?_) hread
  exact peekPastSpace_bind _ hgap rfl _

/-- In each layout a record is read from the object that holds its fields. -/
theorem takes_object {write : Nat → Json → List Char} (hwrite : LaidOut write)
    {fields : List (Field δ)} {empty : δ} {finish : δ → Option α} {drafted : Except Problem δ}
    (level : Nat) (ms : List (String × Json))
    (h : Fills fields (ms.map fun m => (m.1, write (level + 1) m.2)) empty drafted) :
    Takes (record fields empty finish) (write level (.object ms))
      (drafted >>= fun draft => (finish draft).elim (.error .mismatch) .ok) := by
  obtain ⟨colon, hcolon, hobject⟩ := hwrite.object
  refine takes_record hcolon h ?_
  rw [List.map_map]
  exact hobject level ms

/-! ## Whole texts -/

/-- Where a reader takes a whole text, its result is that of the text. -/
theorem run_of_takes (h : Takes r cs result) : r.run (String.ofList cs) = result := by
  have hends := h [] [] Space.nil stops_nil
  rw [List.nil_append, List.append_nil] at hends
  unfold Reader.run
  rw [String.toList_ofList]
  extract_lets whole
  have hwhole : Ends (result >>= .ok) [] (whole cs) := hends.bind fun a _ => ⟨rfl, rfl⟩
  have hresult : (result >>= .ok) = result := bind_pure result
  rw [hresult] at hwhole
  split
  · rename_i heq
    exact (heq ▸ hwhole).1.symm
  · rename_i heq
    exact (heq ▸ hwhole).symm
  · rename_i heq
    exact (heq ▸ hwhole).symm

end Reader

end Patchbay.Json
