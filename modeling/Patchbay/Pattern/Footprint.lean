-- How much room a pattern takes. It is matched by automata over bytes, one
-- that reads forward and one that reads backward, and neither may take more
-- than ten megabytes. States are numbered as they are made, and a state for a
-- set is only made when the cache does not hold its like, so the room that a
-- set takes hangs on the numbers.
import Patchbay.Pattern.ByteRange
import Patchbay.Pattern.Regex

namespace Patchbay.Pattern

/-- The states made so far and the bytes that they take. -/
structure Footprint where
  states : Nat
  bytes : Nat
  deriving DecidableEq, Repr

namespace Footprint

/-- An automaton may take so many bytes. -/
def limit : Nat := 10485760

def fits (f : Footprint) : Bool := f.bytes ≤ limit

/-- So many states with nothing of their own to keep. -/
def plain (f : Footprint) (count : Nat) : Footprint :=
  ⟨f.states + count, f.bytes + 32 * count⟩

/-- A state that leads to so many others. -/
def fork (f : Footprint) (ways : Nat) : Footprint := ⟨f.states + 1, f.bytes + 32 + 4 * ways⟩

/-- A state that takes a byte of so many ranges. -/
def take (f : Footprint) (ranges : Nat) : Footprint := ⟨f.states + 1, f.bytes + 32 + 8 * ranges⟩

/-! ## Hashes -/

/-- One step of a hash. -/
def mix (hash word : UInt64) : UInt64 := (hash ^^^ word) * 1099511628211

def hashStart : UInt64 := 14695981039346656037

/-! ## Sets, forward -/

/-- A way out of a state: a byte of the range leads to the state `next`. -/
structure Edge where
  range : ByteRange
  next : Nat
  deriving DecidableEq

def Edge.mix (hash : UInt64) (e : Edge) : UInt64 :=
  Footprint.mix (Footprint.mix (Footprint.mix hash e.range.low.toUInt64) e.range.high.toUInt64)
    e.next.toUInt64

/-- The states made so far for a set, each under its hash. A later one takes the
place of an earlier one with the same slot. -/
abbrev EdgeCache := Array (Option (List Edge × Nat))

def EdgeCache.size : Nat := 10000

/-- A state that is not made yet. Its last edge leads to another such state. -/
structure OpenState where
  /-- The edges before, the last one first. -/
  edges : List Edge
  last : Option ByteRange

/-- The edges of a state, once it is known where the last one leads. -/
def OpenState.close (s : OpenState) (next : Nat) : List Edge :=
  match s.last with
  | some range => ⟨range, next⟩ :: s.edges
  | none => s.edges

structure Spelling where
  footprint : Footprint
  cache : EdgeCache

/-- The number of the state with these edges, the last one first. It is made
when the cache does not hold it. -/
def Spelling.state (w : Spelling) (edges : List Edge) : Nat × Spelling :=
  let slot := (edges.foldr (fun e hash => Edge.mix hash e) hashStart).toNat % EdgeCache.size
  match w.cache.getD slot none with
  | some (edges', number) =>
    if edges = edges' then (number, w) else made slot
  | none => made slot
where
  made (slot : Nat) : Nat × Spelling :=
    (w.footprint.states,
      ⟨w.footprint.take edges.length,
        w.cache.setIfInBounds slot (some (edges, w.footprint.states))⟩)

/-- Makes open states from the last one on. Each leads to the one after it, and
the last one to `target`. -/
def Spelling.closeAll (target : Nat) : List OpenState → Spelling → Nat × Spelling
  | [], w => (target, w)
  | s :: rest, w =>
    let (next, w) := closeAll target rest w
    w.state (s.close next)

/-- Adds a row. The front that it shares with the row before stays open. -/
def Spelling.add (target : Nat) :
    List ByteRange → List OpenState → Spelling → List OpenState × Spelling
  | [], states, w => (states, w)
  | row, [], w => (row.map fun range => ⟨[], some range⟩, w)
  | range :: row, s :: rest, w =>
    if s.last = some range then
      let (rest, w) := add target row rest w
      (s :: rest, w)
    else
      let (next, w) := closeAll target rest w
      (⟨s.close next, some range⟩ :: row.map fun range => ⟨[], some range⟩, w)

/-- The states of a set, with those shared that lead to the same ends. -/
def spell (rows : List (List ByteRange)) (f : Footprint) : Footprint :=
  let target := f.states
  let (states, w) := rows.foldl (fun (states, w) row => w.add target row states)
    ([⟨[], none⟩], Spelling.mk (f.plain 1) (Array.replicate EdgeCache.size none))
  (w.closeAll target states).2.footprint

/-! ## Sets, backward -/

/-- The states made so far for a set, each with its range and the state that it
leads to. -/
abbrev RangeCache := Array (Option (Edge × Nat))

def RangeCache.size : Nat := 1000

/-- Adds the states of a row, from the first range to the last, each of which
leads to the one before it. -/
def spellBackRow : List ByteRange → Nat → Footprint × RangeCache → Footprint × RangeCache
  | [], _, w => w
  | range :: row, next, (f, cache) =>
    let hash := mix (mix (mix hashStart next.toUInt64) range.low.toUInt64) range.high.toUInt64
    let slot := hash.toNat % RangeCache.size
    let made := fun () => spellBackRow row f.states
      (f.plain 1, cache.setIfInBounds slot (some (⟨range, next⟩, f.states)))
    match cache.getD slot none with
    | some (edge, number) =>
      if edge = ⟨range, next⟩ then spellBackRow row number (f, cache) else made ()
    | none => made ()

/-- The states of a set, read from the last byte: each row starts on its own,
and rows share what they end with. -/
def spellBack (rows : List (List ByteRange)) (f : Footprint) : Footprint :=
  let target := f.states + 1
  (rows.foldl (fun w row => spellBackRow row target w)
    ((f.fork rows.length).plain 1, Array.replicate RangeCache.size none)).1

/-! ## Literals -/

/-- A state of the tree that literals share. A literal that ends at a state cuts
its edges: those after the cut come later in the order of preference. -/
structure TreeState where
  /-- The numbers of edges between earlier cuts. -/
  cuts : List Nat
  /-- The edges after the last cut, with the states they lead to. -/
  edges : List (UInt8 × Nat)

def TreeState.fresh : TreeState := ⟨[], []⟩

/-- Notes that a literal ends here. -/
def TreeState.cut (s : TreeState) : TreeState :=
  if s.edges = [] && s.cuts.all (· = 0) && s.cuts ≠ [] then s
  else ⟨s.edges.length :: s.cuts, []⟩

/-- The footprint of a state that has edges: one state for each row of edges
between cuts, and a fork to those and to the end at each cut. -/
def TreeState.grow (s : TreeState) (f : Footprint) : Footprint :=
  let rows := (s.edges.length :: s.cuts).filter (0 < ·)
  if rows = [] then f
  else
    let f := rows.foldl (fun f row => if row = 1 then f.plain 1 else f.take row) f
    f.fork (rows.length + s.cuts.length)

/-- Adds a literal to the tree. -/
def addLiteral : List UInt8 → Nat → Array TreeState → Array TreeState
  | [], place, tree => tree.modify place TreeState.cut
  | b :: bytes, place, tree =>
    match (tree.getD place .fresh).edges.lookup b with
    | some next => addLiteral bytes next tree
    | none =>
      addLiteral bytes tree.size
        ((tree.modify place fun s => { s with edges := (b, tree.size) :: s.edges }).push .fresh)

/-- Alternatives that are all literals. -/
def tree (literals : List (List UInt8)) (f : Footprint) : Footprint :=
  (literals.foldl (fun tree bytes => addLiteral bytes 0 tree) #[.fresh]).foldl
    (fun f s => s.grow f) (f.plain 1)

end Footprint

end Patchbay.Pattern
