-- Programs for regular expressions: numbered states that take characters,
-- test places, note places and fork. A program grows from its end, so a state
-- knows where to go on when it is made.
import Patchbay.Pattern.Regex

namespace Patchbay.Pattern

inductive Move
  | fail
  | accept
  | take (set : CharSet) (next : Nat)
  | test (look : Look) (next : Nat)
  /-- Notes the place under a number. -/
  | note (slot : Nat) (next : Nat)
  /-- Tries `first`, and `second` when that fails. -/
  | fork (first second : Nat)

abbrev Program := Array Move

/-- A piece of a program: given the state after it, adds its states and says
which one is its first. -/
abbrev Fragment := Nat → Program → Nat × Program

namespace Fragment

/-- One more state. -/
def state (move : Nat → Move) : Fragment := fun next p => (p.size, p.push (move next))

/-- A fork between going in and going past. A greedy one goes in first. -/
def forkTo (greedy : Bool) (inside past : Nat) : Move :=
  if greedy then .fork inside past else .fork past inside

/-- Nothing at all. -/
def skip : Fragment := fun next p => (next, p)

/-- A state for each character. -/
def literal (cs : List Char) : Fragment := fun next p =>
  cs.foldr (fun c (next, p) => (p.size, p.push (.take (CharSet.single c) next))) (next, p)

/-- `f`, then `g`. -/
def followedBy (f g : Fragment) : Fragment := fun next p =>
  let (middle, p) := g next p
  f middle p

/-- `f`, and `g` when that fails. -/
def orElse (f g : Fragment) : Fragment := fun next p =>
  let (second, p) := g next p
  let (first, p) := f next p
  (p.size, p.push (.fork first second))

/-- `f`, so many times. -/
def copies (f : Fragment) : Nat → Fragment
  | 0, next, p => (next, p)
  | n + 1, next, p =>
    let (start, p) := f next p
    copies f n start p

/-- `f`, at most so many times. Each time may go past all the others, to `past`. -/
def upTo (greedy : Bool) (f : Fragment) (past : Nat) : Nat → Fragment
  | 0, next, p => (next, p)
  | n + 1, next, p =>
    let (inside, p) := f next p
    upTo greedy f past n p.size (p.push (forkTo greedy inside past))

/-- A fork after `f` that goes back to it, and where the two start. -/
def loop (greedy : Bool) (f : Fragment) (next : Nat) (p : Program) : (Nat × Nat) × Program :=
  let back := p.size
  let (inside, p) := f back (p.push .fail)
  ((inside, back), p.setIfInBounds back (forkTo greedy inside next))

/-- `f`, at least once. -/
def onceOrMore (greedy : Bool) (f : Fragment) : Fragment := fun next p =>
  let ((inside, _), p) := loop greedy f next p
  (inside, p)

/-- `f`, any number of times. An `f` that may take nothing needs a fork of its
own to go past it: the fork of the loop is only reached through `f`. -/
def anyTimes (greedy : Bool) (takesChar : Bool) (f : Fragment) : Fragment := fun next p =>
  let ((inside, back), p) := loop greedy f next p
  if takesChar then (back, p) else (p.size, p.push (forkTo greedy inside next))

/-- `f`, so many times at least and at most. -/
def repeated (least : Nat) (most : Option Nat) (greedy takesChar : Bool) (f : Fragment) :
    Fragment :=
  match most, least with
  | none, 0 => anyTimes greedy takesChar f
  | none, least + 1 => (copies f least).followedBy (onceOrMore greedy f)
  | some most, least =>
    (copies f least).followedBy fun next p => upTo greedy f next (most - least) next p

end Fragment

namespace Regex

open Fragment

mutual

/-- The states of an expression. -/
def fragment : Regex → Fragment
  | .empty => skip
  | .literal cs => Fragment.literal cs
  | .set s => state fun next => if s.isEmpty then .fail else .take s next
  | .look l => state (Move.test l)
  | .concat parts => fragmentAll parts
  | .alt branches => fragmentAny branches
  | .group index body =>
    followedBy (state (Move.note (2 * index)))
      (followedBy (fragment body) (state (Move.note (2 * index + 1))))
  | .repeats least most greedy body =>
    repeated least most greedy body.takesChar (fragment body)

/-- One expression after another. -/
def fragmentAll : List Regex → Fragment
  | [] => skip
  | r :: rest => followedBy (fragment r) (fragmentAll rest)

/-- The first expression that fits. -/
def fragmentAny : List Regex → Fragment
  | [] => state fun _ => .fail
  | [r] => fragment r
  | r :: rest => orElse (fragment r) (fragmentAny rest)

end

/-- The program of an expression and its first state. -/
def program (r : Regex) : Nat × Program := fragment r 0 #[.accept]

end Regex

end Patchbay.Pattern
