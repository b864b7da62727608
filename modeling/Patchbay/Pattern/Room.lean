-- The room that an expression takes: what it adds to an automaton that grows,
-- part by part.
import Patchbay.Pattern.Footprint

namespace Patchbay.Pattern

/-- The way an automaton goes through a text. -/
inductive Reading
  | forward
  | backward
  deriving DecidableEq, Repr

namespace Footprint

/-- The same part so many times. It ends when there is no room left. -/
def copies (part : Footprint → Footprint) : Nat → Footprint → Footprint
  | 0, f => f
  | n + 1, f => if f.fits then copies part n (part f) else f

/-- The states of a set. One of ASCII alone needs no rows. -/
def set (reading : Reading) (s : CharSet) (f : Footprint) : Footprint :=
  if s.isAscii then (f.plain 1).take s.length
  else match reading with
    | .forward => spell (ByteRange.rowsOf s) f
    | .backward => spellBack (ByteRange.rowsOf s) f

end Footprint

namespace Regex

open Footprint

mutual

/-- The expression with all sequences in reverse. -/
def mirror : Regex → Regex
  | .concat parts => .concat (mirrorOnto [] parts)
  | .alt branches => .alt (mirrorOnto [] branches).reverse
  | .group index body => .group index (mirror body)
  | .repeats least most greedy body => .repeats least most greedy (mirror body)
  | r => r

/-- Expressions in front of others, the last one first. -/
def mirrorOnto (done : List Regex) : List Regex → List Regex
  | [] => done
  | r :: rest => mirrorOnto (mirror r :: done) rest

end

/-- The bytes of a literal in the order in which they are read. -/
def literalBytes? (reading : Reading) : Regex → Option (List UInt8)
  | .literal cs =>
    let bytes := cs.flatMap String.utf8EncodeChar
    some (if reading = .forward then bytes else bytes.reverse)
  | _ => none

mutual

/-- Adds the states of an expression, whose sequences are in the order in which
they are read. Only an automaton that reads forward notes the ends of groups. -/
def grow (reading : Reading) : Regex → Footprint → Footprint
  | .empty, f => f.plain 1
  | .literal cs, f => f.plain (byteCount cs)
  | .set s, f => f.set reading s
  | .look _, f => f.plain 1
  | .concat parts, f => growAll reading parts f
  | .alt branches, f =>
    match branches.mapM (literalBytes? reading) with
    | some literals => Footprint.tree literals f
    | none => growAny reading branches f
  | .group _ body, f =>
    if reading = .forward then (grow reading body (f.plain 1)).plain 1 else grow reading body f
  | .repeats least most _ body, f =>
    match most, least with
    | none, 0 =>
      if body.takesChar then grow reading body (f.fork 2)
      else (((grow reading body f).fork 2).fork 2).plain 1
    | none, least + 1 => (grow reading body (copies (grow reading body) least f)).fork 2
    | some most, least =>
      if least = 0 && most = 1 then (grow reading body (f.fork 2)).plain 1
      else
        let f := if least = 0 then f.plain 1 else copies (grow reading body) least f
        if most = least then f
        else copies (fun f => grow reading body (f.fork 2)) (most - least) (f.plain 1)

def growAll (reading : Reading) : List Regex → Footprint → Footprint
  | [], f => f
  | r :: rest, f => growAll reading rest (grow reading r f)

/-- Alternatives meet in one state, which is made when there are two of them. -/
def growAny (reading : Reading) : List Regex → Footprint → Footprint
  | [], f => f
  | [r], f => grow reading r f
  | r :: s :: rest, f =>
    growAll reading rest
      (((grow reading s (grow reading r f)).fork (rest.length + 2)).plain 1)

end

/-- The footprint of an automaton for an expression. It starts with a loop over
any bytes, unless every match must start where the reading does. -/
def footprint (r : Regex) : Reading → Footprint
  | .forward => (grow .forward r ((start r.fromTextStart).plain 1)).plain 2
  | .backward => (grow .backward r.mirror (start r.toTextEnd)).plain 1
where
  start (anchored : Bool) : Footprint :=
    if anchored then (Footprint.mk 0 0).plain 1
    else (((Footprint.mk 0 0).fork 2).plain 1).take 1

/-- Whether both automata fit. -/
def fits (r : Regex) : Bool := (r.footprint .forward).fits && (r.footprint .backward).fits

end Regex

end Patchbay.Pattern
