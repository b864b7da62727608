-- UTF-8: the characters of a row of bytes. Where the bytes are no
-- character, the longest part that could have started one is taken as a
-- whole, and one byte where none could.
namespace Patchbay.Text

/-! ## One character -/

def inRange (low high : Nat) (b : UInt8) : Bool := low ≤ b.toNat && b.toNat ≤ high

/-- A byte that goes on with a character. -/
def isTail (b : UInt8) : Bool := inRange 0x80 0xBF b

/-- The byte after a first byte must lie in this range. The range leaves out
forms that are too long, surrogates, and what is past the last character. -/
def secondRange (first : Nat) : Nat × Nat :=
  if first = 0xE0 then (0xA0, 0xBF)
  else if first = 0xED then (0x80, 0x9F)
  else if first = 0xF0 then (0x90, 0xBF)
  else if first = 0xF4 then (0x80, 0x8F)
  else (0x80, 0xBF)

/-- How many bytes come after a first byte. -/
def tailLength? (first : Nat) : Option Nat :=
  if first < 0x80 then some 0
  else if 0xC2 ≤ first && first ≤ 0xDF then some 1
  else if 0xE0 ≤ first && first ≤ 0xEF then some 2
  else if 0xF0 ≤ first && first ≤ 0xF4 then some 3
  else none

/-- The bytes that may go on with a character after its first byte, at most
`count` of them. -/
def tailBytes (first count : Nat) (bytes : List UInt8) : List UInt8 :=
  match count, bytes with
  | 0, _ | _, [] => []
  | count + 1, b :: rest =>
    let (low, high) := secondRange first
    if inRange low high b then b :: (rest.take count).takeWhile isTail else []

/-- The character at the front of `first :: bytes`, or none, and how many of
`bytes` belong to it. -/
def decodeOne (first : UInt8) (bytes : List UInt8) : Option Char × Nat :=
  match tailLength? first.toNat with
  | none => (none, 0)
  | some count =>
    let tail := tailBytes first.toNat count bytes
    if tail.length < count then (none, tail.length)
    else
      let lead := if count = 0 then first.toNat else first.toNat % Nat.pow 2 (6 - count)
      (some (Char.ofNat (tail.foldl (fun n b => n * 64 + b.toNat % 64) lead)), count)

/-! ## Texts -/

/-- The characters of a row of bytes; none stands for a part that is no
character. -/
def decode : List UInt8 → List (Option Char)
  | [] => []
  | b :: bytes =>
    let (c, taken) := decodeOne b bytes
    c :: decode (bytes.drop taken)
  termination_by bytes => bytes.length
  decreasing_by
    simp only [List.length_drop, List.length_cons]
    omega

/-- The text of a row of bytes, when all of it is characters. -/
def utf8? (bytes : List UInt8) : Option String :=
  ((decode bytes).mapM id).map String.ofList

/-- The text of a row of bytes, with a replacement character for each part that
is no character. -/
def utf8Lossy (bytes : List UInt8) : String :=
  String.ofList ((decode bytes).map fun c => c.getD '\ufffd')

end Patchbay.Text
