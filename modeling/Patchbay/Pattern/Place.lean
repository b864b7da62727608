-- The places of a text, before, between and after its characters, and what
-- holds at them.
import Patchbay.Pattern.Class
import Patchbay.Pattern.Regex

namespace Patchbay.Pattern

/-- The character before place `i`. -/
def charBefore (text : Array Char) (i : Nat) : Option Char :=
  if i = 0 then none else text[i - 1]?

/-- The character after place `i`. -/
def charAfter (text : Array Char) (i : Nat) : Option Char := text[i]?

/-- Whether a character is there and belongs to a word. -/
def isWord (unicode : Bool) : Option Char → Bool
  | none => false
  | some c =>
    if c.toNat < 0x80 then asciiWordChars.contains c
    else unicode && wordChars.contains c

/-- Whether the test holds at place `i`. -/
def Look.holds (text : Array Char) (i : Nat) : Look → Bool
  | .textStart => i = 0
  | .textEnd => i = text.size
  | .lineStart => i = 0 || charBefore text i = some '\n'
  | .lineEnd => i = text.size || charAfter text i = some '\n'
  | .lineStartReturn =>
    i = 0 || charBefore text i = some '\n' ||
      (charBefore text i = some '\r' && charAfter text i ≠ some '\n')
  | .lineEndReturn =>
    i = text.size || charAfter text i = some '\r' ||
      (charAfter text i = some '\n' && charBefore text i ≠ some '\r')
  | .wordBoundary u => isWord u (charBefore text i) != isWord u (charAfter text i)
  | .noWordBoundary u => isWord u (charBefore text i) == isWord u (charAfter text i)
  | .wordStart u => !isWord u (charBefore text i) && isWord u (charAfter text i)
  | .wordEnd u => isWord u (charBefore text i) && !isWord u (charAfter text i)
  | .wordStartHalf u => !isWord u (charBefore text i)
  | .wordEndHalf u => !isWord u (charAfter text i)

end Patchbay.Pattern
