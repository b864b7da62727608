-- Names of groups. They follow a later version of the standard than classes
-- do, so some characters of names are not in any class yet.
import Patchbay.Pattern.Property

namespace Patchbay.Pattern

open CharSet

/-- The letters that only the later version knows. -/
def laterLetters : CharSet :=
  ofHex ["88F C5C CDC A7CE-A7CF A7D2 A7D4 A7F1 10940-10959 10EC5-10EC7 10EFA-10EFB 11B60-11B67",
    "11DB0-11DDB 16EA0-16EB8 16EBB-16ED3 16FF2-16FF6 187F8-187FF 18D09-18D1E 18D80-18DF2",
    "1E6C0-1E6DE 1E6E0-1E6F5 1E6FE-1E6FF 2B73A-2B73F 2CEA2-2CEAD 323B0-33479"]

def laterDigits : CharSet := ofHex ["11DE0-11DE9"]

def nameLetters : CharSet := alphabetic.union laterLetters

def nameNumbers : CharSet := (categories numberNames).union laterDigits

/-- A name starts with a letter or an underscore. -/
def startsName (c : Char) : Bool := c = '_' || nameLetters.contains c

/-- It goes on with those, with numbers, dots and brackets. -/
def goesOnName (c : Char) : Bool :=
  startsName c || nameNumbers.contains c || c = '.' || c = '[' || c = ']'

end Patchbay.Pattern
