-- Categories, scripts and properties of characters. The standard lists some
-- of the properties. The others follow from those, from the categories and
-- from the case of letters.
import Patchbay.Pattern.Case
import Patchbay.Pattern.Category
import Patchbay.Pattern.CharSet
import Patchbay.Pattern.Listed
import Patchbay.Pattern.Script

namespace Patchbay.Pattern

open CharSet

/-! ## Categories -/

/-- The characters of basic categories. -/
def categories (names : List String) : CharSet :=
  ofRanges (names.flatMap fun name => (Category.table.lookup name).elim [] ofHex)

def letterNames : List String := ["Lu", "Ll", "Lt", "Lm", "Lo"]

def markNames : List String := ["Mn", "Mc", "Me"]

def numberNames : List String := ["Nd", "Nl", "No"]

def assigned : CharSet := categories (Category.table.map Prod.fst)

/-! ## Scripts -/

/-- The names and rows of the script of a folded name. -/
def scriptNamed? (name : String) : Option (List String × List String) :=
  Script.table.find? fun entry => entry.1.contains name

def script? (name : String) : Option CharSet := (scriptNamed? name).map fun entry => ofHex entry.2

/-! ## Lists -/

/-- The characters of a property that the standard lists, by its folded name. -/
def listed? (name : String) : Option CharSet :=
  (Listed.table.find? fun entry => entry.1.contains name).map fun entry => ofHex entry.2

def listed (name : String) : CharSet := (listed? name).getD []

def blanks : CharSet := listed "whitespace"

/-- Format characters that go in front of what they change. -/
def precedingMarks : CharSet := listed "prependedconcatenationmark"

/-! ## Letters and words -/

def alphabetic : CharSet :=
  (categories (letterNames ++ ["Nl"])).union (listed "otheralphabetic")

def digits : CharSet := categories ["Nd"]

/-- What makes up words: letters, marks, digits, connectors and joiners. -/
def wordChars : CharSet :=
  (alphabetic.union (categories (markNames ++ ["Nd", "Pc"]))).union (listed "joincontrol")

def patternSyntax : CharSet := (listed "patternsyntax").union (listed "patternwhitespace")

def idStart : CharSet :=
  ((categories (letterNames ++ ["Nl"])).union (listed "otheridstart")).diff patternSyntax

def idContinue : CharSet :=
  ((idStart.union (categories ["Mn", "Mc", "Nd", "Pc"])).union
    (listed "otheridcontinue")).diff patternSyntax

/-- Characters that would start no identifier when decomposed, or not go on
with one. -/
def decomposeOutside : CharSet :=
  ofHex ["37A 309B-309C FC5E-FC63 FDFA-FDFB FE70 FE72 FE74 FE76 FE78 FE7A FE7C FE7E"]

def xidStart : CharSet :=
  idStart.diff (ofRanges (decomposeOutside ++ ofHex ["E33 EB3 FF9E-FF9F"]))

def xidContinue : CharSet := idContinue.diff decomposeOutside

def mathematical : CharSet := (categories ["Sm"]).union (listed "othermath")

/-! ## Case -/

def lowercase : CharSet := (categories ["Ll"]).union (listed "otherlowercase")

def uppercase : CharSet := (categories ["Lu"]).union (listed "otheruppercase")

def cased : CharSet := (lowercase.union uppercase).union (categories ["Lt"])

/-- Characters that do not part a letter from the letters around it. -/
def caseIgnorable : CharSet :=
  (categories ["Mn", "Me", "Cf", "Lm", "Sk"]).union
    (ofHex ["27 2E 3A B7 387 55F 5F4 2018-2019 2024 2027 FE13 FE52 FE55 FF07 FF0E FF1A"])

/-- Lower case letters whose upper case is no single letter that folds to them. -/
def unpairedLower : CharSet :=
  ofHex ["131 149 1F0 587 1E96-1E9A 1F50 1F52 1F54 1F56 1FB2 1FB4 1FB6-1FB7 1FC2 1FC4 1FC6-1FC7",
    "1FD2 1FD6-1FD7 1FE2 1FE4 1FE6-1FE7 1FF2 1FF4 1FF6-1FF7 FB00-FB04 FB13-FB17"]

def changesLowercased : CharSet :=
  ((uppercase.union (categories ["Lt"])).inter paired).union [(0x130, 0x130)]

def changesUppercased : CharSet :=
  ((lowercase.union (categories ["Lt"])).inter paired).union unpairedLower

/-- Georgian letters keep their form in titles, and the digraphs have one of
their own. -/
def changesTitlecased : CharSet :=
  (((lowercase.inter paired).diff (ofHex ["10D0-10FA 10FD-10FF"])).union unpairedLower).union
    (ofHex ["1C4 1C7 1CA 1F1"])

def changesCasemapped : CharSet :=
  (changesLowercased.union changesUppercased).union changesTitlecased

/-- Cherokee letters fold to upper case. Some lower case letters fold to others. -/
def changesCasefolded : CharSet :=
  (changesLowercased.diff (ofHex ["13A0-13F5"])).union
    (ofHex ["B5 DF 149 17F 345 3C2 3D0-3D1 3D5-3D6 3F0-3F1 3F5 587 13F8-13FD 1C80-1C88",
      "1E9A-1E9B 1F80-1F87 1F90-1F97 1FA0-1FA7 1FB2-1FB4 1FB7 1FC2-1FC4 1FC7 1FF2-1FF4 1FF7",
      "AB70-ABBF FB00-FB06 FB13-FB17"])

/-! ## Graphemes -/

def graphemeExtend : CharSet :=
  (categories ["Mn", "Me"]).union (listed "othergraphemeextend")

def graphemeBase : CharSet :=
  (assigned.diff (categories ["Cc", "Cf", "Co", "Zl", "Zp"])).diff graphemeExtend

/-- Characters that show nothing where they are not known. -/
def defaultIgnorable : CharSet :=
  ((((listed "otherdefaultignorablecodepoint").union (categories ["Cf"])).union
    (listed "variationselector")).diff (ofHex ["FFF9-FFFB 13430-13440"])).diff
      (blanks.union precedingMarks)

/-! ## Names -/

/-- The properties that follow from others. -/
def derived? (name : String) : Option CharSet :=
  match name with
  | "alphabetic" | "alpha" => some alphabetic
  | "caseignorable" | "ci" => some caseIgnorable
  | "cased" => some cased
  | "changeswhencasefolded" | "cwcf" => some changesCasefolded
  | "changeswhencasemapped" | "cwcm" => some changesCasemapped
  | "changeswhenlowercased" | "cwl" => some changesLowercased
  | "changeswhentitlecased" | "cwt" => some changesTitlecased
  | "changeswhenuppercased" | "cwu" => some changesUppercased
  | "defaultignorablecodepoint" | "di" => some defaultIgnorable
  | "graphemebase" | "grbase" => some graphemeBase
  | "graphemeextend" | "grext" => some graphemeExtend
  | "idcontinue" | "idc" => some idContinue
  | "idstart" | "ids" => some idStart
  | "lowercase" | "lower" => some lowercase
  | "math" => some mathematical
  | "uppercase" | "upper" => some uppercase
  | "xidcontinue" | "xidc" => some xidContinue
  | "xidstart" | "xids" => some xidStart
  | _ => none

/-- The property of a folded name. -/
def property? (name : String) : Option CharSet := (derived? name).or (listed? name)

end Patchbay.Pattern
