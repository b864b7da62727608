-- Named classes of characters: categories, scripts, properties, the classes
-- of text breaks, and those of ASCII.
import Patchbay.Pattern.Age
import Patchbay.Pattern.Breaks
import Patchbay.Pattern.Property

namespace Patchbay.Pattern

open CharSet

/-! ## Names -/

/-- A name without case, spaces, underscores, hyphens, and what is not ASCII. -/
def foldName (cs : List Char) : List Char :=
  (cs.filter fun c => c ≠ ' ' && c ≠ '_' && c ≠ '-' && c.toNat < 0x80).map Char.toLower

/-- A folded name. An `is` at its front does not count. -/
def normalName (cs : List Char) : String :=
  match cs with
  | a :: b :: rest =>
    if (a = 'i' || a = 'I') && (b = 's' || b = 'S') then
      let name := foldName rest
      String.ofList (if name = ['c'] then ['i', 's', 'c'] else name)
    else String.ofList (foldName cs)
  | _ => String.ofList (foldName cs)

/-! ## Categories -/

/-- The names of a category, folded, and the basic categories in it. -/
def categoryNames : List (List String × List String) :=
  [(["lu", "uppercaseletter"], ["Lu"]), (["ll", "lowercaseletter"], ["Ll"]),
    (["lt", "titlecaseletter"], ["Lt"]), (["lm", "modifierletter"], ["Lm"]),
    (["lo", "otherletter"], ["Lo"]), (["lc", "casedletter"], ["Lu", "Ll", "Lt"]),
    (["l", "letter"], letterNames),
    (["mn", "nonspacingmark"], ["Mn"]), (["mc", "spacingmark"], ["Mc"]),
    (["me", "enclosingmark"], ["Me"]), (["m", "mark", "combiningmark"], markNames),
    (["nd", "decimalnumber", "digit"], ["Nd"]), (["nl", "letternumber"], ["Nl"]),
    (["no", "othernumber"], ["No"]), (["n", "number"], numberNames),
    (["pc", "connectorpunctuation"], ["Pc"]), (["pd", "dashpunctuation"], ["Pd"]),
    (["ps", "openpunctuation"], ["Ps"]), (["pe", "closepunctuation"], ["Pe"]),
    (["pi", "initialpunctuation"], ["Pi"]), (["pf", "finalpunctuation"], ["Pf"]),
    (["po", "otherpunctuation"], ["Po"]),
    (["p", "punctuation", "punct"], ["Pc", "Pd", "Ps", "Pe", "Pi", "Pf", "Po"]),
    (["sm", "mathsymbol"], ["Sm"]), (["sc", "currencysymbol"], ["Sc"]),
    (["sk", "modifiersymbol"], ["Sk"]), (["so", "othersymbol"], ["So"]),
    (["s", "symbol"], ["Sm", "Sc", "Sk", "So"]),
    (["zs", "spaceseparator"], ["Zs"]), (["zl", "lineseparator"], ["Zl"]),
    (["zp", "paragraphseparator"], ["Zp"]), (["z", "separator"], ["Zs", "Zl", "Zp"]),
    (["cc", "control", "cntrl"], ["Cc"]), (["cf", "format"], ["Cf"]),
    (["co", "privateuse"], ["Co"])]

/-- The category of a folded name. -/
def category? (name : String) : Option CharSet :=
  match categoryNames.find? fun entry => entry.1.contains name with
  | some (_, basic) => some (categories basic)
  | none =>
    if name = "any" then some [(0, maxCode)]
    else if name = "ascii" then some [(0, 0x7F)]
    else if name = "assigned" then some assigned
    else if name = "cn" || name = "unassigned" then some assigned.complement
    else if name = "c" || name = "other" then
      some ((categories ["Cc", "Cf", "Co"]).union assigned.complement)
    else none

/-! ## Scripts -/

/-- The characters with scripts of their own choice. -/
def extended : CharSet := ofRanges (Script.extensions.flatMap fun entry => ofHex entry.2)

/-- The characters that a script uses: its own, but for those that say
themselves which scripts use them. -/
def usedByScript? (name : String) : Option CharSet :=
  (scriptNamed? name).map fun (names, rows) =>
    let more := names.head?.bind fun first => Script.extensions.lookup first
    ((ofHex rows).diff extended).union (more.elim [] ofHex)

/-! ## Ages -/

/-- A version as the name of an age, folded: `3.0` or `v30`. -/
def ageNames (version : String) : List String :=
  [version, String.ofList ('v' :: version.toList.filter (· ≠ '.'))]

/-- The rows of all ages up to the one of a folded name. -/
def agesUpTo (name : String) : List (String × List String) → Option (List String)
  | [] => none
  | (version, rows) :: later =>
    if (ageNames version).contains name then some rows
    else (agesUpTo name later).map fun more => rows ++ more

/-- The characters that the version of a folded name knows. -/
def age? (name : String) : Option CharSet :=
  (agesUpTo name Age.table).map fun rows => ofRanges (ofHex rows)

/-! ## Queries -/

/-- The class of one name. -/
def named? (cs : List Char) : Option CharSet :=
  let name := normalName cs
  ((property? name).or (category? name)).or (script? name)

/-- The class of a property and a value. -/
def valued? (property value : List Char) : Option CharSet :=
  let value := normalName value
  match normalName property with
  | "gc" | "generalcategory" => category? value
  | "sc" | "script" => script? value
  | "scx" | "scriptextensions" => usedByScript? value
  | "age" => age? value
  | "gcb" | "graphemeclusterbreak" => Breaks.grapheme? value
  | "wb" | "wordbreak" => Breaks.word? value
  | "sb" | "sentencebreak" => Breaks.sentence? value
  | _ => none

/-! ## ASCII -/

/-- The classes that are written between colons inside brackets. -/
def ascii? (name : String) : Option CharSet :=
  match name with
  | "alnum" => some [(0x30, 0x39), (0x41, 0x5A), (0x61, 0x7A)]
  | "alpha" => some [(0x41, 0x5A), (0x61, 0x7A)]
  | "ascii" => some [(0, 0x7F)]
  | "blank" => some [(0x09, 0x09), (0x20, 0x20)]
  | "cntrl" => some [(0, 0x1F), (0x7F, 0x7F)]
  | "digit" => some [(0x30, 0x39)]
  | "graph" => some [(0x21, 0x7E)]
  | "lower" => some [(0x61, 0x7A)]
  | "print" => some [(0x20, 0x7E)]
  | "punct" => some [(0x21, 0x2F), (0x3A, 0x40), (0x5B, 0x60), (0x7B, 0x7E)]
  | "space" => some [(0x09, 0x0D), (0x20, 0x20)]
  | "upper" => some [(0x41, 0x5A)]
  | "word" => some [(0x30, 0x39), (0x41, 0x5A), (0x5F, 0x5F), (0x61, 0x7A)]
  | "xdigit" => some [(0x30, 0x39), (0x41, 0x46), (0x61, 0x66)]
  | _ => none

def asciiWordChars : CharSet := [(0x30, 0x39), (0x41, 0x5A), (0x5F, 0x5F), (0x61, 0x7A)]

end Patchbay.Pattern
