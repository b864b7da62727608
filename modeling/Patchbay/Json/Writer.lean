-- JSON documents and their two texts: the compact one without spaces and
-- the pretty one, indented by two spaces.
import Patchbay.Number.Layout

namespace Patchbay

/-- A JSON document. Members keep their order. -/
inductive Json
  | null
  | bool (value : Bool)
  /-- A whole number, written without a point. -/
  | whole (value : Int)
  /-- A double, written with a point or a power of ten; null when it is none. -/
  | number (value : Float)
  | string (value : String)
  | array (items : List Json)
  | object (members : List (String × Json))

namespace Json

/-! ## Strings -/

def hexDigit (n : Nat) : Char := Nat.digitChar n

/-- A character inside quotes. Only quotes, backslashes and control characters
are escaped. -/
def escape (c : Char) : List Char :=
  if c = '"' then ['\\', '"']
  else if c = '\\' then ['\\', '\\']
  else if c = '\x08' then ['\\', 'b']
  else if c = '\x0c' then ['\\', 'f']
  else if c = '\n' then ['\\', 'n']
  else if c = '\r' then ['\\', 'r']
  else if c = '\t' then ['\\', 't']
  else if c.toNat < 0x20 then
    ['\\', 'u', '0', '0', hexDigit (c.toNat / 16), hexDigit (c.toNat % 16)]
  else [c]

def quote (s : String) : String :=
  String.ofList ('"' :: s.toList.flatMap escape ++ ['"'])

/-! ## Documents -/

/-- The text of a document without parts. -/
def atom : Json → String
  | .bool b => if b then "true" else "false"
  | .whole n => toString n
  | .number x => (Number.dataText? x).getD "null"
  | .string s => quote s
  | _ => "null"

mutual

def compact : Json → String
  | .array items => "[" ++ String.intercalate "," (compactItems items) ++ "]"
  | .object members => "\x7b" ++ String.intercalate "," (compactMembers members) ++ "\x7d"
  | other => other.atom

def compactItems : List Json → List String
  | [] => []
  | item :: rest => compact item :: compactItems rest

def compactMembers : List (String × Json) → List String
  | [] => []
  | (key, value) :: rest => (quote key ++ ":" ++ compact value) :: compactMembers rest

end

/-- The start of a line that stands `level` levels deep. -/
def lineStart (level : Nat) : String := String.ofList ('\n' :: List.replicate (2 * level) ' ')

/-- Lines between an opening and a closing mark, or the marks alone. -/
def block (level : Nat) (start close : String) (lines : List String) : String :=
  if lines = [] then start ++ close
  else
    start ++ lineStart (level + 1) ++ String.intercalate ("," ++ lineStart (level + 1)) lines ++
      lineStart level ++ close

mutual

/-- The pretty text of a document that stands `level` levels deep. -/
def prettyAt (level : Nat) : Json → String
  | .array items => block level "[" "]" (prettyItems (level + 1) items)
  | .object members => block level "\x7b" "\x7d" (prettyMembers (level + 1) members)
  | other => other.atom

def prettyItems (level : Nat) : List Json → List String
  | [] => []
  | item :: rest => prettyAt level item :: prettyItems level rest

def prettyMembers (level : Nat) : List (String × Json) → List String
  | [] => []
  | (key, value) :: rest =>
    (quote key ++ ": " ++ prettyAt level value) :: prettyMembers level rest

end

def pretty (document : Json) : String := prettyAt 0 document

end Json

end Patchbay
