-- Values of the language as JSON.
import Patchbay.Json.Writer
import Patchbay.Language.Value

namespace Patchbay.Language.Value

mutual

/-- A value as data. Functions become the text that shows them. -/
def toJson : Value → Json
  | .number x => .number x
  | .text s => .string s
  | .record fields => .object (fieldsToJson fields)
  | .list items => .array (itemsToJson items)
  | .closure param body home => .string (closure param body home).display
  | .builtin op held => .string (builtin op held).display

def fieldsToJson : List (String × Value) → List (String × Json)
  | [] => []
  | (name, value) :: rest => (name, Value.toJson value) :: fieldsToJson rest

def itemsToJson : List Value → List Json
  | [] => []
  | value :: rest => Value.toJson value :: itemsToJson rest

end

end Patchbay.Language.Value
