import QueryConsole.Json.Basic
import QueryConsole.Json.Reader
import QueryConsole.Text.Blank
import QueryConsole.Value.Basic

-- Values in JSON, and the literals of parameter assignments. A whole number beyond 64 bits becomes
-- a floating-point number, and of two fields of one name the later one counts.
namespace QueryConsole.Value

open Json (Source)

mutual

def toJson : Value → Json
  | null => .null
  | bool b => .bool b
  | int n => .int n.toInt
  | float x => .float x
  | string s => .string s
  | list items => .array (itemsToJson items)
  | map entries => .object (entriesToJson entries)

def itemsToJson : List Value → List Json
  | [] => []
  | item :: items => item.toJson :: itemsToJson items

def entriesToJson : List (String × Value) → List (String × Json)
  | [] => []
  | (name, value) :: entries => (name, value.toJson) :: entriesToJson entries

end

def ofNumber : Json.Number → Value
  | .unsigned n => if n < 0x8000000000000000 then int n.toInt64 else float n.toFloat
  | .negative n => int n
  | .float x => float x

-- The value of a JSON text, in which lists and maps may be nested up to `depth`.
def ofSource? : (depth : Nat) → Source → Option Value
  | _, .null => some null
  | _, .bool b => some (bool b)
  | _, .numeral m => m.number?.map ofNumber
  | _, .string s => s.map string
  | 0, .array _ => none
  | 0, .object _ => none
  | depth + 1, .array items => (items.mapM (ofSource? depth)).map list
  | depth + 1, .object fields => do
    let entries ← fields.mapM fun (name, value) => do
      return (← name, ← ofSource? depth value)
    return map (entries.foldl (fun es e => Entries.insert e.1 e.2 es) [])

-- How deep a document may be nested.
def maxDepth : Nat :=
  127

def ofJsonText? (text : String) : Option Value := do
  ofSource? maxDepth (← Json.parse? text)

-- The text between single quotes that enclose the whole of it.
def unquoted? (cs : List Char) : Option (List Char) :=
  match cs with
  | '\'' :: rest => if rest.getLast? = some '\'' then some rest.dropLast else none
  | _ => none

-- The value of a literal: JSON if it is, else the text in single quotes, else all of it as text.
def ofLiteral (literal : String) : Value :=
  let literal := Text.trimmed literal
  match ofJsonText? literal with
  | some v => v
  | none => string (((unquoted? literal.toList).map .ofList).getD literal)

def paramsToJson (params : Params) : Json :=
  .object (entriesToJson params.entries)

end QueryConsole.Value
