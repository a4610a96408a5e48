import QueryConsole.Decimal.Layout
import QueryConsole.Table
import QueryConsole.Text.Quoted

-- Values in result rows and parameter tables, and how they are shown to a reader.
namespace QueryConsole

inductive Value
  | null
  | bool (b : Bool)
  | int (n : Int64)
  | float (x : Float)
  | string (s : String)
  | list (items : List Value)
  | map (entries : List (String × Value))

abbrev Params := Table Value

namespace Value

-- Never an exponent, and whole numbers without a decimal.
def floatStyle : Decimal.Style where
  tie := .up
  isPlain _ := true
  keepsDecimal := false

def displayFloat (x : Float) : String :=
  if x.isNaN then "NaN"
  else if x.isInf then (if x < 0 then "-inf" else "inf")
  else .ofList (floatStyle.write x)

mutual

-- The text of a value in a table. Texts are quoted, the names in a map are not.
def display : Value → String
  | null => "NULL"
  | bool true => "true"
  | bool false => "false"
  | int n => toString n.toInt
  | float x => displayFloat x
  | string s => Text.quoted s
  | list items => "[" ++ ", ".intercalate (displayItems items) ++ "]"
  | map entries => "\x7b" ++ ", ".intercalate (displayEntries entries) ++ "\x7d"

def displayItems : List Value → List String
  | [] => []
  | item :: items => item.display :: displayItems items

def displayEntries : List (String × Value) → List String
  | [] => []
  | (name, value) :: entries => (name ++ ": " ++ value.display) :: displayEntries entries

end

inductive Kind
  | null
  | bool
  | int
  | float
  | string
  | list
  | map
  deriving DecidableEq, Repr

def kind : Value → Kind
  | null => .null
  | bool _ => .bool
  | int _ => .int
  | float _ => .float
  | string _ => .string
  | list _ => .list
  | map _ => .map

def isNull (v : Value) : Bool :=
  v.kind = .null

end Value
end QueryConsole
