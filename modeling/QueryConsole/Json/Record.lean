import QueryConsole.Json.Reader

-- Records in JSON text. A record is an object with its fields in any order, or an array with the
-- fields in their places. Unknown fields are passed over; a known one may be given once only.
namespace QueryConsole.Json

namespace Source

def text? : Source → Option String
  | string s => s
  | _ => none

def texts? : Source → Option (List String)
  | array items => items.mapM text?
  | _ => none

def optional? (read : Source → Option α) : Source → Option (Option α)
  | null => some none
  | source => (read source).map some

-- A whole number written without a point or an exponent. Minus zero is none.
def int? : Source → Option Int
  | numeral m =>
    match m.number? with
    | some (.unsigned n) => some n.toNat
    | some (.negative n) => some n.toInt
    | _ => none
  | _ => none

end Source

-- The value of a field that may be given once.
def field? (fields : List (String × Source)) (name : String) : Option (Option Source) :=
  match fields.filter (·.1 = name) with
  | [] => some none
  | [(_, value)] => some (some value)
  | _ => none

-- The named fields of a record, each with its value if it is given.
def record? (names : List String) : Source → Option (List (Option Source))
  | .object fields => do
    let fields ← fields.mapM fun (name, value) => do return (← name, value)
    names.mapM (field? fields)
  | .array items =>
    if items.length ≤ names.length then
      some (items.map some ++ .replicate (names.length - items.length) none)
    else
      none
  | _ => none

end QueryConsole.Json
