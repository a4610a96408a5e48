import QueryConsole.Json.Record
import QueryConsole.Value.Encoding

-- What a backend answers to one statement or directive, and its JSON form.
namespace QueryConsole

structure ResponseData where
  headers : List String
  rows : List (List Value)
  -- Microseconds the backend spent.
  timeCost : UInt64
  -- Parameters reported by an inspection.
  localParams : Option Params

structure Response where
  statement : String
  -- Zero where the backend accepted the statement.
  code : Int32
  message : Option String
  data : Option ResponseData

namespace ResponseData

def empty : ResponseData :=
  ⟨[], [], 0, none⟩

def ofRows (headers : List String) (rows : List (List Value)) : ResponseData :=
  { empty with headers, rows }

-- A listing of parameters: one row each, and the table itself.
def ofParams (params : Params) : ResponseData where
  headers := ["name", "value"]
  rows := params.entries.map fun (name, value) => [.string name, value]
  timeCost := 0
  localParams := some params

def withTimeCost (data : ResponseData) (timeCost : UInt64) : ResponseData :=
  { data with timeCost }

-- Parameters that are not reported are left out.
def toJson (data : ResponseData) : Json :=
  .object <|
    [("headers", .strings data.headers),
      ("rows", .array (data.rows.map fun row => .array (Value.itemsToJson row))),
      ("time_cost", .int data.timeCost.toNat)] ++
    match data.localParams with
    | some params => [("local_params", Value.paramsToJson params)]
    | none => []

end ResponseData

namespace Response

def succeeded : Int32 := 0
def failed : Int32 := -1

def success (statement : String) (data : ResponseData) : Response :=
  ⟨statement, succeeded, none, some data⟩

def failure (statement message : String) : Response :=
  ⟨statement, failed, some message, none⟩

def isSuccess (r : Response) : Bool :=
  r.code = succeeded

def localParams (r : Response) : Option Params :=
  r.data.bind (·.localParams)

def toJson (r : Response) : Json :=
  .object [("statement", .string r.statement), ("code", .int r.code.toInt),
    ("message", .ofOption .string r.message), ("data", .ofOption ResponseData.toJson r.data)]

open Json (Source record?)

def code? (source : Source) : Option Int32 := do
  let n ← source.int?
  if Int32.minValue.toInt ≤ n ∧ n ≤ Int32.maxValue.toInt then return Int32.ofInt n else none

def timeCost? (source : Source) : Option UInt64 := do
  let n ← source.int?
  if 0 ≤ n then return n.toNat.toUInt64 else none

-- A parameter table; of two fields of one name the later one counts.
def params? : (depth : Nat) → Source → Option Params
  | depth + 1, .object fields => do
    let entries ← fields.mapM fun (name, value) => do
      return (← name, ← Value.ofSource? depth value)
    return .ofList entries
  | _, _ => none

def rows? : (depth : Nat) → Source → Option (List (List Value))
  | depth + 2, .array rows => rows.mapM fun row =>
    match row with
    | .array items => items.mapM (Value.ofSource? depth)
    | _ => none
  | _, _ => none

def data? : (depth : Nat) → Source → Option ResponseData
  | 0, _ => none
  | depth + 1, source => do
    let [some headers, some rows, timeCost, params] ←
      record? ["headers", "rows", "time_cost", "local_params"] source | none
    return {
      headers := ← headers.texts?
      rows := ← rows? depth rows
      timeCost := ← timeCost.elim (some 0) timeCost?
      localParams := ← params.elim (some none) (·.optional? (params? depth)) }

def ofSource? : (depth : Nat) → Source → Option Response
  | 0, _ => none
  | depth + 1, source => do
    let [some statement, some code, message, data] ←
      record? ["statement", "code", "message", "data"] source | none
    return {
      statement := ← statement.text?
      code := ← code? code
      message := ← message.elim (some none) (·.optional? Source.text?)
      data := ← data.elim (some none) (·.optional? (data? depth)) }

def ofJsonText? (text : String) : Option Response := do
  ofSource? Value.maxDepth (← Json.parse? text)

end Response
end QueryConsole
