import QueryConsole.Decimal.Layout
import QueryConsole.Files
import QueryConsole.Session.View
import QueryConsole.Text.Quoted
import QueryConsole.Toml.Reader

-- The settings of the program, and how they are read from a TOML file. Every section and every
-- field may be missing, and unknown ones are passed over; a file that is missing altogether means
-- the default settings.
namespace QueryConsole

structure Settings where
  -- Milliseconds.
  settleDelay : Nat
  defaultStatement : String
  -- None for the usual place.
  stateDb : Option String
  favoritesKey : String
  deriving DecidableEq, Repr

namespace Settings

def default : Settings where
  settleDelay := SessionSettings.default.settleDelay
  defaultStatement := SessionSettings.default.defaultStatement
  stateDb := none
  favoritesKey := SessionSettings.default.favoritesKey

def session (s : Settings) : SessionSettings :=
  ⟨s.settleDelay, s.defaultStatement, s.favoritesKey⟩

open Toml (Fault Fields)

-- Plain notation always has a decimal.
def numberStyle : Decimal.Style where
  tie := .up
  isPlain := fun _ => true
  keepsDecimal := true

def describeFloat (x : Float) : String :=
  if x.isNaN then "NaN"
  else if x.isInf then (if x < 0.0 then "-inf" else "inf")
  else .ofList (numberStyle.write x)

-- What a value is, in a report. A date reads as a table.
def describe : Toml → String
  | .scalar _ (.string s) => "string " ++ Text.quoted s
  | .scalar _ (.integer n) => "integer `" ++ toString n ++ "`"
  | .scalar _ (.float x) => "floating point `" ++ describeFloat x ++ "`"
  | .scalar _ (.boolean b) => "boolean `" ++ toString b ++ "`"
  | .scalar _ .dateTime | .table .. | .inlineTable .. => "map"
  | .array .. | .tables _ => "sequence"

def faultAt (value : Toml) (detail : String) : Except Fault α :=
  .error ⟨value.span, true, none, [], some detail⟩

def mismatch (value : Toml) (wanted : String) : Except Fault α :=
  faultAt value ("invalid type: " ++ describe value ++ ", expected " ++ wanted)

def text (wanted : String) : Toml → Except Fault String
  | .scalar _ (.string s) => .ok s
  | value => mismatch value wanted

def milliseconds : Toml → Except Fault Nat
  | .scalar span (.integer n) =>
    if 0 ≤ n then .ok n.toNat
    else
      faultAt (.scalar span (.integer n)) ("invalid value: integer `" ++ toString n ++
        "`, expected u64")
  | value => mismatch value "u64"

structure Section where
  name : String
  -- In the order that they have in an array.
  fields : List String
  -- So many of them have to be in an array.
  required : Nat
  set : Settings → String → Toml → Except Fault Settings

def sessionSection : Section where
  name := "SessionSettings"
  fields := ["settle_delay_ms", "default_statement"]
  required := 0
  set s field value :=
    match field with
    | "settle_delay_ms" => (milliseconds value).map ({ s with settleDelay := · })
    | "default_statement" => (text "a string" value).map ({ s with defaultStatement := · })
    | _ => .ok s

def storageSection : Section where
  name := "StorageSettings"
  fields := ["state_db", "favorites_key"]
  required := 1
  set s field value :=
    match field with
    | "state_db" => (text "path string" value).map ({ s with stateDb := some · })
    | "favorites_key" => (text "a string" value).map ({ s with favoritesKey := · })
    | _ => .ok s

namespace Section

def setAll (c : Section) (s : Settings) (fields : Fields) : Except Fault Settings :=
  fields.foldlM (fun s (field, value) => c.set s field value) s

-- The fields in their places.
def setItems (c : Section) (s : Settings) (whole : Toml) (items : List Toml) :
    Except Fault Settings := do
  let s ← c.setAll s (c.fields.zip items)
  if items.length < c.required then
    faultAt whole ("invalid length " ++ toString items.length ++ ", expected struct " ++ c.name ++
      " with " ++ toString c.fields.length ++ " elements")
  else return s

def read (c : Section) (s : Settings) : Toml → Except Fault Settings
  | .table _ _ fields | .inlineTable _ fields => c.setAll s fields
  -- A date reads as a table that holds none of the fields.
  | .scalar _ .dateTime => .ok s
  | .array span items => c.setItems s (.array span items) items
  | .tables items =>
    c.setItems s (.tables items) (items.map fun (span, fields) => .table span .headed fields)
  | value => mismatch value ("struct " ++ c.name)

end Section

def ofFields (fields : Fields) : Except Fault Settings :=
  fields.foldlM (fun s (name, value) =>
    match name with
    | "session" => sessionSection.read s value
    | "storage" => storageSection.read s value
    | _ => .ok s) default

def ofText (text : String) : Except Fault Settings := do
  ofFields (← Toml.parse text)

def unreadable (reason : String) : ConsoleError :=
  ⟨.config, "Failed to read config file: " ++ reason⟩

def malformed (path report : String) : ConsoleError :=
  ⟨.config, "Configuration error in " ++ path ++ ":\n  " ++ report⟩

def load (fs : Files) (path : String) : Except ConsoleError Settings :=
  match fs.find path with
  | .error _ => .ok default
  | .ok .directory => .error (unreadable FileError.isDirectory.message)
  | .ok (.database _) => .error (unreadable "stream did not contain valid UTF-8")
  | .ok (.bytes content) =>
    match String.fromUTF8? content with
    | none => .error (unreadable "stream did not contain valid UTF-8")
    | some text => (ofText text).mapError fun fault => malformed path (fault.report text)

end Settings
end QueryConsole
