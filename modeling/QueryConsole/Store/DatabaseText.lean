import QueryConsole.Json.Basic
import QueryConsole.Json.Record
import QueryConsole.Store.Database

-- The text form of a state database: one JSON object with a field for each of its tables.
namespace QueryConsole

open Json (Source)

namespace EntryTable

-- An object if there is one text a key, else a list of pairs.
def toJson (t : EntryTable) : Json :=
  let entries := t.texts.entries
  if t.keyed then .object (entries.map fun (key, text) => (key, .string text))
  else .array (entries.map fun (key, text) => .array [.string key, .string text])

def ofSource? : Source → Option EntryTable
  | .object fields => do
    let entries ← fields.mapM fun (key, text) => do
      return (← key, ← text.text?)
    return ⟨.ofList entries, true⟩
  | .array items => do
    let entries ← items.mapM fun
      | .array [key, text] => do return (← key.text?, ← text.text?)
      | _ => none
    return ⟨.ofList entries, false⟩
  | _ => none

end EntryTable

namespace Database

def versionsField : String := "schema_versions"
def entriesField : String := "kv_entries"

def encode (db : Database) : String :=
  let versions := db.versions.map fun vs => (versionsField, Json.array (vs.map .int))
  let entries := db.entries.map fun es => (entriesField, es.toJson)
  (Json.object (versions.toList ++ entries.toList)).text

def versions? : Source → Option (List Int)
  | .array items => do
    return (← items.mapM Source.int?).foldl (fun vs v => insertVersion v vs) []
  | _ => none

-- The database with this text. An array is none.
def decode? (text : String) : Option Database := do
  let source ← Json.parse? text
  match source with
  | .object _ =>
    let [versions, entries] ← Json.record? [versionsField, entriesField] source | none
    return {
      versions := ← versions.elim (some none) fun vs => (versions? vs).map some
      entries := ← entries.elim (some none) fun es => (EntryTable.ofSource? es).map some }
  | _ => none

end Database
end QueryConsole
