import QueryConsole.Json.Record
import QueryConsole.Json.Basic
import QueryConsole.Store.Memory

-- Saved statements by name, and the text that keeps them: one JSON object of strings.
namespace QueryConsole

abbrev Favorites := Table String

namespace Favorites

def toJson (favorites : Favorites) : Json :=
  .object (favorites.entries.map fun (name, statement) => (name, .string statement))

def encode (favorites : Favorites) : String :=
  (toJson favorites).text

def ofSource? : Json.Source → Option Favorites
  | .object fields => do
    let entries ← fields.mapM fun (name, value) => do
      return (← name, ← value.text?)
    return .ofList entries
  | _ => none

-- A text that is not an object of strings counts as no favorites.
def decode (text : String) : Favorites :=
  ((Json.parse? text).bind ofSource?).getD .empty

-- The favorites kept in a store: none where it holds no text.
def ofStored (stored : Option String) : Favorites :=
  (stored.map decode).getD .empty

variable {τ : Type} [KeyValueStore τ]

-- A text that cannot be understood counts as no favorites; only the store itself can fail.
def load (store : τ) (key : String) : Except ConsoleError Favorites :=
  (KeyValueStore.get store key).map ofStored

def save (store : τ) (key : String) (favorites : Favorites) : τ × Except ConsoleError Unit :=
  KeyValueStore.set store key favorites.encode

end Favorites
end QueryConsole
