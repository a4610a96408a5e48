import QueryConsole.Error
import QueryConsole.Table

-- The state database: a table of schema versions and a table of texts under keys. Either table may
-- be missing in a database from elsewhere. Migration brings a database to the supported version, or
-- leaves it alone if its version is newer.
namespace QueryConsole

structure EntryTable where
  texts : Table String
  -- Whether the table asks for one text a key. A table from elsewhere may not, and takes no texts.
  keyed : Bool

structure Database where
  -- The recorded schema versions, in order.
  versions : Option (List Int)
  entries : Option EntryTable

namespace Database

def supported : Int := 1

def blank : Database :=
  ⟨none, none⟩

-- Adds a version in its place; a version is recorded once.
def insertVersion (v : Int) : List Int → List Int
  | [] => [v]
  | w :: ws => if v < w then v :: w :: ws else if v = w then w :: ws else w :: insertVersion v ws

def record (db : Database) (v : Int) : Database :=
  { db with versions := some (insertVersion v (db.versions.getD [])) }

-- The highest recorded version, or zero.
def version (db : Database) : Int :=
  ((db.versions.getD []).getLast?).getD 0

def newer (v : Int) : ConsoleError :=
  ⟨.persistence, "State database schema version (" ++ toString v ++
    ") is newer than supported version (" ++ toString supported ++
    "). Please upgrade the console."⟩

def unknownMigration (v : Int) : ConsoleError :=
  ⟨.persistence, "Unknown migration version: " ++ toString v⟩

-- Makes the table of entries, if it is missing.
def addEntries (db : Database) : Database :=
  { db with entries := some (db.entries.getD ⟨.empty, true⟩) }

-- There is one migration, from version zero to version one.
def migrate (db : Database) : Except ConsoleError Database :=
  let db := { db with versions := some (db.versions.getD []) }
  if supported < db.version then .error (newer db.version)
  else if db.version = supported then .ok db
  else if db.version = 0 then .ok (db.addEntries.record supported)
  else .error (unknownMigration (db.version + 1))

def noTable : String :=
  "error returned from database: (code: 1) no such table: kv_entries"

def noKey : String :=
  "error returned from database: (code: 1) " ++
    "ON CONFLICT clause does not match any PRIMARY KEY or UNIQUE constraint"

def unreadable (key reason : String) : ConsoleError :=
  ⟨.persistence, "Failed to read '" ++ key ++ "': " ++ reason⟩

def unwritable (key reason : String) : ConsoleError :=
  ⟨.persistence, "Failed to write '" ++ key ++ "': " ++ reason⟩

def get (db : Database) (key : String) : Except ConsoleError (Option String) :=
  match db.entries with
  | some entries => .ok (entries.texts.get? key)
  | none => .error (unreadable key noTable)

def set (db : Database) (key text : String) : Database × Except ConsoleError Unit :=
  match db.entries with
  | some entries =>
    if entries.keyed then
      ({ db with entries := some { entries with texts := entries.texts.insert key text } }, .ok ())
    else (db, .error (unwritable key noKey))
  | none => (db, .error (unwritable key noTable))

def tables (db : Database) : List String :=
  (if db.entries.isSome then ["kv_entries"] else []) ++
    if db.versions.isSome then ["schema_versions"] else []

theorem entries_migrate {db db' : Database} (h : db.migrate = .ok db') (he : db.entries.isSome) :
    db'.entries = db.entries := by
  obtain ⟨t, ht⟩ := Option.isSome_iff_exists.1 he
  simp only [migrate] at h
  split at h
  · cases h
  · split at h
    · cases h
      rfl
    · split at h
      · cases h
        simp [record, addEntries, ht]
      · cases h

end Database
end QueryConsole
