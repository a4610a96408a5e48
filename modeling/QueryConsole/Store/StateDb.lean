import QueryConsole.Files
import QueryConsole.Store.Memory
import QueryConsole.Store.Url

-- The state database in a file. Opening makes the directories on the way and migrates the database.
-- A file that cannot be opened or migrated is moved aside, and an empty database takes its place.
namespace QueryConsole

structure StateDb where
  path : String
  -- None for a database in memory.
  file : Option String
  readOnly : Bool
  db : Database
  closed : Bool

namespace StateDb

def failure (detail : String) : ConsoleError :=
  ⟨.persistence, detail⟩

-- The files once what was written to the database is in its file.
def flush (s : StateDb) (fs : Files) : Files :=
  match s.file with
  | some file => if s.readOnly then fs else fs.put file (.database s.db)
  | none => fs

def unusable (reason : String) : ConsoleError :=
  failure (Url.Fault.refused reason)

def cannotOpen : ConsoleError :=
  unusable "(code: 14) unable to open database file"

def cannotWrite : String :=
  "(code: 8) attempt to write a readonly database"

-- In bytes. The journal of a database lies beside it, under a longer name.
def maxFile : Nat := 512
def journalSuffix : String := "-journal"

-- Making the first table takes a journal.
def connectBlank (fs : Files) (file : String) (access : Url.Access) :
    Files × Except ConsoleError Database :=
  if access = .reads then (fs, .error (unusable cannotWrite))
  else
    match fs.locate (file ++ journalSuffix) with
    | .ok _ => (fs, .ok .blank)
    | .error _ => (fs.put file (.bytes .empty), .error cannotOpen)

-- A database that is only read cannot be migrated: the first statement that would write is refused.
def readable (db : Database) : Except ConsoleError Database :=
  let refuse (action : String) : Except ConsoleError Database :=
    .error (failure ("Failed to " ++ action ++ ": error returned from database: " ++ cannotWrite))
  if db.versions.isNone then refuse "create schema_versions table"
  else if db.version = 0 then
    if db.entries.isNone then refuse "create kv_entries table" else refuse "record migration"
  else .ok db

-- The database in a file; a missing file is an empty one.
def connectFile (fs : Files) (file : String) (access : Url.Access) :
    Files × Except ConsoleError Database :=
  if maxFile < (file ++ journalSuffix).utf8ByteSize then (fs, .error cannotOpen)
  else
    match fs.locate file with
    | .error _ | .ok .directory => (fs, .error cannotOpen)
    | .ok (.entry place _) =>
      match fs.nodes.get? place with
      | none => if access = .makes then connectBlank fs file access else (fs, .error cannotOpen)
      | some .directory => (fs, .error cannotOpen)
      | some (.database db) => (fs, if access = .reads then readable db else .ok db)
      | some (.bytes content) =>
        if content.isEmpty then connectBlank fs file access
        else (fs, .error (unusable "(code: 26) file is not a database"))

def connect (fs : Files) (target : Url.Target) : Files × Except ConsoleError Database :=
  match target.file? with
  | none => (fs, .ok .blank)
  | some name => connectFile fs (Path.resolve fs.base name) target.access

def tryOpen (fs : Files) (path : String) : Files × Except ConsoleError StateDb :=
  match Url.target path with
  | .error fault => (fs, .error (failure fault.message))
  | .ok target =>
    let (fs, connected) := connect fs target
    match connected.bind Database.migrate with
    | .error e => (fs, .error e)
    | .ok db =>
      let store : StateDb := ⟨path, target.file?, target.access = .reads, db, false⟩
      (store.flush fs, .ok store)

def backupPath (path : String) : String :=
  Path.withExtension path "db.bak"

def reopen (fs : Files) (path : String) : Files × Except ConsoleError StateDb :=
  match tryOpen fs path with
  | (fs, .ok store) => (fs, .ok store)
  | (fs, .error e) =>
    (fs, .error (failure ("Failed to recreate database after backup: " ++ e.message)))

def recover (fs : Files) (path : String) : Files × Except ConsoleError StateDb :=
  if fs.has path then
    match fs.rename path (backupPath path) with
    | (fs, .error e) =>
      (fs, .error (failure ("Failed to backup corrupted database to " ++ backupPath path ++ ": " ++
        e.message)))
    | (fs, .ok ()) => reopen fs path
  else
    reopen fs path

def makeParent (fs : Files) (path : String) : Files × Except ConsoleError Unit :=
  match Path.parent? path with
  | none => (fs, .ok ())
  | some parent =>
    match fs.makeDirectories parent with
    | (fs, .ok ()) => (fs, .ok ())
    | (fs, .error e) =>
      (fs, .error (failure ("Failed to create state directory " ++ parent ++ ": " ++ e.message)))

def openAt (fs : Files) (path : String) : Files × Except ConsoleError StateDb :=
  match makeParent fs path with
  | (fs, .error e) => (fs, .error e)
  | (fs, .ok ()) =>
    match tryOpen fs path with
    | (fs, .ok store) => (fs, .ok store)
    | (fs, .error _) => recover fs path

def closedPool : String :=
  "attempted to acquire a connection on a closed pool"

def get (s : StateDb) (key : String) : Except ConsoleError (Option String) :=
  if s.closed then .error (Database.unreadable key closedPool) else s.db.get key

def set (s : StateDb) (key text : String) : StateDb × Except ConsoleError Unit :=
  if s.closed then (s, .error (Database.unwritable key closedPool))
  else if s.readOnly then
    (s, .error (Database.unwritable key ("error returned from database: " ++ cannotWrite)))
  else
    let (db, result) := s.db.set key text
    ({ s with db }, result)

def close (s : StateDb) : StateDb :=
  { s with closed := true }

instance : KeyValueStore StateDb where
  get := get
  set := set

end StateDb
end QueryConsole
