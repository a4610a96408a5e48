import QueryConsole.Paths
import QueryConsole.Store.Database

-- The files that the program works with, by absolute path. Only what the program asks of a file
-- system is here: making directories and files, moving them, and reading. A path is followed part
-- by part, so everything before its end has to be a directory that is there.
namespace QueryConsole

inductive FileError
  | notFound
  | alreadyExists
  | notDirectory
  | isDirectory
  | notEmpty
  | nameTooLong
  -- A path that ends in dots cannot be moved.
  | busy
  | zeroByte
  deriving DecidableEq, Repr

namespace FileError

def message : FileError → String
  | notFound => "No such file or directory (os error 2)"
  | alreadyExists => "File exists (os error 17)"
  | notDirectory => "Not a directory (os error 20)"
  | isDirectory => "Is a directory (os error 21)"
  | notEmpty => "Directory not empty (os error 39)"
  | nameTooLong => "File name too long (os error 36)"
  | busy => "Device or resource busy (os error 16)"
  | zeroByte => "file name contained an unexpected NUL byte"

end FileError

inductive Node
  | directory
  | bytes (content : ByteArray)
  | database (db : Database)

namespace Node

def isDirectory : Node → Bool
  | directory => true
  | _ => false

-- A file without content is a database without tables.
def database? : Node → Option Database
  | database db => some db
  | bytes content => if content.isEmpty then some .blank else none
  | directory => none

end Node

structure Files where
  nodes : Table Node
  -- Where relative paths start.
  base : String

namespace Files

-- What has the name that a path means by its text alone.
def named? (fs : Files) (path : String) : Option Node :=
  fs.nodes.get? (Path.resolve fs.base path)

def put (fs : Files) (path : String) (node : Node) : Files :=
  { fs with nodes := fs.nodes.insert (Path.resolve fs.base path) node }

-- The end of a path.
inductive Spot
  -- A directory that dots or slashes lead to.
  | directory
  -- A name in a directory; `slashed` if a slash follows it.
  | entry (place : String) (slashed : Bool)

-- The directory that a part of a path leads to from the directory `place`.
def enter (fs : Files) (place part : String) : Except FileError String :=
  if part = ".." then .ok ((Path.parent? place).getD "/")
  else if Path.maxName < part.utf8ByteSize then .error .nameTooLong
  else
    match fs.nodes.get? (Path.join place part) with
    | some .directory => .ok (Path.join place part)
    | some _ => .error .notDirectory
    | none => .error .notFound

def enterAll (fs : Files) (path : String) (parts : List String) : Except FileError String :=
  parts.foldlM fs.enter (if Path.isAbsolute path then "/" else fs.base)

def locate (fs : Files) (path : String) : Except FileError Spot :=
  let parts := Path.parts path
  let unslashed := (path.toList.reverse.dropWhile (· = '/')).reverse
  let name := String.ofList (unslashed.reverse.takeWhile (· ≠ '/')).reverse
  if path.toList.contains '\x00' then .error .zeroByte
  else if path.isEmpty then .error .notFound
  else if Path.maxLength < path.utf8ByteSize then .error .nameTooLong
  else if name.isEmpty || name = "." || name = ".." then
    (fs.enterAll path parts).map fun _ => .directory
  else do
    let place ← fs.enterAll path parts.dropLast
    if Path.maxName < name.utf8ByteSize then .error .nameTooLong
    else .ok (.entry (Path.join place name) (Path.isSlashed path))

-- What a path leads to. Only a directory may have a slash behind its name.
def find (fs : Files) (path : String) : Except FileError Node := do
  match ← fs.locate path with
  | .directory => .ok .directory
  | .entry place slashed =>
    match fs.nodes.get? place with
    | none => .error .notFound
    | some node => if slashed && !node.isDirectory then .error .notDirectory else .ok node

def has (fs : Files) (path : String) : Bool :=
  (fs.find path).toBool

def isDirectory (fs : Files) (path : String) : Bool :=
  (fs.find path).toOption.any Node.isDirectory

def isFile (fs : Files) (path : String) : Bool :=
  (fs.find path).toOption.any (!·.isDirectory)

def makeDirectory (fs : Files) (path : String) : Files × Except FileError Unit :=
  match fs.locate path with
  | .error e => (fs, .error e)
  | .ok .directory => (fs, .error .alreadyExists)
  | .ok (.entry place _) =>
    if (fs.nodes.get? place).isSome then (fs, .error .alreadyExists)
    else ({ fs with nodes := fs.nodes.insert place .directory }, .ok ())

-- Does no harm where the directory is already there.
def ensureDirectory (fs : Files) (path : String) : Files × Except FileError Unit :=
  match fs.makeDirectory path with
  | (fs, .error .alreadyExists) =>
    (fs, if fs.isDirectory path then .ok () else .error .alreadyExists)
  | made => made

-- Makes the first of these directories. The others are around it, from the inside out, and are made
-- where they are missed.
def ensureWithin (fs : Files) : List String → Files × Except FileError Unit
  | [] => (fs, .ok ())
  | path :: around =>
    match fs.ensureDirectory path with
    | (fs, .error .notFound) =>
      match fs.ensureWithin around with
      | (fs, .error e) => (fs, .error e)
      | (fs, .ok ()) => fs.ensureDirectory path
    | made => made

def makeDirectories (fs : Files) (path : String) : Files × Except FileError Unit :=
  fs.ensureWithin (Path.upward path)

-- An empty file in place of what was there.
def create (fs : Files) (path : String) : Files × Except FileError Unit :=
  match fs.locate path with
  | .error e => (fs, .error e)
  | .ok .directory | .ok (.entry _ true) => (fs, .error .isDirectory)
  | .ok (.entry place false) =>
    if (fs.nodes.get? place).any Node.isDirectory then (fs, .error .isDirectory)
    else ({ fs with nodes := fs.nodes.insert place (.bytes .empty) }, .ok ())

def isOccupied (fs : Files) (place : String) : Bool :=
  fs.nodes.entries.any (·.1.startsWith (place ++ "/"))

-- The places that a file or a directory is moved from and to. What is no directory cannot have a
-- slash behind its name.
def moved (fs : Files) (source target : String) : Except FileError (String × String) := do
  match ← fs.locate source, ← fs.locate target with
  | .entry old oldSlash, .entry new newSlash =>
    match fs.nodes.get? old, fs.nodes.get? new with
    | none, _ => .error .notFound
    | some .directory, some .directory =>
      if fs.isOccupied new then .error .notEmpty else .ok (old, new)
    | some .directory, some _ => .error .notDirectory
    | some .directory, none => .ok (old, new)
    | some _, there =>
      if oldSlash || newSlash then .error .notDirectory
      else if there.any Node.isDirectory then .error .isDirectory
      else .ok (old, new)
  | _, _ => .error .busy

def rename (fs : Files) (source target : String) : Files × Except FileError Unit :=
  match fs.moved source target with
  | .error e => (fs, .error e)
  | .ok (old, new) =>
    let renamed := fs.nodes.entries.filterMap fun (place, node) =>
      if place = old then some (new, node)
      else if place.startsWith (old ++ "/") then
        some (new ++ String.ofList (place.toList.drop old.length), node)
      else if place = new then none
      else some (place, node)
    ({ fs with nodes := .ofList renamed }, .ok ())

end Files
end QueryConsole
