-- File paths as text, and where the program keeps its files.
namespace QueryConsole

namespace Path

def isAbsolute (path : String) : Bool :=
  path.toList.head? = some '/'

-- A slash stands at the end.
def isSlashed (path : String) : Bool :=
  path.toList.getLast? = some '/'

def join (base name : String) : String :=
  if base.isEmpty || isSlashed base then base ++ name else base ++ "/" ++ name

-- A path that is given backwards, without what adds nothing at its end: slashes, and dots of their
-- own after a slash. The slash of the root stays.
def dropTail : List Char → List Char
  | '/' :: [] => ['/']
  | '/' :: rest => dropTail rest
  | '.' :: '/' :: rest => dropTail ('/' :: rest)
  | cs => cs

-- The directory around a path; the root and the empty path have none.
def parent? (path : String) : Option String :=
  let cs := dropTail path.toList.reverse
  if cs.isEmpty || cs = ['/'] then none
  else some (.ofList (dropTail (cs.dropWhile (· ≠ '/'))).reverse)

-- A path and the directories around it, from the inside out, that a name stands for.
def upward (path : String) : List String :=
  let rec go : Nat → String → List String
    | 0, _ => []
    | fuel + 1, path =>
      match parent? path with
      | none => []
      | some around => path :: go fuel around
  go path.length path

-- What stands before the name of a path, and the name. Dots that stand for directories are no name.
def splitName? (path : String) : Option (List Char × List Char) :=
  let cs := dropTail path.toList.reverse
  let name := (cs.takeWhile (· ≠ '/')).reverse
  if name.isEmpty || name = ['.'] || name = ['.', '.'] then none
  else some ((cs.dropWhile (· ≠ '/')).reverse, name)

-- A name up to its last dot, and what follows that. A dot in front belongs to the name.
def splitExtension (name : List Char) : List Char × Option (List Char) :=
  let stem := ((name.reverse.dropWhile (· ≠ '.')).drop 1).reverse
  if stem.isEmpty then (name, none) else (stem, some (name.drop (stem.length + 1)))

-- As many characters as the extension has are dropped from the end; if the rest still has a name,
-- that gets the new extension in place of its own.
def withExtension (path extension : String) : String :=
  let old := ((splitName? path).bind fun (_, name) => (splitExtension name).2).getD []
  let kept := String.ofList (path.toList.take (path.length - old.length))
  match splitName? kept with
  | none => kept
  | some (around, name) =>
    .ofList (around ++ (splitExtension name).1 ++ '.' :: extension.toList)

-- The parts of a path between its slashes, with those left out that lead nowhere.
def parts (path : String) : List String :=
  ((path.toList.splitOn '/').map String.ofList).filter fun part => !part.isEmpty && part ≠ "."

-- The path from the root through the given parts, where two dots take back the part before them.
def ofParts (parts : List String) : String :=
  let kept := parts.foldl (fun kept part => if part = ".." then kept.drop 1 else part :: kept) []
  "/" ++ "/".intercalate kept.reverse

-- The parts of a path as seen from the directory `base`.
def partsFrom (base path : String) : List String :=
  if isAbsolute path then parts path else parts base ++ parts path

-- The absolute path that a path means in the directory `base`, by its text alone.
def resolve (base path : String) : String :=
  ofParts (partsFrom base path)

-- All that a path goes through, itself included.
def stops (base path : String) : List String :=
  let parts := partsFrom base path
  (List.range parts.length).map fun i => ofParts (parts.take (i + 1))

-- In bytes.
def maxName : Nat := 255
def maxLength : Nat := 4095

end Path

structure Environment where
  home : String
  configHome : Option String
  stateHome : Option String
  deriving DecidableEq, Repr

namespace Environment

-- A directory given by a variable counts only if it is absolute.
def directory (env : Environment) (given : Option String) (fallback : String) : String :=
  match given with
  | some path => if Path.isAbsolute path then path else Path.join env.home fallback
  | none => Path.join env.home fallback

def configFile (env : Environment) (name : String) : String :=
  Path.join (Path.join (env.directory env.configHome ".config") "graph-console") name

def stateFile (env : Environment) (name : String) : String :=
  Path.join (Path.join (env.directory env.stateHome ".local/state") "graph-console") name

def configPath (env : Environment) : String :=
  env.configFile "config.toml"

def databasePath (env : Environment) : String :=
  env.configFile "state.db"

def logPath (env : Environment) : String :=
  env.stateFile "gconsole.log"

end Environment
end QueryConsole
