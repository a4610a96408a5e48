import QueryConsole.Program
import QueryConsole.Store.DatabaseText

-- The program at a terminal. The files that a run may touch are read first, the run is worked out
-- on them, and what has changed is written back; input is read line by line and answered at once.
namespace QueryConsole.Main

def readNode (path : String) : IO (Option Node) := do
  try
    let content ← IO.FS.readBinFile path
    match (String.fromUTF8? content).bind Database.decode? with
    | some db => return some (.database db)
    | none => return some (.bytes content)
  catch
    | .noFileOrDirectory .. => return none
    | _ => return some .directory

def readPath (fs : Files) (path : String) : IO Files := do
  let mut fs := fs
  for place in Path.stops fs.base path do
    if let some node ← readNode place then
      fs := fs.put place node
  return fs

def writeNode (path : String) : Node → IO Unit
  | .directory => IO.FS.createDirAll path
  | .bytes content => IO.FS.writeBinFile path content
  | .database db => IO.FS.writeFile path db.encode

def sameNode : Option Node → Node → Bool
  | some .directory, .directory => true
  | some (.bytes a), .bytes b => a.toList == b.toList
  | some (.database a), .database b => a.encode == b.encode
  | _, _ => false

def writeChanges (old new : Files) : IO Unit := do
  for (path, node) in new.nodes.entries do
    unless sameNode (old.nodes.get? path) node do
      writeNode path node

-- The same, after a database was moved out of the way.
def writeFiles (old new : Files) (database : Option String) : IO Unit := do
  if let some path := database then
    let backup := Path.resolve new.base (StateDb.backupPath path)
    if let some node := new.nodes.get? backup then
      unless sameNode (old.nodes.get? backup) node do
        IO.FS.rename (Path.resolve new.base path) backup
  writeChanges old new

def readEnvironment : IO Environment := do
  return ⟨(← IO.getEnv "HOME").getD "", ← IO.getEnv "XDG_CONFIG_HOME", ← IO.getEnv "XDG_STATE_HOME"⟩

-- One line in bytes, with its line feed; none at the end of the input.
partial def readLine (input : IO.FS.Stream) (line : ByteArray) : IO (Option ByteArray) := do
  let next ← input.read 1
  if next.isEmpty then
    return if line.isEmpty then none else some line
  else if next.toList == [0x0a] then
    return some (line ++ next)
  else
    readLine input (line ++ next)

def emit (written : Console.Written) : IO Unit := do
  let out ← IO.getStdout
  let err ← IO.getStderr
  out.putStr written.out
  err.putStr written.err
  out.flush

partial def converse (o : Console.Options) (fs : Files) (session : Program.Session)
    (buffer : Console.BlockBuffer) : IO (Option Program.Failure) := do
  emit (o.prompted buffer)
  match ← readLine (← IO.getStdin) .empty with
  | none =>
    let (session, written, outcome) := Console.respond o session buffer.finish.2
    emit written
    writeChanges fs (session.store.flush fs)
    return if outcome = .crashes then some .crash else none
  | some bytes =>
    match Console.linesOf bytes with
    | [some line] =>
      let (buffer, input) := buffer.push line
      let (session, written, outcome) := Console.respond o session input
      emit written
      let flushed := session.store.flush fs
      writeChanges fs flushed
      match outcome with
      | .goesOn => converse o flushed session buffer
      | .quits => return none
      | .crashes => return some .crash
    | _ => return some (.input "stream did not contain valid UTF-8")

-- The input of a run that is ready: a script that was read, or lines as they come.
def answer (ready : Program.Ready) (fs : Files) : IO (Option Program.Failure) := do
  match ready.script with
  | none => converse ready.options fs ready.session .empty
  | some _ =>
    let (store, written, failure) := Program.converse ready .empty
    emit written
    writeChanges fs (store.flush fs)
    return failure

def runArguments (env : Environment) (args : Arguments) : IO UInt32 := do
  let base ← IO.currentDir
  let log := args.logPath env
  let mut old : Files := ⟨.empty, base.toString⟩
  for path in args.configPath env :: (log.toList ++ args.script.toList) do
    old ← readPath old path
  let settings := ((Settings.load old (args.configPath env)).toOption).getD .default
  let database := Program.databasePath env args settings
  for path in [database, StateDb.backupPath database] do
    old ← readPath old path
  let (logged, warning) := match log with
    | some path => Program.startLog old path
    | none => (old, "")
  (← IO.getStderr).putStr warning
  let (new, ready) := Program.prepare env args logged
  writeFiles old new (some database)
  let failure ← match ready with
    | .ok ready => answer ready new
    | .error failure => pure (some failure)
  match failure with
  | none => return 0
  | some failure =>
    if log.isSome then
      (← IO.getStderr).putStrLn ("Error: " ++ failure.message)
    return 1

def run (args : List String) : IO UInt32 := do
  match CommandLine.parse args with
  | .ok args => runArguments (← readEnvironment) args
  | .error refusal =>
    let result := Program.run (← readEnvironment) args ⟨.empty, "/"⟩ .empty
    emit result.written
    return refusal.exitCode.toUInt32

end QueryConsole.Main

def main (args : List String) : IO UInt32 :=
  QueryConsole.Main.run args
