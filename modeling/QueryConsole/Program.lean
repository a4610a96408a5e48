import QueryConsole.CommandLine
import QueryConsole.Console.Run
import QueryConsole.Settings
import QueryConsole.Store.Memory
import QueryConsole.Store.StateDb
import QueryConsole.Backend.Mock

-- The whole program: arguments, settings, store, session and input, in this order. The first step
-- that fails ends it; the reason is shown only if there is a log file, as it goes to the log
-- otherwise.
namespace QueryConsole

inductive FavoritesStore
  | memory (store : MemoryStore)
  | database (store : StateDb)

namespace FavoritesStore

def get (s : FavoritesStore) (key : String) : Except ConsoleError (Option String) :=
  match s with
  | memory store => store.get key
  | database store => store.get key

def set (s : FavoritesStore) (key text : String) : FavoritesStore × Except ConsoleError Unit :=
  match s with
  | memory store =>
    let (store, result) := store.set key text
    (memory store, result)
  | database store =>
    let (store, result) := store.set key text
    (database store, result)

instance : KeyValueStore FavoritesStore where
  get := get
  set := set

def flush (s : FavoritesStore) (fs : Files) : Files :=
  match s with
  | memory _ => fs
  | database store => store.flush fs

end FavoritesStore

namespace Program

def name : String := "gconsole"
def version : String := "0.1.0"

def versionText : String :=
  name ++ " " ++ version ++ "\n"

def helpText : String :=
"An interactive console for graph query languages

Usage: gconsole [OPTIONS]

Options:
      --config <PATH>      Config file path
      --state-db <PATH>    State database path (overrides the config file)
      --in-memory          Keep favorites in memory only
      --script <PATH>      Read input from a script file instead of the terminal (use \"-\" for stdin)
      --split-only         Print how each block splits without executing it
      --output <FORMAT>    Output format: text or json [default: text]
      --log-file [<PATH>]  Log to a file instead of stderr (defaults to the platform state directory)
  -h, --help               Print help
  -V, --version            Print version
"

inductive Failure
  | arguments (reason : String)
  | console (e : ConsoleError)
  | script (path : String) (e : FileError)
  | input (reason : String)
  | crash

namespace Failure

def message : Failure → String
  | arguments reason => reason
  | console e => e.message
  | script path e => "Failed to open script " ++ path ++ ": " ++ e.message
  | input reason => "Failed to read console input: " ++ reason
  | crash => "Internal error: the backend broke down"

end Failure

abbrev Session := Live Mock FavoritesStore

-- All is set up for input to be read.
structure Ready where
  session : Session
  options : Console.Options
  -- The content of the script, unless input is read from the standard input.
  script : Option Node

-- Sets up the log file; a warning is all that follows if it cannot be made.
def startLog (fs : Files) (path : String) : Files × String :=
  let made : Files × Except FileError Unit := match Path.parent? path with
    | none => (fs, .ok ())
    | some parent => fs.makeDirectories parent
  match made with
  | (fs, .error e) => (fs, "Warning: Could not create log directory: " ++ e.message ++ "\n")
  | (fs, .ok ()) =>
    match fs.create path with
    | (fs, .error e) => (fs, "Warning: Could not create log file: " ++ e.message ++ "\n")
    | (fs, .ok ()) => (fs, "")

-- The state database to use: that of the arguments, of the settings, or the usual one.
def databasePath (env : Environment) (args : Arguments) (settings : Settings) : String :=
  (args.stateDb <|> settings.stateDb).getD env.databasePath

def openStore (env : Environment) (args : Arguments) (settings : Settings) (fs : Files) :
    Files × Except ConsoleError FavoritesStore :=
  if args.inMemory then (fs, .ok (.memory .empty))
  else
    let (fs, store) := StateDb.openAt fs (databasePath env args settings)
    (fs, store.map .database)

def openScript (fs : Files) (args : Arguments) : Except Failure (Option Node) :=
  match args.script with
  | none | some "-" => .ok none
  | some path => ((fs.find path).mapError (.script path)).map some

-- Everything up to the first line of input.
def prepare (env : Environment) (args : Arguments) (fs : Files) : Files × Except Failure Ready :=
  let settings := do
    (args.validate).mapError Failure.arguments
    let format ← (args.format).mapError Failure.arguments
    let settings ← (Settings.load fs (args.configPath env)).mapError Failure.console
    return (format, settings)
  match settings with
  | .error failure => (fs, .error failure)
  | .ok (format, settings) =>
    let (fs, store) := openStore env args settings fs
    let ready := do
      let store ← store.mapError Failure.console
      let session ← (Live.start Mock.default store settings.session 1 0).mapError Failure.console
      let script ← openScript fs args
      return ⟨session, ⟨format, args.splitOnly, args.isInteractive⟩, script⟩
    (fs, ready)

def endingFailure? : Console.Ending → Option Failure
  | .finished => none
  | .invalidText => some (.input "stream did not contain valid UTF-8")
  | .crashed => some .crash

def converse (ready : Ready) (input : ByteArray) :
    FavoritesStore × Console.Written × Option Failure :=
  let run (bytes : ByteArray) :=
    let (session, written, ending) := Console.run ready.options ready.session bytes
    (session.store, written, endingFailure? ending)
  match ready.script with
  | none => run input
  | some (.bytes content) => run content
  | some .directory =>
    (ready.session.store, .empty, some (.input FileError.isDirectory.message))
  | some (.database _) =>
    (ready.session.store, .empty, some (.input "stream did not contain valid UTF-8"))

structure Result where
  code : Nat
  written : Console.Written
  files : Files

-- A failure ends the program with code one.
def conclude (logs : Bool) (warning : String) (written : Console.Written) (files : Files)
    (failure : Option Failure) : Result :=
  let reason := match failure with
    | some failure => if logs then "Error: " ++ failure.message ++ "\n" else ""
    | none => ""
  ⟨if failure.isSome then 1 else 0, ⟨written.out, warning ++ written.err ++ reason⟩, files⟩

def runArguments (env : Environment) (args : Arguments) (fs : Files) (input : ByteArray) : Result :=
  let log := args.logPath env
  let (fs, warning) := match log with
    | some path => startLog fs path
    | none => (fs, "")
  match prepare env args fs with
  | (fs, .error failure) => conclude log.isSome warning .empty fs (some failure)
  | (fs, .ok ready) =>
    let (store, written, failure) := converse ready input
    conclude log.isSome warning written (store.flush fs) failure

def run (env : Environment) (args : List String) (fs : Files) (input : ByteArray) : Result :=
  match CommandLine.parse args with
  | .ok args => runArguments env args fs input
  | .error .displayHelp => ⟨0, ⟨helpText, ""⟩, fs⟩
  | .error .displayVersion => ⟨0, ⟨versionText, ""⟩, fs⟩
  | .error refusal => ⟨refusal.exitCode, ⟨"", "error: the arguments were not understood\n"⟩, fs⟩

end Program
end QueryConsole
