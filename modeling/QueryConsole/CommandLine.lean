import QueryConsole.Paths
import QueryConsole.Report.Basic

-- The command line of the program. An option takes its value after an equals sign or from the next
-- argument. It is checked when the next option begins, so that an argument nobody knows is reported
-- before a value that is missing.
namespace QueryConsole

structure Arguments where
  config : Option String
  stateDb : Option String
  inMemory : Bool
  script : Option String
  splitOnly : Bool
  output : String
  -- Logging to a file, with or without a path of its own.
  logFile : Option (Option String)
  deriving DecidableEq, Repr

namespace CommandLine

inductive Switch
  | config
  | stateDb
  | inMemory
  | script
  | splitOnly
  | output
  | logFile
  | help
  | version
  deriving DecidableEq, Repr

inductive Refusal
  | invalidValue
  | argumentConflict
  | tooManyValues
  | unknownArgument
  | displayHelp
  | displayVersion
  deriving DecidableEq, Repr

namespace Refusal

-- Asking for help or for the version is no mistake.
def exitCode : Refusal → Nat
  | displayHelp | displayVersion => 0
  | _ => 2

end Refusal

namespace Switch

def ofName? (name : String) : Option Switch :=
  match name with
  | "config" => some config
  | "state-db" => some stateDb
  | "in-memory" => some inMemory
  | "script" => some script
  | "split-only" => some splitOnly
  | "output" => some output
  | "log-file" => some logFile
  | "help" => some help
  | "version" => some version
  | _ => none

def ofLetter? (c : Char) : Option Switch :=
  match c with
  | 'h' => some help
  | 'V' => some version
  | _ => none

def takesValue : Switch → Bool
  | config | stateDb | script | output | logFile => true
  | inMemory | splitOnly | help | version => false

def needsValue (s : Switch) : Bool :=
  s.takesValue && s ≠ logFile

-- Its value is a path, which cannot be empty.
def isPath : Switch → Bool
  | config | stateDb | logFile => true
  | _ => false

end Switch

structure Progress where
  given : List (Switch × Option String)
  -- The last option, with its value if that has come.
  pending : Option (Switch × Option String)
  -- The next argument may be the value of the last option.
  waits : Bool

namespace Progress

def none : Progress :=
  ⟨[], .none, false⟩

def accept (p : Progress) (s : Switch) (value : Option String) : Except Refusal Progress :=
  if s.needsValue && value.isNone then .error .invalidValue
  else if s = .help then .error .displayHelp
  else if s = .version then .error .displayVersion
  else if p.given.any (·.1 = s) then .error .argumentConflict
  else if s.isPath && value = some "" then .error .invalidValue
  else .ok { p with given := p.given ++ [(s, value)] }

def settle (p : Progress) : Except Refusal Progress :=
  match p.pending with
  | .none => .ok { p with waits := false }
  | some (s, value) => { p with pending := .none, waits := false }.accept s value

-- The option `s`, with what follows an equals sign.
def take (p : Progress) (s : Switch) (attached : Option String) : Except Refusal Progress := do
  match s.takesValue, attached with
  | false, some _ => .error .tooManyValues
  | true, .none => return { ← p.settle with pending := some (s, .none), waits := true }
  | _, _ => (← p.settle).accept s attached

def takeLong (p : Progress) (cs : List Char) : Except Refusal Progress :=
  let name := cs.takeWhile (· ≠ '=')
  let attached :=
    if name.length < cs.length then some (.ofList (cs.drop (name.length + 1))) else .none
  match Switch.ofName? (.ofList name) with
  | some s => p.take s attached
  | .none => .error .unknownArgument

-- The first letter decides, as no letter stands for an option that goes on.
def takeShort (p : Progress) (c : Char) : Except Refusal Progress :=
  match Switch.ofLetter? c with
  | some s => p.take s .none
  | .none => .error .unknownArgument

def takeArgument (p : Progress) (arg : String) : Except Refusal Progress :=
  match arg.toList with
  | '-' :: '-' :: rest => p.takeLong rest
  | '-' :: c :: _ => p.takeShort c
  | _ =>
    match p.waits, p.pending with
    | true, some (s, _) => .ok { p with pending := some (s, some arg), waits := false }
    | _, _ => .error .unknownArgument

-- Nothing may follow two dashes that stand alone.
def takeAll (p : Progress) : List String → Except Refusal Progress
  | [] => p.settle
  | arg :: args =>
    if arg = "--" then
      if args.isEmpty then p.settle else .error .unknownArgument
    else do (← p.takeArgument arg).takeAll args

def has (p : Progress) (s : Switch) : Bool :=
  p.given.any (·.1 = s)

def value? (p : Progress) (s : Switch) : Option String :=
  (p.given.find? (·.1 = s)).bind (·.2)

def arguments (p : Progress) : Arguments where
  config := p.value? .config
  stateDb := p.value? .stateDb
  inMemory := p.has .inMemory
  script := p.value? .script
  splitOnly := p.has .splitOnly
  output := (p.value? .output).getD "text"
  logFile := (p.given.find? (·.1 = .logFile)).map (·.2)

end Progress

def parse (args : List String) : Except Refusal Arguments := do
  let p ← Progress.none.takeAll args
  if p.has .stateDb && p.has .inMemory then .error .argumentConflict else return p.arguments

end CommandLine

namespace Arguments

def configPath (a : Arguments) (env : Environment) : String :=
  a.config.getD env.configPath

def format (a : Arguments) : Except String Report.Format :=
  Report.Format.ofName a.output

def logPath (a : Arguments) (env : Environment) : Option String :=
  a.logFile.map (·.getD env.logPath)

def isInteractive (a : Arguments) : Bool :=
  a.script.isNone

def validate (a : Arguments) : Except String Unit := do
  let _ ← a.format
  if a.script = some "" then .error "--script requires a path or \"-\"" else .ok ()

end Arguments
end QueryConsole
