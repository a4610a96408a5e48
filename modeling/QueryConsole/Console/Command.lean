import QueryConsole.Console.Words
import QueryConsole.Text.LowerCase

-- Console commands: lines that start with a slash. A command word is read in any letter case, its
-- arguments as words.
namespace QueryConsole.Console

inductive Command
  | favorites
  | save (name : String)
  | run (name : String)
  | forget (name : String)
  | params
  | history (limit : Option Nat)
  | reset
  | help
  | quit
  deriving DecidableEq, Repr

inductive Misuse
  | unknownCommand
  | takesNoArguments
  | missingName
  | manyNames
  | invalidLimit (text : String)
  | tooManyArguments
  deriving DecidableEq, Repr

structure CommandError where
  command : String
  misuse : Misuse
  deriving DecidableEq, Repr

namespace CommandError

def reason (e : CommandError) : String :=
  match e.misuse with
  | .unknownCommand => "unknown command"
  | .takesNoArguments => "takes no arguments"
  | .missingName => "missing name"
  | .manyNames => "expected a single name"
  | .invalidLimit text => "invalid limit '" ++ text ++ "'"
  | .tooManyArguments => "too many arguments"

def hint? (e : CommandError) : Option String :=
  match e.misuse with
  | .unknownCommand => some "Type /help for available commands"
  | .takesNoArguments => none
  | .missingName => some ("Usage: " ++ e.command ++ " <name>")
  | .manyNames => some "Quote names that contain spaces"
  | .invalidLimit _ => some "Usage: /history [N]"
  | .tooManyArguments => none

def message (e : CommandError) : String :=
  e.command ++ ": " ++ e.reason ++
    match e.hint? with
    | some hint => " (" ++ hint ++ ")"
    | none => ""

end CommandError

-- Decimal digits only, with one plus sign allowed in front, below two to the sixty-fourth.
def limit? (text : String) : Option Nat :=
  let digits := match text.toList with
    | '+' :: rest => rest
    | cs => cs
  if digits.isEmpty || !digits.all Char.isDigit then none
  else
    let n := digits.foldl (fun n d => 10 * n + (d.toNat - 48)) 0
    if n < UInt64.size then some n else none

namespace Command

def isCommandLine (line : List Char) : Bool :=
  match Text.trimStart line with
  | '/' :: _ => true
  | _ => false

-- The command word in lower case, and the text of the arguments.
def divide (line : String) : String × String :=
  let cs := Text.trim line.toList
  (.ofList (Text.lower (cs.takeWhile (!Text.isBlank ·))),
    .ofList ((cs.dropWhile (!Text.isBlank ·)).drop 1))

def name? : List String → Except Misuse String
  | [name] => if Text.isAllBlank name.toList then .error .missingName else .ok name
  | [] => .error .missingName
  | _ => .error .manyNames

def historyLimit? : List String → Except Misuse (Option Nat)
  | [] => .ok none
  | [text] =>
    match limit? text with
    | some n => .ok (some n)
    | none => .error (.invalidLimit text)
  | _ => .error .tooManyArguments

def noArguments (command : Command) : List String → Except Misuse Command
  | [] => .ok command
  | _ => .error .takesNoArguments

def ofWords (command : String) (args : List String) : Except Misuse Command :=
  if command = "/favorites" ∨ command = "/favs" then noArguments .favorites args
  else if command = "/save" then (name? args).map .save
  else if command = "/run" then (name? args).map .run
  else if command = "/forget" then (name? args).map .forget
  else if command = "/params" then noArguments .params args
  else if command = "/history" then (historyLimit? args).map .history
  else if command = "/reset" then noArguments .reset args
  else if command = "/help" then .ok .help
  else if command = "/quit" ∨ command = "/exit" then .ok .quit
  else .error .unknownCommand

def parse (line : String) : Except CommandError Command :=
  let (command, args) := divide line
  (ofWords command (words args)).mapError (⟨command, ·⟩)

def helpText : String :=
"Query input:
  Lines ending with `;` run immediately; `;\\` continues on the next line.
  A blank line runs whatever has been typed so far.
  `:param <name> => <value>` sets a session parameter, `:params` lists them.

Console commands:
  /favorites        - List saved statements
  /save <name>      - Save the last run text as a favorite
  /run <name>       - Run a favorite
  /forget <name>    - Delete a favorite
  /params           - Fetch and show session parameters
  /history [N]      - Show past results, newest first
  /reset            - Restore the default statement and clear history
  /help             - Show this help message
  /quit, /exit      - Exit the console"

end Command
end QueryConsole.Console
