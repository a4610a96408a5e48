import QueryConsole.Text.Quoted
import QueryConsole.Text.Utf8

-- The file that a database address names. A path is put into the address as it is, so a question
-- mark in it begins the parameters, and a percent sign may stand for a byte. The name that comes
-- out of it may be a URI once more.
namespace QueryConsole.Url

def hexValue? (c : Char) : Option Nat :=
  if '0' ≤ c ∧ c ≤ '9' then some (c.toNat - 48)
  else if 'a' ≤ c ∧ c ≤ 'f' then some (c.toNat - 87)
  else if 'A' ≤ c ∧ c ≤ 'F' then some (c.toNat - 55)
  else none

-- The bytes of a text in which a percent sign and two digits stand for one byte.
def decodeBytes : List Char → List UInt8
  | '%' :: a :: b :: rest =>
    match hexValue? a, hexValue? b with
    | some a, some b => (a * 16 + b).toUInt8 :: decodeBytes rest
    | _, _ => 0x25 :: decodeBytes (a :: b :: rest)
  | c :: rest => (String.singleton c).toUTF8.toList ++ decodeBytes rest
  | [] => []

-- A name or a value among the parameters, where a plus sign stands for a blank.
def decodeParameter (cs : List Char) : String :=
  Text.replaceFaults (decodeBytes (cs.map fun c => if c = '+' then ' ' else c))

inductive Fault
  | unknownParameter (name : String)
  | unknownValue (name value : String)
  | notText (reason : String)
  | zeroByte
  | unknownSystem (name : String)
  | unknownAuthority (text : String)
  | unknownMode (kind value : String)
  deriving DecidableEq, Repr

namespace Fault

def invalid (reason : String) : String :=
  "Invalid database path: error with configuration: " ++ reason

def refused (reason : String) : String :=
  "Failed to connect to state database: error returned from database: " ++ reason

def message : Fault → String
  | unknownParameter name =>
    invalid ("unknown query parameter `" ++ name ++ "` while parsing connection URL")
  | unknownValue name value =>
    invalid ("unknown value " ++ Text.quoted value ++ " for `" ++ name ++ "`")
  | notText reason => invalid reason
  | zeroByte =>
    "Failed to connect to state database: error communicating with database: " ++
      "filename passed to SQLite must not contain nul bytes"
  | unknownSystem name => refused ("(code: 1) no such vfs: " ++ name)
  | unknownAuthority text => refused ("(code: 1) invalid uri authority: " ++ text)
  | unknownMode kind value => refused ("(code: 1) no such " ++ kind ++ " mode: " ++ value)

end Fault

def choices : List (String × List String) :=
  [("mode", ["ro", "rw", "rwc", "memory"]), ("cache", ["private", "shared"]),
    ("immutable", ["true", "1", "false", "0"])]

def checkParameter (name value : String) : Except Fault Unit :=
  match choices.find? (·.1 = name) with
  | some (_, values) => if values.contains value then .ok () else .error (.unknownValue name value)
  | none => if name = "vfs" then .ok () else .error (.unknownParameter name)

-- Names and values that `&` parts, as they are written.
def splitPairs (cs : List Char) : List (List Char × List Char) :=
  ((cs.splitOn '&').filter (!·.isEmpty)).map fun part =>
    let name := part.takeWhile (· ≠ '=')
    (name, part.drop (name.length + 1))

def parameters (cs : List Char) : List (String × String) :=
  (splitPairs cs).map fun (name, value) => (decodeParameter name, decodeParameter value)

theorem length_sub_lt {word cs : List Char} (h : word.isPrefixOf cs) (hw : word ≠ []) :
    cs.length - word.length < cs.length := by
  have := (List.isPrefixOf_iff_prefix.1 h).length_le
  have := List.length_pos_iff.2 hw
  omega

-- What follows every copy of `word` at the start of the text.
def afterAll (word cs : List Char) : List Char :=
  if h : word.isPrefixOf cs ∧ word ≠ [] then
    have := length_sub_lt h.1 h.2
    afterAll word (cs.drop word.length)
  else
    cs
termination_by cs.length

-- The address of the database at `path`, without its scheme. A path may look like one as well.
def address (path : String) : List Char :=
  afterAll "sqlite:".toList (afterAll "sqlite://".toList ("sqlite:" ++ path ++ "?mode=rwc").toList)

-- How a database is opened.
inductive Access
  | makes
  | writes
  | reads
  | memory
  deriving DecidableEq, Repr

structure Target where
  name : String
  access : Access
  deriving DecidableEq, Repr

namespace Target

-- The file of the database. Some names stand for a database that is in no file.
def file? (t : Target) : Option String :=
  if t.access = .memory || t.name.isEmpty || t.name = ":memory:" then none else some t.name

end Target

def systems : List String :=
  ["unix", "unix-none", "unix-dotfile", "unix-excl", "memdb"]

-- Opens by way of the system with this name.
def Target.through (t : Target) (system : String) : Except Fault Target :=
  if !systems.contains system then .error (.unknownSystem system)
  else if system = "memdb" then .ok { t with access := .memory }
  else .ok t

def untilZero (s : String) : String :=
  .ofList (s.toList.takeWhile (· ≠ '\x00'))

-- A part of a URI. It ends with the first zero byte.
def decodePart (cs : List Char) : String :=
  untilZero (Text.replaceFaults (decodeBytes cs))

-- What follows the authority, which can only be this machine.
def afterAuthority (cs : List Char) : Except Fault (List Char) :=
  match cs with
  | '/' :: '/' :: rest =>
    let authority := String.ofList (rest.takeWhile (· ≠ '/'))
    if authority.isEmpty || authority = "localhost" then .ok (rest.dropWhile (· ≠ '/'))
    else .error (.unknownAuthority authority)
  | cs => .ok cs

def Target.refine (t : Target) (option : String × String) : Except Fault Target :=
  match option with
  | ("cache", value) =>
    if ["shared", "private"].contains value then .ok t else .error (.unknownMode "cache" value)
  | ("mode", "ro") => .ok { t with access := .reads }
  | ("mode", "rw") => .ok { t with access := .writes }
  | ("mode", "rwc") => .ok { t with access := .makes }
  | ("mode", "memory") => .ok { t with access := .memory }
  | ("mode", value) => .error (.unknownMode "access" value)
  | _ => .ok t

def Target.ofUri (cs : List Char) : Except Fault Target := do
  let shown := (← afterAuthority cs).takeWhile (· ≠ '#')
  let name := shown.takeWhile (· ≠ '?')
  let options := (splitPairs (shown.drop (name.length + 1))).map fun (name, value) =>
    (decodePart name, decodePart value)
  let target ← options.foldlM Target.refine ⟨decodePart name, .makes⟩
  match options.reverse.find? (·.1 = "vfs") with
  | some (_, system) => target.through system
  | none => .ok target

def Target.ofName (name : String) : Except Fault Target :=
  if name.toList.contains '\x00' then .error .zeroByte
  else if name.startsWith "file:" then Target.ofUri (name.toList.drop 5)
  else .ok ⟨name, .makes⟩

-- What is opened for the database at `path`.
def target (path : String) : Except Fault Target := do
  let address := address path
  let name := address.takeWhile (· ≠ '?')
  if let some reason := Text.utf8Fault? (decodeBytes name) then throw (.notText reason)
  let file := Text.replaceFaults (decodeBytes name)
  let parameters := parameters (address.drop (name.length + 1))
  parameters.forM fun (name, value) => checkParameter name value
  match parameters.reverse.find? (·.1 = "vfs") with
  | some (_, system) => Target.through ⟨untilZero file, .makes⟩ (untilZero system)
  | none => Target.ofName file

end QueryConsole.Url
