import QueryConsole.Backend.Basic
import QueryConsole.Backend.Directive
import QueryConsole.Text.LowerCase

-- A backend in memory. It keeps session parameters, answers a few well-known statements, can be
-- told to answer or reject others, and records every call. Of a statement with several clauses it
-- answers the last one.
namespace QueryConsole

structure Mock where
  params : Params
  -- A call broke down while it held the parameters; they cannot be used since.
  poisoned : Bool
  -- Calls received, oldest first.
  calls : List Call
  spaces : List String
  -- What to answer to statements that hold a pattern, in any letter case.
  responses : List (String × ResponseData)
  rejections : List (String × String)
  -- Milliseconds until a call with such a statement is answered.
  delays : List (String × Nat)

namespace Mock

def default : Mock where
  params := .empty
  poisoned := false
  calls := []
  spaces := ["basketballplayer"]
  responses := []
  rejections := []
  delays := []

def timeCost : UInt64 := 120

def visibleParams (m : Mock) : Params :=
  if m.poisoned then .empty else m.params

-- The first entry whose pattern stands in the text, which is in lower case.
def matching? (entries : List (String × α)) (lowered : List Char) : Option α :=
  (entries.find? fun (pattern, _) => Text.holds (Text.lower pattern.toList) lowered).map (·.2)

-- The longest delay that applies to one of the statements.
def delay (m : Mock) (statements : List String) : Nat :=
  let lowered := statements.map fun s => Text.lower s.toList
  let applying := m.delays.filter fun (pattern, _) =>
    lowered.any (Text.holds (Text.lower pattern.toList))
  (applying.map (·.2)).foldl max 0

-- Carries out a directive on a table that is in order.
def apply (m : Mock) (raw : String) : Directive → Mock × Response
  | .inspect names =>
    let table := if names.isEmpty then m.params else m.params.restrict (names.contains ·)
    (m, .success raw ((ResponseData.ofParams table).withTimeCost timeCost))
  | .assign name value =>
    ({ m with params := m.params.insert name value },
      .success raw (ResponseData.empty.withTimeCost timeCost))
  | .remove name =>
    ({ m with params := m.params.erase name },
      .success raw (ResponseData.empty.withTimeCost timeCost))
  | .unknown text => (m, .failure raw ("Unknown directive: " ++ text))

def applyDirective (m : Mock) (raw : String) : Mock × Answer Response :=
  if m.poisoned then (m, .error ⟨.internal, "mock parameter table poisoned"⟩)
  else
    match Directive.read? (Directive.body raw) with
    | none => ({ m with poisoned := true }, .crash)
    | some directive =>
      let (m, response) := m.apply raw directive
      (m, .ok response)

def lastClause (statement : String) : String :=
  (Script.clauses statement).getLast?.getD statement

def showSpaces : List Char := "show spaces".toList
def yield : List Char := "yield ".toList

-- Rows that answer a clause; its lower-case form decides.
def rows? (m : Mock) (clause lowered : List Char) : Option ResponseData :=
  if showSpaces.isPrefixOf lowered then
    some (.ofRows ["Name"] (m.spaces.map fun space => [.string space]))
  else if yield.isPrefixOf lowered then
    (Text.dropBytes? yield.length clause).map fun literal =>
      .ofRows ["value"] [[.ofLiteral (.ofList literal)]]
  else
    some .empty

def respond (m : Mock) (statement : String) : Answer Response :=
  let clause := (lastClause statement).toList
  let lowered := Text.lower clause
  match matching? m.rejections lowered with
  | some message => .ok (.failure statement message)
  | none =>
    match matching? m.responses lowered with
    | some data => .ok (.success statement data)
    | none =>
      match m.rows? clause lowered with
      | some data => .ok (.success statement (data.withTimeCost timeCost))
      | none => .crash

-- Directives in order, up to the first that fails.
def applyAll (m : Mock) : List String → Mock × Answer (List Response)
  | [] => (m, .ok [])
  | raw :: rest =>
    match m.applyDirective raw with
    | (m, .ok response) =>
      let (m, answer) := m.applyAll rest
      (m, answer.map (response :: ·))
    | (m, .error e) => (m, .error e)
    | (m, .crash) => (m, .crash)

def respondAll (m : Mock) : List String → Answer (List Response)
  | [] => .ok []
  | statement :: rest =>
    (m.respond statement).bind fun response => (m.respondAll rest).map (response :: ·)

def receive (m : Mock) (call : Call) : Mock × Except ConsoleError Nat :=
  let statements := match call with
    | .batch statements _ _ => statements
    | .single statement _ => [statement]
  ({ m with calls := m.calls ++ [call] }, .ok (m.delay statements))

def batch (m : Mock) (statements directives : List String) : Mock × Answer (List Response) :=
  let (m, applied) := m.applyAll directives
  (m, applied.bind fun first => (m.respondAll statements).map (first ++ ·))

-- A blank statement is answered by the last directive.
def single (m : Mock) (statement : String) (directives : List String) : Mock × Answer Response :=
  let (m, applied) := m.applyAll directives
  (m, applied.bind fun responses =>
    if Text.isAllBlank statement.toList then
      .ok (responses.getLast?.getD (.success "" .empty))
    else
      m.respond statement)

instance : Backend Mock where
  receive := receive
  batch := batch
  single := single

end Mock
end QueryConsole
