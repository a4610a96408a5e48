import QueryConsole.Backend.Basic
import QueryConsole.Script.Split
import QueryConsole.Session.View

-- A session as a state machine. Everything that can happen to a session is an `Event`: a request,
-- the answer to a call or to a write it is waiting for, the loss of an operation, the passing of
-- time. A step may ask for one thing to be done, its `Effect`. Operations overlap freely; each is
-- known by a ticket, and its `Stage` says what it waits for.
namespace QueryConsole

abbrev Ticket := Nat

structure Submission where
  seq : Nat
  text : String
  -- Shown in place of the text, unless it is empty.
  display : Option String
  deriving DecidableEq, Repr

namespace Submission

def split (run : Submission) : Script.Split :=
  Script.split run.text

def lastText (run : Submission) : String :=
  match run.display with
  | some display => if display.isEmpty then run.text else display
  | none => run.text

end Submission

-- The result of an operation that succeeded.
inductive Reply
  | ran (seq : Nat)
  | fetched
  | saved
  | removed (found : Bool)
  deriving DecidableEq, Repr

inductive Stage
  -- A run that counts as busy, but has sent nothing yet.
  | accepted (run : Submission)
  -- A run that waits for its batch.
  | dispatched (run : Submission)
  -- A run that has the entries of its batch and waits for the parameters.
  | refreshing (run : Submission) (entries : List Entry)
  | fetching
  | saving (favorites : Favorites) (reply : Reply)

namespace Stage

def run? : Stage → Option Submission
  | accepted run | dispatched run | refreshing run _ => some run
  | fetching | saving .. => none

end Stage

inductive Event
  | submit (text : String) (display : Option String)
  -- A run is taken up for the first time.
  | start (ticket : Ticket)
  | batchAnswered (ticket : Ticket) (answer : Answer (List Response))
  | singleAnswered (ticket : Ticket) (answer : Answer Response)
  | storeAnswered (ticket : Ticket) (answer : Except ConsoleError Unit)
  -- An operation is given up by whoever waited for it.
  | drop (ticket : Ticket)
  | fetchParams
  | updateFavorites (favorites : Favorites)
  | addFavorite (name statement : String)
  | removeFavorite (name : String)
  | reset
  | shutdown
  | advance (milliseconds : Nat)

-- What a step asks for, or tells.
inductive Effect
  | none
  | accepted (ticket : Ticket)
  | call (ticket : Ticket) (call : Call)
  | write (ticket : Ticket) (key text : String)
  | finished (ticket : Ticket) (result : Answer Reply)

structure Session where
  settings : SessionSettings
  view : View
  -- Counts the views that were published.
  revision : Nat
  -- Runs that are under way or have not settled.
  inFlight : Nat
  nextSeq : Nat
  nextId : Nat
  nextTicket : Ticket
  -- Milliseconds.
  now : Nat
  -- When the runs that are over will have settled.
  settling : List Nat
  operations : List (Ticket × Stage)
  active : Bool

namespace Session

-- A new session; entries get identifiers from `nextId` on.
def initial (settings : SessionSettings) (favorites : Favorites) (nextId now : Nat) : Session where
  settings
  view := .initial settings favorites
  revision := 0
  inFlight := 0
  nextSeq := 1
  nextId
  nextTicket := 0
  now
  settling := []
  operations := []
  active := true

def stage? (s : Session) (t : Ticket) : Option Stage :=
  (s.operations.find? (·.1 = t)).map (·.2)

def publish (s : Session) (view : View) : Session :=
  { s with view, revision := s.revision + 1 }

def enter (s : Session) (t : Ticket) (stage : Stage) : Session :=
  { s with operations := s.operations.map fun op => if op.1 = t then (t, stage) else op }

def enroll (s : Session) (stage : Stage) : Session :=
  { s with nextTicket := s.nextTicket + 1, operations := s.operations ++ [(s.nextTicket, stage)] }

def close (s : Session) (t : Ticket) : Session :=
  { s with operations := s.operations.filter (·.1 ≠ t) }

def finishRun (s : Session) : Session :=
  { s with inFlight := s.inFlight - 1 }.publish { s.view with loading := 1 < s.inFlight }

-- Runs settle whose time has come.
def settle (s : Session) : Session :=
  let due := s.settling.filter (· ≤ s.now)
  due.foldl (fun s _ => s.finishRun) { s with settling := s.settling.filter (s.now < ·) }

-- A run ends, however it ends, and begins to settle; no longer after shutdown.
def release (s : Session) : Session :=
  if s.active then { s with settling := s.settling ++ [s.now + s.settings.settleDelay] } else s

def finish (s : Session) (t : Ticket) (result : Answer Reply) : Session × Effect :=
  (s.close t, .finished t result)

def finishRunning (s : Session) (t : Ticket) (result : Answer Reply) : Session × Effect :=
  s.release.finish t result

def answerAtOnce (s : Session) (result : Answer Reply) : Session × Effect :=
  ({ s with nextTicket := s.nextTicket + 1 }, .finished s.nextTicket result)

def submit (s : Session) (text : String) (display : Option String) : Session × Effect :=
  if s.active then
    let s' := { s with nextSeq := s.nextSeq + 1, inFlight := s.inFlight + 1 }
    ((s'.publish { s.view with loading := true }).enroll (.accepted ⟨s.nextSeq, text, display⟩),
      .accepted s.nextTicket)
  else
    s.answerAtOnce (.error .shutDown)

-- The entries of a run become history, newest first, if the session still is active.
def merge (s : Session) (t : Ticket) (run : Submission) (entries : List Entry) : Session × Effect :=
  if s.active then
    (s.publish (s.view.merge entries run.lastText)).finishRunning t (.ok (.ran run.seq))
  else
    s.finishRunning t (.error .shutDown)

def inspection : Call :=
  .single "" [":params"]

-- A response without a parameter table counts as an empty one.
def setParams (s : Session) (r : Response) : Session :=
  s.publish { s.view with params := some (r.localParams.getD .empty) }

def batchAnswered (s : Session) (t : Ticket) (run : Submission) :
    Answer (List Response) → Session × Effect
  | .error e => s.finishRunning t (.error e)
  | .crash => s.finishRunning t .crash
  | .ok responses =>
    if s.active then
      let entries := Entry.ofResponses run.seq s.nextId responses
      let s := { s with nextId := s.nextId + entries.length }
      if run.split.requiresRefresh then
        (s.enter t (.refreshing run entries), .call t inspection)
      else
        s.merge t run entries
    else
      s.finishRunning t (.error .shutDown)

-- Failing to fetch the parameters does not fail the run.
def refreshAnswered (s : Session) (t : Ticket) (run : Submission) (entries : List Entry) :
    Answer Response → Session × Effect
  | .crash => s.finishRunning t .crash
  | .error _ => s.merge t run entries
  | .ok r => (if s.active then s.setParams r else s).merge t run entries

def fetchAnswered (s : Session) (t : Ticket) : Answer Response → Session × Effect
  | .crash => s.finish t .crash
  | .error e => s.finish t (.error e)
  | .ok r =>
    if s.active then (s.setParams r).finish t (.ok .fetched) else s.finish t (.error .shutDown)

-- Favorites are shown only once the store has them.
def saveAnswered (s : Session) (t : Ticket) (favorites : Favorites) (reply : Reply) :
    Except ConsoleError Unit → Session × Effect
  | .error e => s.finish t (.error e)
  | .ok () => (s.publish { s.view with favorites }).finish t (.ok reply)

def saveFavorites (s : Session) (favorites : Favorites) (reply : Reply) : Session × Effect :=
  if s.active then
    (s.enroll (.saving favorites reply),
      .write s.nextTicket s.settings.favoritesKey favorites.encode)
  else
    s.answerAtOnce (.error .shutDown)

def dropOperation (s : Session) (t : Ticket) : Session :=
  match s.stage? t with
  | none => s
  | some stage => (if stage.run?.isSome then s.release else s).close t

def act (s : Session) : Event → Session × Effect
  | .submit text display => s.submit text display
  | .start t =>
    match s.stage? t with
    | some (.accepted run) =>
      (s.enter t (.dispatched run),
        .call t (.batch run.split.statements run.split.directives .consoleRun))
    | _ => (s, .none)
  | .batchAnswered t answer =>
    match s.stage? t with
    | some (.dispatched run) => s.batchAnswered t run answer
    | _ => (s, .none)
  | .singleAnswered t answer =>
    match s.stage? t with
    | some (.refreshing run entries) => s.refreshAnswered t run entries answer
    | some .fetching => s.fetchAnswered t answer
    | _ => (s, .none)
  | .storeAnswered t answer =>
    match s.stage? t with
    | some (.saving favorites reply) => s.saveAnswered t favorites reply answer
    | _ => (s, .none)
  | .drop t => (s.dropOperation t, .none)
  | .fetchParams => (s.enroll .fetching, .call s.nextTicket inspection)
  | .updateFavorites favorites => s.saveFavorites favorites .saved
  | .addFavorite name statement => s.saveFavorites (s.view.favorites.insert name statement) .saved
  | .removeFavorite name =>
    if s.view.favorites.contains name then
      s.saveFavorites (s.view.favorites.erase name) (.removed true)
    else
      s.answerAtOnce (.ok (.removed false))
  | .reset => (if s.active then s.publish (s.view.reset s.settings) else s, .none)
  | .shutdown => ({ s with active := false, settling := [] }, .none)
  | .advance ms => ({ s with now := s.now + ms }, .none)

-- One event, after which every run has settled whose time has come.
def step (s : Session) (e : Event) : Session × Effect :=
  let (s, effect) := s.act e
  (s.settle, effect)

end Session
end QueryConsole
