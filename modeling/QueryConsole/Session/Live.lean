import QueryConsole.Session.Basic

-- A session with its backend and its store, on a clock of its own. What a session asks for becomes
-- a `Job` with a time at which it can be done; `deliver` does it and hands the answer back.
-- Operations can be taken up one by one, and in any order, or be waited for, in which case the
-- clock goes on to the next job.
namespace QueryConsole

inductive Task
  -- A call that the backend has taken on, or refused.
  | call (call : Call) (refusal : Option ConsoleError)
  | write (key text : String)

structure Job where
  ticket : Ticket
  task : Task
  due : Nat

abbrev Result := Answer Reply

structure Live (σ τ : Type) where
  session : Session
  backend : σ
  store : τ
  jobs : List Job

namespace Live

variable {σ τ : Type} [Backend σ] [KeyValueStore τ]

-- A new session, with the favorites that the store holds.
def start (backend : σ) (store : τ) (settings : SessionSettings) (nextId now : Nat) :
    Except ConsoleError (Live σ τ) :=
  (Favorites.load store settings.favoritesKey).map fun favorites =>
    ⟨.initial settings favorites nextId now, backend, store, []⟩

-- A new session on the backend and the store of this one, which is given up.
def restart (w : Live σ τ) : Except ConsoleError (Live σ τ) :=
  start w.backend w.store w.session.settings w.session.nextId w.session.now

def job? (w : Live σ τ) (t : Ticket) : Option Job :=
  w.jobs.find? (·.ticket = t)

def addJob (w : Live σ τ) (job : Job) : Live σ τ :=
  { w with jobs := w.jobs ++ [job] }

def note (w : Live σ τ) : Effect → Live σ τ
  | .call t call =>
    match Backend.receive w.backend call with
    | (backend, .ok delay) =>
      { w with backend }.addJob ⟨t, .call call none, w.session.now + delay⟩
    | (backend, .error e) => { w with backend }.addJob ⟨t, .call call (some e), w.session.now⟩
  | .write t key text => w.addJob ⟨t, .write key text, w.session.now⟩
  | .none | .accepted _ | .finished .. => w

-- Lets an event happen; jobs whose operation is over are forgotten.
def post (w : Live σ τ) (e : Event) : Live σ τ × Effect :=
  let (session, effect) := w.session.step e
  let w := { w with session, jobs := w.jobs.filter fun job => (session.stage? job.ticket).isSome }
  (w.note effect, effect)

-- Does what the task asks for; the event is the answer.
def perform (w : Live σ τ) (t : Ticket) : Task → Live σ τ × Event
  | .call (.batch statements directives _) refusal =>
    match refusal with
    | some e => (w, .batchAnswered t (.error e))
    | none =>
      let (backend, answer) := Backend.batch w.backend statements directives
      ({ w with backend }, .batchAnswered t answer)
  | .call (.single statement directives) refusal =>
    match refusal with
    | some e => (w, .singleAnswered t (.error e))
    | none =>
      let (backend, answer) := Backend.single w.backend statement directives
      ({ w with backend }, .singleAnswered t answer)
  | .write key text =>
    let (store, answer) := KeyValueStore.set w.store key text
    ({ w with store }, .storeAnswered t answer)

def deliver (w : Live σ τ) (job : Job) : Live σ τ × Effect :=
  let w := { w with jobs := w.jobs.filter (·.ticket ≠ job.ticket) }
  let (w, e) := w.perform job.ticket job.task
  w.post e

def proceed (w : Live σ τ) (t : Ticket) : Live σ τ × Effect :=
  match w.session.stage? t with
  | some (.accepted _) => w.post (.start t)
  | _ =>
    match w.job? t with
    | some job => if job.due ≤ w.session.now then w.deliver job else (w, .none)
    | none => (w, .none)

def pollUpTo : Nat → Live σ τ → Ticket → Live σ τ × Option Result
  | 0, w, _ => (w, none)
  | steps + 1, w, t =>
    match w.proceed t with
    | (w, .finished _ result) => (w, some result)
    | (w, .none) => (w, none)
    | (w, _) => pollUpTo steps w t

-- Takes the operation `t` as far as it gets now. A run takes three steps: it is sent off, its batch
-- is answered, and its parameters are.
def poll (w : Live σ τ) (t : Ticket) : Live σ τ × Option Result :=
  pollUpTo 3 w t

def advance (w : Live σ τ) (milliseconds : Nat) : Live σ τ :=
  (w.post (.advance milliseconds)).1

def advanceTo (w : Live σ τ) (time : Nat) : Live σ τ :=
  w.advance (time - w.session.now)

def drop (w : Live σ τ) (t : Ticket) : Live σ τ :=
  (w.post (.drop t)).1

def dueOf? (w : Live σ τ) (t : Ticket) : Option Nat :=
  (w.job? t).map (·.due)

-- Waits for `t` until `deadline`, if there is one, in at most so many steps of the clock.
def awaitUpTo (deadline : Option Nat) : Nat → Live σ τ → Ticket → Live σ τ × Option Result
  | 0, w, _ => (w, none)
  | steps + 1, w, t =>
    match w.poll t with
    | (w, some result) => (w, some result)
    | (w, none) =>
      match w.dueOf? t, deadline with
      | some due, none => awaitUpTo deadline steps (w.advanceTo due) t
      | some due, some deadline =>
        if due ≤ deadline then awaitUpTo deadline steps (w.advanceTo due) t
        else ((w.advanceTo deadline).drop t, none)
      | none, _ => (w, none)

-- Waits for `t`. An operation has two jobs at most, one after the other.
def await (w : Live σ τ) (t : Ticket) : Live σ τ × Option Result :=
  awaitUpTo none 3 w t

-- Waits for `t`, but drops it when the time is over.
def awaitWithin (w : Live σ τ) (t : Ticket) (milliseconds : Nat) : Live σ τ × Option Result :=
  awaitUpTo (some (w.session.now + milliseconds)) 3 w t

-- Lets an operation begin and waits for it.
def request (w : Live σ τ) (e : Event) : Live σ τ × Option Result :=
  match w.post e with
  | (w, .finished _ result) => (w, some result)
  | (w, .accepted t) | (w, .call t _) | (w, .write t ..) => w.await t
  | (w, .none) => (w, none)

def pollAll (w : Live σ τ) : List Ticket → Live σ τ × List (Ticket × Result)
  | [] => (w, [])
  | t :: ts =>
    let (w, result) := w.poll t
    let (w, results) := w.pollAll ts
    (w, (result.map (t, ·)).toList ++ results)

def minimum? : List Nat → Option Nat
  | [] => none
  | n :: ns => some (ns.foldl min n)

def awaitAllUpTo :
    Nat → Live σ τ → List Ticket → (shutdownAt : Option Nat) → Live σ τ × List (Ticket × Result)
  | 0, w, _, _ => (w, [])
  | steps + 1, w, ts, shutdownAt =>
    let (w, results) := w.pollAll ts
    let waiting := ts.filter fun t => results.all (·.1 ≠ t)
    let isDue := shutdownAt.any (· ≤ w.session.now)
    let w := if isDue then (w.post .shutdown).1 else w
    let shutdownAt := if isDue then none else shutdownAt
    match minimum? (waiting.filterMap w.dueOf? ++ shutdownAt.toList) with
    | none => (w, results)
    | some time =>
      let (w, more) := awaitAllUpTo steps (w.advanceTo time) waiting shutdownAt
      (w, results ++ more)

-- Waits for all of these operations together. Where a time is given, the session is shut down after
-- it; this is waited for as well.
def awaitAll (w : Live σ τ) (ts : List Ticket) (shutdownAfter : Option Nat) :
    Live σ τ × List (Ticket × Result) :=
  awaitAllUpTo (3 * ts.length + 2) w ts (shutdownAfter.map (w.session.now + ·))

end Live
end QueryConsole
