import QueryConsole.Console.Block
import QueryConsole.Report.Basic
import QueryConsole.Session.Live

-- What the console does with an input: blocks are run, or only split where nothing is to be run,
-- and commands are carried out. An input is handled completely before the next one.
namespace QueryConsole.Console

structure Step where
  reports : List Report
  -- The input asks for the console to end.
  quit : Bool

namespace Step

def one (report : Report) : Step :=
  ⟨[report], false⟩

end Step

variable {σ τ : Type} [Backend σ] [KeyValueStore τ]

-- A request to the session, whose reply is reported by `f`; none if the backend broke down.
def ask (w : Live σ τ) (e : Event) (f : View → Reply → Report) : Live σ τ × Option Report :=
  match w.request e with
  | (w, some (.ok reply)) => (w, some (f w.session.view reply))
  | (w, some (.error e)) => (w, some (.error e.message))
  | (w, some .crash) => (w, none)
  | (w, none) => (w, none)

def runText (w : Live σ τ) (text : String) : Live σ τ × Option Report :=
  ask w (.submit text none) fun
    | view, .ran seq => .results (view.entriesOf seq)
    | _, _ => .results []

def noFavorite (name : String) : Report :=
  .error ("No favorite named '" ++ name ++ "'.")

-- Commands other than `/quit`.
def execute (w : Live σ τ) : Command → Live σ τ × Option Report
  | .favorites => (w, some (.favorites w.session.view.favorites))
  | .save name =>
    ask w (.addFavorite name w.session.view.lastText) fun _ _ =>
      .info ("Saved favorite '" ++ name ++ "'.")
  | .run name =>
    match w.session.view.favorites.get? name with
    | some statement => runText w statement
    | none => (w, some (noFavorite name))
  | .forget name =>
    ask w (.removeFavorite name) fun
      | _, .removed true => .info ("Removed favorite '" ++ name ++ "'.")
      | _, _ => noFavorite name
  | .params => ask w .fetchParams fun view _ => .params view.params
  | .history limit =>
    let history := w.session.view.history
    (w, some (.history (history.take (limit.getD history.length))))
  | .reset => ((w.post .reset).1, some (.info "Session reset."))
  | .help => (w, some (.info Command.helpText))
  | .quit => (w, none)

-- One input. None if the backend broke down.
def handle (splitOnly : Bool) (w : Live σ τ) : Input → Live σ τ × Option Step
  | .block text =>
    if splitOnly then (w, some (.one (.split (Script.split text))))
    else
      let (w, report) := runText w text
      (w, report.map .one)
  | .command line =>
    match Command.parse line with
    | .error e => (w, some (.one (.error e.message)))
    | .ok .quit => (w, some ⟨[], true⟩)
    | .ok command =>
      let (w, report) := execute w command
      (w, report.map .one)

end QueryConsole.Console
