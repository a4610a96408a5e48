import QueryConsole.Console.Handle
import QueryConsole.Console.Lines
import QueryConsole.Report.Document

-- Running a text through the console, line by line: lines are grouped into inputs, each input is
-- handled and its reports are written, errors apart from the rest.
namespace QueryConsole.Console

structure Written where
  out : String
  err : String

namespace Written

def empty : Written :=
  ⟨"", ""⟩

def append (a b : Written) : Written :=
  ⟨a.out ++ b.out, a.err ++ b.err⟩

instance : Append Written :=
  ⟨append⟩

end Written

inductive Ending
  -- The text is at its end, or a command asked to end.
  | finished
  | invalidText
  | crashed
  deriving DecidableEq, Repr

structure Options where
  format : Report.Format
  splitOnly : Bool
  -- A prompt is written before each line is read.
  prompt : Bool

def promptText (b : BlockBuffer) : String :=
  if b.isPending then "       -> " else "gconsole> "

def Options.prompted (o : Options) (b : BlockBuffer) : Written :=
  ⟨if o.prompt then promptText b else "", ""⟩

-- Each report takes lines of its own.
def write (format : Report.Format) : List Report → Written
  | [] => .empty
  | report :: reports =>
    let text := report.render format ++ "\n"
    (if report.isError then ⟨"", text⟩ else ⟨text, ""⟩) ++ write format reports

variable {σ τ : Type} [Backend σ] [KeyValueStore τ]

inductive Outcome
  | goesOn
  | quits
  | crashes
  deriving DecidableEq, Repr

def respond (o : Options) (w : Live σ τ) : Option Input → Live σ τ × Written × Outcome
  | none => (w, .empty, .goesOn)
  | some input =>
    match handle o.splitOnly w input with
    | (w, none) => (w, .empty, .crashes)
    | (w, some step) => (w, write o.format step.reports, if step.quit then .quits else .goesOn)

def runFrom (o : Options) (w : Live σ τ) (b : BlockBuffer) :
    List (Option (List Char)) → Live σ τ × Written × Ending
  | [] =>
    let (w, written, outcome) := respond o w b.finish.2
    (w, o.prompted b ++ written, if outcome = .crashes then .crashed else .finished)
  | none :: _ => (w, o.prompted b, .invalidText)
  | some line :: lines =>
    let (next, input) := b.push line
    match respond o w input with
    | (w, written, .crashes) => (w, o.prompted b ++ written, .crashed)
    | (w, written, .quits) => (w, o.prompted b ++ written, .finished)
    | (w, written, .goesOn) =>
      let (w, more, ending) := runFrom o w next lines
      (w, o.prompted b ++ written ++ more, ending)

def run (o : Options) (w : Live σ τ) (bytes : ByteArray) : Live σ τ × Written × Ending :=
  runFrom o w .empty (linesOf bytes)

end QueryConsole.Console
