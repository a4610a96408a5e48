import QueryConsole.Console.Command

-- Grouping typed lines into inputs. A block ends with a line that ends in a semicolon or before a
-- blank line, but not while a quote is open. A command is recognised only between blocks, so a
-- slash inside a statement of several lines stays text.
namespace QueryConsole.Console

inductive Input
  | command (line : String)
  | block (text : String)
  deriving DecidableEq, Repr

-- The lines typed since the last input was complete, oldest first.
structure BlockBuffer where
  lines : List (List Char)
  deriving DecidableEq, Repr

-- The line without one carriage return at its end.
def dropReturn (line : List Char) : List Char :=
  if line.getLast? = some '\r' then line.dropLast else line

def endsWithSemicolon (line : List Char) : Bool :=
  (Text.trimEnd line).getLast? = some ';'

namespace BlockBuffer

def empty : BlockBuffer :=
  ⟨[]⟩

def isPending (b : BlockBuffer) : Bool :=
  !b.lines.isEmpty

def text (b : BlockBuffer) : List Char :=
  ['\n'].intercalate b.lines

def inQuote (b : BlockBuffer) : Bool :=
  Script.endsOpenQuote b.text

def append (b : BlockBuffer) (line : List Char) : BlockBuffer :=
  ⟨b.lines ++ [line]⟩

-- Everything typed so far as one block, if anything was.
def finish (b : BlockBuffer) : BlockBuffer × Option Input :=
  if b.isPending then (empty, some (.block (.ofList b.text))) else (b, none)

def pushLine (b : BlockBuffer) (line : List Char) : BlockBuffer × Option Input :=
  if !b.isPending && Text.isAllBlank line then (b, none)
  else if !b.isPending && Command.isCommandLine line then
    (b, some (.command (.ofList (Text.trim line))))
  else if Text.isAllBlank line then
    if b.inQuote then (b.append line, none) else b.finish
  else if endsWithSemicolon line && !(b.append line).inQuote then
    (b.append line).finish
  else
    (b.append line, none)

-- Takes one line, without its line feed.
def push (b : BlockBuffer) (line : List Char) : BlockBuffer × Option Input :=
  b.pushLine (dropReturn line)

variable (b : BlockBuffer)

@[simp]
theorem isPending_empty : empty.isPending = false :=
  rfl

@[simp]
theorem isPending_append (line : List Char) : (b.append line).isPending := by
  simp [isPending, append]

theorem isPending_finish : b.finish.1.isPending = false := by
  unfold finish
  split <;> simp_all

end BlockBuffer
end QueryConsole.Console
