-- Faults in TOML text: where they are, what was being read, and the report that shows the line. A
-- place in the text is known by how much of the text is left there.
namespace QueryConsole.Toml

-- What lies between two places.
structure Span where
  start : Nat
  stop : Nat
  deriving DecidableEq, Repr

def Span.between (front rest : List Char) : Span :=
  ⟨front.length, rest.length⟩

structure Fault where
  span : Span
  -- Nothing else can be read in its place.
  final : Bool
  reading : Option String
  wanted : List String
  detail : Option String
  deriving DecidableEq, Repr

namespace Fault

-- The next character is the fault.
def next (cs : List Char) : Fault :=
  ⟨⟨cs.length, cs.length - 1⟩, false, none, [], none⟩

def message (f : Fault) : String :=
  let reading := f.reading.map ("invalid " ++ ·)
  let wanted := if f.wanted.isEmpty then none else some ("expected " ++ ", ".intercalate f.wanted)
  "\n".intercalate ([reading, wanted, f.detail].filterMap id)

end Fault

-- Takes the front of a text and returns the rest.
abbrev Reader (α : Type) := List Char → Except Fault (α × List Char)

-- What is read when it fails; the innermost name counts.
def reading (what : String) (result : Except Fault α) : Except Fault α :=
  result.mapError fun f => { f with reading := f.reading <|> some what }

def wanting (words : List String) (result : Except Fault α) : Except Fault α :=
  result.mapError fun f => { f with wanted := f.wanted ++ words }

def decided (result : Except Fault α) : Except Fault α :=
  result.mapError fun f => { f with final := true }

def refuse (cs : List Char) (detail : String) : Except Fault α :=
  .error { Fault.next cs with detail := some detail }

-- The first reading, or the second if the first is not meant.
def orElse (first : Except Fault α) (second : Unit → Except Fault α) : Except Fault α :=
  match first with
  | .ok a => .ok a
  | .error f => if f.final then .error f else second ()

-- A reading that may be missing.
def ifMeant (result : Except Fault α) : Except Fault (Option α) :=
  match result with
  | .ok a => .ok (some a)
  | .error f => if f.final then .error f else .ok none

namespace Fault

def byteLength (cs : List Char) : Nat :=
  cs.foldr (fun c n => c.utf8Size + n) 0

-- The characters before a place that are on its line, and the number of the line. The end of the
-- text is just behind its last character.
def lineAndColumn (cs : List Char) (offset : Nat) : Nat × Nat :=
  let index := min offset (cs.length - 1)
  let before := cs.take index
  let line := before.reverse.takeWhile (· ≠ '\n')
  let isWide := (cs[offset]?).any fun c => 1 < c.utf8Size
  let column := if isWide then byteLength line else line.length
  (before.count '\n', column + (offset - index))

def report (text : String) (f : Fault) : String :=
  let cs := text.toList
  let offset := cs.length - f.span.start
  let marked := (cs.drop offset).take (f.span.start - f.span.stop)
  let (line, column) := lineAndColumn cs offset
  let number := toString (line + 1)
  let content := ((text.splitOn "\n")[line]?).getD ""
  let marks := max 1 (min (byteLength marked) (content.utf8ByteSize - column))
  let margin := String.ofList (.replicate (number.length + 1) ' ') ++ "|"
  "\n".intercalate [
    "TOML parse error at line " ++ number ++ ", column " ++ toString (column + 1),
    margin,
    number ++ " | " ++ content,
    margin ++ .ofList (.replicate (column + 1) ' ' ++ .replicate marks '^'),
    f.message,
    ""]

end Fault
end QueryConsole.Toml
