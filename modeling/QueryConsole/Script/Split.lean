import QueryConsole.Script.Cut
import QueryConsole.Text.Blank
import QueryConsole.Text.Search

-- Splitting a script into what is sent to a backend. A unit ends at an unquoted semicolon at the
-- end of a line. A unit that starts with a colon is a directive; any other is a statement, in which
-- a semicolon, a backslash and a line break stand for a semicolon alone.
namespace QueryConsole.Script

-- A line feed comes next, or a carriage return with a line feed.
def startsWithBreak : List Char → Bool
  | '\n' :: _ => true
  | '\r' :: '\n' :: _ => true
  | _ => false

-- The text between the terminators, in order. A line break after a terminator stays in front of the
-- next segment.
def segments (raw : List Char) : List (List Char) :=
  cutWhere startsWithBreak raw

-- Drops the backslash and the line break after each unquoted semicolon that has both.
def joinContinuationsFrom : Quoting → List Char → List Char
  | _, [] => []
  | .outside, ';' :: '\\' :: '\n' :: rest => ';' :: joinContinuationsFrom .outside rest
  | .outside, ';' :: '\\' :: '\r' :: '\n' :: rest => ';' :: joinContinuationsFrom .outside rest
  | st, c :: rest => c :: joinContinuationsFrom (st.next c) rest

def joinContinuations (segment : List Char) : List Char :=
  joinContinuationsFrom .outside segment

-- A script as a backend receives it: directives first, then statements, each in the order in which
-- they were written.
structure Split where
  directives : List String
  statements : List String
  deriving DecidableEq, Repr

-- A directive that only reads parameters: `:params`, in any letter case.
def isInspection (directive : String) : Bool :=
  Text.startsWithFolded [':', 'p', 'a', 'r', 'a', 'm', 's'] (Text.trimStart directive.toList)

namespace Split

def isEmpty (s : Split) : Bool :=
  s.directives.isEmpty && s.statements.isEmpty

def requiresRefresh (s : Split) : Bool :=
  s.directives.any (!isInspection ·)

end Split

def isDirective : List Char → Bool
  | ':' :: _ => true
  | _ => false

-- The segments that hold something, without the blanks around them.
def units (raw : List Char) : List (List Char) :=
  ((segments raw).map Text.trim).filter (!·.isEmpty)

-- Never fails: a quote that stays open takes the rest of the script into its unit.
def splitChars (raw : List Char) : Split where
  directives := ((units raw).filter isDirective).map .ofList
  statements :=
    (((units raw).filter (!isDirective ·)).map joinContinuations).filter (!·.isEmpty) |>.map .ofList

def split (raw : String) : Split :=
  splitChars raw.toList

-- The parts of a statement between its unquoted semicolons, without those that are blank.
def clauses (statement : String) : List String :=
  ((cutWhere (fun _ => true) statement.toList).map Text.trim).filter (!·.isEmpty) |>.map .ofList

end QueryConsole.Script
