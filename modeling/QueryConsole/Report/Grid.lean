import QueryConsole.Text.Blank

-- Tables of text. A column is as wide as its widest cell; rows may be longer or shorter than the
-- header. Blanks at the ends of lines are dropped.
namespace QueryConsole.Report

structure Grid where
  headers : List String
  rows : List (List String)

namespace Grid

-- Widths of the columns once `row` has its place. Cells beyond the last column count for nothing.
def widen : List Nat → List String → List Nat
  | [], _ => []
  | widths, [] => widths
  | width :: widths, cell :: row => max width cell.length :: widen widths row

def widths (g : Grid) : List Nat :=
  g.rows.foldl widen (g.headers.map String.length)

def pad (width : Nat) (cell : String) : List Char :=
  cell.toList ++ .replicate (width - cell.length) ' '

-- The cells of one line, each padded to its column; cells beyond the last column stay as they are.
def cells : List Nat → List String → List (List Char)
  | _, [] => []
  | [], cell :: row => cell.toList :: cells [] row
  | width :: widths, cell :: row => pad width cell :: cells widths row

def bar : List Char :=
  [' ', '│', ' ']

def crossing : List Char :=
  ['─', '┼', '─']

def line (widths : List Nat) (row : List String) : List Char :=
  bar.intercalate (cells widths row)

def rule (widths : List Nat) : List Char :=
  crossing.intercalate (widths.map (.replicate · '─'))

def lines : List Char → List (List Char)
  | [] => [[]]
  | c :: rest =>
    if c = '\n' then [] :: lines rest
    else
      match lines rest with
      | [] => [[c]]
      | line :: lines => (c :: line) :: lines

-- Header, rule and rows. Without headers there is no table.
def render (g : Grid) : String :=
  if g.headers.isEmpty then ""
  else
    let all := line g.widths g.headers :: rule g.widths :: g.rows.map (line g.widths)
    .ofList (['\n'].intercalate ((all.flatMap lines).map Text.trimEnd))

@[simp]
theorem length_widen (ws : List Nat) (row : List String) : (widen ws row).length = ws.length := by
  induction ws generalizing row with
  | nil => rfl
  | cons w ws ih =>
    cases row with
    | nil => rfl
    | cons cell row => simp [widen, ih]

theorem length_widths (g : Grid) : g.widths.length = g.headers.length := by
  have (rows : List (List String)) (ws : List Nat) :
      (rows.foldl widen ws).length = ws.length := by
    induction rows generalizing ws with
    | nil => rfl
    | cons row rows ih => simp [ih]
  simp [widths, this]

end Grid
end QueryConsole.Report
