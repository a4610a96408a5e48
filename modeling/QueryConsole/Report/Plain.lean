import QueryConsole.Report.Basic
import QueryConsole.Report.Grid

-- Reports as text for a reader.
namespace QueryConsole.Report

def padRight (width : Nat) (text : String) : String :=
  .ofList (Grid.pad width text)

def plainEntry (e : Entry) : String :=
  "> " ++ e.text ++ "\n" ++
    if e.response.isSuccess then
      match e.response.data with
      | none => "OK"
      | some data =>
        let cost := toString data.timeCost.toNat ++ "us"
        if data.headers.isEmpty then "OK in " ++ cost
        else
          let grid : Grid := ⟨data.headers, data.rows.map (·.map Value.display)⟩
          grid.render ++ "\n" ++ toString data.rows.length ++ " row(s) in " ++ cost
    else
      "Error (" ++ toString e.response.code.toInt ++ "): " ++
        e.response.message.getD "unknown error"

def plainPast (e : Entry) : String :=
  let status := if e.response.isSuccess then "ok" else "error"
  "#" ++ padRight 4 (toString e.seq) ++ " " ++ padRight 5 status ++ " " ++ e.text

def plain : Report → String
  | results entries => "\n\n".intercalate (entries.map plainEntry)
  | split s =>
    if s.isEmpty then "(nothing to run)"
    else
      "\n".intercalate
        (s.directives.map ("directive: " ++ ·) ++ s.statements.map ("statement: " ++ ·))
  | favorites saved =>
    if saved.isEmpty then "No favorites saved."
    else (Grid.mk ["Name", "Statement"] (saved.entries.map fun (n, s) => [n, s])).render
  | params none => "Parameters not fetched yet."
  | params (some table) =>
    if table.isEmpty then "No session parameters."
    else (Grid.mk ["Name", "Value"] (table.entries.map fun (n, v) => [n, v.display])).render
  | history entries =>
    if entries.isEmpty then "History is empty."
    else "\n".intercalate (entries.map plainPast)
  | info text => text
  | error text => "Error: " ++ text

end QueryConsole.Report
