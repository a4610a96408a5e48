import QueryConsole.Report.Plain

-- Reports as JSON documents, one line each. Fields are in name order at every level.
namespace QueryConsole

namespace Json

mutual

-- The document with the fields of each object in name order.
def sorted : Json → Json
  | array items => array (sortedItems items)
  | object fields => object (sortedFields fields)
  | j => j

def sortedItems : List Json → List Json
  | [] => []
  | item :: items => item.sorted :: sortedItems items

def sortedFields : List (String × Json) → List (String × Json)
  | [] => []
  | (name, value) :: fields => Entries.insert name value.sorted (sortedFields fields)

end

end Json

namespace Report

open Json in
def document : Report → Json
  | results entries => object [("results", array (entries.map Entry.toJson))]
  | split s =>
    object [("split",
      object [("param_directives", strings s.directives), ("statements", strings s.statements)])]
  | favorites saved => object [("favorites", saved.toJson)]
  | params table => object [("params", ofOption Value.paramsToJson table)]
  | history entries => object [("history", array (entries.map Entry.toJson))]
  | info text => object [("info", string text)]
  | error text => object [("error", string text)]

-- The report in the given format, without a line break at its end.
def render : Format → Report → String
  | .text, r => r.plain
  | .json, r => r.document.sorted.text

end Report
end QueryConsole
