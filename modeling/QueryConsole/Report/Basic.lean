import QueryConsole.Favorites
import QueryConsole.Script.Split
import QueryConsole.Session.Entry
import QueryConsole.Text.LowerCase

-- What the console has to show, apart from how it is written.
namespace QueryConsole

inductive Report
  -- The entries of one run, in the order in which they were dispatched.
  | results (entries : List Entry)
  -- How a block would be sent, for a block that is not.
  | split (split : Script.Split)
  | favorites (favorites : Favorites)
  -- None until parameters were fetched.
  | params (params : Option Params)
  -- Past entries, newest first.
  | history (entries : List Entry)
  | info (text : String)
  | error (text : String)

namespace Report

def isError : Report → Bool
  | error _ => true
  | _ => false

inductive Format
  | text
  | json
  deriving DecidableEq, Repr

namespace Format

def name : Format → String
  | text => "text"
  | json => "json"

-- The format of this name, in any letter case.
def ofName (name : String) : Except String Format :=
  let lowered := Text.lowerCase name
  if lowered = "text" then .ok text
  else if lowered = "json" then .ok json
  else .error ("Invalid output format: " ++ name ++ ". Expected: text or json")

end Format
end Report
end QueryConsole
