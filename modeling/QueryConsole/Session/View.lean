import QueryConsole.Favorites
import QueryConsole.Session.Entry

-- What an observer sees of a session, and the settings a session is opened with.
namespace QueryConsole

structure SessionSettings where
  -- Milliseconds between the end of a run and the moment it no longer counts as busy.
  settleDelay : Nat
  defaultStatement : String
  favoritesKey : String
  deriving DecidableEq, Repr

namespace SessionSettings

def default : SessionSettings where
  settleDelay := 300
  defaultStatement := "SHOW SPACES;"
  favoritesKey := "favorites"

end SessionSettings

structure View where
  loading : Bool
  -- The text of the last run that succeeded, or the default statement.
  lastText : String
  -- Newest first.
  history : List Entry
  -- None until fetched.
  params : Option Params
  favorites : Favorites

namespace View

def initial (settings : SessionSettings) (favorites : Favorites) : View :=
  ⟨false, settings.defaultStatement, [], none, favorites⟩

def entriesOf (v : View) (seq : Nat) : List Entry :=
  v.history.filter (·.seq = seq)

def merge (v : View) (entries : List Entry) (lastText : String) : View :=
  { v with history := entries ++ v.history, lastText }

def reset (v : View) (settings : SessionSettings) : View :=
  { v with lastText := settings.defaultStatement, history := [], params := none }

end View
end QueryConsole
