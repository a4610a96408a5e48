import QueryConsole.Proofs.Store.Location

namespace QueryConsole

-- What is done with a store.
inductive Use
  | get (key : String)
  | set (key text : String)
  -- Closed, which writes nothing more, and opened at the same path.
  | reopen

inductive Use.Outcome
  | got (result : Except ConsoleError (Option String))
  | written (result : Except ConsoleError Unit)

namespace Use

def write? : Use → Option (String × String)
  | set key text => some (key, text)
  | get _ | reopen => none

def writes (uses : List Use) : List (String × String) :=
  uses.filterMap write?

end Use

section

variable {τ : Type} [KeyValueStore τ]

end

namespace StateDb

section

variable {fs fs' : Files} {path name : String} {store : StateDb} {texts : Table String}
  {e : ConsoleError}

end

def emptyHome : Files :=
  ⟨.ofList [("/home", .directory)], "/home"⟩

def stateHome : Files :=
  emptyHome.put "/home/state" .directory

end StateDb
end QueryConsole
