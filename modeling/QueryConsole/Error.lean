-- What can go wrong in a session, by the part that failed. `message` is the text shown to a reader.
namespace QueryConsole

inductive ErrorKind
  | backend
  | persistence
  | config
  | internal
  deriving DecidableEq, Repr

structure ConsoleError where
  kind : ErrorKind
  detail : String
  deriving DecidableEq, Repr

namespace ErrorKind

def name : ErrorKind → String
  | backend => "Backend"
  | persistence => "Persistence"
  | config => "Config"
  | internal => "Internal"

def title : ErrorKind → String
  | config => "Configuration"
  | kind => kind.name

end ErrorKind

namespace ConsoleError

def message (e : ConsoleError) : String :=
  e.kind.title ++ " error: " ++ e.detail

def category (e : ConsoleError) : String :=
  e.kind.title ++ " Error"

def shutDown : ConsoleError :=
  ⟨.internal, "Session has been shut down"⟩

end ConsoleError
end QueryConsole
