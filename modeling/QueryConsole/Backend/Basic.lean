import QueryConsole.Error
import QueryConsole.Response

-- What executes statements. A backend takes a call on, says how long it will be, and answers it
-- after that time; its state changes at both moments. A rejected statement is an answer, not a
-- failed call.
namespace QueryConsole

-- Label of a batch, for usage tracking.
structure Tag where
  category : String
  action : String
  deriving DecidableEq, Repr

namespace Tag

-- The label of every run from the console.
def consoleRun : Tag :=
  ⟨"console", "run_gql"⟩

end Tag

inductive Call
  | batch (statements directives : List String) (tag : Tag)
  | single (statement : String) (directives : List String)
  deriving DecidableEq, Repr

inductive Answer (α : Type u)
  | ok (a : α)
  | error (e : ConsoleError)
  -- The backend broke down in the middle of the call.
  | crash

namespace Answer

def isOk : Answer α → Bool
  | ok _ => true
  | error _ | crash => false

def bind (x : Answer α) (f : α → Answer β) : Answer β :=
  match x with
  | ok a => f a
  | error e => error e
  | crash => crash

def map (f : α → β) (x : Answer α) : Answer β :=
  x.bind fun a => ok (f a)

@[simp]
theorem bind_ok (a : α) (f : α → Answer β) : (ok a).bind f = f a :=
  rfl

@[simp]
theorem isOk_map (f : α → β) (x : Answer α) : (x.map f).isOk = x.isOk := by
  cases x <;> rfl

@[simp]
theorem map_map (f : α → β) (g : β → γ) (x : Answer α) :
    (x.map f).map g = x.map fun a => g (f a) := by
  cases x <;> rfl

theorem exists_of_isOk {x : Answer α} (h : x.isOk = true) : ∃ a, x = ok a := by
  cases x with
  | ok a => exact ⟨a, rfl⟩
  | error | crash => cases h

end Answer

class Backend (σ : Type) where
  -- Takes a call on, or refuses it at once; with the milliseconds until the answer.
  receive : σ → Call → σ × Except ConsoleError Nat
  -- One response for each directive and each statement.
  batch : σ → (statements directives : List String) → σ × Answer (List Response)
  single : σ → (statement : String) → (directives : List String) → σ × Answer Response

end QueryConsole
