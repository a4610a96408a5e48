import QueryConsole.Backend.Basic
import QueryConsole.Script.Split

namespace QueryConsole.Backend

variable {σ : Type} [Backend σ]

-- A batch is sent, and answered unless it is refused.
def askBatch (b : σ) (statements directives : List String) (tag : Tag) :
    σ × Answer (List Response) :=
  match receive b (.batch statements directives tag) with
  | (b, .ok _) => batch b statements directives
  | (b, .error e) => (b, .error e)

def askSingle (b : σ) (statement : String) (directives : List String) : σ × Answer Response :=
  match receive b (.single statement directives) with
  | (b, .ok _) => single b statement directives
  | (b, .error e) => (b, .error e)

-- The answers to a batch with what an inspection shows. That it fails does not matter.
def withParams (responses : List Response) :
    Answer Response → Answer (List Response × Option Params)
  | .ok response => .ok (responses, some (response.localParams.getD .empty))
  | .error _ => .ok (responses, none)
  | .crash => .crash

-- All that a run asks of a backend, one call after the other: its batch is answered, and the
-- parameters are fetched if it may have changed them.
def execute (b : σ) (split : Script.Split) : σ × Answer (List Response × Option Params) :=
  match askBatch b split.statements split.directives .consoleRun with
  | (b, .ok responses) =>
    if split.requiresRefresh then
      let (b, answer) := askSingle b "" [":params"]
      (b, withParams responses answer)
    else
      (b, .ok (responses, none))
  | (b, .error e) => (b, .error e)
  | (b, .crash) => (b, .crash)

variable {b b₁ b₂ : σ} {split : Script.Split} {responses : List Response}

theorem execute_of_not_isOk {answer : Answer (List Response)} (h : answer.isOk = false)
    (hb : askBatch b split.statements split.directives .consoleRun = (b₁, answer)) :
    execute b split = (b₁, answer.map (·, none)) := by
  cases answer with
  | ok => cases h
  | error | crash =>
    rw [execute, hb]
    rfl

theorem execute_of_not_refresh (h : split.requiresRefresh = false)
    (hb : askBatch b split.statements split.directives .consoleRun = (b₁, .ok responses)) :
    execute b split = (b₁, .ok (responses, none)) := by
  simp [execute, hb, h]

theorem execute_of_refresh (h : split.requiresRefresh = true)
    (hb : askBatch b split.statements split.directives .consoleRun = (b₁, .ok responses))
    (hs : askSingle b₁ "" [":params"] = (b₂, answer)) :
    execute b split = (b₂, withParams responses answer) := by
  simp [execute, hb, h, hs]

end QueryConsole.Backend
