import QueryConsole.Proofs.Backend.Calls

namespace QueryConsole

inductive Exchange
  -- A call, whether it is taken on or refused.
  | sent (call : Call)
  | batch (answer : Answer (List Response))
  | single (answer : Answer Response)

namespace Exchange

def batch? : Exchange → Option Call
  | sent (.batch statements directives tag) => some (.batch statements directives tag)
  | sent (.single ..) | batch _ | single _ => none

-- The batches that were sent.
def batches (exchanges : List Exchange) : List Call :=
  exchanges.filterMap batch?

theorem batches_append (xs ys : List Exchange) : batches (xs ++ ys) = batches xs ++ batches ys :=
  List.filterMap_append

-- The backend broke down over a call.
def isCrash : Exchange → Bool
  | batch .crash | single .crash => true
  | sent _ | batch (.ok _) | batch (.error _) | single (.ok _) | single (.error _) => false

-- What is heard while a text is executed, if it comes to this answer.
structure Heard (split : Script.Split) (answer : Answer (List Response × Option Params))
    (exchanges : List Exchange) : Prop where
  batches : batches exchanges = [.batch split.statements split.directives .consoleRun]
  -- Only a breakdown over the parameters spoils a batch that was answered.
  answered : ∀ responses, .batch (.ok responses) ∈ exchanges → .single .crash ∉ exchanges →
    ∃ fetched, answer = .ok (responses, fetched)
  crash : answer = .crash → ∃ exchange ∈ exchanges, exchange.isCrash = true

variable (split : Script.Split) (responses : List Response)

-- The batch failed, or was refused, in which case nothing is said to it.
theorem Heard.of_failed {split : Script.Split} {answer : Answer (List Response)}
    {said : List Exchange} (hn : answer.isOk = false)
    (hs : said = [.batch answer] ∨ said = [] ∧ ∃ error, answer = .error error) :
    Heard split (answer.map (·, none))
      (.sent (.batch split.statements split.directives .consoleRun) :: said) where
  batches := by rcases hs with rfl | ⟨rfl, -⟩ <;> rfl
  answered responses hm _ := by
    rcases hs with rfl | ⟨rfl, -⟩
    · have hanswer : answer = .ok responses := by simpa [eq_comm] using hm
      simp [hanswer, Answer.isOk] at hn
    · simp at hm
  crash h := by
    cases answer with
    | ok | error => cases h
    | crash =>
      obtain rfl : said = [.batch .crash] := hs.resolve_right (by simp)
      exact ⟨.batch .crash, by simp, rfl⟩

theorem Heard.of_batch : Heard split (.ok (responses, none))
    [.sent (.batch split.statements split.directives .consoleRun), .batch (.ok responses)] where
  batches := rfl
  answered other hm _ := ⟨none, by simpa [eq_comm] using hm⟩
  crash := nofun

theorem Heard.of_refresh {answer : Answer Response} {said : List Exchange}
    (hs : said = [.single answer] ∨ said = [] ∧ ∃ error, answer = .error error) :
    Heard split (Backend.withParams responses answer)
      ([.sent (.batch split.statements split.directives .consoleRun), .batch (.ok responses)] ++
        .sent (.single "" [":params"]) :: said) where
  batches := by rcases hs with rfl | ⟨rfl, -⟩ <;> rfl
  answered other hm hn := by
    obtain rfl : other = responses := by
      rcases hs with rfl | ⟨rfl, -⟩ <;> simpa using hm
    cases answer with
    | ok | error => exact ⟨_, rfl⟩
    | crash =>
      obtain rfl : said = [.single .crash] := hs.resolve_right (by simp)
      simp at hn
  crash h := by
    cases answer with
    | ok | error => cases h
    | crash =>
      obtain rfl : said = [.single .crash] := hs.resolve_right (by simp)
      exact ⟨.single .crash, by simp, rfl⟩

end Exchange

-- It does what the backend inside does, and keeps a record of all that is said.
structure Recorder (σ : Type) where
  inner : σ
  -- Oldest first.
  exchanges : List Exchange

namespace Recorder

variable {σ : Type}

def note (r : Recorder σ) (inner : σ) (exchange : Exchange) : Recorder σ :=
  ⟨inner, r.exchanges ++ [exchange]⟩

instance [Backend σ] : Backend (Recorder σ) where
  receive r call :=
    let (inner, delay) := Backend.receive r.inner call
    (r.note inner (.sent call), delay)
  batch r statements directives :=
    let (inner, answer) := Backend.batch r.inner statements directives
    (r.note inner (.batch answer), answer)
  single r statement directives :=
    let (inner, answer) := Backend.single r.inner statement directives
    (r.note inner (.single answer), answer)

open Backend

variable [Backend σ]

-- A batch that is refused is not answered by the backend inside.
theorem exists_askBatch {r r' : Recorder σ} {answer : Answer (List Response)}
    (h : askBatch r statements directives tag = (r', answer)) :
    ∃ said, r'.exchanges = r.exchanges ++ .sent (.batch statements directives tag) :: said ∧
      (said = [.batch answer] ∨ said = [] ∧ ∃ error, answer = .error error) := by
  simp only [askBatch, receive] at h
  split at h
  all_goals
    rename_i hr
    obtain ⟨rfl, -⟩ := Prod.mk.inj hr
    obtain ⟨rfl, rfl⟩ := Prod.mk.inj h
  · exact ⟨[.batch _], by simp [note], .inl rfl⟩
  · exact ⟨[], rfl, .inr ⟨rfl, _, rfl⟩⟩

theorem exists_askSingle {r r' : Recorder σ} {answer : Answer Response}
    (h : askSingle r statement directives = (r', answer)) :
    ∃ said, r'.exchanges = r.exchanges ++ .sent (.single statement directives) :: said ∧
      (said = [.single answer] ∨ said = [] ∧ ∃ error, answer = .error error) := by
  simp only [askSingle, receive] at h
  split at h
  all_goals
    rename_i hr
    obtain ⟨rfl, -⟩ := Prod.mk.inj hr
    obtain ⟨rfl, rfl⟩ := Prod.mk.inj h
  · exact ⟨[.single _], by simp [note], .inl rfl⟩
  · exact ⟨[], rfl, .inr ⟨rfl, _, rfl⟩⟩

theorem exists_execute (r : Recorder σ) (split : Script.Split) :
    ∃ new, (execute r split).1.exchanges = r.exchanges ++ new ∧
      Exchange.Heard split (execute r split).2 new := by
  cases hb : askBatch r split.statements split.directives .consoleRun with
  | mk r₁ batch =>
    have ⟨said, hx, hsaid⟩ := exists_askBatch hb
    cases hok : batch.isOk with
    | false =>
      rw [execute_of_not_isOk hok hb]
      exact ⟨_, hx, .of_failed hok hsaid⟩
    | true =>
      obtain ⟨responses, rfl⟩ := Answer.exists_of_isOk hok
      obtain rfl : said = [.batch (.ok responses)] :=
        hsaid.resolve_right (by simp)
      cases hr : split.requiresRefresh with
      | false =>
        rw [execute_of_not_refresh hr hb]
        exact ⟨_, hx, .of_batch split responses⟩
      | true =>
        cases hs : askSingle r₁ "" [":params"] with
        | mk r₂ single =>
          have ⟨more, hx', hmore⟩ := exists_askSingle hs
          rw [execute_of_refresh hr hb hs]
          exact ⟨_, by rw [hx', hx, List.append_assoc], .of_refresh split responses hmore⟩

end Recorder
end QueryConsole
