import QueryConsole.Console.Run
import QueryConsole.Proofs.Backend.Recorder
import QueryConsole.Proofs.Session.Jobs

-- Only the record tells a recorder from the backend inside: what is done over the one is done over
-- the other.
namespace QueryConsole

namespace Live

variable {σ τ : Type}

def unrecorded (w : Live (Recorder σ) τ) : Live σ τ :=
  ⟨w.session, w.backend.inner, w.store, w.jobs⟩

variable [Backend σ] (w : Live (Recorder σ) τ) (t : Ticket) (e : Event)

theorem note_unrecorded (effect : Effect) :
    w.unrecorded.note effect = (w.note effect).unrecorded := by
  cases effect with
  | call t call =>
    cases hr : Backend.receive w.backend.inner call with
    | mk inner result =>
      cases result <;> simp [note, unrecorded, addJob, Backend.receive, Recorder.note, hr]
  | write | none | accepted | finished => rfl

theorem post_unrecorded : w.unrecorded.post e = (w.post e).map unrecorded id := by
  rw [post_eq, post_eq, Prod.map, ← note_unrecorded]
  rfl

theorem advanceTo_unrecorded (time : Nat) :
    w.unrecorded.advanceTo time = (w.advanceTo time).unrecorded :=
  congrArg Prod.fst (w.post_unrecorded (.advance (time - w.session.now)))

variable [KeyValueStore τ]

theorem perform_unrecorded (task : Task) :
    w.unrecorded.perform t task = (w.perform t task).map unrecorded id := by
  cases task with
  | call call refusal => cases call <;> cases refusal <;> rfl
  | write key text => rfl

theorem deliver_unrecorded (job : Job) :
    w.unrecorded.deliver job = (w.deliver job).map unrecorded id := by
  rw [deliver_eq, deliver_eq, perform_unrecorded]
  exact post_unrecorded { (w.perform job.ticket job.task).1 with
    jobs := w.jobs.filter (·.ticket ≠ job.ticket) } _

theorem take_unrecorded (m : Move) : w.unrecorded.take m = (w.take m).map unrecorded id := by
  cases m with
  | event e => exact w.post_unrecorded e
  | deliver t =>
    have hjob : w.unrecorded.job? t = w.job? t := rfl
    rw [take, take, hjob]
    cases w.job? t with
    | none => rfl
    | some job => exact w.deliver_unrecorded job

theorem proceed_unrecorded : w.unrecorded.proceed t = (w.proceed t).map unrecorded id := by
  have hjob : w.unrecorded.job? t = w.job? t := rfl
  have hsession : w.unrecorded.session = w.session := rfl
  rw [proceed, proceed, hjob, hsession]
  split
  case h_1 => exact w.post_unrecorded (.start t)
  case h_2 =>
    cases w.job? t with
    | none => rfl
    | some job =>
      dsimp only
      split
      case isTrue => exact w.deliver_unrecorded job
      case isFalse => rfl

theorem pollUpTo_unrecorded (steps : Nat) :
    w.unrecorded.pollUpTo steps t = (w.pollUpTo steps t).map unrecorded id := by
  induction steps generalizing w with
  | zero => rfl
  | succ steps ih =>
    rw [pollUpTo, pollUpTo, proceed_unrecorded]
    cases w.proceed t with
    | mk w effect =>
      cases effect with
      | finished | none => rfl
      | call | write | accepted => exact ih w

theorem awaitUpTo_unrecorded (steps : Nat) :
    w.unrecorded.awaitUpTo none steps t = (w.awaitUpTo none steps t).map unrecorded id := by
  induction steps generalizing w with
  | zero => rfl
  | succ steps ih =>
    have hpoll : w.unrecorded.poll t = (w.poll t).map unrecorded id := w.pollUpTo_unrecorded t 3
    rw [awaitUpTo, awaitUpTo, hpoll]
    cases w.poll t with
    | mk w result =>
      cases result with
      | some => rfl
      | none =>
        have hdue : w.unrecorded.dueOf? t = w.dueOf? t := rfl
        simp only [Prod.map_apply, id_eq, hdue]
        cases w.dueOf? t with
        | none => rfl
        | some due =>
          dsimp only
          rw [advanceTo_unrecorded]
          exact ih (w.advanceTo due)

theorem request_unrecorded : w.unrecorded.request e = (w.request e).map unrecorded id := by
  rw [request, request, post_unrecorded]
  cases w.post e with
  | mk w effect =>
    cases effect with
    | finished | none => rfl
    | call | write | accepted => exact w.awaitUpTo_unrecorded _ 3

theorem after_unrecorded (ms : List Move) : (w.after ms).unrecorded = w.unrecorded.after ms := by
  induction ms generalizing w with
  | nil => rfl
  | cons m ms ih =>
    have htake : (w.take m).1.unrecorded = (w.unrecorded.take m).1 :=
      (congrArg Prod.fst (w.take_unrecorded m)).symm
    exact (ih _).trans (congrArg (Live.after · ms) htake)

-- No state is left out.
theorem exists_recorded {v : Live σ τ} (h : v.Reachable) :
    ∃ w : Live (Recorder σ) τ, w.Reachable ∧ w.unrecorded = v := by
  obtain ⟨settings, favorites, nextId, now, backend, store, ms, rfl⟩ := h
  exact ⟨_, ⟨settings, favorites, nextId, now, ⟨backend, []⟩, store, ms, rfl⟩, after_unrecorded ..⟩

end Live

namespace Console

open Live

variable {σ τ : Type} [Backend σ] [KeyValueStore τ] (w : Live (Recorder σ) τ)

theorem ask_unrecorded (e : Event) (f : View → Reply → Report) :
    ask w.unrecorded e f = (ask w e f).map unrecorded id := by
  rw [ask, ask, request_unrecorded]
  cases w.request e with
  | mk w result =>
    cases result with
    | none => rfl
    | some result => cases result <;> rfl

theorem execute_unrecorded (command : Command) :
    execute w.unrecorded command = (execute w command).map unrecorded id := by
  cases command with
  | favorites | history | help | quit => rfl
  | save | forget | params =>
    rw [execute, execute]
    exact ask_unrecorded ..
  | reset =>
    rw [execute, execute, post_unrecorded]
    rfl
  | run name =>
    have hsession : w.unrecorded.session = w.session := rfl
    rw [execute, execute, hsession]
    cases w.session.view.favorites.get? name with
    | none => rfl
    | some text => exact ask_unrecorded ..

theorem handle_unrecorded (splitOnly : Bool) (input : Input) :
    handle splitOnly w.unrecorded input = (handle splitOnly w input).map unrecorded id := by
  cases input with
  | block text =>
    rw [handle, handle]
    cases splitOnly with
    | true => rfl
    | false =>
      have hrun : runText w.unrecorded text = (runText w text).map unrecorded id :=
        ask_unrecorded ..
      rw [hrun]
      rfl
  | command line =>
    rw [handle, handle]
    split
    case h_1 | h_2 => rfl
    case h_3 =>
      rw [execute_unrecorded]
      rfl

theorem respond_unrecorded (o : Options) (next : Option Input) :
    respond o w.unrecorded next = (respond o w next).map unrecorded id := by
  cases next with
  | none => rfl
  | some input =>
    rw [respond, respond, handle_unrecorded]
    cases handle o.splitOnly w input with
    | mk w step => cases step <;> rfl

theorem runFrom_unrecorded (o : Options) (b : BlockBuffer) (lines : List (Option (List Char))) :
    runFrom o w.unrecorded b lines = (runFrom o w b lines).map unrecorded id := by
  induction lines generalizing w b with
  | nil =>
    rw [runFrom, runFrom, respond_unrecorded]
    rfl
  | cons line lines ih =>
    cases line with
    | none => rfl
    | some line =>
      rw [runFrom, runFrom]
      dsimp only
      rw [respond_unrecorded]
      cases respond o w (b.push line).2 with
      | mk w answer =>
        obtain ⟨written, outcome⟩ := answer
        cases outcome with
        | quits | crashes => rfl
        | goesOn =>
          dsimp only [Prod.map_apply, id_eq]
          rw [ih]
          rfl

theorem run_unrecorded (o : Options) (bytes : ByteArray) :
    run o w.unrecorded bytes = (run o w bytes).map unrecorded id :=
  runFrom_unrecorded w o .empty (linesOf bytes)

end Console
end QueryConsole
