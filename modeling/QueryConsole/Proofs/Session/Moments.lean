import QueryConsole.Proofs.Session.Ownership
import QueryConsole.Session.Live

-- A move is an event from outside or the delivery of a job, in any order and at any time, whether
-- or not the job is due.
namespace QueryConsole

inductive Move
  | event (e : Event)
  -- The job of an operation is done, if it has one, and the answer handed to the session.
  | deliver (t : Ticket)

-- What a session says to have the job done.
def Job.request (job : Job) : Effect :=
  match job.task with
  | .call call _ => .call job.ticket call
  | .write key text => .write job.ticket key text

namespace Live

variable {σ τ : Type}

structure Sound (w : Live σ τ) : Prop where
  wellFormed : w.session.WellFormed
  -- What is still to be written is what an operation waits for.
  writes : ∀ job ∈ w.jobs, ∀ key text, job.task = .write key text →
    ∃ favorites reply, w.session.stage? job.ticket = some (.saving favorites reply)

theorem Sound.of_eq {w w' : Live σ τ} (h : w.Sound) (hs : w'.session = w.session)
    (hj : ∀ job ∈ w'.jobs, job ∈ w.jobs) : w'.Sound where
  wellFormed := hs ▸ h.wellFormed
  writes job hm := hs ▸ h.writes job (hj job hm)

theorem sound_initial (settings : SessionSettings) (favorites : Favorites) (nextId now : Nat)
    (backend : σ) (store : τ) :
    Sound ⟨.initial settings favorites nextId now, backend, store, []⟩ where
  wellFormed := Session.wellFormed_initial settings favorites nextId now
  writes := nofun

variable [Backend σ]

section

variable (w : Live σ τ) (e : Event) (effect : Effect)

@[simp]
theorem note_session : (w.note effect).session = w.session := by
  unfold note
  split <;> (try split) <;> rfl

@[simp]
theorem note_store : (w.note effect).store = w.store := by
  unfold note
  split <;> (try split) <;> rfl

-- A job is new only if it was asked for.
theorem mem_note {job : Job} (hm : job ∈ (w.note effect).jobs) :
    job ∈ w.jobs ∨ effect = job.request := by
  cases effect with
  | call t call =>
    simp only [note] at hm
    split at hm
    all_goals
      cases List.mem_append.1 hm
      case inl hm => exact .inl hm
      case inr hm => exact .inr (List.mem_singleton.1 hm ▸ rfl)
  | write t key text =>
    cases List.mem_append.1 hm
    case inl hm => exact .inl hm
    case inr hm => exact .inr (List.mem_singleton.1 hm ▸ rfl)
  | none => exact .inl hm
  | accepted t => exact .inl hm
  | finished t result => exact .inl hm

-- Of the new jobs, only those that a session asks for write to the store.
theorem write_of_mem_note {job : Job} {key text : String} (hm : job ∈ (w.note effect).jobs)
    (ht : job.task = .write key text) : job ∈ w.jobs ∨ effect = .write job.ticket key text :=
  (mem_note w effect hm).imp_right fun he => by rw [he, Job.request, ht]

theorem post_eq : w.post e =
    ({ w with
      session := (w.session.step e).1
      jobs := w.jobs.filter fun job => ((w.session.step e).1.stage? job.ticket).isSome }.note
        (w.session.step e).2, (w.session.step e).2) :=
  rfl

theorem post_session : (w.post e).1.session = (w.session.step e).1 := by
  simp [post]

theorem post_store : (w.post e).1.store = w.store := by
  simp [post]

theorem post_effect : (w.post e).2 = (w.session.step e).2 :=
  rfl

end

theorem Sound.post {w : Live σ τ} (h : w.Sound) (e : Event) : (w.post e).1.Sound where
  wellFormed := w.post_session e ▸ h.wellFormed.step e
  writes job hm key text ht := by
    rw [post_session]
    rw [post_eq] at hm
    cases write_of_mem_note _ _ hm ht
    case inl hm =>
      have ⟨hm, hsome⟩ := List.mem_filter.1 hm
      have ⟨favorites, reply, hs⟩ := h.writes job hm key text ht
      cases Session.stage?_step_of_isLast h.wellFormed hs rfl e
      case inl hn => simp [hn] at hsome
      case inr hs => exact ⟨favorites, reply, hs⟩
    case inr he => exact Session.stage?_step_of_write h.wellFormed he

variable [KeyValueStore τ]

section

variable (w : Live σ τ) (t : Ticket) (task : Task)

theorem perform_session : (w.perform t task).1.session = w.session := by
  unfold perform
  split <;> (try split) <;> rfl

-- What a task does has nothing to do with the other jobs.
theorem perform_with_jobs (jobs : List Job) : { w with jobs }.perform t task =
    ({ (w.perform t task).1 with jobs }, (w.perform t task).2) := by
  cases task with
  | write key text => rfl
  | call call refusal => cases call <;> cases refusal <;> rfl

theorem deliver_eq (job : Job) :
    w.deliver job = { (w.perform job.ticket job.task).1 with
      jobs := w.jobs.filter (·.ticket ≠ job.ticket) }.post (w.perform job.ticket job.task).2 := by
  rw [deliver, perform_with_jobs]

theorem ticket?_perform : (w.perform t task).2.ticket? = some t := by
  unfold perform
  split <;> (try split) <;> rfl

end

def take (w : Live σ τ) : Move → Live σ τ × Effect
  | .event e => w.post e
  | .deliver t =>
    match w.job? t with
    | some job => w.deliver job
    | none => (w, .none)

-- What a move means to the session.
def event? (w : Live σ τ) : Move → Option Event
  | .event e => some e
  | .deliver t => (w.job? t).map fun job => (w.perform t job.task).2

-- The operation that a move is a step of.
def owner? (w : Live σ τ) : Move → Option Ticket
  | .event e => w.session.owner? e
  | .deliver t => some t

def after (w : Live σ τ) (ms : List Move) : Live σ τ :=
  ms.foldl (fun w m => (w.take m).1) w

-- What the moves mean to the session, one after the other.
def events (w : Live σ τ) : List Move → List Event
  | [] => []
  | m :: ms => (w.event? m).toList ++ (w.take m).1.events ms

variable {w : Live σ τ} {m : Move} {t : Ticket} {job : Job}

theorem take_deliver (h : w.job? t = some job) : w.take (.deliver t) =
    { (w.perform t job.task).1 with jobs := w.jobs.filter (·.ticket ≠ t) }.post
      (w.perform t job.task).2 := by
  obtain rfl : job.ticket = t := by simpa using List.find?_some h
  simp only [take, h, deliver_eq]

theorem take_of_event?_eq_none (h : w.event? m = none) : w.take m = (w, .none) := by
  cases m with
  | event e => exact nomatch h
  | deliver t =>
    have h : w.job? t = none := Option.map_eq_none_iff.1 h
    simp [take, h]

theorem take_of_event? (h : w.event? m = some e) :
    (w.take m).1.session = (w.session.step e).1 ∧ (w.take m).2 = (w.session.step e).2 := by
  cases m with
  | event e =>
    cases h
    exact ⟨w.post_session e, rfl⟩
  | deliver t =>
    obtain ⟨job, hj, rfl⟩ := Option.map_eq_some_iff.1 h
    simp only [take_deliver hj, post_session, post_effect, perform_session, true_and]

theorem owner?_of_event? (h : w.event? m = some e) (ho : w.owner? m = some t) :
    w.session.owner? e = some t := by
  cases m with
  | event e =>
    cases h
    exact ho
  | deliver t =>
    obtain ⟨job, hj, rfl⟩ := Option.map_eq_some_iff.1 h
    exact Session.owner?_of_ticket? (ho ▸ ticket?_perform ..)

theorem after_append (w : Live σ τ) (ms ms' : List Move) :
    w.after (ms ++ ms') = (w.after ms).after ms' :=
  List.foldl_append

-- With a backend and a store, a session lives through events like any other session.
theorem session_after (w : Live σ τ) (ms : List Move) :
    (w.after ms).session = w.session.after (w.events ms) := by
  induction ms generalizing w with
  | nil => rfl
  | cons m ms ih =>
    have hm : (w.take m).1.session = w.session.after (w.event? m).toList := by
      cases h : w.event? m with
      | none => exact congrArg (·.1.session) (take_of_event?_eq_none h)
      | some e => exact (take_of_event? h).1
    rw [events, Session.after_append, ← hm]
    exact ih (w.take m).1

theorem Sound.take (h : w.Sound) (m : Move) : (w.take m).1.Sound := by
  cases m with
  | event e => exact h.post e
  | deliver t =>
    cases hj : w.job? t with
    | none => simpa [Live.take, hj] using h
    | some job =>
      rw [take_deliver hj]
      have hd : Sound { (w.perform t job.task).1 with
          jobs := w.jobs.filter (·.ticket ≠ t) } :=
        h.of_eq (perform_session ..) fun job' hm => (List.mem_filter.1 hm).1
      exact hd.post _

-- What every move keeps holds after any number of them.
theorem after_induction {P : Live σ τ → Prop} (hP : ∀ w m, P w → P (w.take m).1) (h : P w)
    (ms : List Move) : P (w.after ms) := by
  induction ms generalizing w with
  | nil => exact h
  | cons m ms ih => exact ih (hP w m h)

theorem Sound.after (h : w.Sound) (ms : List Move) : (w.after ms).Sound :=
  after_induction (fun _ m h => h.take m) h ms

end Live

-- A move, and how things stood before it.
structure Moment (σ τ : Type) where
  before : Live σ τ
  move : Move

namespace Moment

variable {σ τ : Type} [Backend σ] [KeyValueStore τ]

def after (m : Moment σ τ) : Live σ τ :=
  (m.before.take m.move).1

def effect (m : Moment σ τ) : Effect :=
  (m.before.take m.move).2

def event? (m : Moment σ τ) : Option Event :=
  m.before.event? m.move

def owner? (m : Moment σ τ) : Option Ticket :=
  m.before.owner? m.move

end Moment

namespace Live

variable {σ τ : Type} [Backend σ] [KeyValueStore τ]

def moments (w : Live σ τ) : List Move → List (Moment σ τ)
  | [] => []
  | m :: ms => ⟨w, m⟩ :: (w.take m).1.moments ms

variable {w : Live σ τ} {p q : Moment σ τ}

-- What every move keeps holds before every one of them.
theorem before_of_mem_moments {P : Live σ τ → Prop} (hP : ∀ w m, P w → P (w.take m).1) (h : P w)
    (ms : List Move) (hq : q ∈ w.moments ms) : P q.before := by
  induction ms generalizing w with
  | nil => cases hq
  | cons m ms ih =>
    cases List.mem_cons.1 hq
    case inl heq => exact heq ▸ h
    case inr hq => exact ih (hP w m h) hq

theorem sound_of_mem_moments (h : w.Sound) (ms : List Move) (hq : q ∈ w.moments ms) :
    q.before.Sound :=
  before_of_mem_moments (fun _ m h => h.take m) h ms hq

-- What comes after a moment begins where that moment ends.
theorem exists_moments_of_sublist (ms : List Move) (h : [p, q].Sublist (w.moments ms)) :
    p ∈ w.moments ms ∧ ∃ ms', q ∈ p.after.moments ms' := by
  induction ms generalizing w with
  | nil => cases h
  | cons m ms ih =>
    cases h with
    | cons _ h =>
      have ⟨hp, hq⟩ := ih h
      exact ⟨List.mem_cons_of_mem _ hp, hq⟩
    | cons_cons _ h => exact ⟨List.mem_cons_self, ms, List.singleton_sublist.1 h⟩

end Live
end QueryConsole
