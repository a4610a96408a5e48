import QueryConsole.Proofs.Session.Moments
import QueryConsole.Proofs.Session.Steps

namespace QueryConsole

namespace Move

-- Nobody but the backend and the store answers.
def isGenuine : Move → Bool
  | event e => !e.isAnswer
  | deliver _ => true

end Move

-- The task is what an operation in this stage waits for.
inductive Stage.Awaits (key : String) : Stage → Task → Prop
  | batch {run : Submission} : Awaits key (.dispatched run)
      (.call (.batch run.split.statements run.split.directives tag) refusal)
  | refresh {run : Submission} {entries : List Entry} :
      Awaits key (.refreshing run entries) (.call Session.inspection refusal)
  | fetch : Awaits key .fetching (.call Session.inspection refusal)
  | write {favorites : Favorites} :
      Awaits key (.saving favorites reply) (.write key favorites.encode)

namespace Session

variable {s s' : Session} {e : Event} {job : Job}

-- What is asked for is what the operation waits for from now on.
theorem Transition.awaits (h : Transition s e s' job.request) (hw : s.WellFormed) :
    ∃ stage, s'.stage? job.ticket = some stage ∧
      stage.Awaits s.settings.favoritesKey job.task := by
  obtain ⟨t, call | write, due⟩ := job
  case call =>
    cases h
    case fetching => exact ⟨_, stage?_enroll (stage?_nextTicket hw) _, .fetch⟩
    case started hs => exact ⟨_, stage?_enter hw (mem_tickets_of_stage? hs) _, .batch⟩
    case refreshing responses ha hr hs =>
      have hw' : WellFormed { s with nextId := s.nextId + responses.length } :=
        ⟨hw.nodup, hw.lt_nextTicket, hw.idle, hw.replies⟩
      exact ⟨_, stage?_enter hw' (mem_tickets_of_stage? (s := s) hs) _, .refresh⟩
  case write =>
    cases h
    case saving => exact ⟨_, stage?_enroll (stage?_nextTicket hw) _, .write⟩

-- An operation that asks for something is under way.
theorem Transition.mem_tickets_of_request (h : Transition s e s' job.request) :
    job.ticket ∈ s'.tickets := by
  obtain ⟨t, call | write, due⟩ := job
  case call =>
    cases h
    case fetching => simp [tickets_enroll]
    case started =>
      rw [tickets_enter]
      exact mem_tickets_of_stage? ‹s.stage? t = _›
    case refreshing =>
      rw [tickets_enter]
      exact mem_tickets_of_stage? (s := s) ‹s.stage? t = _›
  case write =>
    cases h
    case saving => simp [tickets_enroll]

theorem settings_step (s : Session) (e : Event) : (s.step e).1.settings = s.settings :=
  s.settings_after [e]

end Session

namespace Live

variable {σ τ : Type} {w w' : Live σ τ} {t : Ticket} {job : Job} {e : Event} {m : Move}
  {stage : Stage}

-- Every job is the job of an operation that is under way.
def Owned (w : Live σ τ) : Prop :=
  ∀ job ∈ w.jobs, job.ticket ∈ w.session.tickets

theorem Owned.job?_nextTicket (h : w.Owned) (hw : w.session.WellFormed) :
    w.job? w.session.nextTicket = none := by
  refine List.find?_eq_none.2 fun job hm => ?_
  have hlt := hw.lt_nextTicket _ (h job hm)
  simpa using Nat.ne_of_lt hlt

-- A step forgets no job of an operation that is still under way.
theorem find?_retained {s : Session} (hs : s.stage? t = some stage) (jobs : List Job) :
    (jobs.filter fun job => (s.stage? job.ticket).isSome).find? (·.ticket = t) =
      jobs.find? (·.ticket = t) := by
  rw [List.find?_filter]
  congr 1
  funext job
  by_cases ht : job.ticket = t
  · simp [ht, hs]
  · simp [ht]

-- Every job is what its operation waits for.
structure Matched (w : Live σ τ) : Prop where
  wellFormed : w.session.WellFormed
  awaited : ∀ job ∈ w.jobs, ∃ stage, w.session.stage? job.ticket = some stage ∧
    stage.Awaits w.session.settings.favoritesKey job.task

theorem matched_initial (settings : SessionSettings) (favorites : Favorites) (nextId now : Nat)
    (backend : σ) (store : τ) :
    Matched ⟨.initial settings favorites nextId now, backend, store, []⟩ where
  wellFormed := Session.wellFormed_initial settings favorites nextId now
  awaited := nofun

theorem Matched.job? (h : w.Matched) (hj : w.job? t = some job) :
    ∃ stage, w.session.stage? t = some stage ∧
      stage.Awaits w.session.settings.favoritesKey job.task := by
  have ht : job.ticket = t := by simpa using List.find?_some hj
  exact ht ▸ h.awaited job (List.mem_of_find?_eq_some hj)

variable [Backend σ]

theorem owned_post (w : Live σ τ) (e : Event) : (w.post e).1.Owned := by
  intro job hm
  rw [post_session]
  rw [post_eq] at hm
  rcases mem_note _ _ hm with hm | he
  · have ⟨stage, hs⟩ := Option.isSome_iff_exists.1 (List.mem_filter.1 hm).2
    exact Session.mem_tickets_of_stage? hs
  · have ht := Session.act_transition w.session e
    rw [show (w.session.act e).2 = _ from he] at ht
    rw [Session.step_eq, Session.settle_tickets]
    exact ht.mem_tickets_of_request

-- An answer is only taken by an operation whose jobs are done.
theorem Matched.post (h : w.Matched)
    (he : e.isAnswer = true → ∀ job ∈ w.jobs, e.ticket? ≠ some job.ticket) :
    (w.post e).1.Matched where
  wellFormed := w.post_session e ▸ h.wellFormed.step e
  awaited job hm := by
    have ht := Session.act_transition w.session e
    rw [post_session, Session.settings_step, Session.step_eq, Session.settle_stage?]
    rw [post_eq] at hm
    cases mem_note _ _ hm
    case inl hm =>
      have ⟨hm, hsome⟩ := List.mem_filter.1 hm
      rw [Session.step_eq, Session.settle_stage?] at hsome
      have ⟨stage, hs, hawait⟩ := h.awaited job hm
      have hn : ∀ run, stage ≠ .accepted run := by
        rintro run rfl
        exact nomatch hawait
      cases ht.stage?_of_taken_up h.wellFormed hs hn fun _ _ ha => he ha job hm
      case inl hnone => simp [hnone] at hsome
      case inr hs' => exact ⟨stage, hs', hawait⟩
    case inr heffect =>
      rw [show (w.session.act e).2 = _ from heffect] at ht
      exact ht.awaits h.wellFormed

variable [KeyValueStore τ]

theorem Owned.take (h : w.Owned) (m : Move) : (w.take m).1.Owned := by
  cases m with
  | event e => exact owned_post w e
  | deliver t =>
    cases hj : w.job? t with
    | none => simpa [Live.take, hj] using h
    | some job =>
      rw [take_deliver hj]
      exact owned_post _ _

theorem Owned.after (h : w.Owned) (ms : List Move) : (w.after ms).Owned :=
  after_induction (fun _ m h => h.take m) h ms

theorem Matched.take (h : w.Matched) (hm : m.isGenuine = true) : (w.take m).1.Matched := by
  cases m with
  | event e => exact h.post fun ha => by simp [Move.isGenuine, ha] at hm
  | deliver t =>
    cases hj : w.job? t with
    | none => simpa [Live.take, hj] using h
    | some job =>
      rw [take_deliver hj]
      have hd : Matched { (w.perform t job.task).1 with jobs := w.jobs.filter (·.ticket ≠ t) } :=
        ⟨(perform_session w t job.task).symm ▸ h.wellFormed, fun job' hm =>
          (perform_session w t job.task).symm ▸ h.awaited job' (List.mem_filter.1 hm).1⟩
      refine hd.post fun _ job' hm heq => ?_
      rw [ticket?_perform] at heq
      have hne := (List.mem_filter.1 hm).2
      exact absurd (Option.some.inj heq).symm (of_decide_eq_true hne)

-- From `w` to `w'` only such moves were made.
def ByMoves (w w' : Live σ τ) : Prop :=
  ∃ ms : List Move, w' = w.after ms ∧ ∀ m ∈ ms, m.isGenuine = true

theorem ByMoves.induction {P : Live σ τ → Prop}
    (hP : ∀ w m, P w → m.isGenuine = true → P (w.take m).1) (h : P w) (hw : w.ByMoves w') :
    P w' := by
  obtain ⟨ms, rfl, hms⟩ := hw
  induction ms generalizing w with
  | nil => exact h
  | cons m ms ih =>
    have ⟨hm, hms⟩ := List.forall_mem_cons.1 hms
    exact ih (hP w m h hm) hms

theorem ByMoves.refl (w : Live σ τ) : w.ByMoves w :=
  ⟨[], rfl, nofun⟩

theorem ByMoves.of_take (h : (w.take m).1.ByMoves w') (hm : m.isGenuine = true) :
    w.ByMoves w' := by
  have ⟨ms, hw, hms⟩ := h
  exact ⟨m :: ms, hw, List.forall_mem_cons.2 ⟨hm, hms⟩⟩

theorem ByMoves.trans {w'' : Live σ τ} (h : w.ByMoves w') (h' : w'.ByMoves w'') :
    w.ByMoves w'' := by
  have ⟨ms, hw, hms⟩ := h
  have ⟨ms', hw', hms'⟩ := h'
  refine ⟨ms ++ ms', ?_, fun m hm => ?_⟩
  · rw [hw', hw, after_append]
  · exact (List.mem_append.1 hm).elim (hms m) (hms' m)

theorem byMoves_take (w : Live σ τ) (hm : m.isGenuine = true) : w.ByMoves (w.take m).1 :=
  (ByMoves.refl _).of_take hm

-- To wait for an operation is to make such moves.
theorem byMoves_proceed (w : Live σ τ) (t : Ticket) : w.ByMoves (w.proceed t).1 := by
  unfold proceed
  split
  case h_1 => exact byMoves_take w (m := .event (.start t)) rfl
  case h_2 =>
    split
    case h_1 job hj =>
      split
      case isTrue =>
        have htake : w.take (.deliver t) = w.deliver job := by simp [Live.take, hj]
        exact htake ▸ byMoves_take w rfl
      case isFalse => exact .refl w
    case h_2 => exact .refl w

theorem byMoves_pollUpTo (steps : Nat) (w : Live σ τ) (t : Ticket) :
    w.ByMoves (w.pollUpTo steps t).1 := by
  induction steps generalizing w with
  | zero => exact .refl w
  | succ steps ih =>
    have hstep := byMoves_proceed w t
    rw [pollUpTo]
    split
    all_goals
      rename_i hp
      rw [hp] at hstep
    case h_3 => exact hstep.trans (ih _)
    all_goals exact hstep

theorem byMoves_awaitUpTo (steps : Nat) (w : Live σ τ) (t : Ticket) :
    w.ByMoves (awaitUpTo none steps w t).1 := by
  induction steps generalizing w with
  | zero => exact .refl w
  | succ steps ih =>
    have hpoll : w.ByMoves (w.poll t).1 := byMoves_pollUpTo 3 w t
    rw [awaitUpTo]
    split
    case h_1 hp =>
      rw [hp] at hpoll
      exact hpoll
    case h_2 w' hp =>
      rw [hp] at hpoll
      cases w'.dueOf? t with
      | none => exact hpoll
      | some due =>
        have hadvance : w'.ByMoves (w'.advanceTo due) :=
          byMoves_take w' (m := .event (.advance _)) rfl
        exact (hpoll.trans hadvance).trans (ih _)

-- A request is begun and waited for by moves.
theorem byMoves_request (w : Live σ τ) (he : e.isAnswer = false) :
    w.ByMoves (w.request e).1 := by
  have hpost : w.ByMoves (w.post e).1 :=
    byMoves_take w (m := .event e) (by simp [Move.isGenuine, he])
  rw [request]
  split
  all_goals
    rename_i hp
    rw [hp] at hpost
  case h_1 | h_5 => exact hpost
  all_goals exact hpost.trans (byMoves_awaitUpTo 3 _ _)

-- What a new session comes to by moves of any kind.
def Reachable (w : Live σ τ) : Prop :=
  ∃ settings favorites nextId now backend store ms,
    w = Live.after ⟨.initial settings favorites nextId now, backend, store, []⟩ ms

namespace Reachable

theorem after (h : w.Reachable) (ms : List Move) : (w.after ms).Reachable := by
  obtain ⟨settings, favorites, nextId, now, backend, store, ms', rfl⟩ := h
  exact ⟨settings, favorites, nextId, now, backend, store, ms' ++ ms, (after_append ..).symm⟩

theorem byMoves (h : w.Reachable) (hw : w.ByMoves w') : w'.Reachable := by
  obtain ⟨ms, rfl, -⟩ := hw
  exact h.after ms

theorem request (h : w.Reachable) (he : e.isAnswer = false) : (w.request e).1.Reachable :=
  h.byMoves (byMoves_request w he)

theorem sound (h : w.Reachable) : w.Sound := by
  obtain ⟨settings, favorites, nextId, now, backend, store, ms, rfl⟩ := h
  exact (sound_initial settings favorites nextId now backend store).after ms

theorem owned (h : w.Reachable) : w.Owned := by
  obtain ⟨settings, favorites, nextId, now, backend, store, ms, rfl⟩ := h
  have hinitial : Owned ⟨.initial settings favorites nextId now, backend, store, []⟩ := nofun
  exact hinitial.after ms

end Reachable

end Live
end QueryConsole
