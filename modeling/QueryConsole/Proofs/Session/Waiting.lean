import QueryConsole.Proofs.Backend.Calls
import QueryConsole.Proofs.Session.Jobs

namespace QueryConsole

namespace Backend

-- What the session hears of a call.
def hear [Backend σ] (b : σ) (t : Ticket) : Call → σ × Event
  | .batch statements directives tag =>
    let (b, answer) := askBatch b statements directives tag
    (b, .batchAnswered t answer)
  | .single statement directives =>
    let (b, answer) := askSingle b statement directives
    (b, .singleAnswered t answer)

end Backend

namespace Live

variable {σ τ : Type} {w w₁ w' v u : Live σ τ} {t : Ticket} {e : Event} {stage : Stage}
  {call : Call} {job : Job} {result : Result} {polls steps : Nat} {run : Submission}

theorem job?_addJob (hj : w.job? t = none) (task : Task) (due : Nat) :
    (w.addJob ⟨t, task, due⟩).job? t = some ⟨t, task, due⟩ := by
  have hj : w.jobs.find? (·.ticket = t) = none := hj
  simp [job?, addJob, List.find?_append, hj]

-- The state in which the effect of a step is noted.
def stepped (w : Live σ τ) (e : Event) : Live σ τ :=
  { w with
    session := (w.session.step e).1
    jobs := w.jobs.filter fun job => ((w.session.step e).1.stage? job.ticket).isSome }

theorem job?_stepped (hs : (w.session.step e).1.stage? t = some stage) :
    (w.stepped e).job? t = w.job? t :=
  find?_retained hs w.jobs

-- From `w` to `v` time may have passed, without any other step.
structure Later (t : Ticket) (w v : Live σ τ) : Prop where
  backend : v.backend = w.backend
  store : v.store = w.store
  alike : w.session.Alike v.session
  wellFormed : w.session.WellFormed → v.session.WellFormed
  stage : v.session.stage? t = w.session.stage? t
  job : v.job? t = w.job? t

theorem Later.refl (t : Ticket) (w : Live σ τ) : Later t w w where
  backend := rfl
  store := rfl
  alike := ⟨rfl, rfl, rfl, rfl, rfl, rfl⟩
  wellFormed h := h
  stage := rfl
  job := rfl

variable [Backend σ]

theorem fst_post (w : Live σ τ) (e : Event) :
    (w.post e).1 = (w.stepped e).note (w.session.step e).2 :=
  rfl

theorem job?_post_of_quiet (hs : (w.session.step e).1.stage? t = some stage)
    (he : (w.session.step e).2 = .none ∨ (w.session.step e).2 = .accepted t) :
    (w.post e).1.job? t = w.job? t ∧ (w.post e).1.backend = w.backend := by
  rw [fst_post]
  rcases he with he | he
  all_goals
    rw [he]
    exact ⟨job?_stepped hs, rfl⟩

theorem later_advance (hs : w.session.stage? t = some stage) (ms : Nat) :
    Later t w (w.advance ms) := by
  have ⟨he, _, hstage⟩ := w.session.step_advance ms
  have ⟨hjob, hbackend⟩ := job?_post_of_quiet ((hstage t).trans hs) (.inl he)
  have hsession : (w.advance ms).session = _ := w.post_session (.advance ms)
  refine ⟨hbackend, w.post_store _, ?_, fun h => ?_, ?_, hjob⟩
  all_goals rw [hsession]
  · exact Session.alike_advance _ ms
  · exact h.step _
  · exact hstage t

theorem backend_post_of_finished (he : (w.session.step e).2 = .finished t result) :
    (w.post e).1.backend = w.backend := by
  rw [post_eq, he]
  rfl

variable [KeyValueStore τ]

theorem proceed_of_accepted (hs : w.session.stage? t = some (.accepted run)) :
    w.proceed t = w.post (.start t) := by
  simp only [proceed, hs]

-- An operation that was taken up goes on when its job is due.
theorem proceed_of_job? (hs : w.session.stage? t = some stage) (hn : ∀ run, stage ≠ .accepted run)
    (hj : w.job? t = some job) :
    w.proceed t = if job.due ≤ w.session.now then w.take (.deliver t) else (w, .none) := by
  cases stage <;> first | exact absurd rfl (hn _) | simp only [proceed, hs, hj, take]

-- Waiting for `t` in the middle of a poll, with what is left of it and of the steps of the clock.
def awaitFrom (polls steps : Nat) (w : Live σ τ) (t : Ticket) : Live σ τ × Option Result :=
  match w.pollUpTo polls t with
  | (w, some result) => (w, some result)
  | (w, none) =>
    match w.dueOf? t with
    | some due => awaitUpTo none steps (w.advanceTo due) t
    | none => (w, none)

theorem awaitUpTo_succ (steps : Nat) (w : Live σ τ) (t : Ticket) :
    awaitUpTo none (steps + 1) w t = awaitFrom 3 steps w t := by
  rw [awaitUpTo, awaitFrom, poll]
  rcases w.pollUpTo 3 t with ⟨w', _ | result⟩
  · dsimp only
    cases w'.dueOf? t <;> rfl
  · rfl

-- Waiting for `t` leads to `w'` and ends with the result, if there are so many polls and steps of
-- the clock, or more.
def Ends (polls steps : Nat) (w : Live σ τ) (t : Ticket) (w' : Live σ τ) (result : Result) : Prop :=
  ∀ polls' ≥ polls, ∀ steps' ≥ steps, awaitFrom polls' steps' w t = (w', some result)

theorem Ends.mono (h : Ends polls steps w t w' result) (hp : polls ≤ polls') (hs : steps ≤ steps') :
    Ends polls' steps' w t w' result :=
  fun polls'' hp' steps'' hs' => h polls'' (Nat.le_trans hp hp') steps'' (Nat.le_trans hs hs')

theorem ends_of_finished (hp : w.proceed t = (w', .finished t result)) :
    Ends 1 0 w t w' result := by
  intro polls hpolls steps _
  obtain ⟨polls, rfl⟩ := Nat.exists_eq_add_of_le' hpolls
  simp only [awaitFrom, pollUpTo, hp]

theorem Ends.of_asks (h : Ends polls steps w₁ t w' result) {effect : Effect}
    (hp : w.proceed t = (w₁, effect)) (ha : Session.Asks t effect) :
    Ends (polls + 1) steps w t w' result := by
  intro polls' hpolls steps' hsteps
  obtain ⟨polls', rfl⟩ := Nat.exists_eq_add_of_le' (Nat.le_trans (Nat.le_add_left 1 _) hpolls)
  have h := h polls' (by omega) steps' hsteps
  cases ha <;> simpa only [awaitFrom, pollUpTo, hp] using h

theorem Ends.of_advance (h : Ends polls steps (w.advanceTo due) t w' result) (hpolls : polls ≤ 3)
    (hd : w.dueOf? t = some due) (hp : w.proceed t = (w, .none)) :
    Ends polls (steps + 1) w t w' result := by
  intro polls' _ steps' hsteps
  obtain ⟨steps', rfl⟩ := Nat.exists_eq_add_of_le' (Nat.le_trans (Nat.le_add_left 1 _) hsteps)
  have hpoll : w.pollUpTo polls' t = (w, none) := by
    cases polls' with
    | zero => rfl
    | succ polls' => simp only [pollUpTo, hp]
  simp only [awaitFrom, hpoll, hd]
  rw [awaitUpTo_succ]
  exact h 3 hpolls steps' (by omega)

-- The polls and the steps of the clock that an operation is waited for are never used up.
theorem Ends.await (h : Ends polls steps w t w' result) (hp : polls ≤ 3) (hs : steps ≤ 2) :
    w.await t = (w', some result) := by
  rw [Live.await, awaitUpTo_succ]
  exact h 3 hp 2 hs

theorem request_of_finished (he : (w.session.step e).2 = .finished t result) :
    w.request e = ((w.post e).1, some result) := by
  have hpost : w.post e = ((w.post e).1, .finished t result) := Prod.ext rfl he
  rw [request, hpost]

theorem request_of_accepted (he : (w.session.step e).2 = .accepted t) :
    w.request e = (w.post e).1.await t := by
  have hpost : w.post e = ((w.post e).1, .accepted t) := Prod.ext rfl he
  rw [request, hpost]

theorem request_of_asks (h : Session.Asks t (w.session.step e).2) :
    w.request e = (w.post e).1.await t := by
  have hpost : w.post e = ((w.post e).1, (w.session.step e).2) := rfl
  rw [request, hpost]
  generalize (w.session.step e).2 = effect at h
  cases h <;> rfl

-- Waiting for `t` in `w` comes to the point at which `e` is handed to `u`, by so many steps of the
-- clock.
def Comes (steps : Nat) (w : Live σ τ) (t : Ticket) (u : Live σ τ) (e : Event) : Prop :=
  ∃ v, v.proceed t = u.post e ∧ ∀ polls steps' w' result, polls ≤ 3 →
    Ends polls steps' v t w' result → Ends polls (steps' + steps) w t w' result

theorem comes_of_accepted (hs : w.session.stage? t = some (.accepted run)) :
    Comes 0 w t w (.start t) :=
  ⟨w, proceed_of_accepted hs, fun _ _ _ _ _ h => h⟩

theorem Comes.ends (h : Comes steps w t u e)
    (he : (u.session.step e).2 = .finished t result) :
    Ends 1 steps w t (u.post e).1 result := by
  have ⟨v, hp, hends⟩ := h
  have hfinished : Ends 1 0 v t (u.post e).1 result :=
    ends_of_finished (hp.trans (Prod.ext rfl he))
  simpa using hends 1 0 _ result (by decide) hfinished

theorem Comes.ends_of_asks (h : Comes steps w t u e) (ha : Session.Asks t (u.session.step e).2)
    (hlater : Ends polls steps' (u.post e).1 t w' result) (hpolls : polls ≤ 2) :
    Ends (polls + 1) (steps' + steps) w t w' result := by
  have ⟨v, hp, hends⟩ := h
  exact hends _ _ w' result (by omega) (hlater.of_asks (hp.trans (Prod.ext rfl rfl)) ha)

-- The state in which what was done for the job of `t` reaches the session.
def delivering (w : Live σ τ) (t : Ticket) (task : Task) : Live σ τ :=
  { (w.perform t task).1 with jobs := w.jobs.filter (·.ticket ≠ t) }

theorem delivering_session (w : Live σ τ) (t : Ticket) (task : Task) :
    (w.delivering t task).session = w.session :=
  perform_session w t task

theorem job?_delivering (w : Live σ τ) (t : Ticket) (task : Task) :
    (w.delivering t task).job? t = none := by
  simp [delivering, job?]

-- A job that is waited for is done when it is due.
theorem exists_comes_of_job (hs : w.session.stage? t = some stage)
    (hn : ∀ run, stage ≠ .accepted run) (hj : w.job? t = some job) :
    ∃ v, Later t w v ∧ Comes 1 w t (v.delivering t job.task) (v.perform t job.task).2 := by
  have hp := proceed_of_job? hs hn hj
  by_cases hd : job.due ≤ w.session.now
  case pos =>
    rw [if_pos hd, take_deliver hj] at hp
    refine ⟨w, .refl t w, w, hp, fun polls steps w' result _ h => ?_⟩
    exact h.mono (Nat.le_refl _) (Nat.le_succ _)
  case neg =>
    have hlater : Later t w (w.advanceTo job.due) := later_advance hs _
    have hdue : job.due ≤ (w.advanceTo job.due).session.now := by
      have ⟨_, hnow, _⟩ := w.session.step_advance (job.due - w.session.now)
      rw [advanceTo, Live.advance, post_session, hnow]
      omega
    have hjob := hlater.job.trans hj
    have hp' := proceed_of_job? (hlater.stage.trans hs) hn hjob
    rw [if_pos hdue, take_deliver hjob] at hp'
    have hwaits : w.dueOf? t = some job.due := by simp [dueOf?, hj]
    refine ⟨w.advanceTo job.due, hlater, _, hp', fun polls steps w' result hpolls h => ?_⟩
    exact h.of_advance hpolls hwaits (hp.trans (if_neg hd))

-- In `u` the operation `t` is handed the answer to what it asked for by the step `e` in `w`.
structure Answered (w : Live σ τ) (e : Event) (t : Ticket) (stage : Stage) (u : Live σ τ)
    (answer : Event) : Prop where
  comes : Comes 1 (w.post e).1 t u answer
  alike : w.session.Alike u.session
  wellFormed : u.session.WellFormed
  stage : u.session.stage? t = some stage
  job : u.job? t = none

-- A call that is noted becomes a job, in which it is answered unless it was refused.
theorem exists_job_of_call (hj : w.job? t = none) (call : Call) :
    ∃ job, (w.note (.call t call)).job? t = some job ∧
      ∀ v : Live σ τ, v.backend = (w.note (.call t call)).backend →
        (v.perform t job.task).2 = (Backend.hear w.backend t call).2 ∧
          (v.perform t job.task).1.backend = (Backend.hear w.backend t call).1 := by
  cases hr : Backend.receive w.backend call with
  | mk b delay =>
    cases delay with
    | ok delay =>
      simp only [note, hr]
      refine ⟨_, job?_addJob (w := { w with backend := b }) hj .., fun v hv => ?_⟩
      have hb : v.backend = b := hv
      cases call <;>
        simp [perform, Backend.hear, Backend.askBatch, Backend.askSingle, hr, hb]
    | error error =>
      simp only [note, hr]
      refine ⟨_, job?_addJob (w := { w with backend := b }) hj .., fun v hv => ?_⟩
      have hb : v.backend = b := hv
      cases call <;>
        simp [perform, Backend.hear, Backend.askBatch, Backend.askSingle, hr, hb]

-- The step `e` of `t` asks for something, whose job is new.
structure Asking (w : Live σ τ) (e : Event) (t : Ticket) (stage : Stage) : Prop where
  wellFormed : w.session.WellFormed
  job : w.job? t = none
  taken : ∀ run, stage ≠ .accepted run
  stage : (w.session.step e).1.stage? t = some stage

namespace Asking

variable (h : Asking w e t stage)

include h

theorem exists_answered (ha : Session.Asks t (w.session.step e).2)
    (hj : (w.post e).1.job? t = some job) :
    ∃ v : Live σ τ, v.backend = (w.post e).1.backend ∧ v.store = w.store ∧
      Answered w e t stage (v.delivering t job.task) (v.perform t job.task).2 := by
  have hsession := w.post_session e
  have ⟨v, hlater, hcomes⟩ := exists_comes_of_job (hsession ▸ h.stage) h.taken hj
  refine ⟨v, hlater.backend, hlater.store.trans (w.post_store e), hcomes, ?_, ?_, ?_,
    job?_delivering v t _⟩
  all_goals rw [delivering_session]
  · exact (Session.alike_of_asks ha).trans (hsession ▸ hlater.alike)
  · exact hlater.wellFormed (hsession ▸ h.wellFormed.step e)
  · exact hlater.stage.trans (hsession ▸ h.stage)

-- A call is made, and answered unless it is refused.
theorem exists_answered_call (he : (w.session.step e).2 = .call t call) :
    ∃ u, Answered w e t stage u (Backend.hear w.backend t call).2 ∧
      u.backend = (Backend.hear w.backend t call).1 := by
  have hpost : (w.post e).1 = (w.stepped e).note (.call t call) := he ▸ w.fst_post e
  have ⟨job, hj, hperform⟩ := exists_job_of_call ((job?_stepped h.stage).trans h.job) call
  have ⟨v, hv, _, hanswered⟩ := h.exists_answered (he ▸ .call) (hpost ▸ hj)
  have ⟨hanswer, hbackend⟩ := hperform v (hpost ▸ hv)
  exact ⟨v.delivering t job.task, hanswer ▸ hanswered, hbackend⟩

theorem exists_answered_batch
    (he : (w.session.step e).2 = .call t (.batch statements directives tag))
    (hb : Backend.askBatch w.backend statements directives tag = (b, answer)) :
    ∃ u, Answered w e t stage u (.batchAnswered t answer) ∧ u.backend = b := by
  have hanswered := h.exists_answered_call he
  simpa only [Backend.hear, hb] using hanswered

theorem exists_answered_single (he : (w.session.step e).2 = .call t (.single statement directives))
    (hb : Backend.askSingle w.backend statement directives = (b, answer)) :
    ∃ u, Answered w e t stage u (.singleAnswered t answer) ∧ u.backend = b := by
  have hanswered := h.exists_answered_call he
  simpa only [Backend.hear, hb] using hanswered

-- A text is written, if the store takes it.
theorem exists_answered_write (he : (w.session.step e).2 = .write t key text) :
    ∃ u, Answered w e t stage u (.storeAnswered t (KeyValueStore.set w.store key text).2) ∧
      u.backend = w.backend := by
  have hpost : (w.post e).1 = (w.stepped e).note (.write t key text) := he ▸ w.fst_post e
  have hj : ((w.stepped e).note (.write t key text)).job? t =
      some ⟨t, .write key text, (w.stepped e).session.now⟩ :=
    job?_addJob ((job?_stepped h.stage).trans h.job) ..
  have ⟨v, hv, hstore, hanswered⟩ := h.exists_answered (he ▸ .write) (hpost ▸ hj)
  have hkept : v.backend = w.backend := by
    rw [hv, hpost]
    rfl
  exact ⟨v.delivering t (.write key text), hstore ▸ hanswered, hkept⟩

end Asking

end Live
end QueryConsole
