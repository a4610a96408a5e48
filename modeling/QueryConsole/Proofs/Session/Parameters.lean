import QueryConsole.Proofs.Backend.Mock
import QueryConsole.Proofs.Session.Jobs
import QueryConsole.Store.Memory

namespace QueryConsole

namespace Event

-- A call that failed, or broke the backend down.
def isFailure : Event → Bool
  | batchAnswered _ answer => !answer.isOk
  | singleAnswered _ answer => !answer.isOk
  | submit .. | start _ | storeAnswered .. | drop _ | fetchParams | updateFavorites _
  | addFavorite .. | removeFavorite _ | reset | shutdown | advance _ => false

end Event

-- The event neither closes the session nor gives up a run.
def Session.survives (s : Session) : Event → Bool
  | .shutdown => false
  | .drop t => (s.stage? t).all (·.run?.isNone)
  | _ => true

namespace Moment

variable {σ τ : Type} [Backend σ] [KeyValueStore τ]

-- Answers come from where they were asked for, no call fails, no run is given up, and the session
-- stays open.
structure Smooth (p : Moment σ τ) : Prop where
  genuine : p.move.isGenuine = true
  succeeds : ∀ e ∈ p.event?, e.isFailure = false
  survives : ∀ e ∈ p.event?, p.before.session.survives e = true

instance (p : Moment σ τ) : Decidable p.Smooth :=
  decidable_of_iff (p.move.isGenuine = true ∧ (∀ e ∈ p.event?, e.isFailure = false) ∧
      ∀ e ∈ p.event?, p.before.session.survives e = true)
    ⟨fun ⟨hg, he, hs⟩ => ⟨hg, he, hs⟩, fun ⟨hg, he, hs⟩ => ⟨hg, he, hs⟩⟩

end Moment

namespace Session

variable {s s' : Session} {e : Event} {effect : Effect} {t : Ticket} {run : Submission}
  {entries : List Entry} {favorites : Favorites}

-- Some run has its batch answered and is yet to fetch the parameters.
def Refreshing (s : Session) : Prop :=
  ∃ t run entries, (t, .refreshing run entries) ∈ s.operations

theorem not_refreshing_of_isEmpty (h : s.operations.isEmpty = true) : ¬s.Refreshing := by
  rintro ⟨t, run, entries, hm⟩
  rw [List.isEmpty_iff.1 h] at hm
  exact nomatch hm

namespace Transition

-- The steps of one operation leave the others where they are.
theorem mem_of_ne (h : Transition s e s' effect) (ht : e.ticket? = some t)
    {op : Ticket × Stage} (hm : op ∈ s.operations) (hne : op.1 ≠ t) : op ∈ s'.operations := by
  have addressed {t'} (ht' : e.ticket? = some t') : op.1 ≠ t' :=
    Option.some.inj (ht'.symm.trans ht) ▸ hne
  cases h
  case answered | saving =>
    exact nomatch (Event.ticket?_of_isRequest ‹_›).symm.trans ht
  case started | refreshing => exact mem_enter_of_ne hm (addressed rfl) _
  case ran | ranStale | ranRefreshed | runDropped => exact mem_conclude.2 ⟨hm, addressed rfl⟩
  case fetched | saved | dropped => exact mem_close.2 ⟨hm, addressed rfl⟩
  case runFailed => exact mem_conclude.2 ⟨hm, addressed ‹_›⟩
  case failed => exact mem_close.2 ⟨hm, addressed ‹_›⟩
  all_goals first | exact hm | exact nomatch ht

-- Without an answer nothing new is shown of the parameters, and no run goes past fetching them.
theorem params_of_not_isAnswer (h : Transition s e s' effect) (hw : s.WellFormed)
    (ha : s.active = true) (he : e.isAnswer = false) (hsurvives : s.survives e = true)
    (hf : ∀ t result, effect = .finished t result → e.isRequest = true) :
    s'.active = true ∧ (s'.view.params = s.view.params ∨ s'.view.params = none) ∧
      (s.Refreshing → s'.Refreshing) := by
  cases h
  case ignored | resetRefused | answered | advance => exact ⟨ha, .inl rfl, id⟩
  case reset => exact ⟨ha, .inr rfl, id⟩
  case shutdown => exact nomatch hsurvives
  case accepted | fetching | saving =>
    refine ⟨ha, .inl rfl, ?_⟩
    rintro ⟨t, run, entries, hm⟩
    exact ⟨t, run, entries, mem_enroll.2 (.inl hm)⟩
  case started hs =>
    refine ⟨ha, .inl rfl, ?_⟩
    rintro ⟨t, run, entries, hm⟩
    refine ⟨t, run, entries, mem_enter_of_ne hm ?_ _⟩
    rintro rfl
    exact nomatch hs.symm.trans (stage?_of_mem_operations hw.nodup hm)
  case dropped hs hr =>
    refine ⟨ha, .inl rfl, ?_⟩
    rintro ⟨t, run, entries, hm⟩
    refine ⟨t, run, entries, mem_close.2 ⟨hm, ?_⟩⟩
    rintro rfl
    have hstage := Option.some.inj (hs.symm.trans (stage?_of_mem_operations hw.nodup hm))
    exact nomatch hstage ▸ hr
  case runDropped stage hs hr =>
    simp only [survives, hs, Option.all_some] at hsurvives
    simp [Option.isNone_iff_eq_none.1 hsurvives] at hr
  case runFailed | failed =>
    have hnone := Event.ticket?_of_isRequest (hf _ _ rfl)
    exact nomatch hnone.symm.trans ‹e.ticket? = some _›
  all_goals exact nomatch he

end Transition

theorem isRequest_of_finished (he : e.isAnswer = false) (h : (s.act e).2 = .finished t result) :
    e.isRequest = true := by
  cases e with
  | start t' =>
    simp only [act] at h
    split at h <;> cases h
  | reset => cases h
  | shutdown => cases h
  | advance ms => cases h
  | drop t' => cases h
  | batchAnswered | singleAnswered | storeAnswered => cases he
  | _ => rfl

theorem step_fetched (hs : s.stage? t = some .fetching) (ha : s.active = true)
    (response : Response) :
    (s.step (.singleAnswered t (.ok response))).1.active = s.active ∧
      (s.step (.singleAnswered t (.ok response))).1.view.params =
        some (response.localParams.getD .empty) := by
  simp only [step, act, hs, fetchAnswered, if_pos ha, settle_active, settle_params]
  exact ⟨rfl, rfl⟩

theorem step_storeAnswered (hs : s.stage? t = some (.saving favorites reply))
    (answer : Except ConsoleError Unit) :
    (s.step (.storeAnswered t answer)).1.active = s.active ∧
      (s.step (.storeAnswered t answer)).1.view.params = s.view.params := by
  simp only [step, act, hs, settle_active, settle_params]
  cases answer <;> exact ⟨rfl, rfl⟩

-- An operation that is about to fetch the parameters is not held up by another one.
theorem refreshing_step (hw : s.WellFormed) (ht : e.ticket? = some t)
    (hs : s.stage? t = some stage) (hstage : ∀ run entries, stage ≠ .refreshing run entries)
    (h : s.Refreshing) : (s.step e).1.Refreshing := by
  have ⟨t', run, entries, hm⟩ := h
  have hne : t' ≠ t := by
    rintro rfl
    have hs' := stage?_of_mem_operations hw.nodup hm
    exact hstage run entries (Option.some.inj (hs.symm.trans hs'))
  refine ⟨t', run, entries, ?_⟩
  rw [step_eq, settle_operations]
  exact (act_transition s e).mem_of_ne ht hm hne

end Session

namespace Live

open Session

variable {τ : Type} {w : Live Mock τ} {t : Ticket} {e : Event} {m : Move} {b : Mock}
  {job : Job} {run : Submission} {responses : List Response} {response : Response}
  {refusal : Option ConsoleError} {due : Nat}

theorem visibleParams_post (w : Live Mock τ) (e : Event) :
    (w.post e).1.backend.visibleParams = w.backend.visibleParams := by
  rw [post_eq]
  cases (w.session.step e).2 <;> rfl

-- What is shown is what the mock has, or nothing is shown, or it is about to be fetched.
structure Current (w : Live Mock τ) : Prop where
  matched : w.Matched
  active : w.session.active = true
  params : w.session.view.params = none ∨
    w.session.view.params = some w.backend.visibleParams ∨ w.session.Refreshing

theorem Current.of_post (hw : (w.post e).1.Matched)
    (ha : (w.session.step e).1.active = true)
    (hp : (w.session.step e).1.view.params = none ∨
      (w.session.step e).1.view.params = some w.backend.visibleParams ∨
      (w.session.step e).1.Refreshing) : (w.post e).1.Current where
  matched := hw
  active := w.post_session e ▸ ha
  params := by
    rw [visibleParams_post, post_session]
    exact hp

theorem Current.event (h : w.Current) (he : e.isAnswer = false)
    (hs : w.session.survives e = true) : (w.post e).1.Current := by
  have ht := act_transition w.session e
  have ⟨ha, hparams, hrefresh⟩ := ht.params_of_not_isAnswer h.matched.wellFormed h.active he hs
    fun _ _ hf => isRequest_of_finished he hf
  refine .of_post (h.matched.post fun hans => by simp [he] at hans) ?_ ?_
  · rw [step_eq, settle_active]
    exact ha
  · have hback : (w.session.act e).1.Refreshing → (w.session.step e).1.Refreshing := by
      rintro ⟨t, run, entries, hm⟩
      exact ⟨t, run, entries, by rwa [step_eq, settle_operations]⟩
    have hstep : (w.session.step e).1.view.params = (w.session.act e).1.view.params := by
      rw [step_eq, settle_params]
    rw [hstep]
    cases hparams with
    | inl hsame =>
      rw [hsame]
      exact h.params.imp_right (Or.imp_right fun hr => hback (hrefresh hr))
    | inr hnone => exact .inl hnone

-- The call of `t` was answered, and this is the mock now.
def answering (w : Live Mock τ) (t : Ticket) (b : Mock) : Live Mock τ :=
  { w with backend := b, jobs := w.jobs.filter (·.ticket ≠ t) }

theorem Current.batchAnswered (h : w.Current) (hs : w.session.stage? t = some (.dispatched run))
    (hb : Mock.batch w.backend run.split.statements run.split.directives = (b, .ok responses))
    (hm : ((w.answering t b).post (.batchAnswered t (.ok responses))).1.Matched) :
    ((w.answering t b).post (.batchAnswered t (.ok responses))).1.Current := by
  cases hr : run.split.requiresRefresh with
  | true =>
    have ⟨hcall, hst⟩ :=
      step_batchAnswered_refreshing h.matched.wellFormed hs h.active hr responses
    have hasks : Asks t (w.session.step (.batchAnswered t (.ok responses))).2 := hcall ▸ .call
    have ha := (alike_of_asks hasks).active
    exact .of_post hm (ha.trans h.active) (.inr (.inr ⟨_, _, _, mem_operations_of_stage? hst⟩))
  | false =>
    have hran := ran_batchAnswered hs h.active hr responses
    have hb : b = w.backend := Mock.eq_of_batch hr hb
    have hkeep := refreshing_step h.matched.wellFormed
      (e := .batchAnswered t (.ok responses)) rfl hs nofun
    refine .of_post hm (hran.active.trans h.active) ?_
    rw [show (w.answering t b).session = w.session from rfl, hran.params]
    exact hb ▸ h.params.imp_right (Or.imp_right hkeep)

-- The answer to an inspection is what is shown next.
theorem current_of_inspected (hb : Mock.single w.backend "" [":params"] = (b, .ok response))
    (ha : (w.session.step e).1.active = true)
    (hp : (w.session.step e).1.view.params = some (response.localParams.getD .empty))
    (hm : ((w.answering t b).post e).1.Matched) : ((w.answering t b).post e).1.Current := by
  have ⟨hb, hr⟩ := Mock.single_of_ok hb
  refine .of_post hm ha (.inr (.inl ?_))
  rw [show (w.answering t b).session = w.session from rfl, hp, hr]
  exact hb ▸ rfl

variable [KeyValueStore τ]

theorem exists_batch_of_succeeds
    (hj : w.job? t = some ⟨t', .call (.batch statements directives tag) refusal, due⟩)
    (h : (w.perform t (.call (.batch statements directives tag) refusal)).2.isFailure = false) :
    ∃ b responses, Mock.batch w.backend statements directives = (b, .ok responses) ∧
      w.take (.deliver t) = (w.answering t b).post (.batchAnswered t (.ok responses)) := by
  rw [take_deliver hj]
  cases refusal with
  | some e => exact nomatch h
  | none =>
    cases hb : Mock.batch w.backend statements directives with
    | mk b answer =>
      cases answer with
      | ok responses => exact ⟨b, responses, rfl, by simp only [perform, Backend.batch, hb]; rfl⟩
      | error e => simp [perform, Backend.batch, hb, Event.isFailure, Answer.isOk] at h
      | crash => simp [perform, Backend.batch, hb, Event.isFailure, Answer.isOk] at h

theorem exists_single_of_succeeds
    (hj : w.job? t = some ⟨t', .call (.single statement directives) refusal, due⟩)
    (h : (w.perform t (.call (.single statement directives) refusal)).2.isFailure = false) :
    ∃ b response, Mock.single w.backend statement directives = (b, .ok response) ∧
      w.take (.deliver t) = (w.answering t b).post (.singleAnswered t (.ok response)) := by
  rw [take_deliver hj]
  cases refusal with
  | some e => exact nomatch h
  | none =>
    cases hb : Mock.single w.backend statement directives with
    | mk b answer =>
      cases answer with
      | ok response => exact ⟨b, response, rfl, by simp only [perform, Backend.single, hb]; rfl⟩
      | error e => simp [perform, Backend.single, hb, Event.isFailure, Answer.isOk] at h
      | crash => simp [perform, Backend.single, hb, Event.isFailure, Answer.isOk] at h

theorem Current.deliver (h : w.Current) (hj : w.job? t = some job)
    (hok : (w.perform t job.task).2.isFailure = false) : (w.take (.deliver t)).1.Current := by
  have hm : (w.take (.deliver t)).1.Matched := h.matched.take rfl
  have ⟨stage, hs, hawait⟩ := h.matched.job? hj
  have hticket : job.ticket = t := by simpa using List.find?_some hj
  obtain ⟨ticket, task, due⟩ := job
  subst hticket
  cases hawait with
  | batch =>
    have ⟨b, responses, hb, htake⟩ := exists_batch_of_succeeds hj hok
    rw [htake] at hm ⊢
    exact h.batchAnswered hs hb hm
  | refresh =>
    have ⟨b, response, hb, htake⟩ := exists_single_of_succeeds hj hok
    have hran := ran_refreshAnswered hs h.active response
    rw [htake] at hm ⊢
    exact current_of_inspected hb (hran.active.trans h.active) hran.params hm
  | fetch =>
    have ⟨b, response, hb, htake⟩ := exists_single_of_succeeds hj hok
    have ⟨ha, hp⟩ := step_fetched hs h.active response
    rw [htake] at hm ⊢
    exact current_of_inspected hb (ha.trans h.active) hp hm
  | @write reply favorites =>
    rw [take_deliver hj] at hm ⊢
    have ⟨ha, hp⟩ := step_storeAnswered hs
      (KeyValueStore.set w.store w.session.settings.favoritesKey favorites.encode).2
    have hkeep := refreshing_step h.matched.wellFormed
      (e := .storeAnswered ticket
        (KeyValueStore.set w.store w.session.settings.favoritesKey favorites.encode).2) rfl hs nofun
    refine .of_post hm (ha.trans h.active) ?_
    exact hp.symm ▸ h.params.imp_right (Or.imp_right hkeep)

-- A move of the session's own never leaves it with parameters that are out of date.
theorem Current.take (h : w.Current) (hp : Moment.Smooth ⟨w, m⟩) : (w.take m).1.Current := by
  cases m with
  | event e =>
    have he : e.isAnswer = false := by simpa [Move.isGenuine] using hp.genuine
    exact h.event he (hp.survives e rfl)
  | deliver t =>
    cases hj : w.job? t with
    | none => simpa [Live.take, hj] using h
    | some job =>
      exact h.deliver hj (hp.succeeds _ (by simp [Moment.event?, event?, hj]))

theorem Current.after (h : w.Current) {ms : List Move} (hp : ∀ p ∈ w.moments ms, p.Smooth) :
    (w.after ms).Current := by
  induction ms generalizing w with
  | nil => exact h
  | cons m ms ih =>
    have ⟨hfirst, hrest⟩ := List.forall_mem_cons.1 hp
    exact ih (h.take hfirst) hrest

-- Unless a run is about to fetch them, the parameters that are shown are those of the mock; and a
-- run that is spared the fetching did not change them.
theorem params_current (settings : SessionSettings) (favorites : Favorites) (nextId now : Nat)
    (backend : Mock) (store : τ) (ms : List Move) :
    let start : Live Mock τ := ⟨.initial settings favorites nextId now, backend, store, []⟩
    let w := start.after ms
    ((∀ p ∈ start.moments ms, p.Smooth) →
      ¬w.session.Refreshing →
      w.session.view.params = none ∨
        w.session.view.params = some w.backend.visibleParams) ∧
      ∀ (m : Mock) (split : Script.Split), split.requiresRefresh = false →
        (m.batch split.statements split.directives).1.params = m.params := by
  intro start w
  refine ⟨fun hp hidle => ?_, fun m split hr => m.params_batch hr⟩
  have hstart : start.Current :=
    ⟨matched_initial settings favorites nextId now backend store, rfl, .inl rfl⟩
  exact (hstart.after hp).params.imp_right fun h => h.resolve_right hidle

-- Two runs overlap. The one sets a parameter, and while it is fetched the other removes it again.
def overlapping : List Move :=
  [.event (.submit ":param a => 1" none), .event (.submit "SHOW HOSTS;\n:param a =>" none),
    .event (.start 0), .event (.start 1), .deliver 0, .deliver 1, .event .fetchParams, .deliver 0,
    .deliver 2, .deliver 1]

theorem params_of_overlapping :
    let start : Live Mock MemoryStore := ⟨.initial .default .empty 1 0, .default, .empty, []⟩
    let w := start.after overlapping
    let split : Script.Split := ⟨[" :PARAMS a; "], ["SHOW HOSTS"]⟩
    (∀ p ∈ start.moments overlapping, p.Smooth) ∧ ¬w.session.Refreshing ∧
      (w.session.view.params = none ∨ w.session.view.params = some w.backend.visibleParams) ∧
      split.requiresRefresh = false ∧
        (w.backend.batch split.statements split.directives).1.params = w.backend.params := by
  have ⟨hcurrent, hbatch⟩ :=
    params_current .default .empty 1 0 .default MemoryStore.empty overlapping
  refine ⟨?smooth, ?idle, hcurrent ?smooth ?idle, rfl, hbatch _ _ rfl⟩
  case smooth => decide +kernel
  case idle => exact not_refreshing_of_isEmpty (by decide +kernel)

end Live
end QueryConsole
