import QueryConsole.Proofs.Session.Ledger
import QueryConsole.Proofs.Session.Waiting

namespace QueryConsole

-- What is to be seen of a run, if executing its text comes to this.
inductive View.Shows (run : Submission) (v v' : View) :
    Answer (List Response × Option Params) → Prop
  | recorded (nextId : Nat)
      (hr : View.Records (Entry.ofResponses run.seq nextId responses) run.lastText v v')
      (hp : v'.params = fetched.or v.params) : Shows run v v' (.ok (responses, fetched))
  | failed (ha : answer.isOk = false) (hv : v.SameData v') : Shows run v v' answer

theorem View.Shows.of_sameData {run : Submission} {v₁ v₂ v₃ : View}
    {answer : Answer (List Response × Option Params)} (h : Shows run v₂ v₃ answer)
    (hd : v₁.SameData v₂) : Shows run v₁ v₃ answer := by
  cases h with
  | recorded nextId hr hp => exact .recorded nextId (hr.of_sameData hd) (hd.params ▸ hp)
  | failed ha hv => exact .failed ha (hd.trans hv)

namespace Session

variable {s s' v : Session} {run : Submission} {answer : Answer (List Response × Option Params)}

-- Between `s` and `s'` a run came to this, and no other was accepted.
structure Executed (s : Session) (run : Submission)
    (answer : Answer (List Response × Option Params)) (s' : Session) : Prop where
  active : s'.active = s.active
  nextSeq : s'.nextSeq = s.nextSeq
  view : View.Shows run s.view s'.view answer

theorem Executed.of_alike (h : Executed v run answer s') (hv : s.Alike v) :
    Executed s run answer s' where
  active := h.active.trans hv.active
  nextSeq := h.nextSeq.trans hv.nextSeq
  view := h.view.of_sameData hv.data

-- What becomes of a list of favorites, if this is what the store said to it.
inductive Saves (favorites : Favorites) (reply : Reply) (s s' : Session) :
    Except ConsoleError Unit → Result → Prop
  | saved (h : Updates favorites s s') : Saves favorites reply s s' (.ok ()) (.ok reply)
  | refused (h : Updates s.view.favorites s s') :
      Saves favorites reply s s' (.error error) (.error error)

end Session

-- An entry bears the number of a run that was accepted.
theorem Ledger.Tracks.seq_lt_nextSeq {l : Ledger} {s : Session} (h : l.Tracks s) {entry : Entry}
    (hm : entry ∈ s.view.history) : entry.seq < s.nextSeq := by
  have hcontent : entry.content ∈ l.completed.flatMap Completion.block :=
    h.history ▸ List.mem_map_of_mem hm
  have ⟨c, hc, hblock⟩ := List.mem_flatMap.1 hcontent
  have ⟨r, _, hr⟩ := List.mem_map.1 hblock
  have ⟨t, ht, _⟩ := h.accepted c hc
  have hseq : c.run.seq = entry.seq := congrArg Prod.fst hr
  have hle := h.seq_le ht
  have hnext := h.nextSeq
  omega

namespace Live

variable {σ τ : Type} {w w' u : Live σ τ} {t : Ticket} {e : Event} {run : Submission}
  {responses : List Response} {fetched : Option Params}
  {answer : Answer (List Response × Option Params)} {result : Result}

variable [Backend σ]

theorem executed_of_ran
    (h : Session.Ran t run (Entry.ofResponses run.seq nextId responses)
      (fetched.or u.session.view.params) u.session e) :
    Session.Executed u.session run (.ok (responses, fetched)) (u.post e).1.session := by
  rw [post_session]
  exact ⟨h.active, h.nextSeq, .recorded nextId h.records h.params⟩

theorem executed_of_failed (he : (u.session.step e).2 = .finished t result)
    (hr : result.isOk = false) (ha : answer.isOk = false) :
    Session.Executed u.session run answer (u.post e).1.session := by
  have h := Session.alike_of_failed he hr
  rw [post_session]
  exact ⟨h.active, h.nextSeq, .failed ha h.data⟩

-- The inspection is answered, one way or another.
theorem executed_of_refreshAnswered (ha : u.session.active = true)
    (hs : u.session.stage? t =
      some (.refreshing run (Entry.ofResponses run.seq nextId responses)))
    (answer : Answer Response) :
    (u.session.step (.singleAnswered t answer)).2 =
        .finished t ((Backend.withParams responses answer).map fun _ => .ran run.seq) ∧
      Session.Executed u.session run (Backend.withParams responses answer)
        (u.post (.singleAnswered t answer)).1.session := by
  cases answer with
  | ok response =>
    have h := Session.ran_refreshAnswered hs ha response
    exact ⟨h.effect, executed_of_ran h⟩
  | error error =>
    have h := Session.ran_refreshAnswered_error hs ha error
    exact ⟨h.effect, executed_of_ran h⟩
  | crash =>
    have h := Session.step_refreshAnswered_crash hs
    exact ⟨h, executed_of_failed h rfl rfl⟩

variable [KeyValueStore τ]

-- The batch has been answered; the run is over, or it is once the parameters are fetched.
theorem Answered.exists_executed {w₀ : Live σ τ} {e₀ : Event} {b : σ}
    {answer : Answer (List Response)}
    (h : Answered w₀ e₀ t (.dispatched run) u (.batchAnswered t answer))
    (ha : u.session.active = true)
    (hb : Backend.askBatch b run.split.statements run.split.directives .consoleRun =
      (u.backend, answer)) :
    ∃ w' answer', Ends 2 2 (w₀.post e₀).1 t w' (answer'.map fun _ => .ran run.seq) ∧
      Session.Executed u.session run answer' w'.session ∧
      Backend.execute b run.split = (w'.backend, answer') := by
  cases hok : answer.isOk with
  | false =>
    have he := Session.step_batchAnswered_failed h.stage hok
    have hends := (h.comes.ends he).mono (by decide : 1 ≤ 2) (by decide : 1 ≤ 2)
    refine ⟨_, answer.map (·, none), by simpa using hends, executed_of_failed he ?_ ?_, ?_⟩
    · exact (Answer.isOk_map ..).trans hok
    · exact (Answer.isOk_map ..).trans hok
    · rw [backend_post_of_finished he]
      exact Backend.execute_of_not_isOk hok hb
  | true =>
    obtain ⟨responses, rfl⟩ := Answer.exists_of_isOk hok
    cases hr : run.split.requiresRefresh with
    | false =>
      have hran := Session.ran_batchAnswered h.stage ha hr responses
      refine ⟨_, .ok (responses, none), (h.comes.ends hran.effect).mono (by decide) (by decide),
        executed_of_ran hran, ?_⟩
      rw [backend_post_of_finished hran.effect]
      exact Backend.execute_of_not_refresh hr hb
    | true =>
      have ⟨hcall, hst⟩ :=
        Session.step_batchAnswered_refreshing h.wellFormed h.stage ha hr responses
      have hasking : Asking u (.batchAnswered t (.ok responses)) t
          (.refreshing run (Entry.ofResponses run.seq u.session.nextId responses)) :=
        ⟨h.wellFormed, h.job, nofun, hst⟩
      cases hs : Backend.askSingle u.backend "" [":params"] with
      | mk b' answer =>
        have ⟨u', hu, hb'⟩ := hasking.exists_answered_single hcall hs
        have ⟨he, hexecuted⟩ :=
          executed_of_refreshAnswered (hu.alike.active.trans ha) hu.stage answer
        refine ⟨_, _, h.comes.ends_of_asks (hcall ▸ .call) (hu.comes.ends he) (by decide),
          hexecuted.of_alike hu.alike, ?_⟩
        rw [backend_post_of_finished he, hb']
        exact Backend.execute_of_refresh hr hb hs

-- A run that was accepted is executed if it is waited for.
theorem exists_executed_accepted (hw : w.session.WellFormed) (ha : w.session.active = true)
    (hj : w.job? t = none) (hs : w.session.stage? t = some (.accepted run)) :
    ∃ w' answer, w.await t = (w', some (answer.map fun _ => .ran run.seq)) ∧
      Session.Executed w.session run answer w'.session ∧
      Backend.execute w.backend run.split = (w'.backend, answer) := by
  have ⟨hcall, hst⟩ := Session.step_start hw hs
  have hasking : Asking w (.start t) t (.dispatched run) := ⟨hw, hj, nofun, hst⟩
  have ⟨u, hu, hb⟩ := hasking.exists_answered_batch hcall rfl
  have ⟨w', answer, hends, hexecuted, hexecute⟩ :=
    hu.exists_executed (hu.alike.active.trans ha) (b := w.backend) (Prod.ext hb.symm rfl)
  have hall := (comes_of_accepted hs).ends_of_asks (hcall ▸ .call) hends (by decide)
  exact ⟨w', answer, hall.await (by decide) (by decide),
    hexecuted.of_alike hu.alike, hexecute⟩

-- To run a text and wait for it is to execute it, and to record what is answered.
theorem exists_executed_submit (h : w.Reachable) (ha : w.session.active = true) (text : String)
    (display : Option String) :
    ∃ w' answer, w.request (.submit text display) =
        (w', some (answer.map fun _ => .ran w.session.nextSeq)) ∧
      Backend.execute w.backend (Script.split text) = (w'.backend, answer) ∧
      w'.session.active = true ∧ w'.session.nextSeq = w.session.nextSeq + 1 ∧
      View.Shows ⟨w.session.nextSeq, text, display⟩ w.session.view w'.session.view answer := by
  have hw := h.sound.wellFormed
  have ⟨he, hst, ha', hnext, hdata⟩ := Session.step_submit hw ha text display
  have ⟨hjob, hbackend⟩ := job?_post_of_quiet hst (.inr he)
  have hsession := w.post_session (.submit text display)
  rw [← hsession] at hst ha' hnext hdata
  have ⟨w', answer, hawait, hexecuted, hexecute⟩ :=
    exists_executed_accepted (hsession ▸ hw.step _) ha' (hjob.trans (h.owned.job?_nextTicket hw))
      hst
  rw [hbackend] at hexecute
  exact ⟨w', answer, (request_of_accepted he).trans hawait, hexecute, hexecuted.active.trans ha',
    hexecuted.nextSeq.trans hnext, hexecuted.view.of_sameData hdata⟩

-- A request that asks for one thing is over with the answer to it.
theorem Answered.request_eq {stage : Stage} {answer : Event} (h : Answered w e t stage u answer)
    (ha : Session.Asks t (w.session.step e).2)
    (he : (u.session.step answer).2 = .finished t result) :
    w.request e = ((u.post answer).1, some result) :=
  (request_of_asks ha).trans ((h.comes.ends he).await (by decide) (by decide))

-- The parameters are fetched, or cannot be.
theorem exists_fetched {answer : Answer Response} (h : w.Reachable)
    (hb : Backend.askSingle w.backend "" [":params"] = (b, answer)) :
    ∃ w' result, w.request .fetchParams = (w', some result) ∧ w'.backend = b ∧
      (result = .crash → answer = .crash) ∧
      Session.Updates w.session.view.favorites w.session w'.session := by
  have hw := h.sound.wellFormed
  have ⟨hcall, hst⟩ := Session.step_fetchParams hw
  have hasking : Asking w .fetchParams w.session.nextTicket .fetching :=
    ⟨hw, h.owned.job?_nextTicket hw, nofun, hst⟩
  have ⟨u, hu, hb⟩ := hasking.exists_answered_single hcall hb
  have ⟨result, he, hcrash, hupdates⟩ := Session.step_fetchAnswered hu.stage answer
  refine ⟨_, result, hu.request_eq (hcall ▸ .call) he, (backend_post_of_finished he).trans hb,
    hcrash, ?_⟩
  rw [post_session]
  exact hu.alike.data.favorites ▸ hupdates.of_alike hu.alike

-- A list of favorites is written, and shown if the store takes it.
theorem exists_saved {favorites : Favorites} {reply : Reply} (h : w.Reachable)
    (ha : w.session.active = true)
    (hact : w.session.act e = w.session.saveFavorites favorites reply) :
    ∃ w' result, w.request e = (w', some result) ∧ w'.backend = w.backend ∧
      Session.Saves favorites reply w.session w'.session
        (KeyValueStore.set w.store w.session.settings.favoritesKey favorites.encode).2 result := by
  have hw := h.sound.wellFormed
  have ⟨hwrite, hst⟩ := Session.step_saveFavorites hw ha hact
  have hasking : Asking w e w.session.nextTicket (.saving favorites reply) :=
    ⟨hw, h.owned.job?_nextTicket hw, nofun, hst⟩
  have ⟨u, hu, hb⟩ := hasking.exists_answered_write hwrite
  have hasks : Session.Asks w.session.nextTicket (w.session.step e).2 := hwrite ▸ .write
  generalize (KeyValueStore.set w.store w.session.settings.favoritesKey favorites.encode).2 = answer
    at hu ⊢
  cases answer with
  | ok =>
    have ⟨he, hupdates⟩ := Session.step_storeAnswered_ok hu.stage
    refine ⟨_, _, hu.request_eq hasks he, (backend_post_of_finished he).trans hb, .saved ?_⟩
    rw [post_session]
    exact hupdates.of_alike hu.alike
  | error error =>
    have he := Session.step_storeAnswered_error hu.stage error
    refine ⟨_, _, hu.request_eq hasks he, (backend_post_of_finished he).trans hb, .refused ?_⟩
    rw [post_session]
    exact (hu.alike.trans (Session.alike_of_failed he rfl)).updates

-- A request that is over at once changes nothing.
theorem request_of_refused (he : (w.session.step e).2 = .finished t result)
    (hr : e.isRequest = true) :
    w.request e = ((w.post e).1, some result) ∧ (w.post e).1.backend = w.backend ∧
      w.session.Alike (w.post e).1.session := by
  refine ⟨request_of_finished he, backend_post_of_finished he, ?_⟩
  rw [post_session]
  exact Session.alike_of_effect (by simp [he]) (by simp [he]) fun _ _ _ => hr

theorem Reachable.seq_lt_nextSeq (h : w.Reachable) :
    ∀ entry ∈ w.session.view.history, entry.seq < w.session.nextSeq := by
  obtain ⟨settings, favorites, nextId, now, backend, store, ms, rfl⟩ := h
  intro entry hm
  have hw := Session.wellFormed_initial settings favorites nextId now
  have hl := Ledger.Tracks.initial settings favorites nextId now
  have hsession := session_after ⟨.initial settings favorites nextId now, backend, store, []⟩ ms
  rw [hsession] at hm ⊢
  exact (hl.after hw _).seq_lt_nextSeq hm

end Live
end QueryConsole
