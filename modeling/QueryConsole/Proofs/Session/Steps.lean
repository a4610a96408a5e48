import QueryConsole.Proofs.Session.Ownership

namespace QueryConsole

-- The entries have become history, those of a run of this text.
structure View.Records (entries : List Entry) (lastText : String) (v v' : View) : Prop where
  history : v'.history = entries ++ v.history
  lastText : v'.lastText = lastText
  favorites : v'.favorites = v.favorites

theorem View.Records.of_sameData {entries : List Entry} {lastText : String} {v₁ v₂ v₃ : View}
    (h : Records entries lastText v₂ v₃) (hd : v₁.SameData v₂) :
    Records entries lastText v₁ v₃ where
  history := hd.history ▸ h.history
  lastText := h.lastText
  favorites := h.favorites.trans hd.favorites

namespace Session

variable {s s' : Session} {e : Event} {effect : Effect} {t : Ticket} {stage : Stage}
  {run : Submission} {entries : List Entry} {params : Option Params}

theorem stage?_enter (hw : s.WellFormed) (ht : t ∈ s.tickets) (stage : Stage) :
    (s.enter t stage).stage? t = some stage := by
  have hn : (s.enter t stage).tickets.Nodup := (tickets_enter s t stage).symm ▸ hw.nodup
  exact stage?_of_mem_operations hn (mem_enter_self ht stage)

theorem stage?_nextTicket (hw : s.WellFormed) : s.stage? s.nextTicket = none :=
  stage?_eq_none_iff.2 fun hm => Nat.lt_irrefl _ (hw.lt_nextTicket _ hm)

theorem stage?_enroll (h : s.stage? s.nextTicket = none) (stage : Stage) :
    (s.enroll stage).stage? s.nextTicket = some stage := by
  have hf : s.operations.find? (·.1 = s.nextTicket) = none := Option.map_eq_none_iff.1 h
  simp [stage?, enroll, List.find?_append, hf]

-- No run was accepted in between, and the same is shown, but for whether the session is loading.
structure Alike (s s' : Session) : Prop where
  active : s'.active = s.active
  nextSeq : s'.nextSeq = s.nextSeq
  data : s.view.SameData s'.view

theorem Alike.trans {s'' : Session} (h : s.Alike s') (h' : s'.Alike s'') : s.Alike s'' where
  active := h'.active.trans h.active
  nextSeq := h'.nextSeq.trans h.nextSeq
  data := h.data.trans h'.data

theorem sameData_settle_of {v : View} (h : v.SameData s.view) : v.SameData s.settle.view :=
  h.trans (sameData_settle s)

theorem alike_settle (s : Session) : s.Alike s.settle where
  active := settle_active s
  nextSeq := settle_nextSeq s
  data := sameData_settle s

-- A step that accepts no run and brings no operation to its end with success.
theorem Transition.alike (h : Transition s e s' effect) (hr : e ≠ .reset) (hs : e ≠ .shutdown)
    (ha : ∀ t, effect ≠ .accepted t)
    (hf : ∀ t reply, effect = .finished t (.ok reply) → e.isRequest = true) : s.Alike s' := by
  cases h
  case reset => exact absurd rfl hr
  case shutdown => exact absurd rfl hs
  case accepted => exact absurd rfl (ha _)
  case ran | ranStale | ranRefreshed | fetched | saved => exact nomatch hf _ _ rfl
  case runFailed | runDropped =>
    rw [conclude_eq]
    exact ⟨rfl, rfl, rfl, rfl, rfl, rfl⟩
  all_goals exact ⟨rfl, rfl, rfl, rfl, rfl, rfl⟩

theorem alike_step (hr : e ≠ .reset) (hs : e ≠ .shutdown) (ha : ∀ t, (s.step e).2 ≠ .accepted t)
    (hf : ∀ t reply, (s.step e).2 = .finished t (.ok reply) → e.isRequest = true) :
    s.Alike (s.step e).1 :=
  ((act_transition s e).alike hr hs ha hf).trans (alike_settle _)

theorem alike_advance (s : Session) (ms : Nat) : s.Alike (s.step (.advance ms)).1 :=
  alike_step nofun nofun nofun nofun

-- The operation asks for something, and waits for the answer.
inductive Asks (t : Ticket) : Effect → Prop
  | call {call : Call} : Asks t (.call t call)
  | write {key text : String} : Asks t (.write t key text)

-- A reset or a shutdown says nothing.
theorem alike_of_effect (he : (s.step e).2 ≠ .none) (ha : ∀ t, (s.step e).2 ≠ .accepted t)
    (hf : ∀ t reply, (s.step e).2 = .finished t (.ok reply) → e.isRequest = true) :
    s.Alike (s.step e).1 := by
  refine alike_step ?_ ?_ ha hf
  all_goals
    rintro rfl
    exact he rfl

theorem alike_of_asks (h : Asks t (s.step e).2) : s.Alike (s.step e).1 := by
  refine alike_of_effect ?_ ?_ ?_
  all_goals
    generalize (s.step e).2 = effect at h
    cases h <;> simp

-- What ends an operation without success changes nothing.
theorem alike_of_failed (h : (s.step e).2 = .finished t result) (hr : result.isOk = false) :
    s.Alike (s.step e).1 := by
  refine alike_of_effect (by simp [h]) (by simp [h]) fun t' reply hf => ?_
  cases h.symm.trans hf
  cases hr

theorem step_submit (hw : s.WellFormed) (ha : s.active = true) (text : String)
    (display : Option String) :
    (s.step (.submit text display)).2 = .accepted s.nextTicket ∧
      (s.step (.submit text display)).1.stage? s.nextTicket =
        some (.accepted ⟨s.nextSeq, text, display⟩) ∧
      (s.step (.submit text display)).1.active = true ∧
      (s.step (.submit text display)).1.nextSeq = s.nextSeq + 1 ∧
      s.view.SameData (s.step (.submit text display)).1.view := by
  simp only [step, act, submit, if_pos ha, settle_stage?, settle_active, settle_nextSeq]
  exact ⟨trivial, stage?_enroll (stage?_nextTicket hw) _, ha, rfl,
    sameData_settle_of ⟨rfl, rfl, rfl, rfl⟩⟩

theorem step_start (hw : s.WellFormed) (hs : s.stage? t = some (.accepted run)) :
    (s.step (.start t)).2 =
        .call t (.batch run.split.statements run.split.directives .consoleRun) ∧
      (s.step (.start t)).1.stage? t = some (.dispatched run) := by
  simp only [step, act, hs, settle_stage?]
  exact ⟨trivial, stage?_enter hw (mem_tickets_of_stage? hs) _⟩

theorem step_advance (s : Session) (ms : Nat) :
    (s.step (.advance ms)).2 = .none ∧ (s.step (.advance ms)).1.now = s.now + ms ∧
      ∀ t, (s.step (.advance ms)).1.stage? t = s.stage? t := by
  simp only [step, act, settle_now, settle_stage?]
  exact ⟨trivial, trivial, fun t => rfl⟩

theorem step_batchAnswered_failed (hs : s.stage? t = some (.dispatched run))
    {answer : Answer (List Response)} (hn : answer.isOk = false) :
    (s.step (.batchAnswered t answer)).2 = .finished t (answer.map fun _ => .ran run.seq) := by
  cases answer with
  | ok => exact nomatch hn
  | error | crash =>
    simp only [step, act, hs]
    rfl

theorem step_batchAnswered_refreshing (hw : s.WellFormed)
    (hs : s.stage? t = some (.dispatched run)) (ha : s.active = true)
    (hr : run.split.requiresRefresh = true) (responses : List Response) :
    (s.step (.batchAnswered t (.ok responses))).2 = .call t inspection ∧
      (s.step (.batchAnswered t (.ok responses))).1.stage? t =
        some (.refreshing run (Entry.ofResponses run.seq s.nextId responses)) := by
  simp only [step, act, hs, batchAnswered, if_pos ha, if_pos hr, settle_stage?]
  refine ⟨trivial, stage?_enter ⟨hw.nodup, hw.lt_nextTicket, hw.idle, hw.replies⟩ ?_ _⟩
  exact mem_tickets_of_stage? (s := s) hs

-- The run `t` ends, and these entries are its record.
structure Ran (t : Ticket) (run : Submission) (entries : List Entry) (params : Option Params)
    (s : Session) (e : Event) : Prop where
  effect : (s.step e).2 = .finished t (.ok (.ran run.seq))
  active : (s.step e).1.active = s.active
  nextSeq : (s.step e).1.nextSeq = s.nextSeq
  records : View.Records entries run.lastText s.view (s.step e).1.view
  params : (s.step e).1.view.params = params

theorem ran_of_act (h : s.act e = (s', .finished t (.ok (.ran run.seq))))
    (ha : s'.active = s.active) (hn : s'.nextSeq = s.nextSeq)
    (hv : View.Records entries run.lastText s.view s'.view) (hp : s'.view.params = params) :
    Ran t run entries params s e := by
  constructor <;> simp only [step_eq, h, settle_active, settle_nextSeq, settle_params]
  case active => exact ha
  case nextSeq => exact hn
  case params => exact hp
  case records =>
    have hd := sameData_settle s'
    exact ⟨hd.history.trans hv.history, hd.lastText.trans hv.lastText,
      hd.favorites.trans hv.favorites⟩

theorem ran_batchAnswered (hs : s.stage? t = some (.dispatched run)) (ha : s.active = true)
    (hr : run.split.requiresRefresh = false) (responses : List Response) :
    Ran t run (Entry.ofResponses run.seq s.nextId responses) s.view.params s
      (.batchAnswered t (.ok responses)) := by
  have hr : ¬run.split.requiresRefresh = true := by simp [hr]
  have hact : s.act (.batchAnswered t (.ok responses)) =
      (({ s with nextId := s.nextId + responses.length }.publish
        (s.view.merge (Entry.ofResponses run.seq s.nextId responses) run.lastText)).conclude t,
          .finished t (.ok (.ran run.seq))) := by
    simp only [act, hs, batchAnswered, if_pos ha, if_neg hr, merge, Entry.length_ofResponses]
    rfl
  rw [conclude_eq] at hact
  exact ran_of_act hact rfl rfl ⟨rfl, rfl, rfl⟩ rfl

theorem ran_refreshAnswered (hs : s.stage? t = some (.refreshing run entries))
    (ha : s.active = true) (response : Response) :
    Ran t run entries (some (response.localParams.getD .empty)) s
      (.singleAnswered t (.ok response)) := by
  have ha' : (s.setParams response).active = true := ha
  have hact : s.act (.singleAnswered t (.ok response)) =
      (((s.setParams response).publish
        ((s.setParams response).view.merge entries run.lastText)).conclude t,
          .finished t (.ok (.ran run.seq))) := by
    simp only [act, hs, refreshAnswered, if_pos ha, merge_of_active ha']
  rw [conclude_eq] at hact
  exact ran_of_act hact rfl rfl ⟨rfl, rfl, rfl⟩ rfl

-- The parameters could not be fetched, so the old ones stay.
theorem ran_refreshAnswered_error (hs : s.stage? t = some (.refreshing run entries))
    (ha : s.active = true) (error : ConsoleError) :
    Ran t run entries s.view.params s (.singleAnswered t (.error error)) := by
  have hact : s.act (.singleAnswered t (.error error)) =
      ((s.publish (s.view.merge entries run.lastText)).conclude t,
        .finished t (.ok (.ran run.seq))) := by
    simp only [act, hs, refreshAnswered, merge_of_active ha]
  rw [conclude_eq] at hact
  exact ran_of_act hact rfl rfl ⟨rfl, rfl, rfl⟩ rfl

theorem step_refreshAnswered_crash (hs : s.stage? t = some (.refreshing run entries)) :
    (s.step (.singleAnswered t .crash)).2 = .finished t .crash := by
  simp only [step, act, hs]
  rfl

-- Of what the session shows, only the parameters may have changed, and the favorites to these.
structure Updates (favorites : Favorites) (s s' : Session) : Prop where
  active : s'.active = s.active
  nextSeq : s'.nextSeq = s.nextSeq
  history : s'.view.history = s.view.history
  lastText : s'.view.lastText = s.view.lastText
  favorites : s'.view.favorites = favorites

theorem Alike.updates (h : s.Alike s') : Updates s.view.favorites s s' where
  active := h.active
  nextSeq := h.nextSeq
  history := h.data.history
  lastText := h.data.lastText
  favorites := h.data.favorites

theorem Updates.of_alike {v : Session} {favorites : Favorites} (h : Updates favorites v s')
    (hv : s.Alike v) : Updates favorites s s' where
  active := h.active.trans hv.active
  nextSeq := h.nextSeq.trans hv.nextSeq
  history := h.history.trans hv.data.history
  lastText := h.lastText.trans hv.data.lastText
  favorites := h.favorites

theorem Updates.settle {favorites : Favorites} (h : Updates favorites s s') :
    Updates favorites s s'.settle where
  active := (settle_active s').trans h.active
  nextSeq := (settle_nextSeq s').trans h.nextSeq
  history := (settle_history s').trans h.history
  lastText := (settle_lastText s').trans h.lastText
  favorites := (settle_favorites s').trans h.favorites

theorem step_fetchParams (hw : s.WellFormed) :
    (s.step .fetchParams).2 = .call s.nextTicket inspection ∧
      (s.step .fetchParams).1.stage? s.nextTicket = some .fetching := by
  simp only [step, act, settle_stage?]
  exact ⟨trivial, stage?_enroll (stage?_nextTicket hw) _⟩

-- After shutdown the parameters are still asked for, but not shown.
theorem step_fetchAnswered (hs : s.stage? t = some .fetching) (answer : Answer Response) :
    ∃ result, (s.step (.singleAnswered t answer)).2 = .finished t result ∧
      (result = .crash → answer = .crash) ∧
      Updates s.view.favorites s (s.step (.singleAnswered t answer)).1 := by
  simp only [step, act, hs]
  cases answer with
  | crash | error => exact ⟨_, rfl, by simp, .settle ⟨rfl, rfl, rfl, rfl, rfl⟩⟩
  | ok response =>
    rw [fetchAnswered]
    split
    all_goals exact ⟨_, rfl, by simp, .settle ⟨rfl, rfl, rfl, rfl, rfl⟩⟩

theorem step_saveFavorites {favorites : Favorites} {reply : Reply} (hw : s.WellFormed)
    (ha : s.active = true) (he : s.act e = s.saveFavorites favorites reply) :
    (s.step e).2 = .write s.nextTicket s.settings.favoritesKey favorites.encode ∧
      (s.step e).1.stage? s.nextTicket = some (.saving favorites reply) := by
  rw [saveFavorites, if_pos ha] at he
  simp only [step_eq, he, settle_stage?]
  exact ⟨trivial, stage?_enroll (stage?_nextTicket hw) _⟩

theorem step_storeAnswered_ok {favorites : Favorites} {reply : Reply}
    (hs : s.stage? t = some (.saving favorites reply)) :
    (s.step (.storeAnswered t (.ok ()))).2 = .finished t (.ok reply) ∧
      Updates favorites s (s.step (.storeAnswered t (.ok ()))).1 := by
  simp only [step, act, hs]
  exact ⟨rfl, .settle ⟨rfl, rfl, rfl, rfl, rfl⟩⟩

theorem step_storeAnswered_error {favorites : Favorites} {reply : Reply}
    (hs : s.stage? t = some (.saving favorites reply)) (error : ConsoleError) :
    (s.step (.storeAnswered t (.error error))).2 = .finished t (.error error) := by
  simp only [step, act, hs]
  rfl

end Session
end QueryConsole
