import QueryConsole.Proofs.Backend.Recorder
import QueryConsole.Proofs.Console.Handle

namespace QueryConsole

-- Of all that is shown, a reset only leaves the favorites.
theorem Session.step_reset (s : Session) :
    (s.step .reset).2 = .none ∧ (s.step .reset).1.active = s.active ∧
      (s.step .reset).1.nextSeq = s.nextSeq ∧
      (s.step .reset).1.view.favorites = s.view.favorites ∧
      ((s.step .reset).1.view.history = [] ∨
        (s.step .reset).1.view.history = s.view.history) := by
  cases ha : s.active with
  | true =>
    simp only [step, act, ha, if_true, settle_active, settle_nextSeq, settle_favorites,
      settle_history]
    exact ⟨trivial, ha, rfl, rfl, .inl rfl⟩
  | false =>
    simp only [step, act, ha, Bool.false_eq_true, if_false, settle_active, settle_nextSeq,
      settle_favorites, settle_history, or_true, and_self]

namespace Console

namespace Input

-- The command that was typed, if it is understood.
def command? : Input → Option Command
  | .block _ => none
  | .command line => (Command.parse line).toOption

-- Whether the console ends with this input.
def isQuit : Input → Bool
  | block _ => false
  | command line =>
    match Command.parse line with
    | .ok .quit => true
    | _ => false

end Input

variable {σ τ : Type} [Backend σ] [KeyValueStore τ]

-- The text that an input has the session run.
def Input.text? (splitOnly : Bool) (w : Live σ τ) : Input → Option String
  | .block text => if splitOnly then none else some text
  | .command line =>
    match Command.parse line with
    | .ok (.run name) => w.session.view.favorites.get? name
    | _ => none

-- What is sent for a text.
def batchOf (text : String) : Call :=
  .batch (Script.split text).statements (Script.split text).directives .consoleRun

-- These entries are those of the run that was next before, as its batch was answered.
structure EntriesOfRun (before after : Session) (responses : List Response)
    (entries : List Entry) : Prop where
  answered : entries.map (·.response) = responses
  texts : entries.map (·.text) = responses.map (·.statement)
  seq : ∀ entry ∈ entries, entry.seq = before.nextSeq
  history : after.view.history = entries ++ before.view.history

-- From `w` to `w'` a text was run, with these exchanges with the backend and this report.
structure Runs (w : Live (Recorder σ) τ) (text : String) (new : List Exchange)
    (w' : Live (Recorder σ) τ) (report : Option Report) : Prop where
  moves : w.ByMoves w'
  active : w'.session.active = w.session.active
  nextSeq : w'.session.nextSeq = w.session.nextSeq + 1
  favorites : w'.session.view.favorites = w.session.view.favorites
  history : ∀ entry ∈ w'.session.view.history,
    entry ∈ w.session.view.history ∨ entry.seq = w.session.nextSeq
  exchanges : w'.backend.exchanges = w.backend.exchanges ++ new
  batches : Exchange.batches new = [batchOf text]
  shown : ∀ responses, .batch (.ok responses) ∈ new → .single .crash ∉ new →
    ∃ entries, report = some (.results entries) ∧
      EntriesOfRun w.session w'.session responses entries
  lastText : (∃ entries, report = some (.results entries)) ∧ w'.session.view.lastText = text ∨
    (∀ entries, report ≠ some (.results entries)) ∧
      w'.session.view.lastText = w.session.view.lastText
  crash : report = none → ∃ exchange ∈ new, exchange.isCrash = true

-- From `w` to `w'` nothing was run. What a command of this kind changes was changed, if it is one,
-- and nothing else.
structure Leaves (command? : Option Command) (w : Live (Recorder σ) τ) (new : List Exchange)
    (w' : Live (Recorder σ) τ) (report : Option Report) : Prop where
  moves : w.ByMoves w'
  active : w'.session.active = w.session.active
  nextSeq : w'.session.nextSeq = w.session.nextSeq
  favorites : ∀ name, command? ≠ some (.save name) → command? ≠ some (.forget name) →
    w'.session.view.favorites.get? name = w.session.view.favorites.get? name
  history : ∀ entry ∈ w'.session.view.history, entry ∈ w.session.view.history
  lastText : command? ≠ some .reset → w'.session.view.lastText = w.session.view.lastText
  exchanges : w'.backend.exchanges = w.backend.exchanges ++ new
  batches : Exchange.batches new = []
  others : ∀ entries, report ≠ some (.results entries)
  crash : report = none → ∃ exchange ∈ new, exchange.isCrash = true

-- What an input comes to.
inductive Handles (splitOnly : Bool) (w : Live (Recorder σ) τ) (input : Input) :
    List Exchange → Live (Recorder σ) τ → Option Step → Prop
  | quits (hq : input.isQuit = true) (ht : input.text? splitOnly w = none) :
      Handles splitOnly w input [] w (some ⟨[], true⟩)
  | runs (hq : input.isQuit = false) (ht : input.text? splitOnly w = some text)
      (ha : w.session.active = true) (h : Runs w text new w' report) :
      Handles splitOnly w input new w' (report.map .one)
  | leaves (hq : input.isQuit = false)
      (ht : w.session.active = true → input.text? splitOnly w = none)
      (h : Leaves input.command? w new w' report) :
      Handles splitOnly w input new w' (report.map .one)

section

variable {w w' : Live (Recorder σ) τ} {splitOnly : Bool} {input : Input} {text : String}
  {command : Command} {command? : Option Command} {favorites : Favorites} {reply : Reply}
  {result : Result} {report : Option Report} {answer : Option Step} {new : List Exchange}
  {e : Event}

theorem exists_runs (hw : w.Reachable) (ha : w.session.active = true) (text : String) :
    ∃ w' report new, runText w text = (w', report) ∧ Runs w text new w' report := by
  have ⟨w', report, answer, hr, hruns⟩ := exists_runText hw ha text
  have ⟨new, hx, hheard⟩ := Recorder.exists_execute w.backend (Script.split text)
  rw [hruns.execute] at hx hheard
  have hmoves := hruns.moves
  have hactive := hruns.active.trans ha.symm
  have hnext := hruns.nextSeq
  cases answer with
  | ok answer =>
    obtain ⟨responses, fetched⟩ := answer
    have ⟨nextId, hreport, hrecords⟩ := hruns.exists_results hw
    refine ⟨w', report, new, hr, hmoves, hactive, hnext, hrecords.favorites, fun entry hm => ?_,
      hx, hheard.batches, fun other hm hn => ?_, .inl ⟨⟨_, hreport⟩, hrecords.lastText⟩, ?_⟩
    · rw [hrecords.history, List.mem_append] at hm
      exact hm.symm.imp_right fun hm => Entry.seq_of_mem_ofResponses _ _ hm
    · have ⟨_, hanswer⟩ := hheard.answered other hm hn
      cases hanswer
      exact ⟨_, hreport, Entry.map_response_ofResponses .., Entry.map_text_ofResponses ..,
        fun _ hm => Entry.seq_of_mem_ofResponses _ _ hm, hrecords.history⟩
    · rw [hreport]
      exact nofun
  | error | crash =>
    have hdata : w.session.view.SameData w'.session.view := by
      cases hruns.view
      assumption
    have hreport := hruns.report
    have hne : ∀ entries, report ≠ some (.results entries) := by
      rw [hreport]
      exact nofun
    refine ⟨w', report, new, hr, hmoves, hactive, hnext, hdata.favorites,
      fun entry hm => .inl (hdata.history ▸ hm), hx, hheard.batches, fun other hm hn => ?_,
      .inr ⟨hne, hdata.lastText⟩, fun hnone => ?_⟩
    · have ⟨_, hanswer⟩ := hheard.answered other hm hn
      cases hanswer
    · first | exact hheard.crash rfl | exact nomatch hreport.symm.trans hnone

-- The reply to a request decides how it is reported.
theorem exists_ask (hr : w.request e = (w', some result)) {f : View → Reply → Report}
    (hf : ∀ reply entries, result = .ok reply → f w'.session.view reply ≠ .results entries) :
    ∃ report, ask w e f = (w', report) ∧ (report = none → result = .crash) ∧
      ∀ entries, report ≠ some (.results entries) := by
  rw [ask, hr]
  cases result with
  | ok reply => exact ⟨_, rfl, by simp, fun entries h => hf reply entries rfl (Option.some.inj h)⟩
  | error => exact ⟨_, rfl, by simp, by simp⟩
  | crash => exact ⟨_, rfl, fun _ => rfl, by simp⟩

theorem Leaves.refl (command? : Option Command) (w : Live (Recorder σ) τ) {report : Report}
    (hr : ∀ entries, report ≠ .results entries) : Leaves command? w [] w (some report) where
  moves := .refl w
  active := rfl
  nextSeq := rfl
  favorites _ _ _ := rfl
  history _ hm := hm
  lastText _ := rfl
  exchanges := (List.append_nil _).symm
  batches := rfl
  others entries h := hr entries (Option.some.inj h)
  crash := nofun

-- A request that was answered, and only changed the favorites.
theorem exists_leaves (hr : w.request e = (w', some result)) (he : e.isAnswer = false)
    (hu : Session.Updates favorites w.session w'.session)
    (hs : ∀ name, command? ≠ some (.save name) → command? ≠ some (.forget name) →
      favorites.get? name = w.session.view.favorites.get? name)
    (hx : w'.backend.exchanges = w.backend.exchanges ++ new) (hb : Exchange.batches new = [])
    (hc : result = .crash → ∃ exchange ∈ new, exchange.isCrash = true) {f : View → Reply → Report}
    (hf : ∀ reply entries, result = .ok reply → f w'.session.view reply ≠ .results entries) :
    ∃ report, ask w e f = (w', report) ∧ Leaves command? w new w' report := by
  have ⟨report, hask, hcrash, hne⟩ := exists_ask hr hf
  have hmoves := w.byMoves_request he
  rw [hr] at hmoves
  exact ⟨report, hask, hmoves, hu.active, hu.nextSeq, fun name hsave hforget =>
    hu.favorites ▸ hs name hsave hforget, fun entry hm => hu.history ▸ hm, fun _ => hu.lastText,
    hx, hb, hne, fun hnone => hc (hcrash hnone)⟩

-- A request that is over at once.
theorem exists_leaves_of_refused (he : (w.session.step e).2 = .finished t result)
    (hr : e.isRequest = true) (ha : e.isAnswer = false) (hc : result ≠ .crash)
    {f : View → Reply → Report}
    (hf : ∀ view reply entries, result = .ok reply → f view reply ≠ .results entries) :
    ∃ w' report, ask w e f = (w', report) ∧ Leaves command? w [] w' report := by
  have ⟨hrequest, hbackend, halike⟩ := Live.request_of_refused he hr
  have hx : (w.post e).1.backend.exchanges = w.backend.exchanges ++ [] :=
    hbackend ▸ (List.append_nil _).symm
  exact ⟨_, exists_leaves hrequest ha halike.updates (fun _ _ _ => rfl) hx rfl
    (fun h => absurd h hc) fun reply entries => hf _ reply entries⟩

-- A new list of favorites, which the store may refuse.
theorem exists_leaves_of_saveFavorites (hw : w.Reachable)
    (hact : w.session.act e = w.session.saveFavorites favorites reply) (he : e.isRequest = true)
    (ha : e.isAnswer = false)
    (hs : ∀ name, command? ≠ some (.save name) → command? ≠ some (.forget name) →
      favorites.get? name = w.session.view.favorites.get? name)
    {f : View → Reply → Report} (hf : ∀ view entries, f view reply ≠ .results entries) :
    ∃ w' report, ask w e f = (w', report) ∧ Leaves command? w [] w' report := by
  cases hactive : w.session.active with
  | false =>
    have he' : (w.session.step e).2 = .finished w.session.nextTicket (.error .shutDown) := by
      simp [Session.step_eq, hact, Session.saveFavorites, hactive, Session.answerAtOnce]
    exact exists_leaves_of_refused he' he ha (by simp) (by simp)
  | true =>
    obtain ⟨w', result, hr, hbackend, hsaves⟩ := Live.exists_saved hw hactive hact
    have hx : w'.backend.exchanges = w.backend.exchanges ++ [] :=
      hbackend ▸ (List.append_nil _).symm
    refine ⟨w', ?_⟩
    generalize (KeyValueStore.set w.store w.session.settings.favoritesKey
      (Favorites.encode favorites)).2 = answer at hsaves
    cases hsaves with
    | saved hupdates =>
      refine exists_leaves hr ha hupdates hs hx rfl (by simp) fun reply' entries h => ?_
      cases h
      exact hf _ entries
    | refused hupdates =>
      exact exists_leaves hr ha hupdates (fun _ _ _ => rfl) hx rfl (by simp) (by simp)

theorem exists_leaves_of_forget (hw : w.Reachable) (name : String) :
    ∃ w' report, execute w (.forget name) = (w', report) ∧
      Leaves (some (.forget name)) w [] w' report := by
  rw [execute]
  cases hc : w.session.view.favorites.contains name with
  | true =>
    have hact : w.session.act (.removeFavorite name) = _ := if_pos hc
    refine exists_leaves_of_saveFavorites hw hact rfl rfl (fun other _ hforget => ?_) (by simp)
    have hne : name ≠ other := fun h => hforget (h ▸ rfl)
    exact (Table.get?_erase ..).trans (if_neg hne)
  | false =>
    have he : (w.session.step (.removeFavorite name)).2 =
        .finished w.session.nextTicket (.ok (.removed false)) := by
      simp [Session.step, Session.act, hc, Session.answerAtOnce]
    refine exists_leaves_of_refused he rfl rfl (by simp) fun view reply entries h => ?_
    cases h
    simp [noFavorite]

theorem exists_leaves_of_save (hw : w.Reachable) (name : String) :
    ∃ w' report, execute w (.save name) = (w', report) ∧
      Leaves (some (.save name)) w [] w' report := by
  rw [execute]
  refine exists_leaves_of_saveFavorites hw rfl rfl rfl (fun other hsave _ => ?_) (by simp)
  have hne : name ≠ other := fun h => hsave (h ▸ rfl)
  exact (Table.get?_insert ..).trans (if_neg hne)

theorem exists_leaves_of_params (hw : w.Reachable) :
    ∃ w' report new, execute w .params = (w', report) ∧
      Leaves (some .params) w new w' report := by
  cases hb : Backend.askSingle w.backend "" [":params"] with
  | mk b answer =>
    have ⟨w', result, hr, hbackend, hcrash, hupdates⟩ := Live.exists_fetched hw hb
    have ⟨said, hx, hsaid⟩ := Recorder.exists_askSingle hb
    have hbatches : Exchange.batches (.sent (.single "" [":params"]) :: said) = [] := by
      rcases hsaid with rfl | ⟨rfl, -⟩ <;> rfl
    have hleaves : ∃ report, ask w .fetchParams (fun view _ => .params view.params) =
        (w', report) ∧
        Leaves (some .params) w (.sent (.single "" [":params"]) :: said) w' report := by
      refine exists_leaves hr rfl hupdates (fun _ _ _ => rfl) (hbackend ▸ hx) hbatches
        (fun h => ?_) (fun _ _ _ => nofun)
      obtain rfl := hcrash h
      obtain rfl : said = [.single .crash] := hsaid.resolve_right (by simp)
      exact ⟨.single .crash, by simp, rfl⟩
    exact ⟨w', hleaves.imp fun _ h => ⟨_, h⟩⟩

theorem exists_leaves_of_reset (w : Live (Recorder σ) τ) :
    ∃ w' report, execute w .reset = (w', report) ∧ Leaves (some .reset) w [] w' report := by
  have ⟨heffect, hactive, hnext, hfavorites, hhistory⟩ := w.session.step_reset
  have hsession := w.post_session .reset
  rw [← hsession] at hactive hnext hfavorites hhistory
  have hbackend : (w.post .reset).1.backend = w.backend := by
    rw [Live.fst_post, heffect]
    rfl
  refine ⟨_, _, rfl, w.byMoves_take (m := .event .reset) rfl, hactive, hnext,
    fun name _ _ => by rw [hfavorites], fun entry hm => ?_, fun h => absurd rfl h,
    hbackend ▸ (List.append_nil _).symm, rfl, nofun, nofun⟩
  rcases hhistory with hnone | hsame
  · exact absurd (hnone ▸ hm) List.not_mem_nil
  · exact hsame ▸ hm

-- The session has been shut down.
theorem exists_leaves_of_runText (command? : Option Command) (ha : w.session.active = false)
    (text : String) : ∃ w' report, runText w text = (w', report) ∧
      Leaves command? w [] w' report := by
  have he : (w.session.step (.submit text none)).2 =
      .finished w.session.nextTicket (.error .shutDown) := by
    simp [Session.step, Session.act, Session.submit, ha, Session.answerAtOnce]
  exact exists_leaves_of_refused he rfl rfl (by simp) (by simp)

-- A command that runs no favorite, or can run none any more.
theorem exists_leaves_of_execute (hw : w.Reachable) (hq : command ≠ .quit)
    (hc : ∀ name, command = .run name → w.session.active = true →
      w.session.view.favorites.get? name = none) :
    ∃ w' report new, execute w command = (w', report) ∧
      Leaves (some command) w new w' report := by
  cases command with
  | favorites | history | help => exact ⟨w, _, [], rfl, .refl _ w (by simp)⟩
  | quit => exact absurd rfl hq
  | save name => exact (exists_leaves_of_save hw name).imp fun _ => .imp fun _ h => ⟨_, h⟩
  | forget name => exact (exists_leaves_of_forget hw name).imp fun _ => .imp fun _ h => ⟨_, h⟩
  | params => exact exists_leaves_of_params hw
  | reset => exact (exists_leaves_of_reset w).imp fun _ => .imp fun _ h => ⟨_, h⟩
  | run name =>
    rw [execute]
    cases hget : w.session.view.favorites.get? name with
    | none => exact ⟨w, _, [], rfl, .refl _ w (by simp [noFavorite])⟩
    | some text =>
      have ha : w.session.active = false := by
        cases ha : w.session.active with
        | false => rfl
        | true => simp [hc name rfl ha] at hget
      exact (exists_leaves_of_runText _ ha text).imp fun _ => .imp fun _ h => ⟨_, h⟩

theorem Handles.moves (h : Handles splitOnly w input new w' answer) : w.ByMoves w' := by
  cases h with
  | quits => exact .refl w
  | runs _ _ _ hruns => exact hruns.moves
  | leaves _ _ hleaves => exact hleaves.moves

theorem Handles.exchanges (h : Handles splitOnly w input new w' answer) :
    w'.backend.exchanges = w.backend.exchanges ++ new := by
  cases h with
  | quits => exact (List.append_nil _).symm
  | runs _ _ _ hruns => exact hruns.exchanges
  | leaves _ _ hleaves => exact hleaves.exchanges

-- There is one report on an input, unless the backend broke down over it.
theorem Handles.exists_report (h : Handles splitOnly w input new w' answer)
    (hq : input.isQuit = false) :
    (∃ report, answer = some (.one report)) ∨
      answer = none ∧ ∃ exchange ∈ new, exchange.isCrash = true := by
  have hone {report : Option Report}
      (hc : report = none → ∃ exchange ∈ new, exchange.isCrash = true) :
      (∃ one, report.map Step.one = some (.one one)) ∨
        report.map Step.one = none ∧ ∃ exchange ∈ new, exchange.isCrash = true := by
    cases report with
    | none => exact .inr ⟨rfl, hc rfl⟩
    | some report => exact .inl ⟨report, rfl⟩
  cases h with
  | quits hq' => exact nomatch hq.symm.trans hq'
  | runs _ _ _ hruns => exact hone hruns.crash
  | leaves _ _ hleaves => exact hone hleaves.crash

theorem handle_of_isQuit (w : Live (Recorder σ) τ) (splitOnly : Bool)
    (hq : input.isQuit = true) :
    handle splitOnly w input = (w, some ⟨[], true⟩) ∧ input.text? splitOnly w = none := by
  cases input with
  | block text => exact nomatch hq
  | command line =>
    rw [Input.isQuit] at hq
    split at hq
    case h_1 hp => simp only [handle, Input.text?, hp, and_self]
    case h_2 => exact absurd hq Bool.false_ne_true

theorem handle_of_text? (h : input.text? splitOnly w = some text) :
    handle splitOnly w input = ((runText w text).1, (runText w text).2.map .one) := by
  cases input with
  | block text' =>
    cases splitOnly with
    | true => exact nomatch h
    | false =>
      cases h
      rfl
  | command line =>
    rw [Input.text?] at h
    split at h
    case h_1 name hp => simp only [handle, hp, execute, h]
    case h_2 => cases h

-- An input that runs no text, or can run none any more.
theorem exists_leaves_of_handle (hw : w.Reachable) (hq : input.isQuit = false)
    (ht : w.session.active = true → input.text? splitOnly w = none) :
    ∃ w' report new, handle splitOnly w input = (w', report.map .one) ∧
      Leaves input.command? w new w' report := by
  cases input with
  | block text =>
    rw [handle]
    cases splitOnly with
    | true => exact ⟨w, some _, [], rfl, .refl _ w (by simp)⟩
    | false =>
      have ha : w.session.active = false := by
        simpa [Input.text?] using ht
      obtain ⟨w', report, hr, hleaves⟩ := exists_leaves_of_runText none ha text
      exact ⟨w', report, [], by rw [hr]; rfl, hleaves⟩
  | command line =>
    rw [handle, Input.command?]
    rw [Input.isQuit] at hq
    rw [Input.text?] at ht
    cases hp : Command.parse line with
    | error e => exact ⟨w, some _, [], rfl, .refl _ w (by simp)⟩
    | ok command =>
      have hne : command ≠ .quit := by
        rintro rfl
        simp [hp] at hq
      obtain ⟨w', report, new, hr, hleaves⟩ := exists_leaves_of_execute hw hne fun name hc ha => by
        simpa [hp, hc] using ht ha
      refine ⟨w', report, new, ?_, hleaves⟩
      cases command <;> first | exact absurd rfl hne | simp only [hr]

theorem exists_handles (hw : w.Reachable) (splitOnly : Bool) (input : Input) :
    ∃ w' answer new, handle splitOnly w input = (w', answer) ∧
      Handles splitOnly w input new w' answer := by
  cases hq : input.isQuit with
  | true =>
    have ⟨hr, ht⟩ := handle_of_isQuit w splitOnly hq
    exact ⟨w, _, [], hr, .quits hq ht⟩
  | false =>
    by_cases hruns : w.session.active = true ∧ ∃ text, input.text? splitOnly w = some text
    case pos =>
      have ⟨ha, text, ht⟩ := hruns
      have ⟨w', report, new, hr, h⟩ := exists_runs hw ha text
      exact ⟨w', _, new, by rw [handle_of_text? ht, hr], .runs hq ht ha h⟩
    case neg =>
      have ht (ha : w.session.active = true) : input.text? splitOnly w = none :=
        Option.eq_none_iff_forall_ne_some.2 fun text ht => hruns ⟨ha, text, ht⟩
      have ⟨w', report, new, hr, h⟩ := exists_leaves_of_handle hw hq ht
      exact ⟨w', _, new, hr, .leaves hq ht h⟩

end

end Console
end QueryConsole
