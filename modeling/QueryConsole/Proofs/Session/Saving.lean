import QueryConsole.Backend.Mock
import QueryConsole.Proofs.Favorites
import QueryConsole.Proofs.Session.Jobs

namespace QueryConsole

namespace Session

variable {s s' : Session} {e : Event} {effect : Effect}

-- Only a write that was taken changes the favorites.
theorem Transition.favorites_eq (h : Transition s e s' effect)
    (he : ∀ t, e ≠ .storeAnswered t (.ok ())) : s'.view.favorites = s.view.favorites := by
  cases h
  case saved t _ _ _ => exact absurd rfl (he t)
  case ran | ranStale | ranRefreshed | runFailed | runDropped =>
    simp [conclude_eq, publish, setParams, View.merge]
  all_goals rfl

theorem favorites_step (he : ∀ t, e ≠ .storeAnswered t (.ok ())) :
    (s.step e).1.view.favorites = s.view.favorites := by
  rw [step_eq, settle_favorites]
  exact (act_transition s e).favorites_eq he

end Session

namespace Live

variable {σ τ : Type} [KeyValueStore τ] {w w' w₀ : Live σ τ} {key : String} {m : Move}
  {e : Event} {t : Ticket} {job : Job}

-- The session shows the favorites that its store holds.
structure Agrees (key : String) (w : Live σ τ) : Prop where
  matched : w.Matched
  underKey : w.session.settings.favoritesKey = key
  stored : Favorites.load w.store key = .ok w.session.view.favorites

theorem agrees_of_start {backend : σ} {store : τ} {settings : SessionSettings} {nextId now : Nat}
    (hkey : settings.favoritesKey = key) (h : start backend store settings nextId now = .ok w) :
    w.Agrees key ∧ w.store = store := by
  cases hload : Favorites.load store settings.favoritesKey with
  | error e => simp [start, hload, Except.map] at h
  | ok favorites =>
    simp only [start, hload, Except.map, Except.ok.injEq] at h
    subst h hkey
    exact ⟨⟨matched_initial .., rfl, hload⟩, rfl⟩

variable [Backend σ]

theorem agrees_post (hm : (w.post e).1.Matched) (hkey : w.session.settings.favoritesKey = key)
    (hs : Favorites.load w.store key = .ok (w.session.step e).1.view.favorites) :
    (w.post e).1.Agrees key where
  matched := hm
  underKey := by rw [post_session, Session.settings_step, hkey]
  stored := by rw [post_store, post_session, hs]

theorem perform_call (w : Live σ τ) (t : Ticket) (call : Call) (refusal : Option ConsoleError) :
    (w.perform t (.call call refusal)).1.store = w.store ∧
      ∀ t', (w.perform t (.call call refusal)).2 ≠ .storeAnswered t' (.ok ()) := by
  cases call <;> cases refusal <;> exact ⟨rfl, nofun⟩

theorem perform_write (w : Live σ τ) (t : Ticket) (key text : String) :
    w.perform t (.write key text) = ({ w with store := (KeyValueStore.set w.store key text).1 },
      .storeAnswered t (KeyValueStore.set w.store key text).2) :=
  rfl

theorem Agrees.deliver (hf : FailsCleanly τ) (hk : KeepsWrites τ) (h : w.Agrees key)
    (hj : w.job? t = some job) : (w.take (.deliver t)).1.Agrees key := by
  have hm : (w.take (.deliver t)).1.Matched := h.matched.take rfl
  have ⟨stage, hs, hawait⟩ := h.matched.job? hj
  have hsession := perform_session w t job.task
  rw [take_deliver hj] at hm ⊢
  refine agrees_post hm (hsession.symm ▸ h.underKey) ?_
  rw [hsession]
  cases htask : job.task with
  | call call refusal =>
    have ⟨hstore, hne⟩ := perform_call w t call refusal
    rw [hstore, Session.favorites_step hne]
    exact h.stored
  | write key' text =>
    rw [htask] at hawait
    cases hawait with
    | @write reply favorites =>
      have hload := Favorites.load_set hf hk h.stored favorites
      rw [← h.underKey] at hload ⊢
      rw [perform_write]
      refine hload.trans ?_
      cases (KeyValueStore.set w.store w.session.settings.favoritesKey favorites.encode).2 with
      | ok => exact congrArg Except.ok (Session.step_storeAnswered_ok hs).2.favorites.symm
      | error e =>
        have hkept :=
          Session.favorites_step (s := w.session) (e := .storeAnswered t (.error e)) nofun
        exact congrArg Except.ok hkept.symm

theorem Agrees.take (hf : FailsCleanly τ) (hk : KeepsWrites τ) (h : w.Agrees key)
    (hm : m.isGenuine = true) : (w.take m).1.Agrees key := by
  cases m with
  | event e =>
    refine agrees_post (h.matched.take hm) h.underKey ?_
    rw [Session.favorites_step, h.stored]
    rintro t rfl
    exact nomatch hm
  | deliver t =>
    cases hj : w.job? t with
    | none => simpa [Live.take, hj] using h
    | some job => exact h.deliver hf hk hj

theorem Agrees.byMoves (hf : FailsCleanly τ) (hk : KeepsWrites τ) (h : w.Agrees key)
    (hw : w.ByMoves w') : w'.Agrees key :=
  hw.induction (fun _ _ h hm => h.take hf hk hm) h

-- What becomes of a session, and of the store under this key, by and by.
inductive Reaches (key : String) (w₀ : Live σ τ) : Live σ τ → Prop
  | refl : Reaches key w₀ w₀
  -- Anything happens in the session, or is answered.
  | move {w : Live σ τ} {m : Move} (h : Reaches key w₀ w) (hm : m.isGenuine = true) :
      Reaches key w₀ (w.take m).1
  -- An operation is begun and waited for.
  | request {w : Live σ τ} {e : Event} (h : Reaches key w₀ w) (he : e.isRequest = true) :
      Reaches key w₀ (w.request e).1
  -- The store begins or ceases to take writes, with the same texts in it.
  | changed {w : Live σ τ} {store : τ} (h : Reaches key w₀ w)
      (hs : ∀ other, KeyValueStore.get store other = KeyValueStore.get w.store other) :
      Reaches key w₀ { w with store }
  -- A new session takes over.
  | reopened {w w' : Live σ τ} {backend : σ} {settings : SessionSettings} {nextId now : Nat}
      (h : Reaches key w₀ w) (hkey : settings.favoritesKey = key)
      (hs : start backend w.store settings nextId now = .ok w') : Reaches key w₀ w'

theorem Agrees.reaches (hf : FailsCleanly τ) (hk : KeepsWrites τ) (h : w₀.Agrees key)
    (hr : Reaches key w₀ w) : w.Agrees key := by
  induction hr with
  | refl => exact h
  | move _ hm ih => exact ih.take hf hk hm
  | @request w e _ he ih =>
    have hanswer : e.isAnswer = false := by cases e <;> first | rfl | exact nomatch he
    exact ih.byMoves hf hk (byMoves_request w hanswer)
  | changed _ hs ih =>
    exact ⟨⟨ih.matched.wellFormed, ih.matched.awaited⟩, ih.underKey,
      (Favorites.load_of_get_eq (hs key)).trans ih.stored⟩
  | reopened _ hkey hs _ => exact (agrees_of_start hkey hs).1

-- Whatever happens, the session shows what its store holds, and a new session begins with it.
theorem favorites_eq_stored (hf : FailsCleanly τ) (hk : KeepsWrites τ) {backend : σ} {store : τ}
    {settings : SessionSettings} {nextId now : Nat}
    (h : start backend store settings nextId now = .ok w₀)
    (hr : Reaches settings.favoritesKey w₀ w) :
    Favorites.load w.store settings.favoritesKey = .ok w.session.view.favorites ∧
      ∀ (backend' : σ) (settings' : SessionSettings) (nextId' now' : Nat),
        settings'.favoritesKey = settings.favoritesKey →
        ∃ w', start backend' w.store settings' nextId' now' = .ok w' ∧
          w'.session.view.favorites = w.session.view.favorites := by
  have hagrees := (agrees_of_start rfl h).1.reaches hf hk hr
  refine ⟨hagrees.stored, fun backend' settings' nextId' now' hkey => ?_⟩
  refine ⟨⟨.initial settings' w.session.view.favorites nextId' now', backend', w.store, []⟩, ?_,
    rfl⟩
  rw [start, hkey, hagrees.stored]
  rfl

-- A store whose text is no list of favorites, and later takes no writes.
def malformed : Live Mock MemoryStore where
  session := .initial .default .empty 1 0
  backend := .default
  store := .ofTexts (.ofList [("favorites", "[1]")])
  jobs := []

theorem start_malformed :
    start malformed.backend malformed.store .default 1 0 = .ok malformed := by
  have hdecode : Favorites.decode "[1]" = .empty := Table.ext (by decide +kernel)
  have hload : Favorites.load malformed.store "favorites" = .ok .empty :=
    congrArg Except.ok hdecode
  exact congrArg (Except.map _) hload

def savedOnce : Live Mock MemoryStore :=
  (malformed.request (.addFavorite "a\n" "\"SHOW\\")).1

def refusedOnce : Live Mock MemoryStore :=
  ({ savedOnce with store := { savedOnce.store with refusesSet := true } }.request
    (.addFavorite "b" "")).1

theorem reaches_refusedOnce : Reaches "favorites" malformed refusedOnce := by
  have hsaved : Reaches "favorites" malformed savedOnce := .request .refl rfl
  have hclosed : Reaches "favorites" malformed
      { savedOnce with store := { savedOnce.store with refusesSet := true } } :=
    hsaved.changed fun _ => rfl
  exact hclosed.request (e := .addFavorite "b" "") rfl

theorem favorites_of_malformed :
    start malformed.backend malformed.store .default 1 0 = .ok malformed ∧
      FailsCleanly MemoryStore ∧ KeepsWrites MemoryStore ∧
      Reaches "favorites" malformed refusedOnce ∧
      Favorites.load refusedOnce.store "favorites" = .ok refusedOnce.session.view.favorites ∧
      refusedOnce.session.view.favorites.contains "a\n" = true ∧
      refusedOnce.session.view.favorites.contains "b" = false := by
  have ⟨hstored, _⟩ := favorites_eq_stored MemoryStore.failsCleanly MemoryStore.keepsWrites
    start_malformed reaches_refusedOnce
  exact ⟨start_malformed, MemoryStore.failsCleanly, MemoryStore.keepsWrites, reaches_refusedOnce,
    hstored, by decide +kernel, by decide +kernel⟩

-- An update that succeeds shows the list as it was when it was asked for, with its own entry.
theorem favorites_of_saved_add {p q : Moment σ τ} (h : w.Sound) (ms : List Move)
    (hpq : [p, q].Sublist (w.moments ms)) (hp : p.move = .event (.addFavorite name statement))
    (hactive : p.before.session.active = true)
    (hq : q.event? = some (.storeAnswered p.before.session.nextTicket (.ok ())))
    (ht : p.before.session.nextTicket ∈ q.before.session.tickets) :
    q.after.session.view.favorites =
      p.before.session.view.favorites.insert name statement := by
  have ⟨hmem, ms', hq'⟩ := exists_moments_of_sublist ms hpq
  have hsound := sound_of_mem_moments h ms hmem
  have hsound' : p.after.Sound := hsound.take p.move
  have hsaving : p.after.session.stage? p.before.session.nextTicket =
      some (.saving (p.before.session.view.favorites.insert name statement) .saved) := by
    rw [Moment.after, hp, take, post_session]
    exact (Session.step_saveFavorites hsound.wellFormed hactive rfl).2
  have hstage := stage?_of_isLast hsound' hsaving rfl ms' hq' ht
  rw [Moment.after, (take_of_event? hq).1]
  exact (Session.step_storeAnswered_ok hstage).2.favorites

-- So the first of two that overlap is lost, in memory and in the store, though both succeed.
def overlappingAdds : List Move :=
  [.event (.addFavorite "a" "SHOW HOSTS"), .event (.addFavorite "b" "SHOW TAGS"), .deliver 0,
    .deliver 1]

theorem favorite_lost_of_overlap :
    let w := malformed.after overlappingAdds
    ((malformed.after (overlappingAdds.take 2)).take (.deliver 0)).2 = .finished 0 (.ok .saved) ∧
      ((malformed.after (overlappingAdds.take 3)).take (.deliver 1)).2 =
        .finished 1 (.ok .saved) ∧
      Favorites.load w.store "favorites" = .ok w.session.view.favorites ∧
      w.session.view.favorites.contains "a" = false ∧
      w.session.view.favorites.contains "b" = true := by
  have hmoves : malformed.ByMoves (malformed.after overlappingAdds) :=
    ⟨overlappingAdds, rfl, by decide⟩
  have hagrees : malformed.Agrees "favorites" := (agrees_of_start rfl start_malformed).1
  have hstored := (hagrees.byMoves MemoryStore.failsCleanly MemoryStore.keepsWrites hmoves).stored
  exact ⟨rfl, rfl, hstored, by decide +kernel, by decide +kernel⟩

end Live
end QueryConsole
