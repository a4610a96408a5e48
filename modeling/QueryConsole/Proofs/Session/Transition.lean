import QueryConsole.Session.Basic
import Mathlib.Data.List.Nodup
import Mathlib.Logic.Function.Iterate

-- Everything about runs of a session is derived from this list of cases and from what settling
-- changes, without going back to `act` or `settle`.
namespace QueryConsole

namespace Event

-- The operation that an event is addressed to.
def ticket? : Event → Option Ticket
  | start t | batchAnswered t _ | singleAnswered t _ | storeAnswered t _ | drop t => some t
  | submit .. | fetchParams | updateFavorites _ | addFavorite .. | removeFavorite _ | reset
  | shutdown | advance _ => none

-- The event asks for a new operation.
def isRequest : Event → Bool
  | submit .. | fetchParams | updateFavorites _ | addFavorite .. | removeFavorite _ => true
  | start _ | batchAnswered .. | singleAnswered .. | storeAnswered .. | drop _ | reset | shutdown
  | advance _ => false

-- The event hands over what was asked for.
def isAnswer : Event → Bool
  | batchAnswered .. | singleAnswered .. | storeAnswered .. => true
  | submit .. | start _ | drop _ | fetchParams | updateFavorites _ | addFavorite ..
  | removeFavorite _ | reset | shutdown | advance _ => false

theorem ticket?_of_isRequest {e : Event} (h : e.isRequest = true) : e.ticket? = none := by
  cases e <;> first | rfl | exact nomatch h

end Event

namespace Stage

-- The entries of a batch that are not part of the history yet.
def entries : Stage → List Entry
  | refreshing _ entries => entries
  | accepted _ | dispatched _ | fetching | saving .. => []

end Stage

namespace Session

def tickets (s : Session) : List Ticket :=
  s.operations.map (·.1)

-- The end of a run whose result is already decided.
def conclude (s : Session) (t : Ticket) : Session :=
  s.release.close t

-- The times of runs that have to settle now.
def due (s : Session) : List Nat :=
  s.settling.filter (· ≤ s.now)

section

variable {s : Session} {t : Ticket} {stage : Stage}

theorem mem_operations_of_stage? (h : s.stage? t = some stage) : (t, stage) ∈ s.operations := by
  have ⟨op, hf, hs⟩ := Option.map_eq_some_iff.1 h
  have ht : op.1 = t := by simpa using List.find?_some hf
  exact ht ▸ hs ▸ List.mem_of_find?_eq_some hf

theorem mem_tickets_of_stage? (h : s.stage? t = some stage) : t ∈ s.tickets :=
  List.mem_map_of_mem (mem_operations_of_stage? h)

theorem stage?_eq_none_iff : s.stage? t = none ↔ t ∉ s.tickets := by
  simp only [stage?, tickets, Option.map_eq_none_iff, List.find?_eq_none, List.mem_map, not_exists,
    not_and, decide_eq_true_eq]

theorem stage?_of_mem_operations (hn : s.tickets.Nodup) (h : (t, stage) ∈ s.operations) :
    s.stage? t = some stage := by
  have ht : t ∈ s.tickets := List.mem_map_of_mem h
  have ⟨stage', h'⟩ := Option.ne_none_iff_exists'.1 (mt stage?_eq_none_iff.1 (not_not.2 ht))
  have := List.inj_on_of_nodup_map hn (mem_operations_of_stage? h') h rfl
  simp_all

end

theorem iterate_finishRun (s : Session) (n : Nat) :
    finishRun^[n] s = { s with
      inFlight := s.inFlight - n
      revision := s.revision + n
      view := { s.view with loading := if n = 0 then s.view.loading else n < s.inFlight } } := by
  induction n with
  | zero => rfl
  | succ n ih =>
    rw [Function.iterate_succ_apply', ih]
    have hl : 1 < s.inFlight - n ↔ n + 1 < s.inFlight := by omega
    simp [finishRun, publish, hl, Nat.sub_sub, Nat.add_assoc]

theorem settle_eq_iterate (s : Session) :
    s.settle = finishRun^[s.due.length] { s with settling := s.settling.filter (s.now < ·) } := by
  simp [settle, due, List.foldl_const]

theorem settle_eq (s : Session) :
    s.settle = { s with
      inFlight := s.inFlight - s.due.length
      revision := s.revision + s.due.length
      settling := s.settling.filter (s.now < ·)
      view := { s.view with
        loading := if s.due.length = 0 then s.view.loading else s.due.length < s.inFlight } } := by
  rw [settle_eq_iterate, iterate_finishRun]

section

variable (s : Session)

@[simp] theorem settle_settings : s.settle.settings = s.settings := by simp [settle_eq]
@[simp] theorem settle_nextSeq : s.settle.nextSeq = s.nextSeq := by simp [settle_eq]
@[simp] theorem settle_nextId : s.settle.nextId = s.nextId := by simp [settle_eq]
@[simp] theorem settle_nextTicket : s.settle.nextTicket = s.nextTicket := by simp [settle_eq]
@[simp] theorem settle_now : s.settle.now = s.now := by simp [settle_eq]
@[simp] theorem settle_operations : s.settle.operations = s.operations := by simp [settle_eq]
@[simp] theorem settle_active : s.settle.active = s.active := by simp [settle_eq]
@[simp] theorem settle_lastText : s.settle.view.lastText = s.view.lastText := by simp [settle_eq]
@[simp] theorem settle_history : s.settle.view.history = s.view.history := by simp [settle_eq]
@[simp] theorem settle_params : s.settle.view.params = s.view.params := by simp [settle_eq]
@[simp] theorem settle_favorites : s.settle.view.favorites = s.view.favorites := by simp [settle_eq]

end

theorem release_eq (s : Session) :
    s.release = { s with
      settling := if s.active then s.settling ++ [s.now + s.settings.settleDelay]
        else s.settling } := by
  unfold release
  split <;> rfl

theorem conclude_eq (s : Session) (t : Ticket) :
    s.conclude t = { s with
      settling := if s.active then s.settling ++ [s.now + s.settings.settleDelay] else s.settling
      operations := s.operations.filter (·.1 ≠ t) } := by
  rw [conclude, release_eq]
  rfl

-- The session `s` acts on an event, which leads to another session and to an effect.
inductive Transition (s : Session) : Event → Session → Effect → Prop
  -- An answer or a start that nothing waits for, or the loss of what is over.
  | ignored (ht : e.ticket? = some t) (hd : e = .drop t → s.stage? t = none) :
      Transition s e s .none
  | resetRefused (ha : s.active = false) : Transition s .reset s .none
  | accepted (ha : s.active = true) :
      Transition s (.submit text display)
        (({ s with nextSeq := s.nextSeq + 1, inFlight := s.inFlight + 1 }.publish
          { s.view with loading := true }).enroll (.accepted ⟨s.nextSeq, text, display⟩))
        (.accepted s.nextTicket)
  -- A request that is over at once: it is refused, or there is nothing to remove.
  | answered (he : e.isRequest)
      (hr : result = .error .shutDown ∧ s.active = false ∨ result = .ok (.removed false)) :
      Transition s e { s with nextTicket := s.nextTicket + 1 } (.finished s.nextTicket result)
  | fetching : Transition s .fetchParams (s.enroll .fetching) (.call s.nextTicket inspection)
  | saving (he : e.isRequest) (ha : s.active = true)
      (hr : reply = .saved ∨ reply = .removed true) :
      Transition s e (s.enroll (.saving favorites reply))
        (.write s.nextTicket s.settings.favoritesKey favorites.encode)
  | started (h : s.stage? t = some (.accepted run)) :
      Transition s (.start t) (s.enter t (.dispatched run))
        (.call t (.batch run.split.statements run.split.directives .consoleRun))
  -- The batch was answered, the parameters are still to come.
  | refreshing (h : s.stage? t = some (.dispatched run)) (ha : s.active = true)
      (hr : run.split.requiresRefresh) :
      Transition s (.batchAnswered t (.ok responses))
        ({ s with nextId := s.nextId + responses.length }.enter t
          (.refreshing run (Entry.ofResponses run.seq s.nextId responses)))
        (.call t inspection)
  | ran (h : s.stage? t = some (.dispatched run)) (ha : s.active = true)
      (hr : run.split.requiresRefresh = false) :
      Transition s (.batchAnswered t (.ok responses))
        (({ s with nextId := s.nextId + responses.length }.publish
          (s.view.merge (Entry.ofResponses run.seq s.nextId responses) run.lastText)).conclude t)
        (.finished t (.ok (.ran run.seq)))
  | ranStale (h : s.stage? t = some (.refreshing run entries)) (ha : s.active = true) :
      Transition s (.singleAnswered t (.error error))
        ((s.publish (s.view.merge entries run.lastText)).conclude t)
        (.finished t (.ok (.ran run.seq)))
  | ranRefreshed (h : s.stage? t = some (.refreshing run entries)) (ha : s.active = true) :
      Transition s (.singleAnswered t (.ok response))
        (((s.setParams response).publish
          ((s.setParams response).view.merge entries run.lastText)).conclude t)
        (.finished t (.ok (.ran run.seq)))
  | runFailed (h : s.stage? t = some stage) (hs : stage.run?.isSome) (ht : e.ticket? = some t)
      (hd : e ≠ .drop t) (hr : result.isOk = false) :
      Transition s e (s.conclude t) (.finished t result)
  | fetched (h : s.stage? t = some .fetching) (ha : s.active = true) :
      Transition s (.singleAnswered t (.ok response)) ((s.setParams response).close t)
        (.finished t (.ok .fetched))
  | saved (h : s.stage? t = some (.saving favorites reply)) :
      Transition s (.storeAnswered t (.ok ()))
        ((s.publish { s.view with favorites }).close t) (.finished t (.ok reply))
  | failed (h : s.stage? t = some stage) (hs : stage.run? = none) (ht : e.ticket? = some t)
      (hd : e ≠ .drop t) (hr : result.isOk = false) :
      Transition s e (s.close t) (.finished t result)
  | runDropped (h : s.stage? t = some stage) (hs : stage.run?.isSome) :
      Transition s (.drop t) (s.conclude t) .none
  | dropped (h : s.stage? t = some stage) (hs : stage.run? = none) :
      Transition s (.drop t) (s.close t) .none
  | reset (ha : s.active = true) : Transition s .reset (s.publish (s.view.reset s.settings)) .none
  | shutdown : Transition s .shutdown { s with active := false, settling := [] } .none
  | advance : Transition s (.advance ms) { s with now := s.now + ms } .none

theorem merge_of_active {s : Session} (ha : s.active = true) (t : Ticket) (run : Submission)
    (entries : List Entry) :
    s.merge t run entries = ((s.publish (s.view.merge entries run.lastText)).conclude t,
      .finished t (.ok (.ran run.seq))) :=
  if_pos ha

theorem merge_of_not_active {s : Session} (ha : ¬s.active = true) (t : Ticket) (run : Submission)
    (entries : List Entry) :
    s.merge t run entries = (s.conclude t, .finished t (.error .shutDown)) :=
  if_neg ha

namespace Transition

theorem of_batchAnswered (s : Session) (h : s.stage? t = some (.dispatched run))
    (answer : Answer (List Response)) :
    Transition s (.batchAnswered t answer) (s.batchAnswered t run answer).1
      (s.batchAnswered t run answer).2 := by
  cases answer with
  | error e => exact .runFailed h rfl rfl nofun rfl
  | crash => exact .runFailed h rfl rfl nofun rfl
  | ok responses =>
    rw [Session.batchAnswered]
    by_cases ha : s.active = true
    case neg =>
      rw [if_neg ha]
      exact .runFailed h rfl rfl nofun rfl
    case pos =>
      simp only [if_pos ha, Entry.length_ofResponses]
      by_cases hr : run.split.requiresRefresh = true
      case pos =>
        rw [if_pos hr]
        exact .refreshing h ha hr
      case neg =>
        rw [if_neg hr, merge_of_active]
        · exact .ran h ha (eq_false_of_ne_true hr)
        · exact ha

theorem of_refreshAnswered (s : Session) (h : s.stage? t = some (.refreshing run entries))
    (answer : Answer Response) :
    Transition s (.singleAnswered t answer) (s.refreshAnswered t run entries answer).1
      (s.refreshAnswered t run entries answer).2 := by
  by_cases ha : s.active = true <;> cases answer <;> simp only [refreshAnswered]
  case pos.error => exact merge_of_active ha .. ▸ .ranStale h ha
  case pos.ok r => exact if_pos ha ▸ merge_of_active (s := s.setParams r) ha .. ▸ .ranRefreshed h ha
  case neg.error => exact merge_of_not_active ha .. ▸ .runFailed h rfl rfl nofun rfl
  case neg.ok => exact if_neg ha ▸ merge_of_not_active ha .. ▸ .runFailed h rfl rfl nofun rfl
  all_goals exact .runFailed h rfl rfl nofun rfl

theorem of_fetchAnswered (s : Session) (h : s.stage? t = some .fetching)
    (answer : Answer Response) :
    Transition s (.singleAnswered t answer) (s.fetchAnswered t answer).1
      (s.fetchAnswered t answer).2 := by
  by_cases ha : s.active = true <;> cases answer <;> simp only [fetchAnswered]
  case pos.ok r => exact if_pos ha ▸ .fetched h ha
  case neg.ok => exact if_neg ha ▸ .failed h rfl rfl nofun rfl
  all_goals exact .failed h rfl rfl nofun rfl

theorem of_saveAnswered (s : Session) (h : s.stage? t = some (.saving favorites reply))
    (answer : Except ConsoleError Unit) :
    Transition s (.storeAnswered t answer) (s.saveAnswered t favorites reply answer).1
      (s.saveAnswered t favorites reply answer).2 := by
  cases answer with
  | error e => exact .failed h rfl rfl nofun rfl
  | ok => exact .saved h

theorem of_saveFavorites (s : Session) {e : Event} (he : e.isRequest) (favorites : Favorites)
    (hr : reply = .saved ∨ reply = .removed true) :
    Transition s e (s.saveFavorites favorites reply).1 (s.saveFavorites favorites reply).2 := by
  rw [saveFavorites]
  by_cases ha : s.active = true
  case pos =>
    rw [if_pos ha]
    exact .saving he ha hr
  case neg =>
    rw [if_neg ha]
    exact .answered he (.inl ⟨rfl, eq_false_of_ne_true ha⟩)

end Transition

theorem act_transition (s : Session) (e : Event) : Transition s e (s.act e).1 (s.act e).2 := by
  cases e with
  | submit text display =>
    simp only [act, submit]
    split
    · exact .accepted ‹_›
    · exact .answered rfl (.inl ⟨rfl, eq_false_of_ne_true ‹_›⟩)
  | start t =>
    simp only [act]
    split
    · exact .started ‹_›
    · exact .ignored rfl nofun
  | batchAnswered t answer =>
    simp only [act]
    split
    · exact .of_batchAnswered s ‹_› answer
    · exact .ignored rfl nofun
  | singleAnswered t answer =>
    simp only [act]
    split
    · exact .of_refreshAnswered s ‹_› answer
    · exact .of_fetchAnswered s ‹_› answer
    · exact .ignored rfl nofun
  | storeAnswered t answer =>
    simp only [act]
    split
    · exact .of_saveAnswered s ‹_› answer
    · exact .ignored rfl nofun
  | drop t =>
    simp only [act, dropOperation]
    split
    · exact .ignored rfl fun _ => ‹_›
    · split
      · exact .runDropped ‹_› ‹_›
      · exact .dropped ‹_› (Option.not_isSome_iff_eq_none.1 ‹_›)
  | fetchParams => exact .fetching
  | updateFavorites favorites => exact .of_saveFavorites s rfl favorites (.inl rfl)
  | addFavorite name statement => exact .of_saveFavorites s rfl _ (.inl rfl)
  | removeFavorite name =>
    simp only [act]
    split
    · exact .of_saveFavorites s rfl _ (.inr rfl)
    · exact .answered rfl (.inr rfl)
  | reset =>
    simp only [act]
    split
    · exact .reset ‹_›
    · exact .resetRefused (eq_false_of_ne_true ‹_›)
  | shutdown => exact .shutdown
  | advance ms => exact .advance

end Session
end QueryConsole
