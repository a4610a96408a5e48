import QueryConsole.Backend.Service
import QueryConsole.Proofs.Session.Ledger
import QueryConsole.Proofs.Session.Moments
import QueryConsole.Proofs.Session.Steps
import QueryConsole.Proofs.Store.Lawful

namespace QueryConsole

namespace Session

variable {s : Session} {t : Ticket} {run : Submission}

-- A run that is still under way after its batch was answered holds the entries.
theorem stage?_step_batchAnswered (hw : s.WellFormed) (hs : s.stage? t = some (.dispatched run))
    (responses : List Response) (ht : t ∈ (s.step (.batchAnswered t (.ok responses))).1.tickets) :
    (s.step (.batchAnswered t (.ok responses))).1.stage? t =
      some (.refreshing run (Entry.ofResponses run.seq s.nextId responses)) := by
  have hn (result : Result) :
      (s.step (.batchAnswered t (.ok responses))).2 ≠ .finished t result :=
    fun he => (over_step_of_finished hw he).notMem ht
  cases ha : s.active with
  | false =>
    refine absurd ?_ (hn (.error .shutDown))
    simp only [step, act, hs, batchAnswered, ha, Bool.false_eq_true, if_false]
    rfl
  | true =>
    cases hr : run.split.requiresRefresh with
    | false => exact absurd (ran_batchAnswered hs ha hr responses).effect (hn _)
    | true => exact (step_batchAnswered_refreshing hw hs ha hr responses).2

end Session

variable {σ τ : Type} [Backend σ] [KeyValueStore τ]

namespace Live

variable {w : Live σ τ} {t : Ticket}

-- Only an operation that succeeds leaves something behind in the store.
theorem get_take_or_ok (h : w.Sound) {m : Move} (ho : w.owner? m = some t) :
    (FailsCleanly τ → ∀ key,
      KeyValueStore.get (w.take m).1.store key = KeyValueStore.get w.store key) ∨
      ∃ reply, (w.take m).2 = .finished t (.ok reply) := by
  cases m with
  | event e => exact .inl fun _ key => by rw [take, post_store]
  | deliver t' =>
    obtain rfl : t = t' := (Option.some.inj ho).symm
    cases hj : w.job? t with
    | none => exact .inl fun _ key => by simp only [take, hj]
    | some job =>
      rw [take_deliver hj, post_store, post_effect]
      cases htask : job.task with
      | call call refusal =>
        refine .inl fun _ key => ?_
        cases call <;> cases refusal <;> rfl
      | write key text =>
        cases hr : (KeyValueStore.set w.store key text).2 with
        | error e => exact .inl fun hc => hc w.store key text e hr
        | ok =>
          have ht : job.ticket = t := by simpa using List.find?_some hj
          obtain ⟨favorites, reply, hs⟩ :=
            h.writes job (List.mem_of_find?_eq_some hj) key text htask
          have he : (w.perform t (.write key text)).2 = .storeAnswered t (.ok ()) :=
            congrArg (Event.storeAnswered t) hr
          refine .inr ⟨reply, ?_⟩
          rw [he]
          exact (Session.step_storeAnswered_ok (ht ▸ hs)).1

end Live

namespace Moment

variable {m : Moment σ τ} {t : Ticket}

-- An operation ends without a result, or it is a run and whoever waits for it gives up.
def Fails (m : Moment σ τ) (t : Ticket) : Prop :=
  (∃ result, m.effect = .finished t result ∧ result.isOk = false) ∨
    m.event? = some (.drop t) ∧ ∃ stage, m.before.session.stage? t = some stage ∧ stage.run?.isSome

-- The data of the session and the texts in the store are as they were.
structure Intact (m : Moment σ τ) : Prop where
  data : m.before.session.view.SameData m.after.session.view
  stored : FailsCleanly τ →
    ∀ key, KeyValueStore.get m.after.store key = KeyValueStore.get m.before.store key

theorem intact_or_ok (h : m.before.Sound) (ho : m.owner? = some t) :
    m.Intact ∨ ∃ reply, m.effect = .finished t (.ok reply) := by
  rcases m.before.get_take_or_ok h ho with hstore | hok
  case inr => exact .inr hok
  cases he : m.before.event? m.move with
  | none =>
    have hsame : m.after = m.before := congrArg Prod.fst (Live.take_of_event?_eq_none he)
    exact .inl ⟨hsame ▸ ⟨rfl, rfl, rfl, rfl⟩, hstore⟩
  | some e =>
    have ⟨hs, heff⟩ := Live.take_of_event? he
    cases Session.sameData_step_or_ok (Live.owner?_of_event? he ho)
    case inl hd => exact .inl ⟨hs ▸ hd, hstore⟩
    case inr hok => exact .inr (hok.imp fun _ h => heff.trans h)

-- If something came of a move, it meant something to the session.
theorem exists_event_of_finished (he : m.effect = .finished t result) :
    ∃ e, m.after.session = (m.before.session.step e).1 ∧
      (m.before.session.step e).2 = .finished t result := by
  cases hm : m.before.event? m.move with
  | none =>
    have hn : m.effect = .none := congrArg Prod.snd (Live.take_of_event?_eq_none hm)
    exact nomatch he.symm.trans hn
  | some e =>
    have ⟨hs, heff⟩ := Live.take_of_event? hm
    exact ⟨e, hs, heff.symm.trans he⟩

theorem over_of_finished (h : m.before.Sound) (he : m.effect = .finished t result) :
    m.after.session.Over t := by
  have ⟨e, hs, he⟩ := exists_event_of_finished he
  exact hs ▸ Session.over_step_of_finished h.wellFormed he

theorem not_finished_of_over (ho : m.before.session.Over t) : m.effect ≠ .finished t result := by
  intro he
  have ⟨e, _, he⟩ := exists_event_of_finished he
  exact Session.not_finished_step_of_over ho he

theorem over_of_fails (h : m.before.Sound) (hf : m.Fails t) : m.after.session.Over t := by
  cases hf
  case inl hcase =>
    have ⟨result, he, _⟩ := hcase
    exact over_of_finished h he
  case inr hcase =>
    have ⟨he, stage, hs, _⟩ := hcase
    have ⟨hafter, _⟩ := Live.take_of_event? he
    exact hafter ▸ Session.over_step_of_drop h.wellFormed hs

theorem not_fails_of_over (ho : m.before.session.Over t) : ¬m.Fails t := by
  rintro (⟨result, he, -⟩ | ⟨-, stage, hs, -⟩)
  · exact not_finished_of_over ho he
  · exact nomatch ho.stage?.symm.trans hs

theorem not_ok_of_fails (hf : m.Fails t) : m.effect ≠ .finished t (.ok reply) := by
  intro hok
  cases hf
  case inl hcase =>
    have ⟨result, he, hr⟩ := hcase
    cases he.symm.trans hok
    exact nomatch hr
  case inr hcase =>
    have ⟨he, _⟩ := hcase
    have ⟨_, heff⟩ := Live.take_of_event? he
    exact nomatch heff.symm.trans hok

end Moment

namespace Live

variable {w : Live σ τ} {p q : Moment σ τ} {t : Ticket}

theorem over_take (ho : w.session.Over t) (m : Move) : (w.take m).1.session.Over t := by
  cases he : w.event? m with
  | none => exact take_of_event?_eq_none he ▸ ho
  | some e => exact (take_of_event? he).1 ▸ ho.step e

theorem over_of_mem_moments (ho : w.session.Over t) (ms : List Move) (hq : q ∈ w.moments ms) :
    q.before.session.Over t :=
  before_of_mem_moments (P := fun w => w.session.Over t) (fun _ m ho => over_take ho m) ho ms hq

-- An operation that failed does not succeed as well, neither before nor afterwards.
theorem not_ok_of_fails (h : w.Sound) (ms : List Move) (hp : p ∈ w.moments ms) (hf : p.Fails t)
    (hq : q ∈ w.moments ms) : q.effect ≠ .finished t (.ok reply) := by
  intro hok
  induction ms generalizing w with
  | nil => cases hp
  | cons m ms ih =>
    rcases List.mem_cons.1 hp with rfl | hp <;> rcases List.mem_cons.1 hq with rfl | hq
    · exact Moment.not_ok_of_fails hf hok
    · have hover := over_of_mem_moments (Moment.over_of_fails h hf) ms hq
      exact Moment.not_finished_of_over hover hok
    · have hover := over_of_mem_moments (Moment.over_of_finished h hok) ms hp
      exact Moment.not_fails_of_over hover hf
    · exact ih (h.take m) hp hq

theorem intact_of_fails (h : w.Sound) (ms : List Move) (hp : p ∈ w.moments ms) (hf : p.Fails t)
    (hq : q ∈ w.moments ms) (ho : q.owner? = some t) : q.Intact := by
  refine (q.intact_or_ok (sound_of_mem_moments h ms hq) ho).resolve_right ?_
  rintro ⟨reply, hok⟩
  exact not_ok_of_fails h ms hp hf hq hok

theorem stage?_take_or_over (h : w.Sound) (hs : w.session.stage? t = some stage)
    (hl : stage.isLast) (m : Move) :
    (w.take m).1.session.stage? t = some stage ∨ (w.take m).1.session.Over t := by
  cases he : w.event? m with
  | none => exact .inl (take_of_event?_eq_none he ▸ hs)
  | some e =>
    rw [(take_of_event? he).1]
    cases Session.stage?_step_of_isLast h.wellFormed hs hl e
    case inl hn =>
      have ht := Session.mem_tickets_of_stage? hs
      exact .inr (Session.over_step_of_stage?_eq_none h.wellFormed ht hn)
    case inr hs' => exact .inl hs'

-- A run that waits for its parameters holds its entries for as long as it is under way.
theorem stage?_of_isLast (h : w.Sound) (hs : w.session.stage? t = some stage) (hl : stage.isLast)
    (ms : List Move) (hq : q ∈ w.moments ms) (ht : t ∈ q.before.session.tickets) :
    q.before.session.stage? t = some stage := by
  have hstep (w : Live σ τ) (m : Move)
      (h : w.Sound ∧ (w.session.stage? t = some stage ∨ w.session.Over t)) :
      (w.take m).1.Sound ∧
        ((w.take m).1.session.stage? t = some stage ∨ (w.take m).1.session.Over t) := by
    refine ⟨h.1.take m, ?_⟩
    cases h.2
    case inl hs => exact stage?_take_or_over h.1 hs hl m
    case inr ho => exact .inr (over_take ho m)
  have ⟨_, hstage⟩ := before_of_mem_moments hstep ⟨h, .inl hs⟩ ms hq
  exact hstage.resolve_right fun ho => ho.notMem ht

-- A run is not hurt if its parameters cannot be fetched.
theorem ran_of_failed_refresh (h : w.Sound) (ms : List Move)
    (hpq : [p, q].Sublist (w.moments ms))
    (hs : p.before.session.stage? t = some (.dispatched run))
    (hp : p.event? = some (.batchAnswered t (.ok responses)))
    (hq : q.event? = some (.singleAnswered t (.error e))) (ha : q.before.session.active = true)
    (ht : t ∈ q.before.session.tickets) :
    q.effect = .finished t (.ok (.ran run.seq)) ∧
      (∃ entries, entries.map Entry.content = Completion.block ⟨run, responses⟩ ∧
        q.after.session.view.history = entries ++ q.before.session.view.history) ∧
      q.after.session.view.params = q.before.session.view.params := by
  have ⟨hmem, ms', hq'⟩ := exists_moments_of_sublist ms hpq
  have hsound := sound_of_mem_moments h ms hmem
  have hsound' : p.after.Sound := hsound.take p.move
  have hafter : p.after.session = _ := (take_of_event? hp).1
  have hmerge : q.before.session.stage? t =
      some (.refreshing run (Entry.ofResponses run.seq p.before.session.nextId responses)) := by
    by_cases hin : t ∈ p.after.session.tickets
    case pos =>
      refine stage?_of_isLast hsound' ?_ rfl ms' hq' ht
      rw [hafter] at hin ⊢
      exact Session.stage?_step_batchAnswered hsound.wellFormed hs responses hin
    case neg =>
      rw [hafter] at hin
      have ho := Session.over_step_of_stage?_eq_none hsound.wellFormed
        (Session.mem_tickets_of_stage? hs) (Session.stage?_eq_none_iff.2 hin)
      exact absurd ht (over_of_mem_moments (hafter ▸ ho) ms' hq').notMem
  have ⟨hsession, heffect⟩ := take_of_event? hq
  have hran := Session.ran_refreshAnswered_error hmerge ha e
  have hcontent := Entry.map_content_ofResponses run p.before.session.nextId responses
  rw [Moment.after, hsession]
  exact ⟨heffect.trans hran.effect, ⟨_, hcontent, hran.records.history⟩, hran.params⟩

-- Whatever fails, or is a run that is given up, leaves no trace; a run does not fail for want of
-- its parameters.
theorem failures_leave_no_trace (settings : SessionSettings) (favorites : Favorites)
    (nextId now : Nat) (backend : σ) (store : τ) (ms : List Move) (t : Ticket) :
    let moments := moments ⟨.initial settings favorites nextId now, backend, store, []⟩ ms
    (∀ p ∈ moments, p.Fails t → ∀ q ∈ moments, q.owner? = some t → q.Intact) ∧
      ∀ p q, [p, q].Sublist moments → ∀ run responses e,
        p.before.session.stage? t = some (.dispatched run) →
        p.event? = some (.batchAnswered t (.ok responses)) →
        q.event? = some (.singleAnswered t (.error e)) →
        q.before.session.active = true → t ∈ q.before.session.tickets →
        q.effect = .finished t (.ok (.ran run.seq)) ∧
          (∃ entries, entries.map Entry.content = Completion.block ⟨run, responses⟩ ∧
            q.after.session.view.history = entries ++ q.before.session.view.history) ∧
          q.after.session.view.params = q.before.session.view.params := by
  have h := sound_initial settings favorites nextId now backend store
  refine ⟨fun p hp hf q hq ho => intact_of_fails h ms hp hf hq ho, ?_⟩
  exact fun p q hpq run responses e hs hp hq ha ht => ran_of_failed_refresh h ms hpq hs hp hq ha ht

-- A store that refuses to write, and a backend that refuses to tell the parameters.
def refusing : Live (Faulty Service) MemoryStore where
  session := .initial .default .empty 1 0
  backend := ⟨.scripted [.success "SHOW HOSTS" .empty] (.failure "" ""), false, true⟩
  store := ⟨.empty, false, true⟩
  jobs := []

def refusals : List Move :=
  [.event (.addFavorite "hosts" "SHOW HOSTS;"), .event (.submit ":a" none), .deliver 0,
    .event (.start 1), .deliver 1, .deliver 1]

theorem no_trace_of_refusals :
    let last : Moment (Faulty Service) MemoryStore := ⟨refusing.after (refusals.take 5), .deliver 1⟩
    FailsCleanly MemoryStore ∧
      (∀ m ∈ refusing.moments refusals, m.owner? = some 0 → m.Intact) ∧
      last.effect = .finished 1 (.ok (.ran 1)) ∧
      last.after.session.view.params = last.before.session.view.params := by
  intro last
  have ⟨hfail, _⟩ :=
    failures_leave_no_trace .default .empty 1 0 refusing.backend refusing.store refusals 0
  have ⟨_, hran⟩ :=
    failures_leave_no_trace .default .empty 1 0 refusing.backend refusing.store refusals 1
  have ⟨heffect, _, hparams⟩ := hran ⟨refusing.after (refusals.take 4), .deliver 1⟩ last
    (.cons _ (.cons _ (.cons _ (.cons _ (.cons_cons _ (.cons_cons _ .slnil)))))) ⟨1, ":a", none⟩
    [.success "SHOW HOSTS" .empty] ⟨.backend, "params unavailable"⟩ rfl rfl rfl rfl (.head _)
  refine ⟨MemoryStore.failsCleanly, ?_, heffect, hparams⟩
  exact hfail _ (.tail _ (.tail _ (.head _))) (.inl ⟨_, rfl, rfl⟩)

end Live
end QueryConsole
