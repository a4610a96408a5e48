import QueryConsole.Proofs.Session.Execution

namespace QueryConsole

namespace Stage

-- An operation in such a stage does nothing further but end.
def isLast : Stage → Bool
  | refreshing .. | fetching | saving .. => true
  | accepted _ | dispatched _ => false

end Stage

-- Two views differ at most in whether they are loading.
structure View.SameData (v v' : View) : Prop where
  history : v'.history = v.history
  lastText : v'.lastText = v.lastText
  params : v'.params = v.params
  favorites : v'.favorites = v.favorites

theorem View.SameData.trans {v₁ v₂ v₃ : View} (h : v₁.SameData v₂) (h' : v₂.SameData v₃) :
    v₁.SameData v₃ where
  history := h'.history.trans h.history
  lastText := h'.lastText.trans h.lastText
  params := h'.params.trans h.params
  favorites := h'.favorites.trans h.favorites

namespace Session

variable {s s' : Session} {e : Event} {effect : Effect} {t : Ticket} {stage : Stage}

-- The operation that takes the step `e`: the one that begins with it, or that it is addressed to.
def owner? (s : Session) (e : Event) : Option Ticket :=
  if e.isRequest then some s.nextTicket else e.ticket?

theorem owner?_of_ticket? (ht : e.ticket? = some t) : s.owner? e = some t := by
  cases e <;> first | exact ht | cases ht

theorem sameData_settle (s : Session) : s.view.SameData s.settle.view :=
  ⟨settle_history s, settle_lastText s, settle_params s, settle_favorites s⟩

theorem WellFormed.over_of_tickets_eq (hw : s.WellFormed) (ht : t ∈ s.tickets)
    (hs : s'.tickets = s.tickets.filter (· ≠ t)) (hn : s'.nextTicket = s.nextTicket) :
    s'.Over t where
  notMem hm := by simp [hs] at hm
  lt_nextTicket := hn ▸ hw.lt_nextTicket t ht

namespace Transition

theorem over_of_finished (h : Transition s e s' (.finished t result)) (hw : s.WellFormed) :
    s'.Over t := by
  cases h
  case answered he hr =>
    exact ⟨fun hm => Nat.lt_irrefl _ (hw.lt_nextTicket _ hm), Nat.lt_succ_self _⟩
  case ran hs | ranStale hs | ranRefreshed hs | runFailed hs _ _ _ =>
    refine hw.over_of_tickets_eq (mem_tickets_of_stage? ‹_›) (tickets_conclude ..) ?_
    simp [conclude_eq, publish, setParams]
  case fetched | saved | failed =>
    exact hw.over_of_tickets_eq (mem_tickets_of_stage? ‹_›) (tickets_close ..) rfl

theorem over_of_drop (h : Transition s (.drop t) s' effect) (hw : s.WellFormed)
    (hs : s.stage? t = some stage) : s'.Over t := by
  have ht := mem_tickets_of_stage? hs
  cases h
  case ignored ht hd =>
    cases ht
    exact absurd (hs.symm.trans (hd rfl)) nofun
  case answered he => exact nomatch he
  case saving he => exact nomatch he
  case runFailed ht hd =>
    cases ht
    exact absurd rfl hd
  case failed ht hd =>
    cases ht
    exact absurd rfl hd
  case runDropped =>
    exact hw.over_of_tickets_eq ht (tickets_conclude ..) (by simp [conclude_eq])
  case dropped => exact hw.over_of_tickets_eq ht (tickets_close ..) rfl

-- An operation ends at most once.
theorem not_finished_of_over (ho : s.Over t) : ¬Transition s e s' (.finished t result) := by
  intro h
  cases h
  case answered => exact Nat.lt_irrefl _ ho.lt_nextTicket
  all_goals exact absurd (ho.stage?.symm.trans ‹s.stage? t = some _›) nofun

-- A step of an operation changes data only by ending it with success.
theorem sameData_or_ok (h : Transition s e s' effect) (hown : s.owner? e = some t) :
    s.view.SameData s'.view ∨ ∃ reply, effect = .finished t (.ok reply) := by
  have addressed {t'} (ht : e.ticket? = some t') : t' = t :=
    Option.some.inj ((owner?_of_ticket? ht).symm.trans hown)
  cases h
  case reset => exact nomatch hown
  case ran | ranStale | ranRefreshed | fetched | saved =>
    obtain rfl := addressed rfl
    exact .inr ⟨_, rfl⟩
  case runFailed | runDropped =>
    refine .inl ?_
    constructor <;> simp [conclude_eq]
  all_goals exact .inl ⟨rfl, rfl, rfl, rfl⟩

-- An operation that was taken up goes on only when its batch is answered.
theorem stage?_of_taken_up (h : Transition s e s' effect) (hw : s.WellFormed)
    (hs : s.stage? t = some stage) (hn : ∀ run, stage ≠ .accepted run)
    (hd : ∀ run, stage = .dispatched run → e.isAnswer = true → e.ticket? ≠ some t) :
    s'.stage? t = none ∨ s'.stage? t = some stage := by
  cases hs' : s'.stage? t with
  | none => exact .inl rfl
  | some stage' =>
    have hm := mem_operations_of_stage? hs'
    suffices (t, stage') ∈ s.operations from
      .inr (hs ▸ (stage?_of_mem_operations hw.nodup this).symm)
    cases h
    case accepted | fetching | saving =>
      cases mem_enroll.1 hm
      case inl hm => exact hm
      case inr hm =>
        obtain rfl : t = s.nextTicket := congrArg Prod.fst hm
        exact absurd (hw.lt_nextTicket _ (mem_tickets_of_stage? hs)) (Nat.lt_irrefl _)
    case started =>
      cases mem_enter hm
      case inl hm =>
        cases hm
        exact absurd (Option.some.inj (hs.symm.trans ‹_›)) (hn _)
      case inr hcase =>
        have ⟨hm, _⟩ := hcase
        exact hm
    case refreshing =>
      cases mem_enter hm
      case inl hm =>
        cases hm
        exact absurd rfl (hd _ (Option.some.inj (hs.symm.trans ‹_›)) rfl)
      case inr hcase =>
        have ⟨hm, _⟩ := hcase
        exact hm
    case fetched | saved | failed | dropped => exact (mem_close.1 hm).1
    case ran | ranStale | ranRefreshed | runFailed | runDropped => exact (mem_conclude.1 hm).1
    all_goals exact hm

theorem stage?_of_isLast (h : Transition s e s' effect) (hw : s.WellFormed)
    (hs : s.stage? t = some stage) (hl : stage.isLast) :
    s'.stage? t = none ∨ s'.stage? t = some stage :=
  h.stage?_of_taken_up hw hs (fun _ heq => nomatch heq ▸ hl) fun _ heq => nomatch heq ▸ hl

-- Only an operation that waits for the store has something written to it.
theorem stage?_of_write (h : Transition s e s' (.write t key text)) (hw : s.WellFormed) :
    ∃ favorites reply, s'.stage? t = some (.saving favorites reply) := by
  have hw' := h.wellFormed hw
  cases h
  case saving => exact ⟨_, _, stage?_of_mem_operations hw'.nodup (mem_enroll.2 (.inr rfl))⟩

end Transition

@[simp]
theorem settle_stage? (s : Session) (t : Ticket) : s.settle.stage? t = s.stage? t := by
  simp [stage?]

theorem over_step_of_finished (hw : s.WellFormed) (he : (s.step e).2 = .finished t result) :
    (s.step e).1.Over t := by
  have h := act_transition s e
  rw [show (s.act e).2 = _ from he] at h
  exact (h.over_of_finished hw).settle

theorem over_step_of_drop (hw : s.WellFormed) (hs : s.stage? t = some stage) :
    (s.step (.drop t)).1.Over t :=
  ((act_transition s (.drop t)).over_of_drop hw hs).settle

theorem over_step_of_stage?_eq_none (hw : s.WellFormed) (ht : t ∈ s.tickets)
    (hn : (s.step e).1.stage? t = none) : (s.step e).1.Over t where
  notMem := stage?_eq_none_iff.1 hn
  lt_nextTicket := by
    have hlt := hw.lt_nextTicket t ht
    simp only [step_eq, settle_nextTicket]
    obtain ⟨hn, -⟩ | ⟨hn, -⟩ := (act_transition s e).tickets
    · exact Nat.lt_of_lt_of_le hlt hn
    · exact hn ▸ Nat.lt_succ_of_lt hlt

theorem not_finished_step_of_over (ho : s.Over t) : (s.step e).2 ≠ .finished t result := by
  intro he
  have h := act_transition s e
  rw [show (s.act e).2 = _ from he] at h
  exact h.not_finished_of_over ho

theorem sameData_step_or_ok (hown : s.owner? e = some t) :
    s.view.SameData (s.step e).1.view ∨ ∃ reply, (s.step e).2 = .finished t (.ok reply) :=
  ((act_transition s e).sameData_or_ok hown).imp_left fun h => h.trans (sameData_settle _)

theorem stage?_step_of_isLast (hw : s.WellFormed) (hs : s.stage? t = some stage)
    (hl : stage.isLast) (e : Event) :
    (s.step e).1.stage? t = none ∨ (s.step e).1.stage? t = some stage := by
  simpa [step_eq] using (act_transition s e).stage?_of_isLast hw hs hl

theorem stage?_step_of_write (hw : s.WellFormed) (he : (s.step e).2 = .write t key text) :
    ∃ favorites reply, (s.step e).1.stage? t = some (.saving favorites reply) := by
  have h := act_transition s e
  rw [show (s.act e).2 = _ from he] at h
  simpa [step_eq] using h.stage?_of_write hw

end Session
end QueryConsole
