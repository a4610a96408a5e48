import Mathlib.Data.List.Induction
import QueryConsole.Proofs.Session.Transition

-- The list of events is arbitrary: it may hold answers that nobody asked for, so what holds of
-- every list holds of all backends, stores and orders of completion.
namespace QueryConsole.Session

def after (s : Session) (es : List Event) : Session :=
  es.foldl (fun s e => (s.step e).1) s

-- The events together with what each of them led to.
def trace (s : Session) : List Event → List (Event × Effect)
  | [] => []
  | e :: es => (e, (s.step e).2) :: (s.step e).1.trace es

section

variable (s : Session) (es es' : List Event) (e : Event)

@[simp]
theorem after_nil : s.after [] = s :=
  rfl

@[simp]
theorem after_cons : s.after (e :: es) = (s.step e).1.after es :=
  rfl

theorem after_append : s.after (es ++ es') = (s.after es).after es' :=
  List.foldl_append

@[simp]
theorem after_concat : s.after (es ++ [e]) = ((s.after es).step e).1 :=
  s.after_append es [e]

theorem trace_append : s.trace (es ++ es') = s.trace es ++ (s.after es).trace es' := by
  induction es generalizing s with
  | nil => rfl
  | cons e es ih => simp [trace, ih]

@[simp]
theorem trace_concat : s.trace (es ++ [e]) = s.trace es ++ [(e, ((s.after es).step e).2)] :=
  s.trace_append es [e]

theorem step_eq : s.step e = ((s.act e).1.settle, (s.act e).2) :=
  rfl

end

theorem Transition.settings {s s' : Session} {e : Event} {effect : Effect}
    (h : Transition s e s' effect) : s'.settings = s.settings := by
  cases h <;> simp [conclude_eq, publish, setParams, enroll, enter, close]

theorem settings_after (s : Session) (es : List Event) : (s.after es).settings = s.settings := by
  induction es generalizing s with
  | nil => rfl
  | cons e es ih =>
    rw [after_cons, ih, step_eq, settle_settings, (act_transition s e).settings]

section

variable {s : Session} {t t' : Ticket} {stage : Stage} {op : Ticket × Stage}

@[simp]
theorem settle_tickets (s : Session) : s.settle.tickets = s.tickets := by
  simp [tickets]

theorem tickets_enroll (s : Session) (stage : Stage) :
    (s.enroll stage).tickets = s.tickets ++ [s.nextTicket] := by
  simp [tickets, enroll]

theorem tickets_enter (s : Session) (t : Ticket) (stage : Stage) :
    (s.enter t stage).tickets = s.tickets := by
  simp only [tickets, enter, List.map_map]
  refine List.map_congr_left fun op _ => ?_
  simp only [Function.comp]
  split <;> simp_all

theorem tickets_close (s : Session) (t : Ticket) :
    (s.close t).tickets = s.tickets.filter (· ≠ t) := by
  simp [tickets, close, List.filter_map, Function.comp_def]

theorem tickets_conclude (s : Session) (t : Ticket) :
    (s.conclude t).tickets = s.tickets.filter (· ≠ t) := by
  simp [tickets, conclude_eq, List.filter_map, Function.comp_def]

theorem mem_enroll :
    op ∈ (s.enroll stage).operations ↔ op ∈ s.operations ∨ op = (s.nextTicket, stage) := by
  simp [enroll]

theorem mem_enter (h : op ∈ (s.enter t stage).operations) :
    op = (t, stage) ∨ op ∈ s.operations ∧ op.1 ≠ t := by
  obtain ⟨op', hm, rfl⟩ := List.mem_map.1 h
  split
  · exact .inl rfl
  · exact .inr ⟨hm, ‹_›⟩

theorem mem_enter_self (h : t ∈ s.tickets) (stage : Stage) :
    (t, stage) ∈ (s.enter t stage).operations := by
  obtain ⟨op, hm, rfl⟩ := List.mem_map.1 h
  exact List.mem_map.2 ⟨op, hm, if_pos rfl⟩

theorem mem_enter_of_ne (h : op ∈ s.operations) (hne : op.1 ≠ t) (stage : Stage) :
    op ∈ (s.enter t stage).operations :=
  List.mem_map.2 ⟨op, h, if_neg hne⟩

theorem mem_close : op ∈ (s.close t).operations ↔ op ∈ s.operations ∧ op.1 ≠ t := by
  simp [close]

theorem mem_conclude : op ∈ (s.conclude t).operations ↔ op ∈ s.operations ∧ op.1 ≠ t := by
  simp [conclude_eq]

end

structure WellFormed (s : Session) : Prop where
  nodup : s.tickets.Nodup
  -- Tickets of operations were given out before.
  lt_nextTicket : ∀ t ∈ s.tickets, t < s.nextTicket
  -- Nothing settles after shutdown.
  idle : s.active = false → s.settling = []
  -- A change of the favorites is not answered as if it were a run.
  replies : ∀ t favorites reply, (t, .saving favorites reply) ∈ s.operations →
    reply = .saved ∨ reply = .removed true

-- An operation that has been begun and has come to its end.
structure Over (s : Session) (t : Ticket) : Prop where
  notMem : t ∉ s.tickets
  lt_nextTicket : t < s.nextTicket

theorem Over.stage? {s : Session} {t : Ticket} (h : s.Over t) : s.stage? t = none :=
  stage?_eq_none_iff.2 h.notMem

namespace Transition

variable {s s' : Session} {e : Event} {effect : Effect} {t : Ticket}

-- A step gives out at most one ticket, the next one, and takes tickets back.
theorem tickets (h : Transition s e s' effect) :
    s.nextTicket ≤ s'.nextTicket ∧ s'.tickets.Sublist s.tickets ∨
      s'.nextTicket = s.nextTicket + 1 ∧ s'.tickets = s.tickets ++ [s.nextTicket] := by
  cases h
  case accepted | fetching | saving => exact .inr ⟨rfl, tickets_enroll ..⟩
  case started => exact .inl ⟨Nat.le_refl _, (tickets_enter ..).symm ▸ .refl _⟩
  case refreshing => exact .inl ⟨Nat.le_refl _, (tickets_enter ..).symm ▸ .refl _⟩
  case answered => exact .inl ⟨Nat.le_succ _, .refl _⟩
  case fetched | saved | failed | dropped =>
    exact .inl ⟨Nat.le_refl _, (tickets_close ..).symm ▸ List.filter_sublist⟩
  case ran | ranStale | ranRefreshed | runFailed | runDropped =>
    exact .inl ⟨by simp [conclude_eq, publish, setParams],
      (tickets_conclude ..).symm ▸ List.filter_sublist⟩
  all_goals exact .inl ⟨Nat.le_refl _, .refl _⟩

theorem idle (h : Transition s e s' effect) (hi : s.active = false → s.settling = []) :
    s'.active = false → s'.settling = [] := by
  intro ha
  cases h
  case shutdown => rfl
  case ran | ranStale | ranRefreshed | runFailed | runDropped =>
    have ha : s.active = false := by simpa [conclude_eq, publish, setParams] using ha
    simp [conclude_eq, publish, setParams, ha, hi ha]
  all_goals exact hi ha

theorem replies (h : Transition s e s' effect) (hs : s.WellFormed) :
    (t, .saving favorites reply) ∈ s'.operations → reply = .saved ∨ reply = .removed true := by
  intro hm
  cases h
  case accepted | fetching =>
    cases mem_enroll.1 hm
    case inl hm => exact hs.replies _ _ _ hm
    case inr hm => cases hm
  case saving hr _ =>
    cases mem_enroll.1 hm
    case inl hm => exact hs.replies _ _ _ hm
    case inr hm =>
      cases hm
      exact hr
  case started | refreshing =>
    cases mem_enter hm
    case inl hm => cases hm
    case inr hcase =>
      have ⟨hm, _⟩ := hcase
      exact hs.replies _ _ _ hm
  case fetched | saved | failed | dropped => exact hs.replies _ _ _ (mem_close.1 hm).1
  case ran | ranStale | ranRefreshed | runFailed | runDropped =>
    exact hs.replies _ _ _ (mem_conclude.1 hm).1
  all_goals exact hs.replies _ _ _ hm

theorem wellFormed (h : Transition s e s' effect) (hs : s.WellFormed) : s'.WellFormed := by
  refine ⟨?nodup, ?lt, h.idle hs.idle, fun _ _ _ => h.replies hs⟩
  case nodup =>
    obtain ⟨-, ht⟩ | ⟨-, ht⟩ := h.tickets
    · exact hs.nodup.sublist ht
    · refine ht ▸ List.nodup_append.2 ⟨hs.nodup, List.nodup_singleton _, ?_⟩
      intro t hm t' hm'
      exact List.mem_singleton.1 hm' ▸ Nat.ne_of_lt (hs.lt_nextTicket t hm)
  case lt =>
    intro t hm
    obtain ⟨hn, ht⟩ | ⟨hn, ht⟩ := h.tickets
    · exact Nat.lt_of_lt_of_le (hs.lt_nextTicket t (ht.subset hm)) hn
    · rw [hn]
      cases List.mem_append.1 (ht ▸ hm)
      case inl hm => exact Nat.lt_succ_of_lt (hs.lt_nextTicket t hm)
      case inr hm => exact List.mem_singleton.1 hm ▸ Nat.lt_succ_self _

theorem keeps_over (h : Transition s e s' effect) (ho : s.Over t) : s'.Over t := by
  have hlt := ho.lt_nextTicket
  obtain ⟨hn, ht⟩ | ⟨hn, ht⟩ := h.tickets
  · exact ⟨fun hm => ho.notMem (ht.subset hm), Nat.lt_of_lt_of_le hlt hn⟩
  · refine ⟨fun hm => ?_, hn ▸ Nat.lt_succ_of_lt hlt⟩
    cases List.mem_append.1 (ht ▸ hm)
    case inl hm => exact ho.notMem hm
    case inr hm => exact Nat.ne_of_lt hlt (List.mem_singleton.1 hm)

end Transition

theorem WellFormed.settle {s : Session} (h : s.WellFormed) : s.settle.WellFormed where
  nodup := by simpa using h.nodup
  lt_nextTicket := by simpa using h.lt_nextTicket
  idle ha := by simp [settle_eq, h.idle (by simpa using ha)]
  replies := by simpa using h.replies

theorem WellFormed.step {s : Session} (h : s.WellFormed) (e : Event) : (s.step e).1.WellFormed :=
  ((act_transition s e).wellFormed h).settle

theorem WellFormed.after {s : Session} (h : s.WellFormed) (es : List Event) :
    (s.after es).WellFormed := by
  induction es generalizing s with
  | nil => exact h
  | cons e es ih => exact ih (h.step e)

theorem wellFormed_initial (settings : SessionSettings) (favorites : Favorites) (nextId now : Nat) :
    (initial settings favorites nextId now).WellFormed where
  nodup := .nil
  lt_nextTicket := nofun
  idle := nofun
  replies := nofun

theorem Over.settle {s : Session} {t : Ticket} (h : s.Over t) : s.settle.Over t :=
  ⟨by simpa using h.notMem, by simpa using h.lt_nextTicket⟩

theorem Over.step {s : Session} {t : Ticket} (h : s.Over t) (e : Event) : (s.step e).1.Over t :=
  ((act_transition s e).keeps_over h).settle

end QueryConsole.Session
