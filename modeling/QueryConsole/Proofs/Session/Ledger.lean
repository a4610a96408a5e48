import Mathlib.Data.List.Nodup
import QueryConsole.Proofs.Session.Execution

-- What someone can note down about the runs of a session who sees nothing but events and effects:
-- which runs were accepted, what their batches were answered with, and which of them succeeded
-- since the last reset.
namespace QueryConsole

-- What an entry shows, apart from its identifier.
def Entry.content (e : Entry) : Nat × String × Response :=
  (e.seq, e.text, e.response)

-- A run that succeeded, with what its batch was answered with.
structure Completion where
  run : Submission
  responses : List Response

namespace Completion

def block (c : Completion) : List (Nat × String × Response) :=
  c.responses.map fun r => (c.run.seq, r.statement, r)

-- The text shown in place of the one that was submitted, unless there is none or it is empty.
def text (c : Completion) : String :=
  (c.run.display.filter (· ≠ "")).getD c.run.text

end Completion

structure Ledger where
  -- There was no shutdown so far.
  isOpen : Bool
  -- Oldest first. Runs are numbered from one on, in this order.
  accepted : List (Ticket × Submission)
  -- The answers to batches, newest first.
  answers : List (Ticket × List Response)
  -- The runs that succeeded since the last reset, newest first.
  completed : List Completion

namespace Ledger

def empty : Ledger :=
  ⟨true, [], [], []⟩

def accept (l : Ledger) (t : Ticket) (text : String) (display : Option String) : Ledger :=
  { l with accepted := l.accepted ++ [(t, ⟨l.accepted.length + 1, text, display⟩)] }

def answer (l : Ledger) (t : Ticket) (responses : List Response) : Ledger :=
  { l with answers := (t, responses) :: l.answers }

-- The run `t` succeeded under the number `seq`.
def complete (l : Ledger) (t : Ticket) (seq : Nat) : Ledger :=
  let run := (l.accepted.lookup t).getD ⟨seq, "", none⟩
  { l with completed := ⟨run, (l.answers.lookup t).getD []⟩ :: l.completed }

-- Answers count if something came of them; otherwise nobody had waited for them.
def hear (l : Ledger) : Event → Effect → Ledger
  | .submit text display, .accepted t => l.accept t text display
  | .batchAnswered _ _, .none => l
  | .batchAnswered t (.ok responses), _ => l.answer t responses
  | .reset, _ => if l.isOpen then { l with completed := [] } else l
  | .shutdown, _ => { l with isOpen := false }
  | _, _ => l

def conclude (l : Ledger) : Effect → Ledger
  | .finished t (.ok (.ran seq)) => l.complete t seq
  | _ => l

def observe (l : Ledger) (e : Event) (effect : Effect) : Ledger :=
  (l.hear e effect).conclude effect

def ofTrace (trace : List (Event × Effect)) : Ledger :=
  trace.foldl (fun l step => l.observe step.1 step.2) empty

def lastText (l : Ledger) (default : String) : String :=
  (l.completed.head?.map Completion.text).getD default

@[simp]
theorem ofTrace_concat (trace : List (Event × Effect)) (step : Event × Effect) :
    ofTrace (trace ++ [step]) = (ofTrace trace).observe step.1 step.2 :=
  List.foldl_concat ..

end Ledger

theorem Entry.map_content_ofResponses (run : Submission) (nextId : Nat) (rs : List Response) :
    (Entry.ofResponses run.seq nextId rs).map content = Completion.block ⟨run, rs⟩ := by
  induction rs generalizing nextId with
  | nil => rfl
  | cons r rs ih => exact congrArg (_ :: ·) (ih _)

theorem Submission.lastText_eq (run : Submission) (responses : List Response) :
    run.lastText = Completion.text ⟨run, responses⟩ := by
  cases h : run.display with
  | none => simp [lastText, Completion.text, h]
  | some display =>
    by_cases hd : display = "" <;> simp [lastText, Completion.text, h, hd, Option.filter]

namespace Ledger

variable {l : Ledger} {s s' : Session} {t : Ticket} {run : Submission} {e : Event}

-- How a session agrees with the ledger kept on it.
structure Tracks (l : Ledger) (s : Session) : Prop where
  isOpen : l.isOpen = s.active
  nextSeq : s.nextSeq = l.accepted.length + 1
  numbers : l.accepted.map (·.2.seq) = List.range' 1 l.accepted.length
  tickets : (l.accepted.map (·.1)).Nodup
  lt_nextTicket : ∀ t ∈ l.accepted.map (·.1), t < s.nextTicket
  -- A run under way was accepted, and has not succeeded.
  running : ∀ op ∈ s.operations, ∀ run, op.2.run? = some run →
    (op.1, run) ∈ l.accepted ∧ run.seq ∉ l.completed.map (·.run.seq)
  -- A run that waits for the parameters holds what its batch was answered with.
  answered : ∀ op ∈ s.operations, ∀ run entries, op.2 = .refreshing run entries →
    ∃ responses, l.answers.lookup op.1 = some responses ∧
      entries.map Entry.content = Completion.block ⟨run, responses⟩
  -- A run that succeeded was accepted, and its batch was answered.
  accepted : ∀ c ∈ l.completed, ∃ t, (t, c.run) ∈ l.accepted ∧ (t, c.responses) ∈ l.answers
  nodup : (l.completed.map (·.run.seq)).Nodup
  history : s.view.history.map Entry.content = l.completed.flatMap Completion.block
  lastText : s.view.lastText = l.lastText s.settings.defaultStatement

namespace Tracks

theorem seq_le (h : l.Tracks s) (hm : (t, run) ∈ l.accepted) : run.seq ≤ l.accepted.length := by
  have : run.seq ∈ l.accepted.map (·.2.seq) := List.mem_map_of_mem (f := (·.2.seq)) hm
  rw [h.numbers, List.mem_range'_1] at this
  omega

theorem eq_of_seq_eq (h : l.Tracks s) {a b : Ticket × Submission} (ha : a ∈ l.accepted)
    (hb : b ∈ l.accepted) (hs : a.2.seq = b.2.seq) : a = b := by
  have hn : (l.accepted.map (·.2.seq)).Nodup := h.numbers ▸ List.nodup_range'
  exact List.inj_on_of_nodup_map hn ha hb hs

theorem lookup_eq (h : l.Tracks s) (hm : (t, run) ∈ l.accepted) :
    l.accepted.lookup t = some run := by
  have ⟨front, back, hl⟩ := List.append_of_mem hm
  refine List.lookup_eq_some_iff.2 ⟨front, back, hl, fun p hp => ?_⟩
  have hn := h.tickets
  rw [hl, List.map_append, List.map_cons, List.nodup_append] at hn
  have : p.1 ≠ t := hn.2.2 _ (List.mem_map_of_mem hp) _ List.mem_cons_self
  simpa using Ne.symm this

theorem mem_answers (ha : l.answers.lookup t = some responses) : (t, responses) ∈ l.answers := by
  have ⟨front, back, hl, _⟩ := List.lookup_eq_some_iff.1 ha
  simp [hl]

theorem complete_eq (h : l.Tracks s) (hm : (t, run) ∈ l.accepted)
    (ha : l.answers.lookup t = some responses) (seq : Nat) :
    l.complete t seq = { l with completed := ⟨run, responses⟩ :: l.completed } := by
  simp [complete, h.lookup_eq hm, ha]

-- An answer to the batch of a run does not touch runs that wait for their parameters.
theorem answer (h : l.Tracks s) (responses : List Response)
    (hn : ∀ run entries, (t, .refreshing run entries) ∉ s.operations) :
    (l.answer t responses).Tracks s where
  __ := h
  answered op hm run entries hr := by
    have ht : op.1 ≠ t := by
      rintro rfl
      exact hn run entries (hr ▸ hm)
    have hb : (op.1 == t) = false := beq_false_of_ne ht
    simpa [Ledger.answer, List.lookup_cons, hb] using h.answered op hm run entries hr
  accepted c hc :=
    have ⟨t, ht, ha⟩ := h.accepted c hc
    ⟨t, ht, List.mem_cons_of_mem _ ha⟩

end Tracks

end Ledger

-- What a step leaves alone that accepts no run and brings no run forward, other than by ending it.
structure Session.Keeps (s s' : Session) : Prop where
  active : s'.active = s.active
  settings : s'.settings = s.settings
  nextSeq : s'.nextSeq = s.nextSeq
  nextId : s'.nextId = s.nextId
  nextTicket : s.nextTicket ≤ s'.nextTicket
  history : s'.view.history = s.view.history
  lastText : s'.view.lastText = s.view.lastText
  runs : ∀ op ∈ s'.operations, op ∈ s.operations ∨ op.2.run? = none

namespace Ledger

variable {l : Ledger} {s s' : Session} {t : Ticket} {run : Submission} {e : Event}
  {effect : Effect} {stage : Stage}

namespace Tracks

theorem keep (h : l.Tracks s) (hk : s.Keeps s') : l.Tracks s' where
  isOpen := hk.active ▸ h.isOpen
  nextSeq := hk.nextSeq ▸ h.nextSeq
  numbers := h.numbers
  tickets := h.tickets
  lt_nextTicket t ht := Nat.lt_of_lt_of_le (h.lt_nextTicket t ht) hk.nextTicket
  running op hm run hr := by
    cases hk.runs op hm
    case inl hm => exact h.running op hm run hr
    case inr hn => simp [hn] at hr
  answered op hm run entries hr := by
    cases hk.runs op hm
    case inl hm => exact h.answered op hm run entries hr
    case inr hn => simp [hr, Stage.run?] at hn
  accepted := h.accepted
  nodup := h.nodup
  history := hk.history ▸ h.history
  lastText := hk.lastText ▸ hk.settings ▸ h.lastText

-- A run under way succeeds: its block goes in front of the history.
theorem merge (h : l.Tracks s) (hm : (t, stage) ∈ s.operations) (hr : stage.run? = some run)
    (ha : l.answers.lookup t = some responses) (hactive : s'.active = s.active)
    (hseq : s'.nextSeq = s.nextSeq) (hticket : s'.nextTicket = s.nextTicket)
    (hops : ∀ op ∈ s'.operations, op ∈ s.operations ∧ op.1 ≠ t)
    (hhist : s'.view.history.map Entry.content =
      Completion.block ⟨run, responses⟩ ++ s.view.history.map Entry.content)
    (htext : s'.view.lastText = run.lastText) (seq : Nat) : (l.complete t seq).Tracks s' := by
  have ⟨hmem, hnew⟩ := h.running _ hm run hr
  rw [h.complete_eq hmem ha]
  exact {
    isOpen := hactive ▸ h.isOpen
    nextSeq := hseq ▸ h.nextSeq
    numbers := h.numbers
    tickets := h.tickets
    lt_nextTicket := hticket ▸ h.lt_nextTicket
    running op hop run' hr' := by
      have ⟨hop, hne⟩ := hops op hop
      have ⟨hmem', hnew'⟩ := h.running op hop run' hr'
      have hseq : run'.seq ≠ run.seq := fun hs =>
        hne (congrArg Prod.fst (h.eq_of_seq_eq hmem' hmem hs))
      exact ⟨hmem', by simpa [hseq] using hnew'⟩
    answered op hop := h.answered op (hops op hop).1
    accepted := by
      intro c hc
      cases List.mem_cons.1 hc
      case inl heq =>
        subst heq
        exact ⟨t, hmem, mem_answers ha⟩
      case inr hc => exact h.accepted c hc
    nodup := List.nodup_cons.2 ⟨hnew, h.nodup⟩
    history := by simp [hhist, h.history]
    lastText := by simp [htext, Ledger.lastText, run.lastText_eq responses] }

end Tracks

theorem observe_of_ignored (l : Ledger) (ht : e.ticket? = some t) : l.observe e .none = l := by
  cases e <;> first | rfl | cases ht

theorem observe_of_isRequest (l : Ledger) (he : e.isRequest)
    (hf : ∀ t', effect ≠ .accepted t') (hr : ∀ t' seq, effect ≠ .finished t' (.ok (.ran seq))) :
    l.observe e effect = l := by
  have hc : l.conclude effect = l := by
    unfold conclude
    split
    · exact absurd rfl (hr _ _)
    · rfl
  cases e <;> first | exact hc | cases he
  case submit => cases effect <;> first | exact hc | exact absurd rfl (hf _)

theorem observe_of_not_ok (l : Ledger) (ht : e.ticket? = some t) (hr : result.isOk = false) :
    l.observe e (.finished t result) = l ∨
      ∃ responses, l.observe e (.finished t result) = l.answer t responses := by
  have hc (l : Ledger) : l.conclude (.finished t result) = l := by
    cases result <;> first | rfl | cases hr
  simp only [observe, hc]
  cases e <;> cases ht <;> first | exact .inl rfl | skip
  case batchAnswered answer =>
    cases answer
    case ok responses => exact .inr ⟨responses, rfl⟩
    all_goals exact .inl rfl

end Ledger

namespace Session

variable {s : Session} {t : Ticket} {stage : Stage}

theorem keeps_conclude (s : Session) (t : Ticket) : s.Keeps (s.conclude t) := by
  constructor
  case runs => exact fun op hm => .inl (mem_conclude.1 hm).1
  all_goals simp [conclude_eq]

theorem keeps_close (s : Session) (t : Ticket) : s.Keeps (s.close t) := by
  constructor
  case runs => exact fun op hm => .inl (mem_close.1 hm).1
  all_goals simp [close]

theorem keeps_publish (s : Session) (v : View) (hh : v.history = s.view.history)
    (ht : v.lastText = s.view.lastText) : s.Keeps (s.publish v) := by
  constructor
  case history => exact hh
  case lastText => exact ht
  case runs => exact fun op hm => .inl hm
  all_goals simp [publish]

theorem keeps_setParams (s : Session) (r : Response) : s.Keeps (s.setParams r) :=
  keeps_publish s _ rfl rfl

theorem keeps_enroll (s : Session) (hs : stage.run? = none) : s.Keeps (s.enroll stage) := by
  constructor
  case runs =>
    intro op hm
    cases mem_enroll.1 hm
    case inl hm => exact .inl hm
    case inr heq =>
      subst heq
      exact .inr hs
  all_goals simp [enroll]

theorem keeps_settle (s : Session) : s.Keeps s.settle := by
  constructor
  case runs => exact fun op hm => .inl (by simpa using hm)
  all_goals simp

theorem Keeps.trans {s₁ s₂ s₃ : Session} (h : s₁.Keeps s₂) (h' : s₂.Keeps s₃) : s₁.Keeps s₃ where
  active := h'.active.trans h.active
  settings := h'.settings.trans h.settings
  nextSeq := h'.nextSeq.trans h.nextSeq
  nextId := h'.nextId.trans h.nextId
  nextTicket := Nat.le_trans h.nextTicket h'.nextTicket
  history := h'.history.trans h.history
  lastText := h'.lastText.trans h.lastText
  runs op hm := by
    cases h'.runs op hm
    case inl hm => exact h.runs op hm
    case inr hn => exact .inr hn

end Session

namespace Ledger.Tracks

open Session

variable {l : Ledger} {s s' : Session} {t : Ticket} {run : Submission} {e : Event}
  {effect : Effect} {stage : Stage}

theorem accept (h : l.Tracks s) (text : String) (display : Option String) :
    (l.accept s.nextTicket text display).Tracks
      (({ s with nextSeq := s.nextSeq + 1, inFlight := s.inFlight + 1 }.publish
        { s.view with loading := true }).enroll (.accepted ⟨s.nextSeq, text, display⟩)) where
  isOpen := h.isOpen
  nextSeq := by simp [Ledger.accept, enroll, publish, h.nextSeq]
  numbers := by simp [Ledger.accept, h.numbers, List.range'_1_concat, Nat.add_comm]
  tickets := by
    rw [Ledger.accept, List.map_append, List.nodup_append]
    refine ⟨h.tickets, List.nodup_singleton _, fun t ht t' ht' => ?_⟩
    exact List.mem_singleton.1 ht' ▸ Nat.ne_of_lt (h.lt_nextTicket t ht)
  lt_nextTicket t ht := by
    rw [Ledger.accept, List.map_append] at ht
    cases List.mem_append.1 ht
    case inl ht => exact Nat.lt_succ_of_lt (h.lt_nextTicket t ht)
    case inr ht => exact List.mem_singleton.1 ht ▸ Nat.lt_succ_self _
  running op hm run hr := by
    cases mem_enroll.1 hm
    case inl hm =>
      obtain ⟨hmem, hnew⟩ := h.running op hm run hr
      exact ⟨List.mem_append_left _ hmem, hnew⟩
    case inr heq =>
      subst heq
      obtain rfl : _ = run := by simpa [Stage.run?] using hr
      refine ⟨List.mem_append_right _ (by simp [publish, h.nextSeq]), fun hc => ?_⟩
      obtain ⟨c, hc, hs⟩ := List.mem_map.1 hc
      obtain ⟨t, ht, _⟩ := h.accepted c hc
      have hle := h.seq_le ht
      have hseq : c.run.seq = s.nextSeq := hs
      have hnext := h.nextSeq
      omega
  answered op hm run entries hr := by
    cases mem_enroll.1 hm
    case inl hm => exact h.answered op hm run entries hr
    case inr heq =>
      subst heq
      cases hr
  accepted c hc := by
    obtain ⟨t, ht, ha⟩ := h.accepted c hc
    exact ⟨t, List.mem_append_left _ ht, ha⟩
  nodup := h.nodup
  history := h.history
  lastText := h.lastText

-- A run goes on to a stage in which it waits for its batch.
theorem start (h : l.Tracks s) (hm : (t, stage) ∈ s.operations) (hr : stage.run? = some run) :
    l.Tracks (s.enter t (.dispatched run)) where
  __ := h
  running op hop run' hr' := by
    cases mem_enter hop
    case inl heq =>
      subst heq
      obtain rfl : run = run' := by simpa [Stage.run?] using hr'
      exact h.running _ hm run hr
    case inr hcase =>
      have ⟨hop, _⟩ := hcase
      exact h.running op hop run' hr'
  answered op hop run' entries hr' := by
    cases mem_enter hop
    case inl heq =>
      subst heq
      cases hr'
    case inr hcase =>
      have ⟨hop, _⟩ := hcase
      exact h.answered op hop run' entries hr'

-- A run has its batch answered and waits for its parameters.
theorem refresh (h : l.Tracks s) (hm : (t, .dispatched run) ∈ s.operations) (nextId : Nat)
    (responses : List Response) :
    (l.answer t responses).Tracks ({ s with nextId }.enter t
      (.refreshing run (Entry.ofResponses run.seq s.nextId responses))) where
  __ := h
  running op hop run' hr' := by
    cases mem_enter hop
    case inl heq =>
      subst heq
      obtain rfl : run = run' := by simpa [Stage.run?] using hr'
      exact h.running _ hm run rfl
    case inr hcase =>
      have ⟨hop, _⟩ := hcase
      exact h.running op hop run' hr'
  answered op hop run' entries hr' := by
    cases mem_enter hop
    case inl heq =>
      subst heq
      cases hr'
      exact ⟨responses, by simp [Ledger.answer], Entry.map_content_ofResponses ..⟩
    case inr hcase =>
      have ⟨hop, hne⟩ := hcase
      have hb : (op.1 == t) = false := beq_false_of_ne hne
      simpa [Ledger.answer, List.lookup_cons, hb] using h.answered op hop run' entries hr'
  accepted c hc :=
    have ⟨t, ht, ha⟩ := h.accepted c hc
    ⟨t, ht, List.mem_cons_of_mem _ ha⟩

theorem reset (h : l.Tracks s) :
    ({ l with completed := [] } : Ledger).Tracks (s.publish (s.view.reset s.settings)) where
  __ := h
  running op hm run hr := ⟨(h.running op hm run hr).1, List.not_mem_nil⟩
  accepted := nofun
  nodup := .nil
  history := rfl
  lastText := rfl

theorem transition (h : l.Tracks s) (hw : s.WellFormed) (ht : s.Transition e s' effect) :
    (l.observe e effect).Tracks s' := by
  have unique {t stage stage'} (hs : s.stage? t = some stage) (hm : (t, stage') ∈ s.operations) :
      stage = stage' :=
    Option.some.inj (hs.symm.trans (stage?_of_mem_operations hw.nodup hm))
  cases ht
  case ignored ht hd =>
    rw [observe_of_ignored l ht]
    exact h
  case resetRefused ha =>
    rw [show l.observe .reset .none = l from if_neg (by simp [h.isOpen, ha])]
    exact h
  case accepted text display ha => exact h.accept text display
  case answered result hr he =>
    rw [observe_of_isRequest l he (by simp) (by rcases hr with ⟨rfl, -⟩ | rfl <;> simp)]
    exact h.keep ⟨rfl, rfl, rfl, rfl, Nat.le_succ _, rfl, rfl, fun op hm => .inl hm⟩
  case fetching => exact h.keep (keeps_enroll s rfl)
  case saving ha hr he =>
    rw [observe_of_isRequest l he (by simp) (by simp)]
    exact h.keep (keeps_enroll s rfl)
  case started run hs => exact h.start (mem_operations_of_stage? hs) rfl
  case refreshing run responses hs ha hr =>
    exact h.refresh (mem_operations_of_stage? hs) _ responses
  case ran t run responses hs ha hr =>
    have hl : (l.answer t responses).Tracks s :=
      h.answer responses fun _ _ hm => nomatch unique hs hm
    have hans : (l.answer t responses).answers.lookup t = some responses := by
      simp [Ledger.answer]
    refine hl.merge (mem_operations_of_stage? hs) rfl hans ?_ ?_ ?_ ?_ ?_ ?_ run.seq
    case refine_4 => exact fun op hm => (mem_conclude.1 hm :)
    case refine_5 =>
      simp [conclude_eq, publish, View.merge, Entry.map_content_ofResponses]
    all_goals simp [conclude_eq, publish, View.merge]
  case ranStale t run entries error hs ha =>
    have hm := mem_operations_of_stage? hs
    obtain ⟨responses, hans, hent⟩ := h.answered _ hm run entries rfl
    refine h.merge hm rfl hans ?_ ?_ ?_ ?_ ?_ ?_ run.seq
    case refine_4 => exact fun op hm => (mem_conclude.1 hm :)
    all_goals simp [conclude_eq, publish, View.merge, hent]
  case ranRefreshed t run entries response hs ha =>
    have hm := mem_operations_of_stage? hs
    obtain ⟨responses, hans, hent⟩ := h.answered _ hm run entries rfl
    refine h.merge hm rfl hans ?_ ?_ ?_ ?_ ?_ ?_ run.seq
    case refine_4 => exact fun op hm => (mem_conclude.1 hm :)
    all_goals simp [conclude_eq, publish, setParams, View.merge, hent]
  case runFailed t stage result hs hr hne ht hd =>
    have hk := h.keep (keeps_conclude s t)
    rcases observe_of_not_ok l ht hne with hl | ⟨responses, hl⟩ <;> rw [hl]
    · exact hk
    · exact hk.answer responses fun _ _ hm => (mem_conclude.1 hm).2 rfl
  case fetched t response hs ha =>
    exact h.keep ((keeps_setParams s response).trans (keeps_close _ t))
  case saved t favorites reply hs =>
    have hk : s.Keeps ((s.publish { s.view with favorites }).close t) :=
      (keeps_publish s { s.view with favorites } rfl rfl).trans (keeps_close _ t)
    rcases hw.replies t favorites reply (mem_operations_of_stage? hs) with rfl | rfl
    all_goals exact h.keep hk
  case failed t stage result hs hr hne ht hd =>
    have hk := h.keep (keeps_close s t)
    rcases observe_of_not_ok l ht hne with hl | ⟨responses, hl⟩ <;> rw [hl]
    · exact hk
    · exact hk.answer responses fun _ _ hm => (mem_close.1 hm).2 rfl
  case runDropped t stage hs hr => exact h.keep (keeps_conclude s t)
  case dropped t stage hs hr => exact h.keep (keeps_close s t)
  case reset ha =>
    rw [show l.observe .reset .none = { l with completed := [] } from if_pos (h.isOpen.trans ha)]
    exact h.reset
  case shutdown => exact { h with isOpen := rfl }
  case advance ms =>
    exact h.keep ⟨rfl, rfl, rfl, rfl, Nat.le_refl _, rfl, rfl, fun op hm => .inl hm⟩

theorem step (h : l.Tracks s) (hw : s.WellFormed) (e : Event) :
    (l.observe e (s.step e).2).Tracks (s.step e).1 :=
  (h.transition hw (act_transition s e)).keep (keeps_settle _)

theorem initial (settings : SessionSettings) (favorites : Favorites) (nextId now : Nat) :
    Ledger.empty.Tracks (.initial settings favorites nextId now) where
  isOpen := rfl
  nextSeq := rfl
  numbers := rfl
  tickets := .nil
  lt_nextTicket := nofun
  running := nofun
  answered := nofun
  accepted := nofun
  nodup := .nil
  history := rfl
  lastText := rfl

theorem after (h : Ledger.empty.Tracks s) (hw : s.WellFormed) (es : List Event) :
    (Ledger.ofTrace (s.trace es)).Tracks (s.after es) := by
  induction es using List.reverseRecOn with
  | nil => exact h
  | append_singleton es e ih => simpa using ih.step (hw.after es) e

end Ledger.Tracks
end QueryConsole
