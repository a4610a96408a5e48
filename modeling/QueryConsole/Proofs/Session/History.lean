import QueryConsole.Proofs.Session.Ledger

namespace QueryConsole

theorem Entry.map_id_ofResponses (seq nextId : Nat) (rs : List Response) :
    (Entry.ofResponses seq nextId rs).map (·.id) = List.range' nextId rs.length := by
  induction rs generalizing nextId with
  | nil => rfl
  | cons r rs ih => simp [Entry.ofResponses, ih, List.range'_succ]

theorem Entry.id_of_mem_ofResponses {seq nextId : Nat} {rs : List Response} {e : Entry}
    (h : e ∈ Entry.ofResponses seq nextId rs) : nextId ≤ e.id ∧ e.id < nextId + rs.length := by
  have : e.id ∈ (Entry.ofResponses seq nextId rs).map (·.id) := List.mem_map_of_mem h
  rwa [map_id_ofResponses, List.mem_range'_1] at this

theorem Stage.entries_of_run? {stage : Stage} (h : stage.run? = none) : stage.entries = [] := by
  cases stage <;> first | rfl | cases h

namespace Session

variable {s s' : Session} {t : Ticket} {stage : Stage} {e : Event} {effect : Effect}
  {used : Nat → Prop}

-- The identifiers that were shown up to now are `used`. Runs that wait for their parameters hold
-- entries under further ones, and no two of them under the same.
structure Fresh (s : Session) (used : Nat → Prop) : Prop where
  used_lt : ∀ id, used id → id < s.nextId
  shown : ∀ entry ∈ s.view.history, used entry.id
  nodup : (s.view.history.map (·.id)).Nodup
  held_lt : ∀ op ∈ s.operations, ∀ entry ∈ op.2.entries, entry.id < s.nextId
  held_unused : ∀ op ∈ s.operations, ∀ entry ∈ op.2.entries, ¬used entry.id
  held_nodup : ∀ op ∈ s.operations, (op.2.entries.map (·.id)).Nodup
  held_apart : ∀ op ∈ s.operations, ∀ op' ∈ s.operations, op.1 ≠ op'.1 →
    ∀ entry ∈ op.2.entries, ∀ entry' ∈ op'.2.entries, entry.id ≠ entry'.id

-- The identifiers that are used once the history of `s` is shown.
def Shown (used : Nat → Prop) (s : Session) (id : Nat) : Prop :=
  used id ∨ ∃ entry ∈ s.view.history, entry.id = id

namespace Fresh

theorem shown_eq (h : s.Fresh used) : Shown used s = used := by
  funext id
  refine propext ⟨fun hid => ?_, .inl⟩
  cases hid
  case inl hid => exact hid
  case inr hcase =>
    obtain ⟨entry, hm, rfl⟩ := hcase
    exact h.shown entry hm

-- Entries may leave the history, and operations may end or begin, but nothing else happens.
theorem keep (h : s.Fresh used) (hh : s'.view.history.Sublist s.view.history)
    (hops : ∀ op ∈ s'.operations, op ∈ s.operations ∨ op.2.entries = [])
    (hid : s'.nextId = s.nextId) : s'.Fresh used := by
  have mem {op entry} (hm : op ∈ s'.operations) (he : entry ∈ op.2.entries) :
      op ∈ s.operations := by
    cases hops op hm
    case inl hm => exact hm
    case inr hn => simp [hn] at he
  exact {
    used_lt := hid ▸ h.used_lt
    shown entry hm := h.shown entry (hh.subset hm)
    nodup := h.nodup.sublist (hh.map _)
    held_lt op hm entry he := hid ▸ h.held_lt op (mem hm he) entry he
    held_unused op hm entry he := h.held_unused op (mem hm he) entry he
    held_nodup op hm := by
      cases hops op hm
      case inl hm => exact h.held_nodup op hm
      case inr hn => simp [hn]
    held_apart op hm op' hm' hne entry he entry' he' :=
      h.held_apart op (mem hm he) op' (mem hm' he') hne entry he entry' he' }

-- The responses to a batch become entries, which the run holds from then on.
theorem hold (h : s.Fresh used) (t : Ticket) (run : Submission) (responses : List Response) :
    ({ s with nextId := s.nextId + responses.length }.enter t
      (.refreshing run (Entry.ofResponses run.seq s.nextId responses))).Fresh used := by
  have held {op : Ticket × Stage} {entry : Entry}
      (hm : op ∈ ({ s with nextId := s.nextId + responses.length }.enter t
        (.refreshing run (Entry.ofResponses run.seq s.nextId responses))).operations)
      (he : entry ∈ op.2.entries) :
      op.1 = t ∧ s.nextId ≤ entry.id ∧ entry.id < s.nextId + responses.length ∨
        op ∈ s.operations := by
    cases mem_enter hm
    case inl heq =>
      subst heq
      exact .inl ⟨rfl, Entry.id_of_mem_ofResponses he⟩
    case inr hold => exact .inr hold.1
  exact {
    used_lt id hid := Nat.lt_add_right _ (h.used_lt id hid)
    shown := h.shown
    nodup := h.nodup
    held_lt op hm entry he := by
      cases held hm he
      case inl hnew => exact hnew.2.2
      case inr hold => exact Nat.lt_add_right _ (h.held_lt op hold entry he)
    held_unused op hm entry he := by
      cases held hm he
      case inl hnew => exact fun hu => Nat.not_lt.2 hnew.2.1 (h.used_lt _ hu)
      case inr hold => exact h.held_unused op hold entry he
    held_nodup op hm := by
      cases mem_enter hm
      case inl heq =>
        subst heq
        simp [Stage.entries, Entry.map_id_ofResponses, List.nodup_range']
      case inr hold => exact h.held_nodup op hold.1
    held_apart op hm op' hm' hne entry he entry' he' := by
      cases held hm he <;> cases held hm' he'
      case inl.inl hnew hnew' => exact absurd (hnew.1.trans hnew'.1.symm) hne
      case inl.inr hnew hold =>
        have := h.held_lt op' hold entry' he'
        omega
      case inr.inl hold hnew =>
        have := h.held_lt op hold entry he
        omega
      case inr.inr hold hold' => exact h.held_apart op hold op' hold' hne entry he entry' he' }

-- What a run held goes in front of the history.
theorem merge (h : s.Fresh used) (hm : (t, stage) ∈ s.operations)
    (hh : s'.view.history = stage.entries ++ s.view.history)
    (hops : ∀ op ∈ s'.operations, op ∈ s.operations ∧ op.1 ≠ t)
    (hid : s'.nextId = s.nextId) : s'.Fresh (Shown used s') := by
  have cases_shown {id} (hu : Shown used s' id) :
      used id ∨ ∃ entry ∈ stage.entries, entry.id = id := by
    cases hu
    case inl hu => exact .inl hu
    case inr hcase =>
      obtain ⟨entry, he, rfl⟩ := hcase
      cases List.mem_append.1 (hh ▸ he)
      case inl he => exact .inr ⟨entry, he, rfl⟩
      case inr he => exact .inl (h.shown entry he)
  exact {
    used_lt id hu := by
      cases cases_shown hu
      case inl hu => exact hid ▸ h.used_lt id hu
      case inr hcase =>
        obtain ⟨entry, he, rfl⟩ := hcase
        exact hid ▸ h.held_lt _ hm entry he
    shown entry he := .inr ⟨entry, he, rfl⟩
    nodup := by
      rw [hh, List.map_append, List.nodup_append]
      refine ⟨h.held_nodup _ hm, h.nodup, fun id hi id' hi' => ?_⟩
      obtain ⟨entry, he, rfl⟩ := List.mem_map.1 hi
      obtain ⟨entry', he', rfl⟩ := List.mem_map.1 hi'
      exact fun heq => h.held_unused _ hm entry he (heq ▸ h.shown entry' he')
    held_lt op hop := hid ▸ h.held_lt op (hops op hop).1
    held_unused op hop entry he hu := by
      have ⟨hop, hne⟩ := hops op hop
      cases cases_shown hu
      case inl hu => exact h.held_unused op hop entry he hu
      case inr hcase =>
        have ⟨entry', he', heq⟩ := hcase
        exact h.held_apart op hop _ hm hne entry he entry' he' heq.symm
    held_nodup op hop := h.held_nodup op (hops op hop).1
    held_apart op hop op' hop' := h.held_apart op (hops op hop).1 op' (hops op' hop').1 }

theorem new_of_merge (h : s.Fresh used) (hm : (t, stage) ∈ s.operations)
    (hh : s'.view.history = stage.entries ++ s.view.history) :
    ∀ entry ∈ s'.view.history, entry ∈ s.view.history ∨ ¬used entry.id := by
  intro entry he
  cases List.mem_append.1 (hh ▸ he)
  case inl he => exact .inr (h.held_unused _ hm entry he)
  case inr he => exact .inl he

theorem of_keeps (h : s.Fresh used) (hk : s.Keeps s') : s'.Fresh used :=
  h.keep (hk.history ▸ .refl _) (fun op hm => (hk.runs op hm).imp_right Stage.entries_of_run?)
    hk.nextId

end Fresh

theorem Transition.fresh (ht : s.Transition e s' effect) (h : s.Fresh used) :
    s'.Fresh (Shown used s') ∧
      ∀ entry ∈ s'.view.history, entry ∈ s.view.history ∨ ¬used entry.id := by
  have of_sublist (hf : s'.Fresh used) (hh : s'.view.history.Sublist s.view.history) :
      s'.Fresh (Shown used s') ∧
        ∀ entry ∈ s'.view.history, entry ∈ s.view.history ∨ ¬used entry.id :=
    ⟨hf.shown_eq.symm ▸ hf, fun entry he => .inl (hh.subset he)⟩
  have of_keeps (hk : s.Keeps s') := of_sublist (h.of_keeps hk) (hk.history ▸ .refl _)
  cases ht
  case accepted text display ha =>
    refine of_sublist (h.keep (.refl _) (fun op hm => ?_) rfl) (.refl _)
    cases mem_enroll.1 hm
    case inl hm => exact .inl hm
    case inr heq =>
      subst heq
      exact .inr rfl
  case started t run hs =>
    refine of_sublist (h.keep (.refl _) (fun op hm => ?_) rfl) (.refl _)
    cases mem_enter hm
    case inl heq =>
      subst heq
      exact .inr rfl
    case inr hcase =>
      have ⟨hm, _⟩ := hcase
      exact .inl hm
  case refreshing t run responses hs ha hr =>
    have hf := h.hold t run responses
    exact of_sublist hf (.refl _)
  case ran t run responses hs ha hr =>
    -- As if the run first held its entries and then handed them over.
    have hf := h.hold t run responses
    have hm := mem_enter_self (mem_tickets_of_stage? hs)
      (.refreshing run (Entry.ofResponses run.seq s.nextId responses))
    refine ⟨hf.merge hm ?_ (fun op hop => ?_) ?_, hf.new_of_merge hm ?_⟩
    case refine_2 =>
      have ⟨hop, hne⟩ := mem_conclude.1 hop
      exact ⟨mem_enter_of_ne hop hne _, hne⟩
    all_goals simp [conclude_eq, publish, enter, View.merge, Stage.entries]
  case ranStale t run entries error hs ha =>
    have hm := mem_operations_of_stage? hs
    refine ⟨h.merge hm ?_ (fun op hop => (mem_conclude.1 hop :)) ?_, h.new_of_merge hm ?_⟩
    all_goals simp [conclude_eq, publish, View.merge, Stage.entries]
  case ranRefreshed t run entries response hs ha =>
    have hm := mem_operations_of_stage? hs
    refine ⟨h.merge hm ?_ (fun op hop => (mem_conclude.1 hop :)) ?_, h.new_of_merge hm ?_⟩
    all_goals simp [conclude_eq, publish, setParams, View.merge, Stage.entries]
  case fetching => exact of_keeps (keeps_enroll s rfl)
  case saving => exact of_keeps (keeps_enroll s rfl)
  case runFailed | runDropped => exact of_keeps (keeps_conclude s _)
  case failed | dropped => exact of_keeps (keeps_close s _)
  case fetched t response hs ha =>
    exact of_keeps ((keeps_setParams s response).trans (keeps_close _ t))
  case saved t favorites reply hs =>
    exact of_keeps ((keeps_publish s { s.view with favorites } rfl rfl).trans (keeps_close _ t))
  case reset ha =>
    exact of_sublist (h.keep (List.nil_sublist _) (fun op hm => .inl hm) rfl) (List.nil_sublist _)
  all_goals exact of_sublist (h.keep (.refl _) (fun op hm => .inl hm) rfl) (.refl _)

-- The identifiers of all entries that were shown while `s` lived through `es`.
def ShownDuring (s : Session) (es : List Event) (id : Nat) : Prop :=
  ∃ es₁, es₁ <+: es ∧ ∃ entry ∈ (s.after es₁).view.history, entry.id = id

theorem shownDuring_concat (s : Session) (es : List Event) (e : Event) :
    s.ShownDuring (es ++ [e]) = Shown (s.ShownDuring es) (s.after (es ++ [e])) := by
  funext id
  refine propext ⟨fun ⟨es₁, hp, hm⟩ => ?_, fun h => ?_⟩
  · rcases List.prefix_concat_iff.1 hp with rfl | hp
    · exact .inr hm
    · exact .inl ⟨es₁, hp, hm⟩
  · rcases h with ⟨es₁, hp, hm⟩ | hm
    · exact ⟨es₁, hp.trans (List.prefix_append es [e]), hm⟩
    · exact ⟨_, List.prefix_refl _, hm⟩

theorem Fresh.step (h : s.Fresh used) (e : Event) :
    (s.step e).1.Fresh (Shown used (s.step e).1) ∧
      ∀ entry ∈ (s.step e).1.view.history, entry ∈ s.view.history ∨ ¬used entry.id := by
  have ⟨hf, hnew⟩ := (act_transition s e).fresh h
  have hs : Shown used (s.step e).1 = Shown used (s.act e).1 := by
    funext id
    simp [Shown, step_eq]
  exact ⟨hs ▸ hf.of_keeps (keeps_settle _), by simpa [step_eq] using hnew⟩

theorem fresh_initial (settings : SessionSettings) (favorites : Favorites) (nextId now : Nat) :
    (initial settings favorites nextId now).Fresh
      ((initial settings favorites nextId now).ShownDuring []) where
  used_lt := by
    rintro id ⟨es₁, hp, entry, hm, -⟩
    simp [List.prefix_nil.1 hp, initial, View.initial] at hm
  shown := nofun
  nodup := .nil
  held_lt := nofun
  held_unused := nofun
  held_nodup := nofun
  held_apart := nofun

theorem Fresh.after (h : s.Fresh (s.ShownDuring [])) (es : List Event) :
    (s.after es).Fresh (s.ShownDuring es) := by
  induction es using List.reverseRecOn with
  | nil => exact h
  | append_singleton es e ih =>
    rw [shownDuring_concat, after_concat]
    exact (ih.step e).1

end Session

namespace Completion

theorem filter_block (c : Completion) (seq : Nat) :
    c.block.filter (·.1 = seq) = if c.run.seq = seq then c.block else [] := by
  by_cases h : c.run.seq = seq <;> simp [block, List.filter_map, Function.comp_def, h]

theorem filter_blocks_of_notMem {cs : List Completion} {seq : Nat}
    (h : seq ∉ cs.map (·.run.seq)) : (cs.flatMap block).filter (·.1 = seq) = [] := by
  rw [List.filter_flatMap, List.flatMap_eq_nil_iff]
  intro c hc
  rw [filter_block, if_neg]
  exact fun hs => h (hs ▸ List.mem_map_of_mem hc)

theorem filter_blocks {cs : List Completion} (hn : (cs.map (·.run.seq)).Nodup) {c : Completion}
    (hc : c ∈ cs) : (cs.flatMap block).filter (·.1 = c.run.seq) = c.block := by
  induction cs with
  | nil => cases hc
  | cons c' cs ih =>
    have ⟨hnew, hn⟩ := List.nodup_cons.1 hn
    rw [List.flatMap_cons, List.filter_append, filter_block]
    cases List.mem_cons.1 hc
    case inl heq =>
      subst heq
      simp [filter_blocks_of_notMem hnew]
    case inr hc =>
      have hne : c'.run.seq ≠ c.run.seq := fun hs => hnew (List.mem_map.2 ⟨c, hc, hs.symm⟩)
      simp [hne, ih hn hc]

end Completion

theorem View.map_content_entriesOf (v : View) (seq : Nat) :
    (v.entriesOf seq).map Entry.content = (v.history.map Entry.content).filter (·.1 = seq) := by
  rw [List.filter_map]
  rfl

namespace Ledger

theorem accepted_observe (l : Ledger) (e : Event) (effect : Effect) {a : Ticket × Submission}
    (h : a ∈ l.accepted) : a ∈ (l.observe e effect).accepted := by
  have hc (l : Ledger) : (l.conclude effect).accepted = l.accepted := by
    unfold conclude
    split <;> rfl
  rw [observe, hc]
  unfold hear
  split
  case h_1 => exact List.mem_append_left _ h
  case h_4 => split <;> exact h
  all_goals exact h

end Ledger

namespace Session

theorem Transition.run_of_ran (h : Transition s e s' (.finished t (.ok (.ran seq))))
    (hw : s.WellFormed) :
    ∃ stage run, (t, stage) ∈ s.operations ∧ stage.run? = some run ∧ run.seq = seq := by
  cases h
  case answered he hr =>
    rcases hr with ⟨hr, -⟩ | hr <;> cases hr
  case ran run responses ha hr hs => exact ⟨_, _, mem_operations_of_stage? hs, rfl, rfl⟩
  case ranStale run entries error ha hs => exact ⟨_, _, mem_operations_of_stage? hs, rfl, rfl⟩
  case ranRefreshed run entries response ha hs =>
    exact ⟨_, _, mem_operations_of_stage? hs, rfl, rfl⟩
  case saved favorites hs => simpa using hw.replies _ _ _ (mem_operations_of_stage? hs)
  case runFailed hr => exact nomatch hr
  case failed hr => exact nomatch hr

-- What a run resolves to is the number under which it was accepted.
theorem accepted_of_ran (h : Ledger.empty.Tracks s) (hw : s.WellFormed) (es : List Event)
    (hm : (e, .finished t (.ok (.ran seq))) ∈ s.trace es) :
    ∃ run, (t, run) ∈ (Ledger.ofTrace (s.trace es)).accepted ∧ run.seq = seq := by
  induction es using List.reverseRecOn with
  | nil => cases hm
  | append_singleton es e' ih =>
    rw [trace_concat] at hm ⊢
    rw [Ledger.ofTrace_concat]
    cases List.mem_append.1 hm
    case inl hm =>
      have ⟨run, hr, hs⟩ := ih hm
      exact ⟨run, Ledger.accepted_observe _ _ _ hr, hs⟩
    case inr hm =>
      have ⟨he, heff⟩ := Prod.mk.inj (List.mem_singleton.1 hm)
      have ht := act_transition (s.after es) e'
      rw [← show _ = ((s.after es).act e').2 from heff] at ht
      have ⟨stage, run, hop, hr, hs⟩ := ht.run_of_ran (hw.after es)
      exact ⟨run, Ledger.accepted_observe _ _ _ ((h.after hw es).running _ hop run hr).1, hs⟩

-- What the history and the text of a session are after `es`, in terms of what was observed.
structure Recorded (s : Session) (es : List Event) (l : Ledger) : Prop where
  -- One block for each run that succeeded since the last reset, newest first.
  history : (s.after es).view.history.map Entry.content = l.completed.flatMap Completion.block
  lastText : (s.after es).view.lastText = l.lastText s.settings.defaultStatement
  -- A run that succeeded was accepted, and its batch was answered with what the block shows.
  completed : ∀ c ∈ l.completed, ∃ t, (t, c.run) ∈ l.accepted ∧ (t, c.responses) ∈ l.answers
  increasing : (l.accepted.map (·.2.seq)).Pairwise (· < ·)
  -- A run has its number from the moment it is accepted.
  running : ∀ t stage run, (t, stage) ∈ (s.after es).operations → stage.run? = some run →
    (t, run) ∈ l.accepted
  -- The number that a run resolves to is its own.
  resolved : ∀ e t seq, (e, .finished t (.ok (.ran seq))) ∈ s.trace es →
    ∃ run, (t, run) ∈ l.accepted ∧ run.seq = seq
  entriesOf : ∀ c ∈ l.completed,
    ((s.after es).view.entriesOf c.run.seq).map Entry.content = c.block
  entriesOf_eq_nil : ∀ seq, seq ∉ l.completed.map (·.run.seq) →
    (s.after es).view.entriesOf seq = []
  ids : ((s.after es).view.history.map (·.id)).Nodup
  -- What comes next appears under identifiers that were not shown before.
  fresh : ∀ e, ∀ entry ∈ ((s.after es).step e).1.view.history,
    entry ∈ (s.after es).view.history ∨ ¬s.ShownDuring es entry.id

theorem recorded_after (settings : SessionSettings) (favorites : Favorites) (nextId now : Nat)
    (es : List Event) :
    Recorded (.initial settings favorites nextId now) es
      (Ledger.ofTrace ((initial settings favorites nextId now).trace es)) := by
  have hw := wellFormed_initial settings favorites nextId now
  have h₀ := Ledger.Tracks.initial settings favorites nextId now
  have hf := (fresh_initial settings favorites nextId now).after es
  have h := h₀.after hw es
  exact {
    history := h.history
    lastText := settings_after (.initial settings favorites nextId now) es ▸ h.lastText
    completed := h.accepted
    increasing := h.numbers ▸ List.pairwise_lt_range'
    running t stage run hm hr := (h.running (t, stage) hm run hr).1
    resolved e t seq hm := accepted_of_ran h₀ hw es hm
    entriesOf c hc := by
      rw [View.map_content_entriesOf, h.history, Completion.filter_blocks h.nodup hc]
    entriesOf_eq_nil seq hs := by
      rw [← List.map_eq_nil_iff (f := Entry.content), View.map_content_entriesOf, h.history,
        Completion.filter_blocks_of_notMem hs]
    ids := hf.nodup
    fresh e := (hf.step e).2 }

end Session
end QueryConsole
