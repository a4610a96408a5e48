import QueryConsole.Proofs.Backend.Directive
import QueryConsole.Proofs.Backend.Mock
import QueryConsole.Proofs.Session.Request
import QueryConsole.Store.Memory

namespace QueryConsole

variable {params : Params} {as : List Assignment} {names : List String} {m : Mock}

namespace Assignment

-- The answer to a line that was carried out.
def answer (a : Assignment) : Response :=
  .success a.line (ResponseData.empty.withTimeCost Mock.timeCost)

def updateAll (params : Params) (as : List Assignment) : Params :=
  as.foldl update params

end Assignment

-- The answer to a line that lists the parameters.
def Directive.listing (params : Params) (names : List String) : Response :=
  .success (inspection names)
    ((ResponseData.ofParams (params.restrict (names.contains ·))).withTimeCost Mock.timeCost)

namespace Mock

-- The mock can be used, and these are its parameters.
structure Holds (params : Params) (m : Mock) : Prop where
  poisoned : m.poisoned = false
  params : m.params = params

theorem Holds.visibleParams (h : m.Holds params) : m.visibleParams = params := by
  simp [Mock.visibleParams, h.poisoned, h.params]

theorem applyDirective_line {a : Assignment} (hm : m.Holds params) (h : a.Writable) :
    ∃ m', m'.Holds (a.update params) ∧ m.applyDirective a.line = (m', .ok a.answer) := by
  have hread := Assignment.read?_line h
  refine ⟨(m.apply a.line a.directive).1, ⟨?_, ?_⟩, ?_⟩
  · rw [apply_poisoned, hm.poisoned]
  · cases hv : a.value? <;> simp [Assignment.directive, Assignment.update, hv, apply, hm.params]
  · cases hv : a.value? <;>
      simp [applyDirective, hm.poisoned, hread, Assignment.directive, hv, apply, Assignment.answer]

theorem applyAll_lines (hm : m.Holds params) (h : ∀ a ∈ as, a.Writable) :
    ∃ m', m'.Holds (Assignment.updateAll params as) ∧
      m.applyAll (as.map (·.line)) = (m', .ok (as.map (·.answer))) := by
  induction as generalizing m params with
  | nil => exact ⟨m, hm, rfl⟩
  | cons a as ih =>
    have ⟨ha, has⟩ := List.forall_mem_cons.1 h
    have ⟨m₁, hm₁, hfirst⟩ := applyDirective_line hm ha
    have ⟨m₂, hm₂, hrest⟩ := ih hm₁ has
    exact ⟨m₂, hm₂, by simp [applyAll, hfirst, hrest, Answer.map]⟩

theorem applyDirective_inspection (hm : m.Holds params) (hne : names ≠ [])
    (h : ∀ name ∈ names, Directive.Listable name) :
    m.applyDirective (Directive.inspection names) =
      (m, .ok (Directive.listing params names)) := by
  have hread := Directive.read?_inspection hne h
  simp [applyDirective, hm.poisoned, hread, apply, hm.params, hne, Directive.listing]

-- A script of assignments carries them out, and the table is fetched after it.
theorem execute_assignments (hm : m.Holds params) (hne : as ≠ []) (h : ∀ a ∈ as, a.Writable) :
    ∃ m', Backend.execute m (Script.split (Assignment.script as)) =
        (m', .ok (as.map (·.answer), some (Assignment.updateAll params as))) ∧
      m'.Holds (Assignment.updateAll params as) := by
  have hnoted : ∀ call, (m.receive call).1.Holds params := fun _ => ⟨hm.poisoned, hm.params⟩
  obtain ⟨m₁, hm₁, happly⟩ := applyAll_lines (hnoted (.batch [] (as.map (·.line)) .consoleRun)) h
  have hbatch : Backend.askBatch m (Script.split (Assignment.script as)).statements
      (Script.split (Assignment.script as)).directives .consoleRun =
        (m₁, .ok (as.map (·.answer))) := by
    rw [Assignment.split_script hne h, askBatch_eq]
    simp [batch, happly, respondAll, Answer.map]
  obtain ⟨m₂, hinspect, hpoisoned, hparams⟩ := askSingle_inspection hm₁.poisoned
  refine ⟨m₂, ?_, hpoisoned, hparams.trans hm₁.params⟩
  rw [Backend.execute_of_refresh (Assignment.requiresRefresh_script hne h) hbatch hinspect,
    Backend.withParams, hm₁.params]
  rfl

-- An inspection changes nothing, and needs no refresh.
theorem execute_inspection (hm : m.Holds params) (hne : names ≠ [])
    (h : ∀ name ∈ names, Directive.Listable name) :
    ∃ m', Backend.execute m (Script.split (Directive.inspection names)) =
        (m', .ok ([Directive.listing params names], none)) ∧ m'.Holds params := by
  have hnoted : ∀ call, (m.receive call).1.Holds params := fun _ => ⟨hm.poisoned, hm.params⟩
  refine ⟨_, Backend.execute_of_not_refresh (Directive.requiresRefresh_inspection hne h) ?_,
    hnoted (.batch [] [Directive.inspection names] .consoleRun)⟩
  rw [Directive.split_inspection hne h, askBatch_eq]
  simp [batch, applyAll, applyDirective_inspection (hnoted _) hne h, respondAll, Answer.map]

end Mock

namespace Live

variable {τ : Type} [KeyValueStore τ] {w : Live Mock τ}

theorem exists_assigned (hw : w.Reachable) (ha : w.session.active = true)
    (hm : w.backend.Holds params) (hne : as ≠ []) (h : ∀ a ∈ as, a.Writable)
    (display : Option String) :
    ∃ w' entries, w.request (.submit (Assignment.script as) display) =
        (w', some (.ok (.ran w.session.nextSeq))) ∧
      w'.session.view.history = entries ++ w.session.view.history ∧
      entries.map (·.response) = as.map (·.answer) ∧
      w'.backend.Holds (Assignment.updateAll params as) ∧
      w'.session.view.params = some (Assignment.updateAll params as) ∧
      w'.session.active = true := by
  have ⟨m', hexecute, hm'⟩ := Mock.execute_assignments hm hne h
  have ⟨w', answer, hr, hexecute', ha', _, hview⟩ :=
    exists_executed_submit hw ha (Assignment.script as) display
  obtain ⟨rfl, rfl⟩ := Prod.mk.inj (hexecute.symm.trans hexecute')
  cases hview with
  | failed hn => cases hn
  | recorded nextId hrecords hparams =>
    exact ⟨w', _, hr, hrecords.history, Entry.map_response_ofResponses .., hm', hparams, ha'⟩

theorem exists_inspected (hw : w.Reachable) (ha : w.session.active = true)
    (hm : w.backend.Holds params) (hne : names ≠ [])
    (h : ∀ name ∈ names, Directive.Listable name) (display : Option String) :
    ∃ w' entry, w.request (.submit (Directive.inspection names) display) =
        (w', some (.ok (.ran w.session.nextSeq))) ∧
      w'.session.view.history = entry :: w.session.view.history ∧
      entry.response = Directive.listing params names ∧ w'.backend.Holds params ∧
      w'.session.view.params = w.session.view.params := by
  have ⟨m', hexecute, hm'⟩ := Mock.execute_inspection hm hne h
  have ⟨w', answer, hr, hexecute', _, _, hview⟩ :=
    exists_executed_submit hw ha (Directive.inspection names) display
  obtain ⟨rfl, rfl⟩ := Prod.mk.inj (hexecute.symm.trans hexecute')
  cases hview with
  | failed hn => cases hn
  | recorded nextId hrecords hparams =>
    exact ⟨w', _, hr, hrecords.history, rfl, hm', hparams⟩

-- Whatever happened before, the assignments are carried out in the mock and shown, and an
-- inspection reports what it asks for.
theorem params_after_assignments (hne : as ≠ []) (h : ∀ a ∈ as, a.Writable)
    (display : Option String) (settings : SessionSettings) (favorites : Favorites)
    (nextId now : Nat) (backend : Mock) (store : τ) (ms : List Move) :
    let w := after ⟨.initial settings favorites nextId now, backend, store, []⟩ ms
    let table := Assignment.updateAll w.backend.params as
    w.session.active = true → w.backend.poisoned = false →
    ∃ w' entries, w.request (.submit (Assignment.script as) display) =
        (w', some (.ok (.ran w.session.nextSeq))) ∧
      w'.session.view.history = entries ++ w.session.view.history ∧
      entries.map (·.response) = as.map (·.answer) ∧
      w'.backend.visibleParams = table ∧ w'.session.view.params = some table ∧
      ∀ names : List String, names ≠ [] → (∀ name ∈ names, Directive.Listable name) →
        ∃ w'' entry, w'.request (.submit (Directive.inspection names) none) =
            (w'', some (.ok (.ran w'.session.nextSeq))) ∧
          w''.session.view.history = entry :: w'.session.view.history ∧
          entry.response = Directive.listing table names ∧
          w''.backend.visibleParams = table ∧ w''.session.view.params = some table := by
  intro w table ha hm
  have hw : w.Reachable := ⟨settings, favorites, nextId, now, backend, store, ms, rfl⟩
  have ⟨w', entries, hr, hhistory, hanswers, hholds, hparams, ha'⟩ :=
    exists_assigned hw ha ⟨hm, rfl⟩ hne h display
  refine ⟨w', entries, hr, hhistory, hanswers, hholds.visibleParams, hparams, ?_⟩
  intro names hnames hlist
  have hw' : w'.Reachable := by
    have hrequest := hw.request (e := .submit (Assignment.script as) display) rfl
    rwa [hr] at hrequest
  have ⟨w'', entry, hr', hhistory', hlisting, hholds', hparams'⟩ :=
    exists_inspected hw' ha' hholds hnames hlist none
  exact ⟨w'', entry, hr', hhistory', hlisting, hholds'.visibleParams, hparams'.trans hparams⟩

-- A value that is full of marks, and the removal of a parameter that was there.
def markedLines : List Assignment :=
  [⟨"hosts", some (.list [.string "a;\n\"'\\", .map [("k", .int (-7))]])⟩, ⟨"old", none⟩]

theorem writable_of_mem_markedLines : ∀ a ∈ markedLines, a.Writable := by
  have hmap : ∀ depth, (Value.map [("k", .int (-7))]).Exact (depth + 1) := fun depth =>
    .map (by simp [Entries.Ordered]) (by simpa using .int)
  intro a ha
  simp only [markedLines, List.mem_cons, List.not_mem_nil, or_false] at ha
  rcases ha with rfl | rfl
  · refine ⟨⟨'h', "osts".toList, rfl, by decide, List.all_eq_true.1 (by decide)⟩, ?_⟩
    rintro v ⟨⟩
    exact .list (by simpa using ⟨.string, hmap _⟩)
  · refine ⟨⟨'o', "ld".toList, rfl, by decide, List.all_eq_true.1 (by decide)⟩, ?_⟩
    rintro v ⟨⟩

theorem params_after_markedLines :
    let backend := { Mock.default with params := .ofList [("old", .null), ("kept", .bool true)] }
    let w : Live Mock MemoryStore := ⟨.initial .default .empty 1 0, backend, .empty, []⟩
    ∃ w' w'' entry table, w.request (.submit (Assignment.script markedLines) none) =
        (w', some (.ok (.ran 1))) ∧
      w'.backend.visibleParams = table ∧ w'.session.view.params = some table ∧
      table.entries.map (·.1) = ["hosts", "kept"] ∧
      w'.request (.submit ":params old, hosts" none) =
        (w'', some (.ok (.ran w'.session.nextSeq))) ∧
      w''.session.view.history = entry :: w'.session.view.history ∧
      (entry.response.localParams.map fun t => t.entries.map (·.1)) = some ["hosts"] := by
  intro backend w
  have hlist : ∀ name ∈ ["old", "hosts"], Directive.Listable name := by
    intro name hm
    simp only [List.mem_cons, List.not_mem_nil, or_false] at hm
    rcases hm with rfl | rfl <;> exact ⟨by decide, List.all_eq_true.1 (by decide), by decide⟩
  have ⟨w', _, hr, _, _, hmock, hshown, hrest⟩ :=
    params_after_assignments (by decide) writable_of_mem_markedLines none .default .empty 1 0
      backend (MemoryStore.empty) [] rfl rfl
  have ⟨w'', entry, hr', hhistory, hlisting, _⟩ := hrest ["old", "hosts"] (by decide) hlist
  refine ⟨w', w'', entry, _, hr, hmock, hshown, ?_, hr', hhistory, ?_⟩
  · decide
  · rw [hlisting]
    decide

end Live
end QueryConsole
