import QueryConsole.Console.Handle
import QueryConsole.Proofs.Backend.Mock
import QueryConsole.Proofs.Console.Block
import QueryConsole.Proofs.Session.Request
import QueryConsole.Store.Memory

namespace QueryConsole

-- Under a number that is new, the history shows the entries that were added.
theorem View.Records.entriesOf_eq {entries : List Entry} {lastText : String} {v v' : View}
    {seq : Nat} (h : Records entries lastText v v') (hs : ∀ entry ∈ entries, entry.seq = seq)
    (hnew : ∀ entry ∈ v.history, entry.seq < seq) : v'.entriesOf seq = entries := by
  have hadded : entries.filter (·.seq = seq) = entries :=
    List.filter_eq_self.2 fun entry hm => decide_eq_true (hs entry hm)
  have hold : v.history.filter (·.seq = seq) = [] :=
    List.filter_eq_nil_iff.2 fun entry hm => by simpa using Nat.ne_of_lt (hnew entry hm)
  rw [View.entriesOf, h.history, List.filter_append, hadded, hold, List.append_nil]

namespace Console

variable {σ τ : Type} [Backend σ] [KeyValueStore τ] {w : Live σ τ}

theorem SingleUnit.length_splitChars {text : List Char} (h : SingleUnit text) :
    (Script.splitChars text).directives.length +
      (Script.splitChars text).statements.length = 1 := by
  rw [Script.length_units, Script.units_of_whole h.whole h.nonblank, List.length_singleton]

-- What is reported of a run that came to this, and added these entries to the history.
def reportOf (entries : List Entry) : Answer α → Option Report
  | .ok _ => some (.results entries)
  | .error e => some (.error e.message)
  | .crash => none

-- From `w` to `w'` a text was run, which came to this answer and this report.
structure RunsTo (text : String) (answer : Answer (List Response × Option Params))
    (w w' : Live σ τ) (report : Option Report) : Prop where
  moves : w.ByMoves w'
  active : w'.session.active = true
  nextSeq : w'.session.nextSeq = w.session.nextSeq + 1
  execute : Backend.execute w.backend (Script.split text) = (w'.backend, answer)
  view : View.Shows ⟨w.session.nextSeq, text, none⟩ w.session.view w'.session.view answer
  report : report = reportOf (w'.session.view.entriesOf w.session.nextSeq) answer

theorem exists_runText (h : w.Reachable) (ha : w.session.active = true) (text : String) :
    ∃ w' report answer, runText w text = (w', report) ∧ RunsTo text answer w w' report := by
  have ⟨w', answer, hr, hexecute, ha', hnext, hview⟩ :=
    Live.exists_executed_submit h ha text none
  have hmoves : w.ByMoves w' := by
    have hrequest := w.byMoves_request (e := .submit text none) rfl
    rwa [hr] at hrequest
  refine ⟨w', _, answer, ?_, hmoves, ha', hnext, hexecute, hview, rfl⟩
  rw [runText, ask, hr]
  cases answer <;> rfl

-- The report on a run that succeeds shows the entries that it added.
theorem RunsTo.exists_results {text : String} {w' : Live σ τ} {report : Option Report}
    {responses : List Response} {fetched : Option Params}
    (h : RunsTo text (.ok (responses, fetched)) w w' report) (hw : w.Reachable) :
    ∃ nextId, report = some (.results (Entry.ofResponses w.session.nextSeq nextId responses)) ∧
      View.Records (Entry.ofResponses w.session.nextSeq nextId responses) text w.session.view
        w'.session.view := by
  cases h.view with
  | failed hn => cases hn
  | recorded nextId hrecords =>
    have hentries := hrecords.entriesOf_eq (fun _ hm => Entry.seq_of_mem_ofResponses _ _ hm)
      hw.seq_lt_nextSeq
    exact ⟨nextId, h.report.trans (congrArg (reportOf · _) hentries), hrecords⟩

-- A block that was typed is one unit, so wherever it is run, it makes one entry.
theorem single_entry_of_mem_inputsOf {lines : List (List Char)} (hl : ∀ line ∈ lines, '\n' ∉ line)
    {text : String} (hm : .block text ∈ inputsOf lines) :
    (Script.split text).statements.length + (Script.split text).directives.length = 1 ∧
      ∀ (settings : SessionSettings) (favorites : Favorites) (nextId now : Nat) (backend : Mock)
        (store : τ) (ms : List Move),
        let w := Live.after ⟨.initial settings favorites nextId now, backend, store, []⟩ ms
        w.session.active = true → w.backend.poisoned = false →
        (∀ raw ∈ (Script.split text).directives, Directive.Readable raw) →
        ∃ w' entry, handle false w (.block text) = (w', some (.one (.results [entry]))) ∧
          w'.session.view.history = entry :: w.session.view.history ∧
          (Script.split text).directives ++ (Script.split text).statements = [entry.text] ∧
          (∃ ms', w' = w.after ms') ∧ w'.session.active = true ∧ w'.backend.poisoned = false := by
  have hunit := BlockBuffer.singleUnit_of_mem BlockBuffer.unfinished_empty hl hm
  have hcount := hunit.length_splitChars
  refine ⟨(Nat.add_comm _ _).trans hcount, ?_⟩
  intro settings favorites nextId now backend store ms w ha hok hread
  have hw : w.Reachable := ⟨settings, favorites, nextId, now, backend, store, ms, rfl⟩
  have ⟨m', responses, fetched, hexecute, hm', htexts⟩ := Mock.exists_execute hok hread
  have ⟨w', report, answer, hr, hruns⟩ := exists_runText hw ha text
  obtain ⟨hbackend, rfl⟩ := Prod.mk.inj (hexecute.symm.trans hruns.execute)
  have ⟨nextId', hreport, hrecords⟩ := hruns.exists_results hw
  have htexts' := (Entry.map_text_ofResponses w.session.nextSeq nextId' responses).trans htexts
  have hlength : (Entry.ofResponses w.session.nextSeq nextId' responses).length = 1 := by
    rw [← List.length_map (·.text), htexts', List.length_append]
    exact hcount
  have ⟨entry, hentry⟩ := List.length_eq_one_iff.1 hlength
  rw [hentry] at hreport hrecords htexts'
  refine ⟨w', entry, ?_, hrecords.history, htexts'.symm, ?_, hruns.active, hbackend ▸ hm'⟩
  · simp only [handle, hr, hreport]
    rfl
  · exact hruns.moves.imp fun _ hms => hms.1

-- A directive of several lines, in which semicolons and a blank line are quoted.
def typedLines : List (List Char) :=
  [" ".toList, ":param greeting =>\r".toList, "'hello;".toList, "".toList, "\tworld'; ".toList,
    "/help".toList]

-- Another run is under way.
def openingMoves : List Move :=
  [.event (.submit "SHOW HOSTS" none), .event (.start 0)]

theorem single_entry_of_typedLines :
    let text := ":param greeting =>\n'hello;\n\n\tworld'; "
    let w := Live.after (σ := Mock) (τ := MemoryStore)
      ⟨.initial .default .empty 1 0, .default, .empty, []⟩ openingMoves
    (∀ line ∈ typedLines, '\n' ∉ line) ∧ .block text ∈ inputsOf typedLines ∧
      w.session.active = true ∧ w.backend.poisoned = false ∧
      (∀ raw ∈ (Script.split text).directives, Directive.Readable raw) ∧
      ∃ w' entry, handle false w (.block text) = (w', some (.one (.results [entry]))) ∧
        w'.session.view.history = [entry] ∧
        [entry.text] = [":param greeting =>\n'hello;\n\n\tworld';"] := by
  intro text w
  have hl : ∀ line ∈ typedLines, '\n' ∉ line := by decide
  have hm : .block text ∈ inputsOf typedLines := by decide
  have hunits : (Script.split text).directives ++ (Script.split text).statements =
      [":param greeting =>\n'hello;\n\n\tworld';"] := by decide
  have hread : ∀ raw ∈ (Script.split text).directives, Directive.Readable raw := by
    intro raw hraw
    have hunit := List.mem_append_left (Script.split text).statements hraw
    rw [hunits, List.mem_singleton] at hunit
    subst hunit
    rfl
  have ⟨_, hrun⟩ := single_entry_of_mem_inputsOf (τ := MemoryStore) hl hm
  have ⟨w', entry, hhandle, hhistory, htext, _⟩ :=
    hrun .default .empty 1 0 .default .empty openingMoves rfl rfl hread
  exact ⟨hl, hm, rfl, rfl, hread, w', entry, hhandle, hhistory, htext.symm.trans hunits⟩

end Console
end QueryConsole
