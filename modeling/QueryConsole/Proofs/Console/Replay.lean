import QueryConsole.Proofs.Console.Inputs

namespace QueryConsole.Console

-- The input neither saves nor forgets a favorite of this name.
structure Input.Spares (name : String) (input : Input) : Prop where
  save : input.command? ≠ some (.save name)
  forget : input.command? ≠ some (.forget name)

instance (name : String) (input : Input) : Decidable (input.Spares name) :=
  decidable_of_iff (input.command? ≠ some (.save name) ∧ input.command? ≠ some (.forget name))
    ⟨fun h => ⟨h.1, h.2⟩, fun h => ⟨h.save, h.forget⟩⟩

variable {σ τ : Type} [Backend σ] [KeyValueStore τ]

-- The inputs are handled one after the other.
def handleAll (splitOnly : Bool) (w : Live σ τ) (inputs : List Input) : Live σ τ :=
  inputs.foldl (fun w input => (handle splitOnly w input).1) w

section

variable {w w' : Live (Recorder σ) τ} {splitOnly : Bool} {input : Input} {text name : String}
  {new : List Exchange} {report : Option Report} {answer : Option Step}

-- The session is active and keeps a favorite of this name.
structure Keeps (name text : String) (w : Live (Recorder σ) τ) : Prop where
  reachable : w.Reachable
  active : w.session.active = true
  favorite : w.session.view.favorites.get? name = some text

theorem Keeps.handles (h : Keeps name text w) (hs : input.Spares name)
    (hh : Handles splitOnly w input new w' answer) : Keeps name text w' := by
  cases hh with
  | quits => exact h
  | runs _ _ _ hruns =>
    exact ⟨h.reachable.byMoves hruns.moves, hruns.active.trans h.active,
      hruns.favorites ▸ h.favorite⟩
  | leaves _ _ hleaves =>
    exact ⟨h.reachable.byMoves hleaves.moves, hleaves.active.trans h.active,
      (hleaves.favorites name hs.save hs.forget).trans h.favorite⟩

theorem Keeps.handleAll (h : Keeps name text w) (splitOnly : Bool) {inputs : List Input}
    (hs : ∀ input ∈ inputs, input.Spares name) :
    Keeps name text (handleAll splitOnly w inputs) := by
  induction inputs generalizing w with
  | nil => exact h
  | cons input inputs ih =>
    have ⟨hinput, hinputs⟩ := List.forall_mem_cons.1 hs
    have ⟨w', answer, new, hr, hhandles⟩ := exists_handles h.reachable splitOnly input
    rw [Console.handleAll, List.foldl_cons, hr]
    exact ih (h.handles hinput hhandles) hinputs

-- A favorite is saved if the store takes the new list.
theorem exists_execute_save (hw : w.Reachable) (ha : w.session.active = true)
    (hstore : (KeyValueStore.set w.store w.session.settings.favoritesKey
      (Favorites.encode
        (w.session.view.favorites.insert name w.session.view.lastText))).2 = .ok ()) :
    ∃ w', execute w (.save name) = (w', some (.info ("Saved favorite '" ++ name ++ "'."))) ∧
      Keeps name w.session.view.lastText w' := by
  have ⟨w', result, hr, _, hsaves⟩ :=
    Live.exists_saved (e := .addFavorite name w.session.view.lastText) hw ha rfl
  have hmoves : w.ByMoves w' := by
    have hrequest := w.byMoves_request (e := .addFavorite name w.session.view.lastText) rfl
    rwa [hr] at hrequest
  rw [hstore] at hsaves
  cases hsaves with
  | saved hupdates =>
    refine ⟨w', by rw [execute, ask, hr], hw.byMoves hmoves, hupdates.active.trans ha, ?_⟩
    rw [hupdates.favorites, Table.get?_insert, if_pos rfl]

-- The text of a run that succeeds, which is sent as one batch.
theorem batches_of_results {exchanges : List Exchange} (hw : w.Reachable)
    (hr : (handle splitOnly w input).2 = some (.one (.results entries)))
    (hx : (handle splitOnly w input).1.backend.exchanges = w.backend.exchanges ++ exchanges) :
    (handle splitOnly w input).1.Reachable ∧
      (handle splitOnly w input).1.session.active = true ∧
      Exchange.batches exchanges =
        [batchOf (handle splitOnly w input).1.session.view.lastText] := by
  have ⟨w', answer, new, hhandle, hhandles⟩ := exists_handles hw splitOnly input
  rw [hhandle] at hr hx ⊢
  cases hhandles with
  | quits => cases hr
  | leaves _ _ hleaves =>
    obtain ⟨report, hreport, hone⟩ := Option.map_eq_some_iff.1 hr
    cases hone
    exact absurd hreport (hleaves.others entries)
  | runs _ _ ha hruns =>
    obtain ⟨report, hreport, hone⟩ := Option.map_eq_some_iff.1 hr
    cases hone
    obtain rfl : exchanges = new := List.append_cancel_left (hx.symm.trans hruns.exchanges)
    refine ⟨hw.byMoves hruns.moves, hruns.active.trans ha, ?_⟩
    rcases hruns.lastText with ⟨-, hlast⟩ | ⟨hne, -⟩
    · rw [hlast, hruns.batches]
    · exact absurd hreport (hne entries)

-- No other input but a reset changes it.
theorem lastText_of_ne_results (hw : w.Reachable) (ha : w.session.active = true)
    (hc : input.command? ≠ some .reset)
    (hr : ∀ entries, (handle splitOnly w input).2 ≠ some (.one (.results entries))) :
    (handle splitOnly w input).1.Reachable ∧
      (handle splitOnly w input).1.session.active = true ∧
      (handle splitOnly w input).1.session.view.lastText = w.session.view.lastText := by
  have ⟨w', answer, new, hhandle, hhandles⟩ := exists_handles hw splitOnly input
  rw [hhandle] at hr ⊢
  cases hhandles with
  | quits => exact ⟨hw, ha, rfl⟩
  | leaves _ _ hleaves =>
    exact ⟨hw.byMoves hleaves.moves, hleaves.active.trans ha, hleaves.lastText hc⟩
  | runs _ _ _ hruns =>
    refine ⟨hw.byMoves hruns.moves, hruns.active.trans ha, ?_⟩
    rcases hruns.lastText with ⟨⟨entries, hreport⟩, -⟩ | ⟨-, hlast⟩
    · exact absurd (congrArg (Option.map Step.one) hreport) (hr entries)
    · exact hlast

-- The last run that succeeded had these exchanges. It was typed to the console, and there was no
-- reset since.
inductive LastRan (splitOnly : Bool) (exchanges : List Exchange) : Live (Recorder σ) τ → Prop
  | ran {w : Live (Recorder σ) τ} {input : Input} (hw : w.Reachable)
      (hr : (handle splitOnly w input).2 = some (.one (.results entries)))
      (hx : (handle splitOnly w input).1.backend.exchanges = w.backend.exchanges ++ exchanges) :
      LastRan splitOnly exchanges (handle splitOnly w input).1
  | later {w : Live (Recorder σ) τ} {input : Input} (h : LastRan splitOnly exchanges w)
      (hc : input.command? ≠ some .reset)
      (hr : ∀ entries, (handle splitOnly w input).2 ≠ some (.one (.results entries))) :
      LastRan splitOnly exchanges (handle splitOnly w input).1

theorem LastRan.batches {exchanges : List Exchange} (h : LastRan splitOnly exchanges w) :
    w.Reachable ∧ w.session.active = true ∧
      Exchange.batches exchanges = [batchOf w.session.view.lastText] := by
  induction h with
  | ran hw hr hx => exact batches_of_results hw hr hx
  | later _ hc hr ih =>
    have ⟨hw, ha, hbatches⟩ := ih
    have ⟨hw', ha', hlast⟩ := lastText_of_ne_results hw ha hc hr
    exact ⟨hw', ha', by rw [hbatches, hlast]⟩

-- Whatever is typed in between, a favorite is run as it was saved: one batch is sent, which is that
-- of the last run that succeeded, and once the batch is answered the entries of this run are shown.
-- Only a backend that breaks down over the parameters after that ends the console.
theorem saved_text_replayed (hw : w.Reachable) (ha : w.session.active = true)
    {saveLine runLine : String} (hsave : Command.parse saveLine = .ok (.save name))
    (hrun : Command.parse runLine = .ok (.run name))
    (hstore : (KeyValueStore.set w.store w.session.settings.favoritesKey
      (Favorites.encode
        (w.session.view.favorites.insert name w.session.view.lastText))).2 = .ok ())
    (splitOnly : Bool) {inputs : List Input} (hspares : ∀ input ∈ inputs, input.Spares name) :
    let saved := handle splitOnly w (.command saveLine)
    let before := handleAll splitOnly saved.1 inputs
    let run := handle splitOnly before (.command runLine)
    saved.2 = some (.one (.info ("Saved favorite '" ++ name ++ "'."))) ∧
      ∃ new, run.1.backend.exchanges = before.backend.exchanges ++ new ∧
        Exchange.batches new = [batchOf w.session.view.lastText] ∧
        (∀ responses, .batch (.ok responses) ∈ new → .single .crash ∉ new →
          ∃ entries, run.2 = some (.one (.results entries)) ∧
            EntriesOfRun before.session run.1.session responses entries) ∧
        ∀ exchanges, LastRan splitOnly exchanges w →
          Exchange.batches new = Exchange.batches exchanges := by
  intro saved before run
  obtain ⟨v, hexecute, hkeeps⟩ := exists_execute_save hw ha hstore
  have hsaved : saved = (v, some (.one (.info ("Saved favorite '" ++ name ++ "'.")))) := by
    simp only [saved, handle, hsave, hexecute, Option.map_some]
  have hbefore : Keeps name w.session.view.lastText before := by
    simp only [before, hsaved]
    exact hkeeps.handleAll splitOnly hspares
  obtain ⟨w', report, new, hr, hruns⟩ :=
    exists_runs hbefore.reachable hbefore.active w.session.view.lastText
  have hhandle : run = (w', report.map .one) := by
    simp only [run, handle, hrun, execute, hbefore.favorite, hr]
  rw [hsaved, hhandle]
  refine ⟨rfl, new, hruns.exchanges, hruns.batches, fun responses hm hn => ?_,
    fun exchanges hlast => ?_⟩
  · obtain ⟨entries, hreport, hentries⟩ := hruns.shown responses hm hn
    exact ⟨entries, congrArg (Option.map Step.one) hreport, hentries⟩
  · rw [hruns.batches, hlast.batches.2.2]

end

def newConsole : Live (Recorder Mock) MemoryStore :=
  ⟨.initial .default .empty 1 0, ⟨.default, []⟩, .empty, []⟩

-- A directive and a statement are run, then a command fails.
def typedRun : Live (Recorder Mock) MemoryStore :=
  handleAll false newConsole [.block ":param p => 1;\nYIELD $p", .command "/run nothing"]

-- Another favorite comes and goes, another text is run, and the session is reset.
def laterInputs : List Input :=
  [.command "/save other", .block "SHOW TAGS;", .command "/FORGET other", .command "/reset"]

def typedAgain : Live (Recorder Mock) MemoryStore :=
  handleAll false (handle false typedRun (.command "/save 'my \"run\"'")).1 laterInputs

theorem saved_text_replayed_typedAgain :
    typedRun.Reachable ∧ typedRun.session.active = true ∧
      (∀ input ∈ laterInputs, input.Spares "my \"run\"") ∧
      (∃ exchanges, LastRan false exchanges typedRun) ∧
      ∃ new,
        (handle false typedAgain (.command "/Run \"my \\\"run\\\"\"")).1.backend.exchanges =
          typedAgain.backend.exchanges ++ new ∧
        Exchange.batches new = [.batch ["YIELD $p"] [":param p => 1"] .consoleRun] := by
  have hnewConsole : newConsole.Reachable := ⟨_, _, _, _, _, _, [], rfl⟩
  have hlast : LastRan false _ typedRun :=
    .later (.ran hnewConsole rfl rfl) (by decide +kernel) nofun
  have hactive : typedRun.session.active = true := rfl
  have hsave : Command.parse "/save 'my \"run\"'" = .ok (.save "my \"run\"") := by
    decide +kernel
  have hrun : Command.parse "/Run \"my \\\"run\\\"\"" = .ok (.run "my \"run\"") := by
    decide +kernel
  have hspares : ∀ input ∈ laterInputs, input.Spares "my \"run\"" := by decide +kernel
  have hbatch : batchOf typedRun.session.view.lastText =
      .batch ["YIELD $p"] [":param p => 1"] .consoleRun := by decide +kernel
  have ⟨_, new, hnew, hbatches, _⟩ :=
    saved_text_replayed hlast.batches.1 hactive hsave hrun rfl false hspares
  have hsent := hbatches.trans (congrArg (fun call => [call]) hbatch)
  rw [typedAgain]
  exact ⟨hlast.batches.1, hactive, hspares, ⟨_, hlast⟩, new, hnew, hsent⟩

end QueryConsole.Console
