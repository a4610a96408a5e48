import QueryConsole.Proofs.Console.Inputs
import QueryConsole.Proofs.Console.Lines
import QueryConsole.Proofs.Console.Unrecorded
import QueryConsole.Proofs.Report

namespace QueryConsole.Console

-- The inputs that are reported on: all before the one that ends the console.
def untilQuit (inputs : List Input) : List Input :=
  inputs.takeWhile (!·.isQuit)

variable {σ τ : Type} [Backend σ] [KeyValueStore τ]

-- The inputs are handled one after the other, with one report each.
inductive Handled (splitOnly : Bool) : Live σ τ → List Input → List Report → Live σ τ → Prop
  | nil : Handled splitOnly w [] [] w
  | cons (h : handle splitOnly w input = (w₁, some (.one report)))
      (hs : Handled splitOnly w₁ inputs reports w') :
      Handled splitOnly w (input :: inputs) (report :: reports) w'

section

variable {w w' : Live σ τ} {splitOnly : Bool} {input : Input} {inputs : List Input}
  {reports : List Report}

theorem untilQuit_of_isQuit (hq : input.isQuit = true) (inputs : List Input) :
    untilQuit (input :: inputs) = [] := by
  simp [untilQuit, hq]

theorem untilQuit_append {next : Option Input} (hq : ∀ input ∈ next, input.isQuit = false)
    (inputs : List Input) :
    untilQuit (next.toList ++ inputs) = next.toList ++ untilQuit inputs := by
  cases next with
  | none => rfl
  | some input => simp [untilQuit, hq input rfl]

theorem Handled.append (h : Handled splitOnly w inputs reports w₁)
    (h' : Handled splitOnly w₁ inputs' reports' w') :
    Handled splitOnly w (inputs ++ inputs') (reports ++ reports') w' := by
  induction h with
  | nil => exact h'
  | cons hr _ ih => exact .cons hr (ih h')

theorem Handled.length_eq (h : Handled splitOnly w inputs reports w') :
    reports.length = inputs.length := by
  induction h with
  | nil => rfl
  | cons _ _ ih => exact congrArg (· + 1) ih

end

namespace Written

variable (a b c : Written)

theorem append_eq : a ++ b = ⟨a.out ++ b.out, a.err ++ b.err⟩ :=
  rfl

@[simp]
theorem empty_append : empty ++ a = a := by
  simp [append_eq, empty]

@[simp]
theorem append_empty : a ++ empty = a := by
  simp [append_eq, empty]

theorem append_assoc : a ++ b ++ c = a ++ (b ++ c) := by
  simp [append_eq, String.append_assoc]

end Written

theorem prompted_of_quiet {o : Options} (ho : o.prompt = false) (b : BlockBuffer) :
    o.prompted b = .empty := by
  simp [Options.prompted, ho, Written.empty]

theorem write_append (format : Report.Format) (reports reports' : List Report) :
    write format (reports ++ reports') = write format reports ++ write format reports' := by
  induction reports with
  | nil => simp [write]
  | cons report reports ih => rw [List.cons_append, write, write, ih, Written.append_assoc]

section

variable {w w₁ w' : Live (Recorder σ) τ} {o : Options} {input : Input} {next : Option Input}
  {written : Written} {ending : Ending}

-- The next input, if there is one, ends the console, or is reported on and leaves the console to
-- the other inputs. Or else the backend broke down over it.
inductive Responds (o : Options) (w : Live (Recorder σ) τ) (next : Option Input)
    (new : List Exchange) (w' : Live (Recorder σ) τ) : Written → Outcome → Prop
  | quits {input : Input} (hn : next = some input) (hq : input.isQuit = true) (hw : w' = w) :
      Responds o w next new w' .empty .quits
  | goesOn (hq : ∀ input ∈ next, input.isQuit = false)
      (hs : Handled o.splitOnly w next.toList reports w') :
      Responds o w next new w' (write o.format reports) .goesOn
  | crashes (hc : ∃ exchange ∈ new, exchange.isCrash = true) :
      Responds o w next new w' .empty .crashes

theorem exists_respond (hw : w.Reachable) (o : Options) (next : Option Input) :
    ∃ w' written outcome new, respond o w next = (w', written, outcome) ∧
      w'.Reachable ∧ w'.backend.exchanges = w.backend.exchanges ++ new ∧
      Responds o w next new w' written outcome := by
  cases next with
  | none =>
    have hq : ∀ input ∈ (none : Option Input), input.isQuit = false := by simp
    have hs : Handled o.splitOnly w [] [] w := .nil
    exact ⟨w, .empty, .goesOn, [], rfl, hw, (List.append_nil _).symm, .goesOn hq hs⟩
  | some input =>
    obtain ⟨w', answer, new, hr, hhandles⟩ := exists_handles hw o.splitOnly input
    have hw' := hw.byMoves hhandles.moves
    have hx := hhandles.exchanges
    rw [respond, hr]
    cases hq : input.isQuit with
    | true =>
      obtain ⟨hquit, _⟩ := handle_of_isQuit w o.splitOnly hq
      cases hr.symm.trans hquit
      exact ⟨_, _, _, new, rfl, hw', hx, .quits rfl hq rfl⟩
    | false =>
      rcases hhandles.exists_report hq with ⟨report, rfl⟩ | ⟨rfl, hc⟩
      · have hs : Handled o.splitOnly w [input] [report] w' := .cons hr .nil
        refine ⟨_, _, _, new, rfl, hw', hx, .goesOn ?_ hs⟩
        rintro _ ⟨⟩
        exact hq
      · exact ⟨_, _, _, new, rfl, hw', hx, .crashes hc⟩

-- Every line was taken, up to a command that ends the console, and nothing else was written than
-- the reports.
structure Transcribed (o : Options) (w : Live (Recorder σ) τ) (inputs : List Input)
    (w' : Live (Recorder σ) τ) (written : Written) (ending : Ending) : Prop where
  ending : ending = .finished
  reports : ∃ reports, Handled o.splitOnly w (untilQuit inputs) reports w' ∧
    written = write o.format reports

theorem Transcribed.of_quits {inputs : List Input} (hn : next = some input)
    (hq : input.isQuit = true) : Transcribed o w (next.toList ++ inputs) w .empty .finished where
  ending := rfl
  reports := by
    rw [hn, Option.toList_some, List.singleton_append, untilQuit_of_isQuit hq]
    exact ⟨[], .nil, rfl⟩

theorem Transcribed.of_goesOn {inputs : List Input} {reports : List Report}
    (hq : ∀ input ∈ next, input.isQuit = false)
    (hs : Handled o.splitOnly w next.toList reports w₁)
    (h : Transcribed o w₁ inputs w' written ending) :
    Transcribed o w (next.toList ++ inputs) w' (write o.format reports ++ written) ending where
  ending := h.ending
  reports := by
    have ⟨more, hmore, hwritten⟩ := h.reports
    rw [untilQuit_append hq, hwritten, ← write_append]
    exact ⟨_, hs.append hmore, rfl⟩

theorem exists_runFrom (hw : w.Reachable) (ho : o.prompt = false) (b : BlockBuffer)
    (lines : List (List Char)) :
    ∃ w' written ending new, runFrom o w b (lines.map some) = (w', written, ending) ∧
      w'.backend.exchanges = w.backend.exchanges ++ new ∧
      ((∀ exchange ∈ new, exchange.isCrash = false) →
        Transcribed o w (b.inputsFrom lines) w' written ending) := by
  induction lines generalizing w b with
  | nil =>
    rw [BlockBuffer.inputsFrom, List.map_nil, runFrom, prompted_of_quiet ho]
    obtain ⟨w', written, outcome, new, hr, _, hx, hresponds⟩ := exists_respond hw o b.finish.2
    rw [hr]
    dsimp only
    rw [Written.empty_append]
    refine ⟨w', written, _, new, rfl, hx, fun hn => ?_⟩
    rw [← List.append_nil b.finish.2.toList]
    cases hresponds with
    | quits hn hq hsame => exact hsame ▸ .of_quits hn hq
    | goesOn hq hs =>
      have hend : Transcribed o w' [] w' .empty .finished := ⟨rfl, [], .nil, rfl⟩
      exact Written.append_empty (write o.format _) ▸ .of_goesOn hq hs hend
    | crashes hc =>
      obtain ⟨exchange, hm, hcrash⟩ := hc
      cases (hn exchange hm).symm.trans hcrash
  | cons line lines ih =>
    rw [BlockBuffer.inputsFrom, List.map_cons, runFrom, prompted_of_quiet ho]
    obtain ⟨w₁, written, outcome, new, hr, hw₁, hx, hresponds⟩ :=
      exists_respond hw o (b.push line).2
    dsimp only
    rw [hr]
    cases hresponds with
    | quits hn hq hsame =>
      refine ⟨w₁, .empty, .finished, new, rfl, hx, fun _ => ?_⟩
      exact hsame ▸ .of_quits hn hq
    | @goesOn reports hq hs =>
      obtain ⟨w', rest, ending, more, hrun, hx', hrest⟩ := ih hw₁ (b.push line).1
      refine ⟨w', write o.format reports ++ rest, ending, new ++ more,
        by simp only [hrun, Written.empty_append], by rw [hx', hx, List.append_assoc],
        fun hn => ?_⟩
      obtain ⟨_, hmore⟩ := List.forall_mem_append.1 hn
      exact .of_goesOn hq hs (hrest hmore)
    | crashes hc =>
      refine ⟨w₁, .empty, .crashed, new, rfl, hx, fun hn => ?_⟩
      obtain ⟨exchange, hm, hcrash⟩ := hc
      cases (hn exchange hm).symm.trans hcrash

end

-- Errors apart from the rest, each in the order in which they came up.
theorem lines_write (reports : List Report) :
    Lines (write .json reports).out ((reports.filter (!·.isError)).map (·.render .json)) ∧
      Lines (write .json reports).err ((reports.filter (·.isError)).map (·.render .json)) := by
  induction reports with
  | nil => exact ⟨.nil, .nil⟩
  | cons report reports ih =>
    have ⟨hout, herr⟩ := ih
    have hline := report.notMem_render
    cases he : report.isError with
    | true => simpa [write, he, Written.append_eq] using ⟨hout, herr.cons hline⟩
    | false => simpa [write, he, Written.append_eq] using ⟨hout.cons hline, herr⟩

-- The inputs of a text that are reported on.
def reportedInputs (text : String) : List Input :=
  untilQuit (inputsOf (textLines text))

-- Whatever state the session is in when the text comes, and however it got there; the record only
-- serves to say what the backend was asked, and any state can be had with one. If the backend
-- breaks down over none of the calls of this run, it comes to its end.
theorem run_json {w : Live (Recorder σ) τ} (hw : w.Reachable) (splitOnly : Bool)
    (script : String) :
    (∃ w' out err ending new,
      run ⟨.json, splitOnly, false⟩ w script.toUTF8 = (w', ⟨out, err⟩, ending) ∧
        run ⟨.json, splitOnly, false⟩ w.unrecorded script.toUTF8 =
          (w'.unrecorded, ⟨out, err⟩, ending) ∧
        w'.backend.exchanges = w.backend.exchanges ++ new ∧
        ((∀ exchange ∈ new, exchange.isCrash = false) → ending = .finished ∧
          ∃ reports outLines errLines, Handled splitOnly w (reportedInputs script) reports w' ∧
            Lines out outLines ∧ Lines err errLines ∧
            outLines = (reports.filter (!·.isError)).map (·.render .json) ∧
            errLines = (reports.filter (·.isError)).map (·.render .json) ∧
            outLines.length + errLines.length = (reportedInputs script).length)) ∧
      ∀ report : Report, (report.isError = true ↔ ∃ message, report = .error message) ∧
        (∃ source, Json.parse? (report.render .json) = some source) ∧
        (report.Canonical → report.document.nesting ≤ Value.maxDepth →
          Report.ofLine? (report.render .json) = some report) := by
  refine ⟨?_, fun report => ⟨report.isError_iff, ⟨_, report.parse?_render⟩, Report.ofLine?_render⟩⟩
  have ⟨w', written, ending, new, hrun, hx, htranscribed⟩ :=
    exists_runFrom hw (o := ⟨.json, splitOnly, false⟩) rfl .empty (textLines script)
  have hr : run ⟨.json, splitOnly, false⟩ w script.toUTF8 = (w', written, ending) := by
    rw [run, linesOf_toUTF8]
    exact hrun
  refine ⟨w', written.out, written.err, ending, new, hr, ?_, hx, fun hn => ?_⟩
  · rw [run_unrecorded, hr]
    rfl
  · have ⟨hending, reports, hs, hwritten⟩ := htranscribed hn
    have ⟨hout, herr⟩ := lines_write reports
    refine ⟨hending, reports, _, _, hs, hwritten ▸ hout, hwritten ▸ herr, rfl, rfl, ?_⟩
    rw [List.length_map, List.length_map, Nat.add_comm, ← List.length_eq_length_filter_add]
    exact hs.length_eq

-- A block of two lines, a command that there is none of, a directive that ends with a blank line,
-- and a command that comes after the end.
def mixedScript : String :=
  "RETURN 'a\r\nb' ;\r\n/nope\n:param p => 1\n \n/EXIT\n/help"

-- Another run is under way when it comes.
def busyConsole : Live (Recorder Mock) MemoryStore :=
  Live.after ⟨.initial .default .empty 1 0, ⟨.default, []⟩, .empty, []⟩ openingMoves

theorem run_json_mixedScript :
    let report := Report.history [⟨3, 7, "a\nb", .ragged⟩]
    busyConsole.Reachable ∧ busyConsole.backend.inner.poisoned = false ∧
      reportedInputs mixedScript =
        [.block "RETURN 'a\nb' ;", .command "/nope", .block ":param p => 1"] ∧
      (∃ w' out err outLines errLines,
        run ⟨.json, false, false⟩ busyConsole mixedScript.toUTF8 = (w', ⟨out, err⟩, .finished) ∧
          run ⟨.json, false, false⟩ busyConsole.unrecorded mixedScript.toUTF8 =
            (w'.unrecorded, ⟨out, err⟩, .finished) ∧
          (∀ exchange ∈ w'.backend.exchanges, exchange.isCrash = false) ∧
          Lines out outLines ∧ Lines err errLines ∧ outLines.length = 2 ∧ errLines.length = 1) ∧
      report.Canonical ∧ report.document.nesting ≤ Value.maxDepth ∧
      Report.ofLine? (report.render .json) = some report := by
  intro report
  have hw : busyConsole.Reachable := ⟨_, _, _, _, _, _, openingMoves, rfl⟩
  have hinputs : reportedInputs mixedScript =
      [.block "RETURN 'a\nb' ;", .command "/nope", .block ":param p => 1"] := by decide +kernel
  have hcalm : ∀ exchange ∈ (run ⟨.json, false, false⟩ busyConsole
      mixedScript.toUTF8).1.backend.exchanges, exchange.isCrash = false := by decide +kernel
  have herrors : (cutLines '\n' (run ⟨.json, false, false⟩ busyConsole
      mixedScript.toUTF8).2.1.err.toList).length = 1 := by decide +kernel
  have hcanonical : report.Canonical := by
    simpa [report, Report.Canonical] using Response.canonical_ragged
  have hnesting : report.document.nesting ≤ Value.maxDepth := by decide
  have ⟨hrun, hread⟩ := run_json hw false mixedScript
  have ⟨w', out, err, ending, new, hr, hr', hx, hfinished⟩ := hrun
  rw [hr] at hcalm herrors
  have hnew (exchange : Exchange) (hm : exchange ∈ new) : exchange.isCrash = false :=
    hcalm exchange (hx ▸ List.mem_append_right _ hm)
  obtain ⟨rfl, reports, outLines, errLines, _, hout, herr, _, _, hcount⟩ := hfinished hnew
  have herrLines : errLines.length = 1 := by
    have hlength := congrArg List.length herr
    rw [List.length_map] at hlength
    exact hlength.symm.trans herrors
  rw [hinputs, herrLines] at hcount
  exact ⟨hw, rfl, hinputs, ⟨w', out, err, outLines, errLines, hr, hr', hcalm, hout, herr,
    Nat.succ.inj hcount, herrLines⟩, hcanonical, hnesting, (hread report).2.2 hcanonical hnesting⟩

end QueryConsole.Console
