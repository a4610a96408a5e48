import QueryConsole.Console.Run
import QueryConsole.Proofs.Console.Replay

namespace QueryConsole.Console

-- The input asks for a favorite to be run.
def Input.isRun (input : Input) : Bool :=
  match input.command? with
  | some (.run _) => true
  | _ => false

variable {σ τ : Type} [Backend σ] [KeyValueStore τ]

-- The texts that the inputs have an active session run, one input after the other.
def textsRun (splitOnly : Bool) (w : Live σ τ) : List Input → List String
  | [] => []
  | input :: inputs =>
    (if w.session.active then (input.text? splitOnly w).toList else []) ++
      textsRun splitOnly (handle splitOnly w input).1 inputs

section

variable {w v w' : Live (Recorder σ) τ} {splitOnly : Bool} {texts more : List String}
  {input : Input} {new : List Exchange} {answer : Option Step}

-- Of all that happened from `w` to `w'`, only runs of these texts sent batches and added to the
-- history. They are numbered one after the other.
structure AmountsTo (texts : List String) (w w' : Live (Recorder σ) τ) : Prop where
  moves : w.ByMoves w'
  active : w'.session.active = w.session.active
  nextSeq : w'.session.nextSeq = w.session.nextSeq + texts.length
  exchanges : ∃ new, w'.backend.exchanges = w.backend.exchanges ++ new ∧
    Exchange.batches new = texts.map batchOf
  history : ∀ entry ∈ w'.session.view.history, entry ∈ w.session.view.history ∨
    w.session.nextSeq ≤ entry.seq ∧ entry.seq < w'.session.nextSeq

namespace AmountsTo

theorem refl (w : Live (Recorder σ) τ) : AmountsTo [] w w where
  moves := .refl w
  active := rfl
  nextSeq := rfl
  exchanges := ⟨[], (List.append_nil _).symm, rfl⟩
  history _ hm := .inl hm

theorem trans (h : AmountsTo texts w v) (h' : AmountsTo more v w') :
    AmountsTo (texts ++ more) w w' where
  moves := h.moves.trans h'.moves
  active := h'.active.trans h.active
  nextSeq := by rw [h'.nextSeq, h.nextSeq, List.length_append, Nat.add_assoc]
  exchanges := by
    have ⟨new, hx, hb⟩ := h.exchanges
    have ⟨new', hx', hb'⟩ := h'.exchanges
    refine ⟨new ++ new', by rw [hx', hx, List.append_assoc], ?_⟩
    rw [Exchange.batches_append, hb, hb', List.map_append]
  history entry hm := by
    have hnext := h.nextSeq
    have hnext' := h'.nextSeq
    rcases h'.history entry hm with hm | ⟨hle, hlt⟩
    · exact (h.history entry hm).imp_right fun ⟨hle, hlt⟩ => ⟨hle, by omega⟩
    · exact .inr ⟨by omega, hlt⟩

theorem of_runs (h : Runs w text new w' report) : AmountsTo [text] w w' where
  moves := h.moves
  active := h.active
  nextSeq := h.nextSeq
  exchanges := ⟨new, h.exchanges, h.batches⟩
  history entry hm := by
    have hnext := h.nextSeq
    exact (h.history entry hm).imp_right fun hseq => by omega

theorem of_leaves (h : Leaves command? w new w' report) : AmountsTo [] w w' where
  moves := h.moves
  active := h.active
  nextSeq := h.nextSeq
  exchanges := ⟨new, h.exchanges, h.batches⟩
  history entry hm := .inl (h.history entry hm)

theorem of_handles (h : Handles splitOnly w input new w' answer) :
    AmountsTo (if w.session.active then (input.text? splitOnly w).toList else []) w w' := by
  cases h with
  | quits _ ht =>
    rw [ht, Option.toList_none, ite_self]
    exact .refl w
  | runs _ ht ha hruns =>
    rw [if_pos ha, ht, Option.toList_some]
    exact .of_runs hruns
  | leaves _ ht hleaves =>
    have hnone : (if w.session.active then (input.text? splitOnly w).toList else []) = [] := by
      split
      case isTrue ha => rw [ht ha, Option.toList_none]
      case isFalse => rfl
    rw [hnone]
    exact .of_leaves hleaves

end AmountsTo

-- The inputs are handled one after the other.
theorem amountsTo_handleAll (hw : w.Reachable) (splitOnly : Bool) (inputs : List Input) :
    AmountsTo (textsRun splitOnly w inputs) w (handleAll splitOnly w inputs) := by
  induction inputs generalizing w with
  | nil => exact .refl w
  | cons input inputs ih =>
    have ⟨w', answer, new, hr, hhandles⟩ := exists_handles hw splitOnly input
    have hinput := AmountsTo.of_handles hhandles
    rw [textsRun, handleAll, List.foldl_cons, hr]
    exact hinput.trans (ih (hw.byMoves hinput.moves))

end

-- The inputs that lines make up, as far as the lines are text.
def BlockBuffer.typed (b : BlockBuffer) : List (Option (List Char)) → List Input
  | [] => b.finish.2.toList
  | none :: _ => []
  | some line :: lines => (b.push line).2.toList ++ (b.push line).1.typed lines

section

variable {w : Live σ τ} {o : Options}

theorem handleAll_append (splitOnly : Bool) (w : Live σ τ) (inputs more : List Input) :
    handleAll splitOnly w (inputs ++ more) =
      handleAll splitOnly (handleAll splitOnly w inputs) more :=
  List.foldl_append

theorem fst_respond (o : Options) (w : Live σ τ) (input : Option Input) :
    (respond o w input).1 = handleAll o.splitOnly w input.toList := by
  cases input with
  | none => rfl
  | some input =>
    rw [respond, Option.toList_some, handleAll, List.foldl_cons, List.foldl_nil]
    split <;> simp [*]

-- Inputs are handled up to the one that ends the console.
theorem exists_runFrom_eq (o : Options) (w : Live σ τ) (b : BlockBuffer)
    (lines : List (Option (List Char))) :
    ∃ inputs, inputs <+: b.typed lines ∧
      (runFrom o w b lines).1 = handleAll o.splitOnly w inputs := by
  induction lines generalizing w b with
  | nil => exact ⟨b.finish.2.toList, List.prefix_refl _, fst_respond ..⟩
  | cons line lines ih =>
    cases line with
    | none => exact ⟨[], List.nil_prefix, rfl⟩
    | some line =>
      have hfst := fst_respond o w (b.push line).2
      rw [runFrom]
      dsimp only
      split
      case h_1 hr | h_2 hr =>
        rw [hr] at hfst
        exact ⟨_, List.prefix_append .., hfst⟩
      case h_3 w₁ written hr =>
        rw [hr] at hfst
        have ⟨inputs, hfront, hrun⟩ := ih w₁ (b.push line).1
        refine ⟨(b.push line).2.toList ++ inputs, (List.prefix_append_right_inj _).2 hfront, ?_⟩
        rw [handleAll_append, ← hfst]
        exact hrun

theorem textsRun_eq_nil {inputs : List Input} (hn : ∀ input ∈ inputs, input.isRun = false) :
    textsRun true w inputs = [] := by
  induction inputs generalizing w with
  | nil => rfl
  | cons input inputs ih =>
    have ⟨hinput, hinputs⟩ := List.forall_mem_cons.1 hn
    have htext : input.text? true w = none := by
      cases input with
      | block text => rfl
      | command line =>
        rw [Input.text?]
        split
        case h_1 name hp => simp [Input.isRun, Input.command?, hp, Except.toOption] at hinput
        case h_2 => rfl
    rw [textsRun, htext, Option.toList_none, ite_self, ih hinputs, List.nil_append]

end

-- What is only split is run if it is a favorite, and then it is sent like any other text. All else
-- sends no batch and adds nothing to the history.
theorem run_splitOnly {w : Live (Recorder σ) τ} (hw : w.Reachable) {o : Options}
    (ho : o.splitOnly = true) (bytes : ByteArray) :
    let w' := (run o w bytes).1
    ∃ inputs new, inputs <+: BlockBuffer.empty.typed (linesOf bytes) ∧
      w' = handleAll true w inputs ∧
      w'.backend.exchanges = w.backend.exchanges ++ new ∧
      Exchange.batches new = (textsRun true w inputs).map batchOf ∧
      (∀ entry ∈ w'.session.view.history, entry ∈ w.session.view.history ∨
        w.session.nextSeq ≤ entry.seq ∧
          entry.seq < w.session.nextSeq + (textsRun true w inputs).length) ∧
      ((∀ input ∈ inputs, input.isRun = false) →
        Exchange.batches new = [] ∧
          ∀ entry ∈ w'.session.view.history, entry ∈ w.session.view.history) := by
  intro w'
  have ⟨inputs, hfront, hrun⟩ := exists_runFrom_eq o w .empty (linesOf bytes)
  rw [ho] at hrun
  have hw' : w' = handleAll true w inputs := hrun
  have hamounts := amountsTo_handleAll hw true inputs
  rw [← hw'] at hamounts
  have ⟨new, hx, hb⟩ := hamounts.exchanges
  have hhistory := hamounts.history
  rw [hamounts.nextSeq] at hhistory
  refine ⟨inputs, new, hfront, hw', hx, hb, hhistory, fun hn => ?_⟩
  have hnone : textsRun true w inputs = [] := textsRun_eq_nil hn
  rw [hnone] at hb hhistory
  refine ⟨hb, fun entry hm => (hhistory entry hm).resolve_right fun ⟨hle, hlt⟩ => ?_⟩
  exact Nat.lt_irrefl _ (Nat.lt_of_le_of_lt hle hlt)

def dryRun : Options :=
  ⟨.text, true, false⟩

theorem reachable_newConsole : newConsole.Reachable :=
  ⟨_, _, _, _, _, _, [], rfl⟩

-- Blocks, a directive, and a favorite that is saved but not run.
def harmlessScript : String :=
  "RETURN 1;\n/save one\n:param p => 1\n\n/forget one\n/history\n/quit\nRETURN 2"

theorem run_splitOnly_harmlessScript :
    newConsole.Reachable ∧ dryRun.splitOnly = true ∧
      let w' := (run dryRun newConsole harmlessScript.toUTF8).1
      ∃ new, w'.backend.exchanges = new ∧ Exchange.batches new = [] ∧
        w'.session.view.history = [] := by
  have htyped : ∀ input ∈ BlockBuffer.empty.typed (linesOf harmlessScript.toUTF8),
      input.isRun = false := by decide +kernel
  have ⟨inputs, new, hfront, _, hx, _, _, hnone⟩ :=
    run_splitOnly reachable_newConsole (o := dryRun) rfl harmlessScript.toUTF8
  have ⟨hbatches, hhistory⟩ := hnone fun input hm => htyped input (hfront.subset hm)
  refine ⟨reachable_newConsole, rfl, new, hx, hbatches, ?_⟩
  exact List.eq_nil_iff_forall_not_mem.2 fun entry hm => nomatch hhistory entry hm

-- The text that was run last is saved and run by its name.
def favoriteScript : String :=
  "/save x\n/run x\n"

-- Although it should only be split, it is sent, and its answer becomes part of the history.
theorem favorite_executed :
    let w' := (run dryRun newConsole favoriteScript.toUTF8).1
    newConsole.session.view.history = [] ∧ newConsole.backend.exchanges = [] ∧
      Exchange.batches w'.backend.exchanges = [.batch ["SHOW SPACES;"] [] .consoleRun] ∧
      w'.session.view.history.length = 1 := by
  decide +kernel

end QueryConsole.Console
