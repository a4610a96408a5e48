import QueryConsole.Console.Block
import QueryConsole.Proofs.Script.Split

namespace QueryConsole.Console

open Script (Whole startsWithBreak segments endsOpenQuote endsOpenQuote_eq_false Quoting)
open Text (isAllBlank)

-- A text that holds something, with no place in it where a unit ends before the text does.
structure SingleUnit (text : List Char) : Prop where
  whole : Whole startsWithBreak .outside text
  nonblank : isAllBlank text = false

namespace BlockBuffer

variable {b b' : BlockBuffer} {line text before rest : List Char} {lines : List (List Char)}
  {input : Option Input}

-- The lines that are buffered, each with its line feed.
def front (b : BlockBuffer) : List Char :=
  if b.isPending then b.text ++ ['\n'] else []

theorem front_of_isPending (h : b.isPending = true) : b.front = b.text ++ ['\n'] :=
  if_pos h

theorem front_of_not_isPending (h : b.isPending = false) : b.front = [] :=
  if_neg (by simp [h])

theorem intercalate_concat (sep : List Char) (h : lines ≠ []) (line : List Char) :
    sep.intercalate (lines ++ [line]) = sep.intercalate lines ++ sep ++ line := by
  induction lines with
  | nil => exact absurd rfl h
  | cons first lines ih =>
    by_cases hn : lines = []
    case pos =>
      subst hn
      simp [List.intercalate_cons_cons]
    case neg =>
      rw [List.cons_append, List.intercalate_cons_of_ne_nil (by simp), ih hn,
        List.intercalate_cons_of_ne_nil hn]
      simp only [List.append_assoc]

theorem text_append (b : BlockBuffer) (line : List Char) :
    (b.append line).text = b.front ++ line := by
  cases h : b.isPending with
  | false =>
    have hn : b.lines = [] := by simpa [isPending] using h
    simp [front_of_not_isPending h, text, append, hn]
  | true =>
    have hne : b.lines ≠ [] := by simpa [isPending] using h
    rw [front_of_isPending h]
    exact intercalate_concat ['\n'] hne line

theorem front_append (b : BlockBuffer) (line : List Char) :
    (b.append line).front = b.front ++ line ++ ['\n'] := by
  rw [front_of_isPending (isPending_append b line), text_append]

-- What comes last in a buffer, back to a semicolon and without a line feed, is of the last line.
theorem exists_of_text_append (h : (b.append line).text = before ++ ';' :: rest)
    (hr : '\n' ∉ rest) : ∃ start, line = start ++ ';' :: rest := by
  rw [text_append] at h
  rcases List.append_eq_append_iff.1 h with ⟨start, -, hline⟩ | ⟨mid, hfront, hmid⟩
  case inl => exact ⟨start, hline⟩
  case inr =>
    cases mid with
    | nil => exact ⟨[], hmid.symm⟩
    | cons d mid =>
      obtain ⟨rfl, rfl⟩ := List.cons.inj hmid
      cases hp : b.isPending with
      | false => simp [front_of_not_isPending hp] at hfront
      | true =>
        -- The last line feed of the buffer would be in `mid`.
        have hlast : (';' :: mid).getLast? = some '\n' := by
          have hl := congrArg List.getLast? hfront
          rw [front_of_isPending hp, List.getLast?_concat, List.getLast?_append,
            List.getLast?_cons, Option.some_or] at hl
          exact List.getLast?_cons.trans hl.symm
        rcases List.mem_cons.1 (List.mem_of_getLast? hlast) with hm | hm
        · exact nomatch hm
        · exact absurd (List.mem_append_left line hm) hr

theorem finish_of_isPending (h : b.isPending = true) :
    b.finish = (empty, some (.block (.ofList b.text))) :=
  if_pos h

theorem finish_of_not_isPending (h : b.isPending = false) : b.finish = (b, none) :=
  if_neg (by simp [h])

-- What becomes of a buffer and a line that is added to it.
inductive Pushed (b : BlockBuffer) (line : List Char) : BlockBuffer → Option Input → Prop
  | skipped (hp : b.isPending = false) (hb : isAllBlank line = true) : Pushed b line b none
  | command (hp : b.isPending = false) (hc : Command.isCommandLine line = true) :
      Pushed b line b (some (.command (.ofList (Text.trim line))))
  -- A blank line ends a block, of which it is no part.
  | ended (hp : b.isPending = true) (hb : isAllBlank line = true) (hq : b.inQuote = false) :
      Pushed b line empty (some (.block (.ofList b.text)))
  | completed (hb : isAllBlank line = false) (he : endsWithSemicolon line = true)
      (hq : (b.append line).inQuote = false) :
      Pushed b line empty (some (.block (.ofList (b.append line).text)))
  | kept (hb : b.isPending = true ∨ isAllBlank line = false)
      (hq : endsWithSemicolon line = true → (b.append line).inQuote = true) :
      Pushed b line (b.append line) none

theorem endsWithSemicolon_of_blank (h : isAllBlank line = true) :
    endsWithSemicolon line = false := by
  have ht : Text.trimEnd line = [] := Text.trimEnd_append_of_blank [] h
  simp [endsWithSemicolon, ht]

theorem endsWithSemicolon_append (start : List Char) (h : isAllBlank rest = true) :
    endsWithSemicolon (start ++ ';' :: rest) = true := by
  have ht : Text.trimEnd (start ++ ';' :: rest) = start ++ [';'] := by
    rw [List.append_cons, Text.trimEnd_append_of_blank _ h, Text.trimEnd_concat start rfl]
  simp [endsWithSemicolon, ht]

-- A line that is part of a block.
theorem pushed_nonblank (b : BlockBuffer) (hb : isAllBlank line = false) :
    let next := if endsWithSemicolon line && !(b.append line).inQuote then (b.append line).finish
      else (b.append line, none)
    Pushed b line next.1 next.2 := by
  cases hs : endsWithSemicolon line <;> cases hq : (b.append line).inQuote
  case true.false =>
    rw [finish_of_isPending (isPending_append b line)]
    exact .completed hb hs hq
  case false.false | false.true => exact .kept (.inr hb) fun hs' => nomatch hs.symm.trans hs'
  case true.true => exact .kept (.inr hb) fun _ => hq

theorem pushed (b : BlockBuffer) (line : List Char) :
    Pushed b line (b.pushLine line).1 (b.pushLine line).2 := by
  unfold pushLine
  cases hp : b.isPending <;> cases hb : isAllBlank line
  case false.true => exact .skipped hp hb
  case true.true =>
    cases hq : b.inQuote with
    | false => simpa [hq, finish_of_isPending hp] using Pushed.ended hp hb hq
    | true =>
      have hs : endsWithSemicolon line = true → (b.append line).inQuote = true := fun hs =>
        nomatch (endsWithSemicolon_of_blank hb).symm.trans hs
      simpa [hq] using Pushed.kept (.inl hp) hs
  case false.false =>
    cases hc : Command.isCommandLine line with
    | true => simpa [hc] using Pushed.command hp hc
    | false => simpa [hc] using pushed_nonblank b hb
  case true.false => simpa using pushed_nonblank b hb

-- What is buffered is the beginning of one unit.
structure Unfinished (b : BlockBuffer) : Prop where
  whole : Whole startsWithBreak .outside b.front
  nonblank : b.isPending = true → isAllBlank b.text = false

theorem unfinished_empty : empty.Unfinished where
  whole := .nil
  nonblank := nofun

theorem Unfinished.isAllBlank_text_append (h : b.Unfinished)
    (hb : b.isPending = true ∨ isAllBlank line = false) :
    isAllBlank (b.append line).text = false := by
  rw [text_append, Text.isAllBlank_append, Bool.and_eq_false_iff]
  cases hb
  case inl hp =>
    rw [front_of_isPending hp, Text.isAllBlank_append, h.nonblank hp]
    exact .inl rfl
  case inr hb => exact .inr hb

theorem Unfinished.whole_text_append (h : b.Unfinished) (hl : '\n' ∉ line) :
    Whole startsWithBreak .outside (b.append line).text := by
  rw [text_append]
  exact Script.whole_append_of_notMem h.whole hl

theorem Unfinished.singleUnit (h : b.Unfinished) (hp : b.isPending = true) :
    SingleUnit b.text where
  whole := by
    have hw := h.whole
    rw [front_of_isPending hp] at hw
    exact hw.of_append Script.localTest_startsWithBreak
  nonblank := h.nonblank hp

-- A terminator that a line feed makes is at the end of the line, where the line would have been
-- taken for the last of its block.
theorem Unfinished.append (h : b.Unfinished) (hl : '\n' ∉ line)
    (hb : b.isPending = true ∨ isAllBlank line = false)
    (hq : endsWithSemicolon line = true → (b.append line).inQuote = true) :
    (b.append line).Unfinished where
  whole := by
    rw [front_of_isPending (isPending_append b line)]
    refine Script.whole_concat_lineFeed (h.whole_text_append hl) fun before rest htext hrest => ?_
    have hblank : isAllBlank rest = true := by rcases hrest with rfl | rfl <;> rfl
    have hlf : '\n' ∉ rest := by rcases hrest with rfl | rfl <;> decide
    have ⟨start, hline⟩ := exists_of_text_append htext hlf
    have hopen := hq (hline ▸ endsWithSemicolon_append start hblank)
    by_contra hclosed
    have hrun := endsOpenQuote_eq_false.1 (Bool.not_eq_true _ ▸ hclosed)
    have hrun' : Quoting.outside.run (b.append line).text = .outside := by
      rw [htext, Quoting.run_append, hrun]
      rcases hrest with rfl | rfl <;> rfl
    exact nomatch hopen.symm.trans (endsOpenQuote_eq_false.2 hrun')
  nonblank _ := h.isAllBlank_text_append hb

theorem Pushed.unfinished (h : Pushed b line b' input) (hb : b.Unfinished) (hl : '\n' ∉ line) :
    b'.Unfinished ∧ ∀ text, input = some (.block text) → SingleUnit text.toList := by
  cases h with
  | skipped => exact ⟨hb, nofun⟩
  | command => exact ⟨hb, nofun⟩
  | ended hp =>
    refine ⟨unfinished_empty, fun text ht => ?_⟩
    cases ht
    exact String.toList_ofList ▸ hb.singleUnit hp
  | completed hblank =>
    refine ⟨unfinished_empty, fun text ht => ?_⟩
    cases ht
    have hunit : SingleUnit (b.append line).text :=
      ⟨hb.whole_text_append hl, hb.isAllBlank_text_append (.inr hblank)⟩
    exact String.toList_ofList ▸ hunit
  | kept hblank hq => exact ⟨hb.append hl hblank hq, nofun⟩

-- The buffer once it was given some lines.
def after (b : BlockBuffer) (lines : List (List Char)) : BlockBuffer :=
  lines.foldl (fun b line => (b.push line).1) b

-- What the lines come to one by one, with what is left when they are over.
def inputsFrom (b : BlockBuffer) : List (List Char) → List Input
  | [] => b.finish.2.toList
  | line :: lines => (b.push line).2.toList ++ (b.push line).1.inputsFrom lines

theorem notMem_dropReturn {c : Char} (h : c ∉ line) : c ∉ dropReturn line := by
  unfold dropReturn
  split
  · exact fun hc => h ((List.dropLast_sublist line).subset hc)
  · exact h

theorem singleUnit_of_mem (h : b.Unfinished) (hl : ∀ line ∈ lines, '\n' ∉ line) {text : String}
    (hm : .block text ∈ b.inputsFrom lines) : SingleUnit text.toList := by
  induction lines generalizing b with
  | nil =>
    cases hp : b.isPending with
    | false => simp [inputsFrom, finish_of_not_isPending hp] at hm
    | true =>
      have hunit := h.singleUnit hp
      simp only [inputsFrom, finish_of_isPending hp, Option.toList_some, List.mem_singleton] at hm
      cases hm
      exact String.toList_ofList ▸ hunit
  | cons line lines ih =>
    have hline := notMem_dropReturn (hl line List.mem_cons_self)
    have ⟨hnext, hunit⟩ := (pushed b (dropReturn line)).unfinished h hline
    rcases List.mem_append.1 hm with hm | hm
    · exact hunit text (Option.mem_toList.1 hm)
    · exact ih hnext (fun line hm => hl line (List.mem_cons_of_mem _ hm)) hm

-- Lines that hold something, with nothing blank behind it, and that are all text of blocks: a slash
-- begins a line only where the line goes on with a block.
structure BlockLines (b : BlockBuffer) (lines : List (List Char)) : Prop where
  notMem : ∀ line ∈ lines, '\n' ∉ line
  nonblank : ∀ line ∈ lines, isAllBlank line = false
  trimmed : ∀ line ∈ lines, Text.trimEnd line = line
  noCommand : ∀ n (h : n < lines.length), (b.after (lines.take n)).isPending = false →
    Command.isCommandLine lines[n] = false

theorem BlockLines.tail (h : b.BlockLines (line :: lines)) : (b.push line).1.BlockLines lines where
  notMem line hm := h.notMem line (List.mem_cons_of_mem _ hm)
  nonblank line hm := h.nonblank line (List.mem_cons_of_mem _ hm)
  trimmed line hm := h.trimmed line (List.mem_cons_of_mem _ hm)
  noCommand n hn hp := h.noCommand (n + 1) (Nat.succ_lt_succ hn) hp

theorem dropReturn_of_trimEnd_eq (h : Text.trimEnd line = line) : dropReturn line = line :=
  if_neg fun hr => absurd (Text.isBlank_of_trimEnd_eq h hr) (by decide)

-- Such a line ends a block or goes into the buffer.
theorem BlockLines.push_eq (h : b.BlockLines (line :: lines)) :
    (endsWithSemicolon line = true ∧ (b.append line).inQuote = false ∧
        b.push line = (empty, some (.block (.ofList (b.append line).text)))) ∨
      ((endsWithSemicolon line = true → (b.append line).inQuote = true) ∧
        b.push line = (b.append line, none)) := by
  have hb := h.nonblank line List.mem_cons_self
  have hpush : b.push line = b.pushLine line :=
    congrArg b.pushLine (dropReturn_of_trimEnd_eq (h.trimmed line List.mem_cons_self))
  have hp := pushed b line
  rw [hpush]
  generalize b.pushLine line = result at hp
  obtain ⟨b', input⟩ := result
  cases hp with
  | skipped _ hblank => exact nomatch hb.symm.trans hblank
  | command hpending hc =>
    have hno : Command.isCommandLine line = false := h.noCommand 0 (Nat.succ_pos _) hpending
    exact nomatch hno.symm.trans hc
  | ended _ hblank => exact nomatch hb.symm.trans hblank
  | completed _ hs hq => exact .inl ⟨hs, hq, rfl⟩
  | kept _ hq => exact .inr ⟨hq, rfl⟩

-- Each text but the last gets its semicolon back.
def withSemicolons : List (List Char) → List (List Char)
  | [] => []
  | [text] => [text]
  | text :: next :: texts => (text ++ [';']) :: withSemicolons (next :: texts)

-- The blocks that the segments of a script stand for: each but the first loses the line feed it
-- begins with, and each but the last gets its semicolon back.
def blocksOf : List (List Char) → List (List Char)
  | [] => []
  | first :: rest => withSemicolons (first :: rest.map (List.drop 1))

theorem segments_of_completed (ht : Text.trimEnd line = line) (hs : endsWithSemicolon line = true)
    (hq : (b.append line).inQuote = false)
    (hw : Whole startsWithBreak .outside (b.append line).text) (cs : List Char) :
    ∃ first, (b.append line).text = first ++ [';'] ∧
      segments ((b.append line).text ++ '\n' :: cs) =
        first :: Script.consHead '\n' (segments cs) := by
  have hlast : line.getLast? = some ';' := by
    rw [endsWithSemicolon, ht] at hs
    exact of_decide_eq_true hs
  have ⟨start, hline⟩ := List.getLast?_eq_some_iff.1 hlast
  have htext : (b.append line).text = (b.front ++ start) ++ [';'] := by
    rw [text_append, hline, List.append_assoc]
  refine ⟨b.front ++ start, htext, ?_⟩
  have hclosed : endsOpenQuote (b.front ++ start) = false := by
    rw [← Script.endsOpenQuote_concat_semicolon, ← htext]
    exact hq
  have hfirst := Script.segments_of_whole
    ((htext ▸ hw).of_append Script.localTest_startsWithBreak)
  have hbreak : startsWithBreak ('\n' :: cs) = true := rfl
  rw [htext, ← List.append_cons, Script.segments_append hclosed hbreak, hfirst,
    Script.segments_cons (by decide) rfl]
  rfl

theorem inputsFrom_eq_blocks (h : b.Unfinished) (hl : b.BlockLines lines) (hne : lines ≠ []) :
    (∀ segment ∈ (segments (b.front ++ ['\n'].intercalate lines)).tail,
        segment.head? = some '\n') ∧
      b.inputsFrom lines =
        (blocksOf (segments (b.front ++ ['\n'].intercalate lines))).map
          fun block => .block (.ofList block) := by
  induction lines generalizing b with
  | nil => exact absurd rfl hne
  | cons line lines ih =>
    have hline := hl.notMem line List.mem_cons_self
    have hw := h.whole_text_append hline
    by_cases hn : lines = []
    case pos =>
      -- The last line: what it leaves is the last block, whether the line completes it or not.
      subst hn
      rw [List.intercalate_singleton, ← text_append, Script.segments_of_whole hw]
      refine ⟨nofun, ?_⟩
      rcases hl.push_eq with ⟨-, -, hp⟩ | ⟨-, hp⟩
      · rw [inputsFrom, hp]
        rfl
      · rw [inputsFrom, hp, inputsFrom, finish_of_isPending (isPending_append b line)]
        rfl
    case neg =>
      have htext : b.front ++ ['\n'].intercalate (line :: lines) =
          (b.append line).text ++ '\n' :: ['\n'].intercalate lines := by
        rw [List.intercalate_cons_of_ne_nil hn, text_append]
        simp only [List.append_assoc, List.singleton_append]
      rcases hl.push_eq with ⟨hs, hq, hp⟩ | ⟨hq, hp⟩
      case inl =>
        have htail : empty.BlockLines lines := by
          have ht := hl.tail
          rwa [hp] at ht
        have ⟨hheads, hinputs⟩ := ih unfinished_empty htail hn
        have ⟨first, hfirst, hsegments⟩ := segments_of_completed
          (hl.trimmed line List.mem_cons_self) hs hq hw (['\n'].intercalate lines)
        have ⟨second, rest, hrest⟩ :=
          Script.exists_cutFrom_eq startsWithBreak .outside (['\n'].intercalate lines)
        have hrest : segments (['\n'].intercalate lines) = second :: rest := hrest
        rw [front_of_not_isPending isPending_empty, List.nil_append, hrest] at hheads hinputs
        rw [htext, hsegments, hrest]
        refine ⟨?_, ?_⟩
        · intro segment hm
          rcases List.mem_cons.1 hm with rfl | hm
          · rfl
          · exact hheads segment hm
        · rw [inputsFrom, hp, hinputs, hfirst]
          rfl
      case inr =>
        have htail : (b.append line).BlockLines lines := by
          have ht := hl.tail
          rwa [hp] at ht
        have hopen := h.append hline (.inr (hl.nonblank line List.mem_cons_self)) hq
        have hih := ih hopen htail hn
        have hfront : (b.append line).front ++ ['\n'].intercalate lines =
            b.front ++ ['\n'].intercalate (line :: lines) := by
          rw [htext, front_append, text_append]
          simp only [List.append_assoc, List.singleton_append]
        rw [inputsFrom, hp, ← hfront]
        exact hih

end BlockBuffer

-- The inputs that some lines are grouped into.
def inputsOf (lines : List (List Char)) : List Input :=
  BlockBuffer.empty.inputsFrom lines

-- Lines that are typed make up the same units as the text that they are lines of.
theorem inputsOf_eq_blocks {lines : List (List Char)} (hne : lines ≠ [])
    (h : BlockBuffer.empty.BlockLines lines) :
    (∀ segment ∈ (segments (['\n'].intercalate lines)).tail, segment.head? = some '\n') ∧
      inputsOf lines =
        (BlockBuffer.blocksOf (segments (['\n'].intercalate lines))).map
          fun block => .block (.ofList block) :=
  BlockBuffer.inputsFrom_eq_blocks BlockBuffer.unfinished_empty h hne

-- Lines with a comment that is not one, a quote over two lines, a continuation and no end.
def scriptLines : List (List Char) :=
  ["MATCH (v)", "/* ';' */", "RETURN 'x;", "y' ;", "USE nba;\\", "SHOW TAGS;", "SHOW HOSTS"].map
    String.toList

theorem inputsOf_scriptLines :
    scriptLines ≠ [] ∧ BlockBuffer.empty.BlockLines scriptLines ∧
      segments (['\n'].intercalate scriptLines) =
        ["MATCH (v)\n/* ';' */\nRETURN 'x;\ny' ".toList, "\nUSE nba;\\\nSHOW TAGS".toList,
          "\nSHOW HOSTS".toList] ∧
      inputsOf scriptLines =
        [.block "MATCH (v)\n/* ';' */\nRETURN 'x;\ny' ;", .block "USE nba;\\\nSHOW TAGS;",
          .block "SHOW HOSTS"] := by
  have hne : scriptLines ≠ [] := by decide
  have hlines : BlockBuffer.empty.BlockLines scriptLines := by
    constructor <;> decide
  have hsegments : segments (['\n'].intercalate scriptLines) =
      ["MATCH (v)\n/* ';' */\nRETURN 'x;\ny' ".toList, "\nUSE nba;\\\nSHOW TAGS".toList,
        "\nSHOW HOSTS".toList] := by decide
  have ⟨_, hinputs⟩ := inputsOf_eq_blocks hne hlines
  rw [hsegments] at hinputs
  exact ⟨hne, hlines, hsegments, hinputs⟩

end QueryConsole.Console
