import QueryConsole.Proofs.Console.Block

namespace QueryConsole.Console

open Text (isAllBlank)

-- The lines that an input consists of.
def Input.lines : Input → List (List Char)
  | .command line => [line.toList]
  | .block text => text.toList.splitOn '\n'

namespace BlockBuffer

variable {b : BlockBuffer} {line : List Char} {lines : List (List Char)}

-- What stays of a line that arrives at a buffer. A blank line stays only in a quote that the
-- pending text leaves open.
def kept? (b : BlockBuffer) (line : List Char) : Option (List Char) :=
  let line := dropReturn line
  if isAllBlank line && (b.text.isEmpty || !Script.endsOpenQuote b.text) then none
  else if !b.isPending && Command.isCommandLine line then some (Text.trim line)
  else some line

-- Each line, with the buffer it arrives at.
def arrivals (b : BlockBuffer) : List (List Char) → List (BlockBuffer × List Char)
  | [] => []
  | line :: lines => (b, line) :: (b.push line).1.arrivals lines

-- What is pending are lines, and the first of them begins a block.
structure Begun (b : BlockBuffer) : Prop where
  notMem : ∀ line ∈ b.lines, '\n' ∉ line
  begins : ∀ first rest, b.lines = first :: rest →
    isAllBlank first = false ∧ Command.isCommandLine first = false

-- An input that a line completes, or is, leaves nothing behind.
structure Orderly (b : BlockBuffer) (line : List Char) : Prop where
  command : ∀ text, (b.push line).2 = some (.command text) →
    b.isPending = false ∧ Command.isCommandLine (dropReturn line) = true
  emptied : (b.push line).2 ≠ none → (b.push line).1.isPending = false

theorem begun_empty : empty.Begun where
  notMem := nofun
  begins := nofun

theorem inQuote_of_not_isPending (h : b.isPending = false) : b.inQuote = false := by
  have hn : b.lines = [] := by simpa [isPending] using h
  rw [inQuote, text, hn]
  rfl

theorem isAllBlank_of_isCommandLine (h : Command.isCommandLine line = true) :
    isAllBlank line = false := by
  by_contra hb
  have ht : Text.trimStart line = [] := Text.trimStart_eq_nil.2 (by simpa using hb)
  simp [Command.isCommandLine, ht] at h

theorem finish_conserves (h : b.Begun) :
    b.finish.2.toList.flatMap Input.lines ++ b.finish.1.lines = b.lines := by
  cases hp : b.isPending with
  | false => simp [finish_of_not_isPending hp]
  | true =>
    have hne : b.lines ≠ [] := by simpa [isPending] using hp
    simp [finish_of_isPending hp, Input.lines, text, empty,
      List.splitOn_intercalate '\n' h.notMem hne]

theorem begun_finish (h : b.Begun) : b.finish.1.Begun := by
  unfold finish
  split
  · exact begun_empty
  · exact h

theorem Begun.append (h : b.Begun) (hl : '\n' ∉ line)
    (hb : b.isPending = false → isAllBlank line = false ∧ Command.isCommandLine line = false) :
    (b.append line).Begun where
  notMem l hm := by
    rcases List.mem_append.1 hm with hm | hm
    · exact h.notMem l hm
    · exact List.mem_singleton.1 hm ▸ hl
  begins first rest hlines := by
    have hlines : b.lines ++ [line] = first :: rest := hlines
    cases hp : b.lines with
    | nil =>
      rw [hp] at hlines
      exact (List.cons.inj hlines).1 ▸ hb (by simp [isPending, hp])
    | cons l ls =>
      rw [hp] at hlines
      exact (List.cons.inj hlines).1 ▸ h.begins l ls hp

-- What a line is at a buffer: the end of the block before it, a command, or a line of a block.
inductive Arrives (b : BlockBuffer) (line : List Char) : Prop
  | blank (hb : isAllBlank (dropReturn line) = true) (hq : b.inQuote = false)
  | command (hp : b.isPending = false) (hc : Command.isCommandLine (dropReturn line) = true)
  | text (hq : isAllBlank (dropReturn line) = true → b.inQuote = true)
      (hc : b.isPending = false → Command.isCommandLine (dropReturn line) = false)

theorem arrives (b : BlockBuffer) (line : List Char) : b.Arrives line := by
  by_cases hb : isAllBlank (dropReturn line) = true ∧ b.inQuote = false
  case pos => exact .blank hb.1 hb.2
  case neg =>
    by_cases hc : b.isPending = false ∧ Command.isCommandLine (dropReturn line) = true
    case pos => exact .command hc.1 hc.2
    case neg =>
      simp only [not_and, Bool.not_eq_true, Bool.not_eq_false] at hb hc
      exact .text hb hc

theorem kept?_eq (b : BlockBuffer) (line : List Char) :
    b.kept? line =
      if isAllBlank (dropReturn line) && !b.inQuote then none
      else if !b.isPending && Command.isCommandLine (dropReturn line) then
        some (Text.trim (dropReturn line))
      else some (dropReturn line) := by
  -- An empty text has no quote in it.
  have hq : (b.text.isEmpty || !Script.endsOpenQuote b.text) = !b.inQuote := by
    cases ht : b.text with
    | nil =>
      have hclosed : b.inQuote = false := Script.endsOpenQuote_eq_false.2 (ht ▸ rfl)
      simp [hclosed]
    | cons c cs => simp [inQuote, ht]
  simp only [kept?, hq]

theorem push_of_blank (hb : isAllBlank (dropReturn line) = true) (hq : b.inQuote = false) :
    b.push line = b.finish := by
  cases hp : b.isPending <;> simp [push, pushLine, finish, hp, hb, hq]

theorem push_of_command (hp : b.isPending = false)
    (hc : Command.isCommandLine (dropReturn line) = true) :
    b.push line = (b, some (.command (.ofList (Text.trim (dropReturn line))))) := by
  simp [push, pushLine, hp, hc, isAllBlank_of_isCommandLine hc]

theorem isAllBlank_of_not_isPending (hq : isAllBlank line = true → b.inQuote = true)
    (hp : b.isPending = false) : isAllBlank line = false := by
  by_contra hb
  exact nomatch (inQuote_of_not_isPending hp).symm.trans (hq (by simpa using hb))

theorem push_of_text (hq : isAllBlank (dropReturn line) = true → b.inQuote = true)
    (hc : b.isPending = false → Command.isCommandLine (dropReturn line) = false) :
    b.push line = (b.append (dropReturn line)).finish ∨
      b.push line = (b.append (dropReturn line), none) := by
  have hpush : b.push line =
      if isAllBlank (dropReturn line) then (b.append (dropReturn line), none)
      else if endsWithSemicolon (dropReturn line) && !(b.append (dropReturn line)).inQuote then
        (b.append (dropReturn line)).finish
      else (b.append (dropReturn line), none) := by
    cases hp : b.isPending with
    | false => simp [push, pushLine, hp, hc hp, isAllBlank_of_not_isPending hq hp]
    | true =>
      cases hb : isAllBlank (dropReturn line) with
      | false => simp [push, pushLine, hp, hb]
      | true => simp [push, pushLine, hp, hb, hq hb]
  rw [hpush]
  split
  · exact .inr rfl
  · split
    · exact .inl rfl
    · exact .inr rfl

theorem push_conserves (h : b.Begun) (hl : '\n' ∉ line) :
    (b.push line).1.Begun ∧
      (b.push line).2.toList.flatMap Input.lines ++ (b.push line).1.lines =
        b.lines ++ (b.kept? line).toList := by
  cases b.arrives line with
  | blank hb hq =>
    rw [push_of_blank hb hq, kept?_eq, hb, hq]
    exact ⟨begun_finish h, by simpa using finish_conserves h⟩
  | command hp hc =>
    have hn : b.lines = [] := by simpa [isPending] using hp
    have hb := isAllBlank_of_isCommandLine hc
    rw [push_of_command hp hc, kept?_eq, hb, hp, hc]
    exact ⟨h, by simp [Input.lines, hn]⟩
  | text hq hc =>
    have hk : b.kept? line = some (dropReturn line) := by
      rw [kept?_eq, if_neg (by simpa using hq), if_neg (by simpa using hc)]
    have hnext := h.append (notMem_dropReturn hl) fun hp =>
      ⟨isAllBlank_of_not_isPending hq hp, hc hp⟩
    rcases push_of_text hq hc with hp | hp
    · rw [hp, hk]
      exact ⟨begun_finish hnext, finish_conserves hnext⟩
    · rw [hp, hk]
      exact ⟨hnext, rfl⟩

theorem finish_ne_command (b : BlockBuffer) (text : String) :
    b.finish.2 ≠ some (.command text) := by
  unfold finish
  split <;> exact nofun

theorem orderly (b : BlockBuffer) (line : List Char) : b.Orderly line := by
  cases b.arrives line with
  | blank hb hq =>
    refine ⟨fun text h => ?_, fun _ => ?_⟩ <;> rw [push_of_blank hb hq] at *
    · exact absurd h (b.finish_ne_command text)
    · exact b.isPending_finish
  | command hp hc =>
    refine ⟨fun _ _ => ⟨hp, hc⟩, fun _ => ?_⟩
    rw [push_of_command hp hc]
    exact hp
  | text hq hc =>
    rcases push_of_text hq hc with hp | hp
    · refine ⟨fun text h => ?_, fun _ => ?_⟩ <;> rw [hp] at *
      · exact absurd h (finish_ne_command _ text)
      · exact isPending_finish _
    · refine ⟨fun text h => ?_, fun h => ?_⟩ <;> rw [hp] at h
      · exact nomatch h
      · exact absurd rfl h

theorem inputsFrom_conserves (h : b.Begun) (hl : ∀ line ∈ lines, '\n' ∉ line) :
    (b.inputsFrom lines).flatMap Input.lines =
      b.lines ++ (b.arrivals lines).filterMap fun arrival => arrival.1.kept? arrival.2 := by
  induction lines generalizing b with
  | nil =>
    have hnone : b.finish.1.lines = [] := by simpa [isPending] using b.isPending_finish
    simpa [inputsFrom, arrivals, hnone] using finish_conserves h
  | cons line lines ih =>
    obtain ⟨hnext, hline⟩ := push_conserves h (hl line List.mem_cons_self)
    have hrest := ih hnext fun l hm => hl l (List.mem_cons_of_mem _ hm)
    calc (b.inputsFrom (line :: lines)).flatMap Input.lines
        = (b.push line).2.toList.flatMap Input.lines ++
            ((b.push line).1.inputsFrom lines).flatMap Input.lines := List.flatMap_append
      _ = ((b.push line).2.toList.flatMap Input.lines ++ (b.push line).1.lines) ++
            ((b.push line).1.arrivals lines).filterMap fun arrival =>
              arrival.1.kept? arrival.2 := by rw [hrest, List.append_assoc]
      _ = b.lines ++ ((b.kept? line).toList ++
            ((b.push line).1.arrivals lines).filterMap fun arrival =>
              arrival.1.kept? arrival.2) := by rw [hline, List.append_assoc]
      _ = b.lines ++ (b.arrivals (line :: lines)).filterMap fun arrival =>
            arrival.1.kept? arrival.2 := by
        cases hk : b.kept? line <;> simp [arrivals, hk]

theorem begun_of_mem_arrivals (h : b.Begun) (hl : ∀ line ∈ lines, '\n' ∉ line)
    {arrival : BlockBuffer × List Char} (hm : arrival ∈ b.arrivals lines) : arrival.1.Begun := by
  induction lines generalizing b with
  | nil => exact nomatch hm
  | cons line lines ih =>
    rcases List.mem_cons.1 hm with rfl | hm
    · exact h
    · exact ih (push_conserves h (hl line List.mem_cons_self)).1
        (fun l hm => hl l (List.mem_cons_of_mem _ hm)) hm

theorem begun_after (h : b.Begun) (hl : ∀ line ∈ lines, '\n' ∉ line) : (b.after lines).Begun := by
  induction lines generalizing b with
  | nil => exact h
  | cons line lines ih =>
    exact ih (push_conserves h (hl line List.mem_cons_self)).1
      fun l hm => hl l (List.mem_cons_of_mem _ hm)

end BlockBuffer

open BlockBuffer

-- No line is lost, doubled or moved, and what is pending is always a block that has begun.
theorem inputsOf_conserves {lines : List (List Char)} (hl : ∀ line ∈ lines, '\n' ∉ line) :
    (inputsOf lines).flatMap Input.lines =
        ((arrivals .empty lines).filterMap fun arrival => arrival.1.kept? arrival.2) ∧
      (∀ b line, (b, line) ∈ arrivals .empty lines → b.Begun ∧ b.Orderly line) ∧
      (after .empty lines).Begun ∧ (after .empty lines).finish.1.isPending = false ∧
      ∀ text, (after .empty lines).finish.2 ≠ some (.command text) :=
  ⟨inputsFrom_conserves begun_empty hl,
    fun b line hm => ⟨begun_of_mem_arrivals begun_empty hl hm, b.orderly line⟩,
    begun_after begun_empty hl, isPending_finish _, finish_ne_command _⟩

-- Blank lines of every kind, carriage returns, a command, and a slash and a blank line in a quote.
def blankLines : List (List Char) :=
  [" ", " /run x \r", "YIELD 'a;\r", "", "/b';", "\r", "USE nba", "\t\r", "SHOW HOSTS"].map
    String.toList

theorem inputsOf_conserves_blankLines :
    (∀ line ∈ blankLines, '\n' ∉ line) ∧
      (inputsOf blankLines).flatMap Input.lines =
        ["/run x", "YIELD 'a;", "", "/b';", "USE nba", "SHOW HOSTS"].map String.toList := by
  have hl : ∀ line ∈ blankLines, '\n' ∉ line := by decide
  have hkept : ((arrivals .empty blankLines).filterMap fun arrival =>
      arrival.1.kept? arrival.2) =
        ["/run x", "YIELD 'a;", "", "/b';", "USE nba", "SHOW HOSTS"].map String.toList := by decide
  exact ⟨hl, (inputsOf_conserves hl).1.trans hkept⟩

end QueryConsole.Console
