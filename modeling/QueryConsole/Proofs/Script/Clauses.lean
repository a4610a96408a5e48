import QueryConsole.Proofs.Backend.Mock
import QueryConsole.Proofs.Script.Continuation

namespace QueryConsole.Script

open Text (Tidy isBlank isAllBlank trim trimStart)

variable {as bs cs : List Char}

theorem clauses_ofList (cs : List Char) :
    clauses (.ofList cs) = (held (cutWhere (fun _ => true) cs)).map .ofList := by
  rw [clauses, String.toList_ofList]
  rfl

theorem clauses_append (ha : endsOpenQuote as = false) (bs : List Char) :
    clauses (.ofList (as ++ ';' :: bs)) = clauses (.ofList as) ++ clauses (.ofList bs) := by
  have hcut : cutWhere (fun _ => true) (as ++ ';' :: bs) =
      cutWhere (fun _ => true) as ++ cutWhere (fun _ => true) bs :=
    cutFrom_append localTest_true (endsOpenQuote_eq_false.1 ha) rfl
  rw [clauses_ofList, hcut, held_append, List.map_append, clauses_ofList, clauses_ofList]

theorem clauses_append_of_isAllBlank_left (h : isAllBlank bs = true) (cs : List Char) :
    clauses (.ofList (bs ++ cs)) = clauses (.ofList cs) := by
  induction bs with
  | nil => rfl
  | cons b bs ih =>
    have ⟨hb, hbs⟩ := Bool.and_eq_true_iff.1 h
    rw [← ih hbs, clauses_ofList, clauses_ofList, List.cons_append, held_cutWhere_of_blank hb]

theorem clauses_append_of_isAllBlank_right (cs : List Char) (h : isAllBlank bs = true) :
    clauses (.ofList (cs ++ bs)) = clauses (.ofList cs) := by
  have ⟨left, u, hl⟩ := exists_cutFrom_eq_concat (fun _ => true) .outside cs
  have hcut : cutWhere (fun _ => true) (cs ++ bs) = left ++ [u ++ bs] :=
    cutFrom_append_of_seam (fun _ _ _ _ => rfl) hl (cutFrom_of_whole (plain_of_isAllBlank h))
  have hheld : held (left ++ [u ++ bs]) = held (left ++ [u]) := by
    simp only [held, List.map_append, List.map_cons, Text.trim_append_of_blank u h]
  rw [clauses_ofList, clauses_ofList, hcut, hheld, cutWhere, hl]

theorem clauses_trim (cs : List Char) : clauses (.ofList (trim cs)) = clauses (.ofList cs) := by
  have ⟨before, after, hbefore, hafter, hcs⟩ := Text.exists_eq_append_trim cs
  calc
    clauses (.ofList (trim cs)) = clauses (.ofList (trim cs ++ after)) :=
      (clauses_append_of_isAllBlank_right _ hafter).symm
    _ = clauses (.ofList (before ++ (trim cs ++ after))) :=
      (clauses_append_of_isAllBlank_left hbefore _).symm
    _ = clauses (.ofList cs) := by rw [← hcs]

-- A clause as it can be chained: without blanks around it, with its quotes closed and no semicolon
-- outside of them.
structure Clause where
  text : List Char
  tidy : Tidy text
  closed : endsOpenQuote text = false
  plain : Plain .outside text

-- How the next clause follows the semicolon of the one before it.
inductive Link
  -- After one space and `more` of them.
  | spaces (more : Nat)
  -- On the next line, behind a backslash and a line break.
  | lineFeed
  | crlf

namespace Link

def written : Link → List Char
  | spaces more => List.replicate (more + 1) ' '
  | lineFeed => ['\\', '\n']
  | crlf => ['\\', '\r', '\n']

def joined : Link → List Char
  | spaces more => List.replicate (more + 1) ' '
  | lineFeed | crlf => []

end Link

-- Clauses in a row, with what `glue` gives for a link behind its semicolon.
def chain (glue : Link → List Char) (first : Clause) : List (Link × Clause) → List Char
  | [] => first.text
  | (link, next) :: rest => first.text ++ ';' :: (glue link ++ chain glue next rest)

def lastOf (first : Clause) : List (Link × Clause) → Clause
  | [] => first
  | (_, next) :: rest => lastOf next rest

namespace Link

theorem isAllBlank_spaces (n : Nat) : isAllBlank (List.replicate n ' ') = true := by
  rw [isAllBlank, List.all_eq_true]
  intro c hc
  rw [List.eq_of_mem_replicate hc]
  rfl

theorem isAllBlank_joined (link : Link) : isAllBlank link.joined = true := by
  cases link with
  | spaces more => exact isAllBlank_spaces (more + 1)
  | lineFeed => rfl
  | crlf => rfl

theorem plain_spaces (n : Nat) : Plain .outside (List.replicate n ' ') :=
  plain_of_isAllBlank (isAllBlank_spaces n)

theorem whole_written (link : Link) (h : Whole startsWithBreak .outside cs) :
    Whole startsWithBreak .outside (';' :: (link.written ++ cs)) := by
  cases link with
  | spaces more =>
    have hspaces : Whole startsWithBreak .outside (List.replicate (more + 1) ' ' ++ cs) := by
      refine Whole.append (plain_spaces _).seam (plain_spaces _).whole ?_
      rwa [run_of_isAllBlank (isAllBlank_spaces _)]
    exact .cons nofun hspaces
  | lineFeed => exact .cons nofun (.cons nofun (.cons nofun h))
  | crlf => exact .cons nofun (.cons nofun (.cons nofun (.cons nofun h)))

theorem join_written (link : Link) (cs : List Char) :
    joinContinuationsFrom .outside (';' :: (link.written ++ cs)) =
      ';' :: (link.joined ++ joinContinuationsFrom .outside cs) := by
  cases link with
  | spaces more =>
    have hnot : ¬(Quoting.outside = .outside ∧ ';' = ';' ∧
        startsContinuation (List.replicate (more + 1) ' ' ++ cs) = true) := nofun
    have hspaces : joinContinuationsFrom .outside (List.replicate (more + 1) ' ' ++ cs) =
        List.replicate (more + 1) ' ' ++ joinContinuationsFrom .outside cs := by
      rw [joinContinuationsFrom_append (plain_spaces _).seam,
        joinContinuationsFrom_of_isAllBlank (isAllBlank_spaces _),
        run_of_isAllBlank (isAllBlank_spaces _)]
    exact (joinContinuationsFrom_cons_of_not hnot).trans (congrArg (';' :: ·) hspaces)
  | lineFeed => exact joinContinuationsFrom_marker (.inl rfl) cs
  | crlf => exact joinContinuationsFrom_marker (.inr rfl) cs

end Link

variable (first : Clause) (rest : List (Link × Clause))

theorem Clause.run : Quoting.outside.run first.text = .outside :=
  endsOpenQuote_eq_false.1 first.closed

theorem Clause.clauses_text : clauses (.ofList first.text) = [.ofList first.text] := by
  have hcut : cutWhere (fun _ => true) first.text = [first.text] := cutFrom_of_whole first.plain
  have hne : trim first.text ≠ [] := (Text.trim_of_tidy first.tidy).symm ▸ first.tidy.ne_nil
  rw [clauses_ofList, hcut, held_cons hne, Text.trim_of_tidy first.tidy]
  rfl

theorem whole_chain : Whole startsWithBreak .outside (chain Link.written first rest) := by
  induction rest generalizing first with
  | nil => exact first.plain.whole
  | cons link rest ih =>
    refine Whole.append first.plain.seam first.plain.whole ?_
    rw [first.run]
    exact link.1.whole_written (ih link.2)

theorem joinContinuations_chain :
    joinContinuations (chain Link.written first rest) = chain Link.joined first rest := by
  induction rest generalizing first with
  | nil => exact joinContinuationsFrom_of_whole first.plain.whole
  | cons link rest ih =>
    rw [chain, chain, joinContinuations, joinContinuationsFrom_append first.plain.seam, first.run,
      joinContinuationsFrom_of_whole first.plain.whole, link.1.join_written, ← ih link.2]
    rfl

theorem tidy_chain (glue : Link → List Char) : Tidy (chain glue first rest) := by
  induction rest generalizing first with
  | nil => exact first.tidy
  | cons link rest ih => exact first.tidy.append (ih link.2) (';' :: glue link.1)

theorem isDirective_chain (glue : Link → List Char) :
    isDirective (chain glue first rest) = isDirective first.text := by
  cases rest with
  | nil => rfl
  | cons link rest =>
    rw [Bool.eq_iff_iff, isDirective_iff, isDirective_iff, chain,
      List.head?_append_of_ne_nil _ first.tidy.ne_nil]

theorem clauses_chain :
    clauses (.ofList (chain Link.joined first rest)) =
      (first :: rest.map (·.2)).map (.ofList ·.text) := by
  induction rest generalizing first with
  | nil => exact first.clauses_text
  | cons link rest ih =>
    rw [chain, clauses_append first.closed, first.clauses_text,
      clauses_append_of_isAllBlank_left link.1.isAllBlank_joined, ih link.2]
    rfl

theorem getLast?_chain :
    (first :: rest.map (·.2)).getLast? = some (lastOf first rest) := by
  induction rest generalizing first with
  | nil => rfl
  | cons link rest ih => exact ih link.2

theorem lastClause_chain :
    Mock.lastClause (.ofList (chain Link.joined first rest)) =
      .ofList (lastOf first rest).text := by
  rw [Mock.lastClause, clauses_chain, List.getLast?_map, getLast?_chain]
  rfl

-- However the clauses are chained, there is one statement, in which the lines are joined. It has
-- the clauses of the chain, and is answered like the last of them.
theorem split_of_chain (h : isDirective first.text = false) :
    split (.ofList (chain Link.written first rest)) =
        ⟨[], [.ofList (chain Link.joined first rest)]⟩ ∧
      clauses (.ofList (chain Link.joined first rest)) =
        (first :: rest.map (·.2)).map (.ofList ·.text) ∧
      ∀ m : Mock, ∃ r, m.respond (.ofList (lastOf first rest).text) = .ok r ∧
        m.respond (.ofList (chain Link.joined first rest)) =
          .ok { r with statement := .ofList (chain Link.joined first rest) } := by
  refine ⟨?split, clauses_chain first rest, fun m => ?answer⟩
  case split =>
    have hd : isDirective (chain Link.written first rest) = false := by rwa [isDirective_chain]
    rw [split, String.toList_ofList,
      splitChars_of_whole (tidy_chain first rest _) hd (whole_chain first rest),
      joinContinuations_chain]
  case answer =>
    obtain ⟨r, hr, -⟩ := m.exists_respond (.ofList (lastOf first rest).text)
    have hlast : Mock.lastClause (.ofList (chain Link.joined first rest)) =
        Mock.lastClause (.ofList (lastOf first rest).text) := by
      rw [lastClause_chain]
      exact (lastClause_chain (lastOf first rest) []).symm
    refine ⟨r, hr, ?_⟩
    rw [Mock.respond_of_lastClause hlast, hr]
    rfl

-- On one line with two spaces, and then on the next line after each kind of line break.
theorem split_of_mixed_chain :
    isDirective "USE 'n;\\\nba'".toList = false ∧
      split "USE 'n;\\\nba';  SHOW \";\";\\\nRETURN 1;\\\r\nYIELD ':a'" =
        ⟨[], ["USE 'n;\\\nba';  SHOW \";\";RETURN 1;YIELD ':a'"]⟩ ∧
      clauses "USE 'n;\\\nba';  SHOW \";\";RETURN 1;YIELD ':a'" =
        ["USE 'n;\\\nba'", "SHOW \";\"", "RETURN 1", "YIELD ':a'"] ∧
      ∀ m : Mock, ∃ r, m.respond "YIELD ':a'" = .ok r ∧
        m.respond "USE 'n;\\\nba';  SHOW \";\";RETURN 1;YIELD ':a'" =
          .ok { r with statement := "USE 'n;\\\nba';  SHOW \";\";RETURN 1;YIELD ':a'" } := by
  have hcolon : isDirective "USE 'n;\\\nba'".toList = false := rfl
  exact ⟨hcolon, split_of_chain
    ⟨"USE 'n;\\\nba'".toList, by decide, by decide, by decide⟩
    [(.spaces 1, ⟨"SHOW \";\"".toList, by decide, by decide, by decide⟩),
      (.lineFeed, ⟨"RETURN 1".toList, by decide, by decide, by decide⟩),
      (.crlf, ⟨"YIELD ':a'".toList, by decide, by decide, by decide⟩)] hcolon⟩

end QueryConsole.Script
