import Mathlib.Data.List.Infix
import QueryConsole.Proofs.Script.Continuation

namespace QueryConsole.Script

open Text (isBlank isAllBlank trim trimStart trimEnd)

def quoted (q : Char) (body : List Char) : List Char :=
  q :: (body ++ [q])

-- A run that opens with `q` closes right behind `body`, and not before.
structure Closes (q : Char) (body : List Char) : Prop where
  isQuote : isQuote q = true
  inside : ∀ before, before <+: body → ((Quoting.inside q).run before).isOpen = true
  closed : (Quoting.inside q).run (body ++ [q]) = .outside

instance (q : Char) (body : List Char) : Decidable (Closes q body) :=
  decidable_of_iff
    (isQuote q = true ∧ (∀ before ∈ body.inits, ((Quoting.inside q).run before).isOpen = true) ∧
      (Quoting.inside q).run (body ++ [q]) = .outside)
    ⟨fun ⟨h₁, h₂, h₃⟩ => ⟨h₁, fun before hb => h₂ before ((List.mem_inits ..).2 hb), h₃⟩,
      fun ⟨h₁, h₂, h₃⟩ => ⟨h₁, fun before hb => h₂ before ((List.mem_inits ..).1 hb), h₃⟩⟩

variable {st : Quoting} {q : Char} {as bs body u v : List Char} {left right : List (List Char)}

theorem isBlank_of_isQuote (h : isQuote q = true) : isBlank q = false := by
  rcases isQuote_iff.1 h with rfl | rfl <;> rfl

theorem startsWithBreak_append_quote (h : isQuote q = true) (as bs : List Char) :
    startsWithBreak (as ++ q :: bs) = startsWithBreak as := by
  rw [Bool.eq_iff_iff]
  refine ⟨fun hbreak => ?_, localTest_startsWithBreak.append as _⟩
  rcases isQuote_iff.1 h with rfl | rfl
  all_goals
    rcases startsWithBreak_append hbreak with hbreak | ⟨-, hbreak⟩ | ⟨-, hbreak⟩
    · exact hbreak
    · exact nomatch hbreak
    · exact nomatch hbreak

theorem startsContinuation_append_quote (h : isQuote q = true) (as bs : List Char) :
    startsContinuation (as ++ q :: bs) = startsContinuation as := by
  cases as with
  | nil => rcases isQuote_iff.1 h with rfl | rfl <;> rfl
  | cons a as =>
    by_cases ha : a = '\\'
    case pos =>
      subst ha
      exact startsWithBreak_append_quote h as bs
    case neg => simp [startsContinuation, ha]

theorem isDirective_append_quote (h : isQuote q = true) (as bs : List Char) :
    isDirective (as ++ q :: bs) = isDirective as := by
  cases as with
  | nil => rcases isQuote_iff.1 h with rfl | rfl <;> rfl
  | cons a as => rw [Bool.eq_iff_iff, isDirective_iff, isDirective_iff]; rfl

namespace Closes

theorem run (h : Closes q body) : Quoting.outside.run (quoted q body) = .outside := by
  have hopen : Quoting.outside.next q = .inside q := if_pos h.isQuote
  rw [quoted, Quoting.run_cons, hopen, h.closed]

theorem plain (h : Closes q body) : Plain .outside (quoted q body) := by
  have hopen : Quoting.outside.next q = .inside q := if_pos h.isQuote
  have hne : q ≠ ';' := fun hq => nomatch hq ▸ h.isQuote
  have hlast : ';' ∉ [q] := by simpa using hne.symm
  refine Whole.cons (fun hq => hne hq.2.1) ?_
  rw [hopen]
  exact Plain.append (plain_of_isOpen h.inside) (plain_of_notMem hlast)

end Closes

theorem segments_quoted (ha : endsOpenQuote as = false) (h : Closes q body)
    (hl : segments as = left ++ [u]) (hr : segments bs = v :: right) :
    segments (as ++ (quoted q body ++ bs)) = left ++ (u ++ (quoted q body ++ v)) :: right := by
  have hst : Quoting.outside.run as = .outside := endsOpenQuote_eq_false.1 ha
  have hseam : Seam startsWithBreak .outside as (quoted q body ++ bs) :=
    fun _ after _ _ => startsWithBreak_append_quote h.isQuote after _
  have hrun : cutFrom startsWithBreak (Quoting.outside.run as) (quoted q body ++ bs) =
      (quoted q body ++ v) :: right := by
    rw [hst]
    refine h.plain.cutFrom_append ?_
    rw [h.run]
    exact hr
  exact cutFrom_append_of_seam hseam hl hrun

theorem trim_quoted (h : Closes q body) (u v : List Char) :
    trim (u ++ (quoted q body ++ v)) = trimStart u ++ (quoted q body ++ trimEnd v) := by
  have hq := isBlank_of_isQuote h.isQuote
  have hsplit : quoted q body ++ v = q :: (body ++ q :: v) := by simp [quoted]
  rw [hsplit, Text.trim_append_cons u hq, Text.trimEnd_append_cons body hq]
  simp [quoted]

theorem joinContinuations_quoted (hu : Quoting.outside.run u = .outside) (h : Closes q body)
    (v : List Char) :
    joinContinuations (u ++ (quoted q body ++ v)) =
      joinContinuations u ++ (quoted q body ++ joinContinuations v) := by
  have hseam : Seam startsContinuation .outside u (quoted q body ++ v) :=
    fun _ after _ _ => startsContinuation_append_quote h.isQuote after _
  rw [joinContinuations, joinContinuationsFrom_append hseam, hu,
    joinContinuationsFrom_append h.plain.seam, h.run, joinContinuationsFrom_of_whole h.plain.whole]
  rfl

theorem units_quoted (ha : endsOpenQuote as = false) (h : Closes q body)
    (hl : segments as = left ++ [u]) (hr : segments bs = v :: right) :
    units (as ++ (quoted q body ++ bs)) =
      held left ++ (trimStart u ++ (quoted q body ++ trimEnd v)) :: held right := by
  have hne : trim (u ++ (quoted q body ++ v)) ≠ [] := by
    rw [trim_quoted h]
    simp [quoted]
  rw [units_eq, segments_quoted ha h hl hr, held_append, held_cons hne, trim_quoted h]

-- The parts `u` and `v` around the run do not depend on what is in it.
theorem exists_splitChars_quoted (hq : isQuote q = true) (ha : endsOpenQuote as = false)
    (bs : List Char) :
    ∃ left right others : List String, ∃ u v : List Char,
      (∀ body, Closes q body → splitChars (as ++ (quoted q body ++ bs)) =
        ⟨left ++ .ofList (u ++ (quoted q body ++ v)) :: right, others⟩) ∨
      ∀ body, Closes q body → splitChars (as ++ (quoted q body ++ bs)) =
        ⟨others, left ++ .ofList (u ++ (quoted q body ++ v)) :: right⟩ := by
  have ⟨v, right, hr⟩ := exists_cutFrom_eq startsWithBreak .outside bs
  have ⟨left, u, hl⟩ := exists_cutFrom_eq_concat startsWithBreak .outside as
  have hu : Quoting.outside.run (trimStart u) = .outside := by
    have hlast : Quoting.outside.run u = Quoting.outside.run as := run_last_cutFrom hl
    rw [run_trimStart, hlast, endsOpenQuote_eq_false.1 ha]
  have hsame (body : List Char) : isDirective (trimStart u ++ (quoted q body ++ trimEnd v)) =
      isDirective (trimStart u) := isDirective_append_quote hq (trimStart u) _
  by_cases hd : isDirective (trimStart u) = true
  case pos =>
    refine ⟨(sent (held left)).directives, (sent (held right)).directives,
      (sent (held left)).statements ++ (sent (held right)).statements, trimStart u, trimEnd v,
      .inl fun body h => ?_⟩
    rw [splitChars_eq, units_quoted ha h hl hr, sent_of_directive ((hsame body).trans hd)]
  case neg =>
    have hd : isDirective (trimStart u) = false := Bool.eq_false_iff.2 hd
    refine ⟨(sent (held left)).statements, (sent (held right)).statements,
      (sent (held left)).directives ++ (sent (held right)).directives,
      joinContinuations (trimStart u), joinContinuations (trimEnd v), .inr fun body h => ?_⟩
    rw [splitChars_eq, units_quoted ha h hl hr, sent_of_statement ((hsame body).trans hd),
      joinContinuations_quoted hu h]

def quotedText (q : Char) (body : String) : String :=
  .singleton q ++ body ++ .singleton q

theorem toList_quotedText (q : Char) (body : String) :
    (quotedText q body).toList = quoted q body.toList := by
  simp [quotedText, quoted]

-- Two scripts that differ in what is between two quotes split into the same units, but for one, and
-- there they differ in nothing else.
theorem split_eq_but_for_quoted (a b x y : String) {q : Char}
    (ha : endsOpenQuote a.toList = false) (hx : Closes q x.toList) (hy : Closes q y.toList) :
    ∃ left right others : List String, ∃ u v : String,
      (split (a ++ quotedText q x ++ b) = ⟨left ++ (u ++ quotedText q x ++ v) :: right, others⟩ ∧
        split (a ++ quotedText q y ++ b) =
          ⟨left ++ (u ++ quotedText q y ++ v) :: right, others⟩) ∨
      (split (a ++ quotedText q x ++ b) = ⟨others, left ++ (u ++ quotedText q x ++ v) :: right⟩ ∧
        split (a ++ quotedText q y ++ b) =
          ⟨others, left ++ (u ++ quotedText q y ++ v) :: right⟩) := by
  have ⟨left, right, others, u, v, h⟩ := exists_splitChars_quoted hx.isQuote ha b.toList
  have htext (body : String) : split (a ++ quotedText q body ++ b) =
      splitChars (a.toList ++ (quoted q body.toList ++ b.toList)) := by
    simp [split, toList_quotedText]
  have hunit (body : String) : String.ofList (u ++ (quoted q body.toList ++ v)) =
      .ofList u ++ quotedText q body ++ .ofList v := by
    simp [← String.toList_inj, toList_quotedText]
  refine ⟨left, right, others, .ofList u, .ofList v, ?_⟩
  rw [htext, htext, ← hunit, ← hunit]
  exact h.imp (fun h => ⟨h _ hx, h _ hy⟩) (fun h => ⟨h _ hx, h _ hy⟩)

-- A terminator, a continuation, a colon and an escaped quote in quotes, and nothing at all.
theorem split_of_busy_quotes :
    endsOpenQuote "USE nba;\\\nYIELD ".toList = false ∧
      Closes '\'' " ;\n:p;\\\n\"\\' ".toList ∧ Closes '\'' "".toList ∧
      ∃ left right others : List String, ∃ u v : String,
        (split ("USE nba;\\\nYIELD " ++ quotedText '\'' " ;\n:p;\\\n\"\\' " ++ " ;\n:params") =
            ⟨left ++ (u ++ quotedText '\'' " ;\n:p;\\\n\"\\' " ++ v) :: right, others⟩ ∧
          split ("USE nba;\\\nYIELD " ++ quotedText '\'' "" ++ " ;\n:params") =
            ⟨left ++ (u ++ quotedText '\'' "" ++ v) :: right, others⟩) ∨
        (split ("USE nba;\\\nYIELD " ++ quotedText '\'' " ;\n:p;\\\n\"\\' " ++ " ;\n:params") =
            ⟨others, left ++ (u ++ quotedText '\'' " ;\n:p;\\\n\"\\' " ++ v) :: right⟩ ∧
          split ("USE nba;\\\nYIELD " ++ quotedText '\'' "" ++ " ;\n:params") =
            ⟨others, left ++ (u ++ quotedText '\'' "" ++ v) :: right⟩) := by
  have hclosed : endsOpenQuote "USE nba;\\\nYIELD ".toList = false := by decide
  have hbusy : Closes '\'' " ;\n:p;\\\n\"\\' ".toList := by decide
  have hempty : Closes '\'' "".toList := by decide
  exact ⟨hclosed, hbusy, hempty, split_eq_but_for_quoted _ _ _ _ hclosed hbusy hempty⟩

end QueryConsole.Script
