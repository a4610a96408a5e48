import Mathlib.Data.List.Forall2
import QueryConsole.Proofs.Script.Clauses

-- A segment is trimmed before its lines are joined. That makes no difference unless blanks alone
-- come behind a marker: the line break is trimmed off then, and the backslash is sent as one more
-- clause.
namespace QueryConsole.Script

open Text (Tidy isBlank isAllBlank trim trimStart trimEnd)

-- Behind a marker the segment holds nothing more.
def Dangling (segment : List Char) : Prop :=
  ∃ before br after, MarkerAt .outside segment before br after ∧ isAllBlank after = true

-- What is sent of a segment, against the segment with its lines joined.
structure Emits (segment : List Char) (statement : String) : Prop where
  -- Joining leaves the semicolon of each marker, and the clauses on both sides.
  marker : ∀ before br after, MarkerAt .outside segment before br after →
    joinContinuations segment = joinContinuations before ++ ';' :: joinContinuations after ∧
      clauses (.ofList (joinContinuations segment)) =
        clauses (.ofList (joinContinuations before)) ++ clauses (.ofList (joinContinuations after))
  joined : ¬Dangling segment →
    statement = .ofList (trim (joinContinuations segment)) ∧
      clauses statement = clauses (.ofList (joinContinuations segment))
  dangling : Dangling segment →
    statement = .ofList (trim (joinContinuations segment) ++ ['\\']) ∧
      clauses statement = clauses (.ofList (joinContinuations segment)) ++ ["\\"]

variable {st : Quoting} {as bs cs before br after segment : List Char}

theorem joinContinuations_trimStart (cs : List Char) :
    joinContinuations (trimStart cs) = trimStart (joinContinuations cs) := by
  induction cs with
  | nil => rfl
  | cons c cs ih =>
    by_cases hc : isBlank c = true
    case pos =>
      have hnext := Quoting.next_outside_of_not_quote (isQuote_of_blank hc)
      have hjoin : joinContinuations (c :: cs) = c :: joinContinuations cs := by
        rw [joinContinuations, joinContinuationsFrom_cons_of_ne (ne_semicolon_of_blank hc), hnext]
        rfl
      rw [hjoin, Text.trimStart_of_blank hc, Text.trimStart_of_blank hc, ih]
    case neg =>
      obtain ⟨more, hmore⟩ : ∃ more, joinContinuations (c :: cs) = c :: more :=
        exists_joinContinuationsFrom_cons .outside c cs
      rw [hmore, Text.trimStart_cons, Text.trimStart_cons, if_neg hc, if_neg hc, hmore]

theorem Dangling.of_trimStart (h : Dangling (trimStart cs)) : Dangling cs := by
  obtain ⟨before, br, after, hm, hafter⟩ := h
  have hrun : Quoting.outside.run (cs.takeWhile isBlank) = .outside :=
    run_of_isAllBlank List.all_takeWhile
  have hm : MarkerAt .outside (cs.takeWhile isBlank ++ trimStart cs) _ br after :=
    MarkerAt.append_left (hrun.symm ▸ hm)
  rw [trimStart, List.takeWhile_append_dropWhile] at hm
  exact ⟨_, br, after, hm, hafter⟩

-- Only a dangling marker lies across the place where a segment is trimmed at its end.
theorem seam_trim (h : ¬Dangling (trim cs ++ after)) (ha : isAllBlank after = true) :
    Seam startsContinuation .outside (trim cs) after := by
  intro before rest heq hst
  rw [Bool.eq_iff_iff]
  refine ⟨fun hcont => ?_, localTest_startsContinuation.append rest after⟩
  obtain ⟨more, hmore, hbreak⟩ := startsContinuation_iff.1 hcont
  cases rest with
  | nil =>
    have hmore : after = '\\' :: more := hmore
    exact nomatch hmore ▸ ha
  | cons d rest =>
    obtain ⟨rfl, rfl⟩ := List.cons.inj hmore
    rcases startsWithBreak_append hbreak with hbreak | ⟨rfl, hbreak⟩ | ⟨rfl, -⟩
    · exact hbreak
    · obtain ⟨br, rest, hbr, rfl⟩ := startsWithBreak_iff_isBreak.1 hbreak
      have hmarker : MarkerAt .outside (trim cs ++ (br ++ rest)) before br rest := by
        refine ⟨?_, hbr, hst⟩
        rw [heq, List.append_assoc]
        rfl
      have hrest : isAllBlank rest = true := by
        rw [Text.isAllBlank_append, Bool.and_eq_true] at ha
        exact ha.2
      exact absurd ⟨before, br, rest, hmarker, hrest⟩ h
    · have htidy : Tidy (trim cs) := Text.tidy_trim (by rw [heq]; simp)
      have hlast := htidy.last '\r' (by rw [heq]; simp)
      exact nomatch hlast

theorem joinContinuations_trim (h : ¬Dangling cs) :
    joinContinuations (trim cs) = trim (joinContinuations cs) := by
  have ⟨after, hafter, htrim⟩ := Text.exists_trim_append cs
  have hd : ¬Dangling (trim cs ++ after) := fun hd => h (htrim ▸ hd).of_trimStart
  have hjoin : trimStart (joinContinuations cs) = joinContinuations (trim cs) ++ after := by
    rw [← joinContinuations_trimStart, ← htrim, joinContinuations,
      joinContinuationsFrom_append (seam_trim hd hafter),
      joinContinuationsFrom_of_isAllBlank hafter]
    rfl
  rw [← Text.trim_trimStart (joinContinuations cs), hjoin, Text.trim_append_of_blank _ hafter]
  by_cases hne : trim cs = []
  case pos =>
    rw [hne]
    rfl
  case neg => exact (Text.trim_of_tidy (tidy_joinContinuations (Text.tidy_trim hne))).symm

-- The line break of a dangling marker is trimmed off, so that it is no marker any more.
theorem joinContinuations_trim_of_marker (h : MarkerAt .outside cs before br after)
    (ha : isAllBlank after = true) :
    trim (joinContinuations cs) = trimStart (joinContinuations before) ++ [';'] ∧
      joinContinuations (trim cs) = trimStart (joinContinuations before) ++ [';', '\\'] := by
  constructor
  case left =>
    have hjoin : joinContinuations cs = joinContinuations before ++ ';' :: after := by
      rw [joinContinuations, h.joinContinuationsFrom_eq, joinContinuationsFrom_of_isAllBlank ha]
      rfl
    rw [hjoin, Text.trim_append_cons _ rfl, Text.trimEnd_of_isAllBlank ha]
  case right =>
    have hbr : isAllBlank (br ++ after) = true := by
      rw [Text.isAllBlank_append, Bool.and_eq_true]
      exact ⟨by rcases h.isBreak with rfl | rfl <;> rfl, ha⟩
    have htrim : trim cs = trimStart before ++ ';' :: ['\\'] := by
      have hcs : cs = (before ++ [';']) ++ '\\' :: (br ++ after) := by simp [h.eq]
      rw [hcs, Text.trim_append_cons _ rfl, Text.trimEnd_of_isAllBlank hbr,
        Text.trimStart_append_cons _ rfl, List.append_assoc]
      rfl
    have hseam := @LocalTest.seam _ .outside localTest_startsContinuation (trimStart before) ['\\']
    rw [htrim, ← joinContinuations_trimStart, joinContinuations,
      joinContinuationsFrom_append hseam, run_trimStart, h.unquoted]
    rfl

theorem emits_of_segment (segment : List Char) :
    Emits segment (.ofList (joinContinuations (trim segment))) where
  marker before br after h := by
    have hjoin : joinContinuations segment =
        joinContinuations before ++ ';' :: joinContinuations after := h.joinContinuationsFrom_eq
    have hclosed : endsOpenQuote (joinContinuations before) = false := by
      rw [endsOpenQuote_joinContinuations, endsOpenQuote_eq_false, h.unquoted]
    refine ⟨hjoin, ?_⟩
    rw [hjoin, clauses_append hclosed]
  joined h := by
    rw [joinContinuations_trim h]
    exact ⟨rfl, clauses_trim _⟩
  dangling := by
    rintro ⟨before, br, after, hm, hafter⟩
    have ⟨hjoined, hsent⟩ := joinContinuations_trim_of_marker hm hafter
    have hclosed : endsOpenQuote (trimStart (joinContinuations before)) = false := by
      rw [endsOpenQuote, run_trimStart, joinContinuations, run_joinContinuationsFrom, hm.unquoted]
      rfl
    constructor
    · rw [hsent, hjoined, List.append_assoc]
      rfl
    · rw [← clauses_trim (joinContinuations segment), hjoined, hsent, clauses_append hclosed,
        clauses_append hclosed, List.append_assoc]
      rfl

theorem filter_units_eq (raw : List Char) (p : List Char → Bool) :
    (units raw).filter p =
      ((segments raw).filter fun segment => !(trim segment).isEmpty && p (trim segment)).map
        trim := by
  simp only [units, List.filter_filter, List.filter_map, Function.comp_def, Bool.and_comm]

-- Each segment that holds a statement is sent with its lines joined, but for a dangling marker.
theorem statements_of_segments (raw : String) :
    List.Forall₂ Emits
      ((segments raw.toList).filter fun segment =>
        !(trim segment).isEmpty && !isDirective (trim segment))
      (split raw).statements := by
  have hs : (split raw).statements = _ := splitChars_statements raw.toList
  rw [hs, filter_units_eq, List.map_map]
  exact List.forall₂_map_right_iff.2 (List.forall₂_same.2 fun segment _ => emits_of_segment segment)

-- The backslash is sent as a clause of its own.
theorem backslash_of_dangling :
    segments "a;\\\n".toList = ["a;\\\n".toList] ∧
      MarkerAt .outside "a;\\\n".toList "a".toList ['\n'] [] ∧
      (split "a;\\\n").statements = ["a;\\"] ∧ clauses "a;\\" = ["a", "\\"] ∧
      trim (joinContinuations "a;\\\n".toList) = "a;".toList := by
  exact ⟨by decide, ⟨rfl, .inl rfl, rfl⟩, by decide, by decide, by decide⟩

end QueryConsole.Script
