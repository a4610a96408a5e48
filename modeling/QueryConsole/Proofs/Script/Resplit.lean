import Mathlib.Data.List.Forall2
import QueryConsole.Proofs.Script.Continuation

namespace QueryConsole.Script

open Text (Tidy isBlank isAllBlank)

-- Behind no marker comes another line break at once, nor another backslash with one.
def Spaced (unit : List Char) : Prop :=
  ∀ before br after, MarkerAt .outside unit before br after →
    startsWithBreak after = false ∧ startsContinuation after = false

variable {isCut : List Char → Bool} {st : Quoting} {cs raw unit x y piece : List Char}
  {pieces : List (List Char)}

theorem length_le_of_mem_pieces (h : piece ∈ pieces) :
    piece.length ≤ (joinPieces pieces).length := by
  induction pieces with
  | nil => exact nomatch h
  | cons first pieces ih =>
    by_cases hp : pieces = []
    case pos =>
      subst hp
      obtain rfl := List.mem_singleton.1 h
      exact Nat.le_refl _
    case neg =>
      rw [joinPieces_cons first hp, List.length_append, List.length_cons]
      rcases List.mem_cons.1 h with rfl | h
      · omega
      · have := ih h
        omega

-- A piece as long as the text is the only one.
theorem pieces_eq_singleton (h : piece ∈ pieces) (hle : (joinPieces pieces).length ≤ piece.length) :
    pieces = [piece] := by
  cases pieces with
  | nil => exact nomatch h
  | cons first pieces =>
    by_cases hp : pieces = []
    case pos =>
      subst hp
      rw [List.mem_singleton.1 h]
    case neg =>
      rw [joinPieces_cons first hp, List.length_append, List.length_cons] at hle
      rcases List.mem_cons.1 h with rfl | h
      · omega
      · have := length_le_of_mem_pieces h
        omega

theorem exists_segment_of_mem_units (h : unit ∈ units raw) :
    ∃ segment ∈ segments raw, Text.trim segment = unit :=
  List.mem_map.1 (List.mem_filter.1 h).1

theorem splitChars_eq_self_iff (h : Tidy cs) (hd : isDirective cs = false) :
    splitChars cs = ⟨[], [.ofList cs]⟩ ↔
      Whole startsWithBreak .outside cs ∧ Whole startsContinuation .outside cs := by
  constructor
  · intro heq
    have hlen := length_units cs
    rw [heq] at hlen
    obtain ⟨unit, hunit⟩ := List.length_eq_one_iff.1 hlen.symm
    have hjoin : joinContinuations unit = cs := by
      rw [splitChars_eq, hunit] at heq
      cases hdir : isDirective unit <;> simp [sent, hdir] at heq
      exact String.ofList_injective heq
    -- The unit is no longer than its segment, nor shorter than the text that it is joined to.
    have hmem : unit ∈ units cs := hunit ▸ List.mem_singleton_self unit
    obtain ⟨segment, hm, htrim⟩ := exists_segment_of_mem_units hmem
    have hle : cs.length ≤ segment.length := calc
      cs.length = (joinContinuations unit).length := by rw [hjoin]
      _ ≤ unit.length := length_joinContinuationsFrom_le .outside unit
      _ ≤ segment.length := htrim ▸ Text.length_trim_le segment
    have hcut : segments cs = [segment] := by
      refine pieces_eq_singleton hm ?_
      rwa [segments, cutWhere, join_cutFrom]
    have hall : segment = cs := by
      have hback := @join_cutFrom startsWithBreak .outside cs
      rwa [show cutFrom startsWithBreak .outside cs = [segment] from hcut] at hback
    subst hall
    rw [Text.trim_of_tidy h] at htrim
    exact ⟨(whole_of_cutFrom localTest_startsWithBreak hcut).1,
      joinContinuationsFrom_eq_self_iff.1 (htrim ▸ hjoin)⟩
  · rintro ⟨hbreak, hcont⟩
    rw [splitChars_of_whole h hd hbreak, joinContinuations, joinContinuationsFrom_of_whole hcont]

theorem startsWithBreak_cons (c : Char) (cs : List Char) :
    startsWithBreak (c :: cs) = (c = '\n' || (c = '\r' && cs.head? = some '\n')) := by
  rw [Bool.eq_iff_iff, startsWithBreak_iff]
  constructor
  · rintro ⟨more, h | h⟩
    all_goals
      obtain ⟨rfl, rfl⟩ := List.cons.inj h
      simp
  · intro h
    simp only [Bool.or_eq_true, Bool.and_eq_true, decide_eq_true_eq] at h
    rcases h with rfl | ⟨rfl, h⟩
    · exact ⟨cs, .inl rfl⟩
    · obtain ⟨more, rfl⟩ := List.head?_eq_some_iff.1 h
      exact ⟨more, .inr rfl⟩

theorem startsWithBreak_joinContinuationsFrom (st : Quoting) (cs : List Char) :
    startsWithBreak (joinContinuationsFrom st cs) = startsWithBreak cs := by
  cases cs with
  | nil => rfl
  | cons c cs =>
    by_cases hc : c = ';'
    case pos =>
      subst hc
      have ⟨more, hmore⟩ := exists_joinContinuationsFrom_cons st ';' cs
      rw [hmore]
      rfl
    case neg =>
      rw [joinContinuationsFrom_cons_of_ne hc, startsWithBreak_cons, startsWithBreak_cons,
        head?_joinContinuationsFrom]

theorem startsContinuation_joinContinuationsFrom (st : Quoting) (cs : List Char) :
    startsContinuation (joinContinuationsFrom st cs) = startsContinuation cs := by
  cases cs with
  | nil => rfl
  | cons c cs =>
    by_cases hc : c = ';'
    case pos =>
      subst hc
      have ⟨more, hmore⟩ := exists_joinContinuationsFrom_cons st ';' cs
      rw [hmore]
      rfl
    case neg =>
      rw [joinContinuationsFrom_cons_of_ne hc]
      by_cases hb : c = '\\'
      case pos =>
        subst hb
        exact startsWithBreak_joinContinuationsFrom _ cs
      case neg => simp [startsContinuation, hb]

-- A semicolon of a joined text was one of the text, and what is behind it came behind the semicolon
-- or its marker.
theorem exists_of_joined (h : joinContinuationsFrom st cs = x ++ ';' :: y)
    (hx : st.run x = .outside) :
    (∃ before rest, cs = before ++ ';' :: rest ∧ st.run before = .outside ∧
        startsContinuation rest = false ∧ y = joinContinuationsFrom .outside rest) ∨
      ∃ before br after, MarkerAt st cs before br after ∧
        y = joinContinuationsFrom .outside after := by
  induction st, cs using continuation_induction generalizing x with
  | nil => exact absurd h (by simp [joinContinuationsFrom])
  | marker br after hbr ih =>
    rw [joinContinuationsFrom_marker hbr] at h
    cases x with
    | nil => exact .inr ⟨[], br, after, ⟨rfl, hbr, rfl⟩, (List.cons.inj h).2.symm⟩
    | cons d x =>
      obtain ⟨rfl, htail⟩ := List.cons.inj h
      rcases ih htail hx with ⟨before, rest, rfl, hst, hrest⟩ | ⟨before, br', after', hm, hy⟩
      · refine .inl ⟨';' :: '\\' :: (br ++ before), rest, by simp, ?_, hrest⟩
        rw [Quoting.run_marker_append hbr, hst]
      · rw [← Quoting.run_marker hbr] at hm
        exact .inr ⟨_, br', after', hm.append_left, hy⟩
  | cons st c cs hc ih =>
    rw [joinContinuationsFrom_cons_of_not hc] at h
    cases x with
    | nil =>
      obtain ⟨rfl, rfl⟩ := List.cons.inj h
      obtain rfl : st = .outside := hx
      have hrest : startsContinuation cs = false :=
        Bool.eq_false_iff.2 fun hcont => hc ⟨rfl, rfl, hcont⟩
      exact .inl ⟨[], cs, rfl, rfl, hrest, rfl⟩
    | cons d x =>
      obtain ⟨rfl, htail⟩ := List.cons.inj h
      rcases ih htail hx with ⟨before, rest, rfl, hst, hrest⟩ | ⟨before, br, after, hm, hy⟩
      · exact .inl ⟨c :: before, rest, rfl, hst, hrest⟩
      · have hm : MarkerAt (st.run [c]) cs before br after := hm
        exact .inr ⟨_, br, after, hm.append_left, hy⟩

-- A test that joining does not change passes behind no semicolon of the joined text, if it passed
-- behind none that stood alone and passes behind no marker.
theorem whole_joined (hsame : ∀ st cs, isCut (joinContinuationsFrom st cs) = isCut cs)
    (halone : ∀ before rest, unit = before ++ ';' :: rest → Quoting.outside.run before = .outside →
      startsContinuation rest = false → isCut rest = false) :
    Whole isCut .outside (joinContinuations unit) ↔
      ∀ before br after, MarkerAt .outside unit before br after → isCut after = false := by
  constructor
  · intro hw before br after hm
    have hrun : Quoting.outside.run (joinContinuations before) = .outside := by
      rw [joinContinuations, run_joinContinuationsFrom, hm.unquoted]
    rw [← hsame .outside after, Bool.eq_false_iff]
    exact fun h => hw _ _ ⟨hm.joinContinuationsFrom_eq, hrun, h⟩
  · rintro hmarker x y ⟨heq, hx, hy⟩
    rcases exists_of_joined heq hx with ⟨before, rest, hunit, hst, hrest, rfl⟩ | ⟨_, _, _, hm, rfl⟩
    · rw [hsame, halone before rest hunit hst hrest] at hy
      cases hy
    · rw [hsame, hmarker _ _ _ hm] at hy
      cases hy

theorem whole_joined_iff (hw : Whole startsWithBreak .outside unit) :
    Whole startsWithBreak .outside (joinContinuations unit) ∧
        Whole startsContinuation .outside (joinContinuations unit) ↔ Spaced unit := by
  have hbreak := whole_joined startsWithBreak_joinContinuationsFrom
    fun before rest heq hst _ => Bool.eq_false_iff.2 fun h => hw before rest ⟨heq, hst, h⟩
  have hcont := @whole_joined _ unit startsContinuation_joinContinuationsFrom
    fun _ _ _ _ hrest => hrest
  rw [hbreak, hcont]
  simp only [Spaced, imp_and, forall_and]

theorem whole_of_mem_units (h : unit ∈ units raw) : Whole startsWithBreak .outside unit := by
  obtain ⟨segment, hm, rfl⟩ := exists_segment_of_mem_units h
  have ⟨before, after, hbefore, _, hsegment⟩ := Text.exists_eq_append_trim segment
  have hw : Whole startsWithBreak .outside segment := (cutAtTerminators_segments raw).whole _ hm
  rw [hsegment] at hw
  have hrest := hw.drop
  rw [run_of_isAllBlank hbefore] at hrest
  exact hrest.of_append localTest_startsWithBreak

theorem splitChars_of_directive (h : unit ∈ units raw) (hd : isDirective unit = true) :
    splitChars unit = ⟨[.ofList unit], []⟩ := by
  rw [splitChars_eq, units_of_tidy (tidy_of_mem_units h) (whole_of_mem_units h)]
  exact @sent_of_directive unit [] [] hd

theorem splitChars_joined_iff (h : unit ∈ units raw) (hd : isDirective unit = false) :
    splitChars (joinContinuations unit) = ⟨[], [.ofList (joinContinuations unit)]⟩ ↔
      Spaced unit := by
  have htidy := tidy_joinContinuations (tidy_of_mem_units h)
  rw [splitChars_eq_self_iff htidy (by rwa [isDirective_joinContinuations]),
    whole_joined_iff (whole_of_mem_units h)]

-- A directive, split once more, is sent as it is. A statement is so if its unit was spaced; else a
-- line break or a continuation has got behind a semicolon that joined two lines.
theorem split_of_split (raw : String) :
    (∀ directive ∈ (split raw).directives, split directive = ⟨[directive], []⟩) ∧
      List.Forall₂ (fun unit statement =>
          statement = .ofList (joinContinuations unit) ∧
            (split statement = ⟨[], [statement]⟩ ↔ Spaced unit))
        ((units raw.toList).filter (!isDirective ·)) (split raw).statements := by
  rw [split, splitChars_eq]
  constructor
  · intro directive hm
    obtain ⟨unit, hunit, rfl⟩ := List.mem_map.1 hm
    obtain ⟨hunit, hd⟩ := List.mem_filter.1 hunit
    rw [split, String.toList_ofList, splitChars_of_directive hunit hd]
  · refine List.forall₂_map_right_iff.2 (List.forall₂_same.2 fun unit hm => ⟨rfl, ?_⟩)
    obtain ⟨hunit, hd⟩ := List.mem_filter.1 hm
    rw [split, String.toList_ofList]
    exact splitChars_joined_iff hunit (by simpa using hd)

-- An empty line behind a marker makes a terminator of its semicolon; a backslash alone on the next
-- line makes a marker of it.
theorem split_of_split_fails :
    (split "a;\\\n\nb").statements = ["a;\nb"] ∧ split "a;\nb" = ⟨[], ["a", "b"]⟩ ∧
      (split "a;\\\n\\\nb").statements = ["a;\\\nb"] ∧ split "a;\\\nb" = ⟨[], ["a;b"]⟩ := by
  decide +kernel

end QueryConsole.Script
