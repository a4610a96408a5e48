import QueryConsole.Proofs.Script.Cut
import QueryConsole.Proofs.Text.Blank
import QueryConsole.Script.Split

namespace QueryConsole.Script

open Text (Tidy isBlank isAllBlank)

variable {isCut : List Char → Bool} {c : Char} {as bs cs raw before after unit : List Char}

theorem startsWithBreak_iff :
    startsWithBreak cs = true ↔ ∃ more, cs = '\n' :: more ∨ cs = '\r' :: '\n' :: more := by
  constructor
  · intro h
    unfold startsWithBreak at h
    split at h
    case h_1 more => exact ⟨more, .inl rfl⟩
    case h_2 more => exact ⟨more, .inr rfl⟩
    case h_3 => exact nomatch h
  · rintro ⟨more, rfl | rfl⟩ <;> rfl

theorem mem_of_startsWithBreak (h : startsWithBreak cs = true) : '\n' ∈ cs := by
  obtain ⟨more, rfl | rfl⟩ := startsWithBreak_iff.1 h <;> simp

-- Where a text that is added to another makes up a line break with it.
theorem startsWithBreak_append (h : startsWithBreak (as ++ bs) = true) :
    startsWithBreak as = true ∨ as = [] ∧ startsWithBreak bs = true ∨
      as = ['\r'] ∧ bs.head? = some '\n' := by
  have ⟨rest, hbreak⟩ := startsWithBreak_iff.1 h
  rcases hbreak with hlf | hcrlf
  case inl =>
    obtain ⟨rfl, -⟩ | ⟨as, rfl, -⟩ := List.append_eq_cons_iff.1 hlf
    · exact .inr (.inl ⟨rfl, h⟩)
    · exact .inl rfl
  case inr =>
    obtain ⟨rfl, -⟩ | ⟨as, rfl, hrest⟩ := List.append_eq_cons_iff.1 hcrlf
    · exact .inr (.inl ⟨rfl, h⟩)
    · obtain ⟨rfl, hb⟩ | ⟨as, rfl, -⟩ := List.append_eq_cons_iff.1 hrest.symm
      · exact .inr (.inr ⟨rfl, hb ▸ rfl⟩)
      · exact .inl rfl

theorem startsWithBreak_append_of_notMem (hb : '\n' ∉ bs)
    (h : startsWithBreak (as ++ bs) = true) : startsWithBreak as = true := by
  rcases startsWithBreak_append h with h | ⟨-, h⟩ | ⟨-, h⟩
  · exact h
  · exact absurd (mem_of_startsWithBreak h) hb
  · exact absurd (List.mem_of_mem_head? h) hb

theorem localTest_startsWithBreak : LocalTest startsWithBreak where
  append cs more h := by
    obtain ⟨rest, rfl | rfl⟩ := startsWithBreak_iff.1 h <;> rfl
  semicolon cs more h := by
    rcases startsWithBreak_append h with h | ⟨-, h⟩ | ⟨-, h⟩
    · exact h
    · exact nomatch h
    · exact nomatch h

theorem isQuote_iff : isQuote c = true ↔ c = '\'' ∨ c = '"' := by
  simp [isQuote]

theorem endsOpenQuote_eq_false : endsOpenQuote cs = false ↔ Quoting.outside.run cs = .outside :=
  Quoting.isOpen_eq_false

namespace Quoting

def quote? : Quoting → Option Char
  | outside => none
  | inside q | escaped q => some q

theorem isQuote_of_run (st : Quoting) (h : ∀ q, st.quote? = some q → isQuote q = true)
    (cs : List Char) : ∀ q, (st.run cs).quote? = some q → isQuote q = true := by
  induction cs generalizing st with
  | nil => exact h
  | cons c cs ih =>
    refine ih (st.next c) fun q hq => ?_
    cases st with
    | outside =>
      by_cases hc : isQuote c = true
      case pos =>
        rw [next, if_pos hc] at hq
        exact Option.some.inj hq ▸ hc
      case neg =>
        rw [next, if_neg hc] at hq
        exact absurd hq.symm (Option.some_ne_none q)
    | inside q' =>
      simp only [next] at hq
      split at hq
      · exact h q hq
      · split at hq
        · exact absurd hq.symm (Option.some_ne_none q)
        · exact h q hq
    | escaped q' => exact h q hq

end Quoting

-- A semicolon neither opens a quote nor closes one.
theorem endsOpenQuote_concat_semicolon (cs : List Char) :
    endsOpenQuote (cs ++ [';']) = endsOpenQuote cs := by
  have hq := Quoting.isQuote_of_run .outside nofun cs
  rw [endsOpenQuote, endsOpenQuote, Quoting.run_append]
  cases hst : Quoting.outside.run cs with
  | outside => rfl
  | escaped q => rfl
  | inside q =>
    have hquote : isQuote q = true := hq q (hst ▸ rfl)
    have hne : ';' ≠ q := fun h => absurd (h ▸ hquote) (by decide)
    have hnext : (Quoting.inside q).run [';'] = .inside q := if_neg hne
    rw [hnext]

-- A text that was cut at its terminators and nowhere else.
structure CutAtTerminators (raw : List Char) (pieces : List (List Char)) : Prop where
  join : joinPieces pieces = raw
  -- Each piece but the last ends outside quotes, and a line break comes after its semicolon.
  closed : ∀ left piece right, pieces = left ++ piece :: right → right ≠ [] →
    endsOpenQuote piece = false ∧ startsWithBreak (joinPieces right) = true
  whole : ∀ piece ∈ pieces, Whole startsWithBreak .outside piece
  cuts : ∀ before after, CutAt startsWithBreak .outside raw before after ↔
    ∃ left right, left ≠ [] ∧ right ≠ [] ∧ pieces = left ++ right ∧
      before = joinPieces left ∧ after = joinPieces right

theorem cutAtTerminators_segments (raw : List Char) : CutAtTerminators raw (segments raw) where
  join := join_cutFrom .outside raw
  closed left piece right h hr := by
    have hne : left ++ [piece] ≠ [] := by simp
    have hend : CutAt startsWithBreak .outside raw (joinPieces (left ++ [piece]))
        (joinPieces right) := by
      refine cutAt_of_cutFrom ?_ hne hr
      rw [List.append_assoc]
      exact h
    refine ⟨endsOpenQuote_eq_false.2 ?_, hend.passes⟩
    by_cases hl : left = []
    case pos =>
      subst hl
      exact hend.unquoted
    case neg =>
      -- The piece begins after a cut, so it is quoted as if it stood alone.
      have hstart := cutAt_of_cutFrom h hl (List.cons_ne_nil piece right)
      have hrun := hend.unquoted
      rw [joinPieces_append hl (List.cons_ne_nil piece []), Quoting.run_append, hstart.unquoted]
        at hrun
      exact hrun
  whole piece hm := by
    have ⟨first, rest, h⟩ := exists_cutFrom_eq startsWithBreak .outside raw
    have ⟨hfirst, hrest⟩ := whole_of_cutFrom localTest_startsWithBreak h
    rw [segments, cutWhere, h] at hm
    rcases List.mem_cons.1 hm with rfl | hm
    · exact hfirst
    · exact hrest piece hm
  cuts _ _ := cutAt_iff localTest_startsWithBreak

theorem segments_of_whole (h : Whole startsWithBreak .outside cs) : segments cs = [cs] :=
  cutFrom_of_whole h

-- A terminator does not arise where a text without a line feed is added,
theorem whole_append_of_notMem (h : Whole startsWithBreak .outside as) (hb : '\n' ∉ bs) :
    Whole startsWithBreak .outside (as ++ bs) := by
  rintro before after ⟨heq, hst, ha⟩
  have hnew (hsub : ∀ c ∈ after, c ∈ bs) : False := hb (hsub _ (mem_of_startsWithBreak ha))
  rcases List.append_eq_append_iff.1 heq with ⟨mid, rfl, rfl⟩ | ⟨mid, rfl, hmid⟩
  case inl => exact (hnew fun c hc => by simp [hc]).elim
  case inr =>
    cases mid with
    | nil =>
      have hmid : ';' :: after = bs := hmid
      exact (hnew fun c hc => hmid ▸ List.mem_cons_of_mem _ hc).elim
    | cons d mid =>
      obtain ⟨rfl, rfl⟩ := List.cons.inj hmid
      exact h before mid ⟨rfl, hst, startsWithBreak_append_of_notMem hb ha⟩

-- and at a line feed only from a semicolon at the end of the line.
theorem whole_concat_lineFeed (h : Whole startsWithBreak .outside cs)
    (hend : ∀ before rest, cs = before ++ ';' :: rest → rest = [] ∨ rest = ['\r'] →
      endsOpenQuote before = true) : Whole startsWithBreak .outside (cs ++ ['\n']) := by
  rintro before after ⟨heq, hst, ha⟩
  rcases List.append_eq_append_iff.1 heq with ⟨mid, rfl, hmid⟩ | ⟨mid, rfl, hmid⟩
  case inl =>
    have hm : ';' ∈ ['\n'] := by simp [hmid]
    exact nomatch hm
  case inr =>
    cases mid with
    | nil => exact nomatch hmid
    | cons d mid =>
      obtain ⟨rfl, rfl⟩ := List.cons.inj hmid
      have hopen := hend before mid rfl
      have hclosed : endsOpenQuote before = false := endsOpenQuote_eq_false.2 hst
      rcases startsWithBreak_append ha with hmid | ⟨rfl, -⟩ | ⟨rfl, -⟩
      · exact h before mid ⟨rfl, hst, hmid⟩
      · exact nomatch hclosed.symm.trans (hopen (.inl rfl))
      · exact nomatch hclosed.symm.trans (hopen (.inr rfl))

theorem segments_append (ha : endsOpenQuote as = false) (hb : startsWithBreak bs = true) :
    segments (as ++ ';' :: bs) = segments as ++ segments bs :=
  cutFrom_append localTest_startsWithBreak (endsOpenQuote_eq_false.1 ha) hb

theorem ne_semicolon_of_blank (h : isBlank c = true) : c ≠ ';' :=
  fun hc => nomatch hc ▸ h

theorem isQuote_of_blank (h : isBlank c = true) : isQuote c = false := by
  have h1 : c ≠ '\'' := fun hc => nomatch hc ▸ h
  have h2 : c ≠ '"' := fun hc => nomatch hc ▸ h
  simp [isQuote, h1, h2]

-- Blanks neither open a quote nor close one.
theorem run_trimStart (cs : List Char) :
    Quoting.outside.run (Text.trimStart cs) = Quoting.outside.run cs := by
  induction cs with
  | nil => rfl
  | cons c cs ih =>
    rw [Text.trimStart_cons]
    split
    case isTrue h =>
      rw [ih, Quoting.run_cons, Quoting.next_outside_of_not_quote (isQuote_of_blank h)]
    case isFalse => rfl

theorem run_of_isAllBlank (h : isAllBlank cs = true) : Quoting.outside.run cs = .outside := by
  rw [← run_trimStart, Text.trimStart_eq_nil.2 h, Quoting.run_nil]

theorem cutWhere_cons (hc : c ≠ ';') (hq : isQuote c = false) (cs : List Char) :
    cutWhere isCut (c :: cs) = consHead c (cutWhere isCut cs) := by
  have h : ¬(Quoting.outside = .outside ∧ c = ';' ∧ isCut cs = true) := fun h => hc h.2.1
  rw [cutWhere, cutFrom_cons_of_not h, Quoting.next_outside_of_not_quote hq]
  rfl

theorem segments_cons (hc : c ≠ ';') (hq : isQuote c = false) (cs : List Char) :
    segments (c :: cs) = consHead c (segments cs) :=
  cutWhere_cons hc hq cs

theorem head?_joinContinuationsFrom (st : Quoting) (cs : List Char) :
    (joinContinuationsFrom st cs).head? = cs.head? := by
  unfold joinContinuationsFrom
  split <;> rfl

theorem exists_joinContinuationsFrom_cons (st : Quoting) (c : Char) (cs : List Char) :
    ∃ more, joinContinuationsFrom st (c :: cs) = c :: more :=
  List.head?_eq_some_iff.1 (head?_joinContinuationsFrom st (c :: cs))

-- A continuation ends with a line break, so it cannot take the last character of other texts.
theorem getLast?_joinContinuationsFrom (st : Quoting) (h : cs.getLast? ≠ some '\n') :
    (joinContinuationsFrom st cs).getLast? = cs.getLast? := by
  fun_induction joinContinuationsFrom st cs with
  | case1 => rfl
  | case2 rest ih | case3 rest ih =>
    cases hl : rest.getLast? with
    | none => simp [List.getLast?_cons, hl] at h
    | some d =>
      have hne : rest.getLast? ≠ some '\n' := by simpa [List.getLast?_cons, hl] using h
      simp [List.getLast?_cons, ih hne, hl]
  | case4 st c rest _ _ ih =>
    have hne : rest.getLast? ≠ some '\n' := by
      intro hl
      simp [List.getLast?_cons, hl] at h
    simp [List.getLast?_cons, ih hne]

theorem isDirective_iff : isDirective cs = true ↔ cs.head? = some ':' := by
  unfold isDirective
  split
  case h_1 => simp
  case h_2 h =>
    refine ⟨nofun, fun hc => ?_⟩
    have ⟨rest, hcs⟩ := List.head?_eq_some_iff.1 hc
    exact absurd hcs (h rest)

-- Joining the lines of a unit changes nothing at its ends.
theorem tidy_joinContinuations (h : Tidy unit) : Tidy (joinContinuations unit) := by
  have hfirst : (joinContinuations unit).head? = unit.head? := head?_joinContinuationsFrom ..
  have hlast : (joinContinuations unit).getLast? = unit.getLast? :=
    getLast?_joinContinuationsFrom .outside fun hl => nomatch h.last _ hl
  constructor
  case ne_nil =>
    rw [← List.isSome_head?, hfirst, List.isSome_head?]
    exact h.ne_nil
  case first => exact hfirst ▸ h.first
  case last => exact hlast ▸ h.last

theorem isDirective_joinContinuations (unit : List Char) :
    isDirective (joinContinuations unit) = isDirective unit := by
  rw [Bool.eq_iff_iff, isDirective_iff, isDirective_iff, joinContinuations,
    head?_joinContinuationsFrom]

-- The pieces that hold something, without the blanks around them.
def held (pieces : List (List Char)) : List (List Char) :=
  (pieces.map Text.trim).filter (!·.isEmpty)

theorem held_append (left right : List (List Char)) :
    held (left ++ right) = held left ++ held right := by
  simp [held]

theorem held_cons {piece : List Char} (h : Text.trim piece ≠ []) (right : List (List Char)) :
    held (piece :: right) = Text.trim piece :: held right := by
  simp [held, h]

-- A blank in front of a text goes with the first piece, and is trimmed off there.
theorem held_cutWhere_of_blank (h : isBlank c = true) (cs : List Char) :
    held (cutWhere isCut (c :: cs)) = held (cutWhere isCut cs) := by
  obtain ⟨piece, pieces, hp⟩ : ∃ piece pieces, cutWhere isCut cs = piece :: pieces :=
    exists_cutFrom_eq isCut .outside cs
  rw [cutWhere_cons (ne_semicolon_of_blank h) (isQuote_of_blank h), hp, consHead, held, held,
    List.map_cons, List.map_cons, Text.trim_of_blank h]

theorem units_eq (raw : List Char) : units raw = held (segments raw) :=
  rfl

theorem tidy_of_mem_units (h : unit ∈ units raw) : Tidy unit := by
  have ⟨hm, hne⟩ := List.mem_filter.1 h
  have ⟨segment, _, ht⟩ := List.mem_map.1 hm
  subst ht
  exact Text.tidy_trim (by simpa using hne)

theorem units_append (ha : endsOpenQuote as = false) (hb : startsWithBreak bs = true) :
    units (as ++ ';' :: bs) = units as ++ units bs := by
  rw [units_eq, segments_append ha hb, held_append, units_eq, units_eq]

theorem units_of_blank (h : isBlank c = true) (cs : List Char) : units (c :: cs) = units cs :=
  held_cutWhere_of_blank h cs

theorem units_of_whole (h : Whole startsWithBreak .outside cs) (hb : isAllBlank cs = false) :
    units cs = [Text.trim cs] := by
  have hne : Text.trim cs ≠ [] := fun hn => by simp [Text.trim_eq_nil_iff.1 hn] at hb
  simp [units, segments_of_whole h, hne]

theorem units_of_tidy (h : Tidy cs) (hw : Whole startsWithBreak .outside cs) :
    units cs = [cs] := by
  have hb : isAllBlank cs = false := by
    rw [Bool.eq_false_iff, ne_eq, ← Text.trim_eq_nil_iff, Text.trim_of_tidy h]
    exact h.ne_nil
  rw [units_of_whole hw hb, Text.trim_of_tidy h]

theorem splitChars_directives (raw : List Char) :
    (splitChars raw).directives = ((units raw).filter isDirective).map .ofList :=
  rfl

-- No statement is lost when its lines are joined.
theorem splitChars_statements (raw : List Char) :
    (splitChars raw).statements =
      ((units raw).filter (!isDirective ·)).map fun unit => .ofList (joinContinuations unit) := by
  have hne : ∀ statement ∈ ((units raw).filter (!isDirective ·)).map joinContinuations,
      (!statement.isEmpty) = true := by
    intro statement hm
    have ⟨unit, hm, hj⟩ := List.mem_map.1 hm
    have htidy := tidy_joinContinuations (tidy_of_mem_units (List.mem_filter.1 hm).1)
    simpa [← hj] using htidy.ne_nil
  rw [splitChars, List.filter_eq_self.2 hne, List.map_map]
  rfl

-- What is sent of some units.
def sent (units : List (List Char)) : Split where
  directives := (units.filter isDirective).map .ofList
  statements := (units.filter (!isDirective ·)).map fun unit => .ofList (joinContinuations unit)

theorem splitChars_eq (raw : List Char) : splitChars raw = sent (units raw) := by
  rw [sent, ← splitChars_statements, ← splitChars_directives]

section

variable {before after : List (List Char)}

theorem sent_of_directive (h : isDirective unit = true) :
    sent (before ++ unit :: after) =
      ⟨(sent before).directives ++ .ofList unit :: (sent after).directives,
        (sent before).statements ++ (sent after).statements⟩ := by
  simp [sent, h]

theorem sent_of_statement (h : isDirective unit = false) :
    sent (before ++ unit :: after) =
      ⟨(sent before).directives ++ (sent after).directives,
        (sent before).statements ++ .ofList (joinContinuations unit) ::
          (sent after).statements⟩ := by
  simp [sent, h]

end

theorem splitChars_of_whole (h : Tidy cs) (hd : isDirective cs = false)
    (hw : Whole startsWithBreak .outside cs) :
    splitChars cs = ⟨[], [.ofList (joinContinuations cs)]⟩ := by
  rw [splitChars_eq, units_of_tidy h hw]
  exact @sent_of_statement cs [] [] hd

theorem length_units (raw : List Char) :
    (splitChars raw).directives.length + (splitChars raw).statements.length =
      (units raw).length := by
  have hcount := List.length_eq_countP_add_countP isDirective (l := units raw)
  simp [splitChars_directives, splitChars_statements, ← List.countP_eq_length_filter, hcount]

theorem splitChars_append (ha : endsOpenQuote as = false) (hb : startsWithBreak bs = true) :
    (splitChars (as ++ ';' :: bs)).directives =
        (splitChars as).directives ++ (splitChars bs).directives ∧
      (splitChars (as ++ ';' :: bs)).statements =
        (splitChars as).statements ++ (splitChars bs).statements := by
  constructor
  · simp [splitChars_directives, units_append ha hb]
  · simp [splitChars_statements, units_append ha hb]

theorem splitChars_of_blank (h : isBlank c = true) (cs : List Char) :
    splitChars (c :: cs) = splitChars cs := by
  rw [splitChars, splitChars, units_of_blank h]

-- A script falls apart exactly at its terminators. What holds something between them is sent, in
-- order, with the blanks around it taken off: as it stands if it starts with a colon, else with its
-- lines joined.
theorem split_at_terminators (raw : String) :
    CutAtTerminators raw.toList (segments raw.toList) ∧
      (split raw).directives =
        (((segments raw.toList).map Text.trim).filter isDirective).map .ofList ∧
      (split raw).statements =
        ((((segments raw.toList).map Text.trim).filter fun unit =>
          !unit.isEmpty && !isDirective unit).map joinContinuations).map .ofList ∧
      (∀ text ∈ (split raw).directives ++ (split raw).statements, Tidy text.toList) ∧
      ∀ statement ∈ (split raw).statements, isDirective statement.toList = false := by
  have hd : (split raw).directives = _ := splitChars_directives raw.toList
  have hs : (split raw).statements = _ := splitChars_statements raw.toList
  refine ⟨cutAtTerminators_segments _, ?directives, ?statements, ?tidy, ?colon⟩
  case directives =>
    have hcolon : ∀ unit : List Char, (isDirective unit && !unit.isEmpty) = isDirective unit := by
      intro unit
      cases unit <;> simp [isDirective]
    simp only [hd, units, List.filter_filter, hcolon]
  case statements =>
    simp only [hs, units, List.filter_filter, List.map_map, Function.comp_def, Bool.and_comm]
  case tidy =>
    intro text hm
    rcases List.mem_append.1 hm with hm | hm
    · rw [hd] at hm
      obtain ⟨unit, hunit, rfl⟩ := List.mem_map.1 hm
      rw [String.toList_ofList]
      exact tidy_of_mem_units (List.mem_filter.1 hunit).1
    · rw [hs] at hm
      obtain ⟨unit, hunit, rfl⟩ := List.mem_map.1 hm
      rw [String.toList_ofList]
      exact tidy_joinContinuations (tidy_of_mem_units (List.mem_filter.1 hunit).1)
  case colon =>
    intro statement hm
    rw [hs] at hm
    obtain ⟨unit, hunit, rfl⟩ := List.mem_map.1 hm
    have hcolon := (List.mem_filter.1 hunit).2
    rw [String.toList_ofList, isDirective_joinContinuations]
    simpa using hcolon

-- A script whose quotes are closed can be split without regard to what comes behind its terminator.
theorem split_append_terminated (a b lineBreak : String) (ha : endsOpenQuote a.toList = false)
    (hbreak : lineBreak = "\n" ∨ lineBreak = "\r\n") :
    (split (a ++ ";" ++ lineBreak ++ b)).directives =
        (split a).directives ++ (split b).directives ∧
      (split (a ++ ";" ++ lineBreak ++ b)).statements =
        (split a).statements ++ (split b).statements := by
  have htext : (a ++ ";" ++ lineBreak ++ b).toList =
      a.toList ++ ';' :: (lineBreak.toList ++ b.toList) := by
    simp [String.toList_append]
  have hb : startsWithBreak (lineBreak.toList ++ b.toList) = true := by
    rcases hbreak with rfl | rfl <;> rfl
  have hblank : splitChars (lineBreak.toList ++ b.toList) = split b := by
    rcases hbreak with rfl | rfl
    · exact splitChars_of_blank (c := '\n') rfl b.toList
    · exact (splitChars_of_blank (c := '\r') rfl _).trans (splitChars_of_blank (c := '\n') rfl _)
  rw [split, htext, ← hblank]
  exact splitChars_append ha hb

-- A backslash in front of a terminator does not make it a continuation, nor does a semicolon in a
-- closed quote count.
theorem split_append_after_backslash :
    endsOpenQuote "YIELD ';\n';\\".toList = false ∧
      (split ("YIELD ';\n';\\" ++ ";" ++ "\r\n" ++ ":params")).directives = [":params"] ∧
      (split ("YIELD ';\n';\\" ++ ";" ++ "\r\n" ++ ":params")).statements =
        ["YIELD ';\n';\\"] := by
  have hclosed : endsOpenQuote "YIELD ';\n';\\".toList = false := rfl
  exact ⟨hclosed, split_append_terminated _ ":params" "\r\n" hclosed (.inr rfl)⟩

end QueryConsole.Script
