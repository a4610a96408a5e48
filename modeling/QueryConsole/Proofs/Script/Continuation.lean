import QueryConsole.Proofs.Script.Seam
import QueryConsole.Proofs.Script.Split

namespace QueryConsole.Script

open Text (isBlank isAllBlank)

-- A backslash and a line break come next.
def startsContinuation : List Char → Bool
  | '\\' :: rest => startsWithBreak rest
  | _ => false

def IsBreak (br : List Char) : Prop :=
  br = ['\n'] ∨ br = ['\r', '\n']

-- An unquoted semicolon between `before` and `after`, and behind it a backslash and the line break
-- `br`.
structure MarkerAt (st : Quoting) (cs before br after : List Char) : Prop where
  eq : cs = before ++ ';' :: '\\' :: (br ++ after)
  isBreak : IsBreak br
  unquoted : st.run before = .outside

variable {st : Quoting} {c : Char} {as bs cs br before after rest : List Char}

theorem plain_of_isAllBlank (h : isAllBlank cs = true) : Plain st cs :=
  plain_of_notMem fun hm => ne_semicolon_of_blank (List.all_eq_true.1 h ';' hm) rfl

theorem startsWithBreak_iff_isBreak :
    startsWithBreak cs = true ↔ ∃ br after, IsBreak br ∧ cs = br ++ after := by
  rw [startsWithBreak_iff]
  constructor
  · rintro ⟨more, rfl | rfl⟩
    · exact ⟨_, more, .inl rfl, rfl⟩
    · exact ⟨_, more, .inr rfl, rfl⟩
  · rintro ⟨br, after, rfl | rfl, rfl⟩
    · exact ⟨after, .inl rfl⟩
    · exact ⟨after, .inr rfl⟩

theorem startsContinuation_iff :
    startsContinuation cs = true ↔ ∃ rest, cs = '\\' :: rest ∧ startsWithBreak rest = true := by
  constructor
  · intro h
    unfold startsContinuation at h
    split at h
    case h_1 rest => exact ⟨rest, rfl, h⟩
    case h_2 => exact nomatch h
  · rintro ⟨rest, rfl, h⟩
    exact h

theorem MarkerAt.cutAt (h : MarkerAt st cs before br after) :
    CutAt startsContinuation st cs before ('\\' :: (br ++ after)) where
  eq := h.eq
  unquoted := h.unquoted
  passes := startsWithBreak_iff_isBreak.2 ⟨br, after, h.isBreak, rfl⟩

theorem exists_markerAt (h : CutAt startsContinuation st cs before rest) :
    ∃ br after, rest = '\\' :: (br ++ after) ∧ MarkerAt st cs before br after := by
  obtain ⟨rest, rfl, hbreak⟩ := startsContinuation_iff.1 h.passes
  obtain ⟨br, after, hbr, rfl⟩ := startsWithBreak_iff_isBreak.1 hbreak
  exact ⟨br, after, rfl, h.eq, hbr, h.unquoted⟩

namespace Quoting

theorem run_marker (hbr : IsBreak br) : outside.run (';' :: '\\' :: br) = outside := by
  rcases hbr with rfl | rfl <;> rfl

theorem run_marker_append (hbr : IsBreak br) (after : List Char) :
    outside.run (';' :: '\\' :: (br ++ after)) = outside.run after := by
  have happ := run_append outside (';' :: '\\' :: br) after
  rwa [run_marker hbr] at happ

end Quoting

theorem MarkerAt.append_left (h : MarkerAt (st.run as) cs before br after) :
    MarkerAt st (as ++ cs) (as ++ before) br after where
  eq := by rw [h.eq, List.append_assoc]
  isBreak := h.isBreak
  unquoted := by rw [Quoting.run_append, h.unquoted]

theorem joinContinuationsFrom_marker (hbr : IsBreak br) (after : List Char) :
    joinContinuationsFrom .outside (';' :: '\\' :: (br ++ after)) =
      ';' :: joinContinuationsFrom .outside after := by
  rcases hbr with rfl | rfl <;> rfl

theorem joinContinuationsFrom_cons_of_not
    (h : ¬(st = .outside ∧ c = ';' ∧ startsContinuation cs = true)) :
    joinContinuationsFrom st (c :: cs) = c :: joinContinuationsFrom (st.next c) cs := by
  rw [joinContinuationsFrom]
  · rintro rest rfl rfl rfl
    exact h ⟨rfl, rfl, rfl⟩
  · rintro rest rfl rfl rfl
    exact h ⟨rfl, rfl, rfl⟩

theorem joinContinuationsFrom_cons_of_ne (hc : c ≠ ';') (st : Quoting) (cs : List Char) :
    joinContinuationsFrom st (c :: cs) = c :: joinContinuationsFrom (st.next c) cs :=
  joinContinuationsFrom_cons_of_not fun h => hc h.2.1

-- A text ends, or a marker comes next, or another character.
theorem continuation_induction {motive : Quoting → List Char → Prop}
    (nil : ∀ st, motive st [])
    (marker : ∀ br after, IsBreak br → motive .outside after →
      motive .outside (';' :: '\\' :: (br ++ after)))
    (cons : ∀ st c cs, ¬(st = .outside ∧ c = ';' ∧ startsContinuation cs = true) →
      motive (st.next c) cs → motive st (c :: cs))
    (st : Quoting) (cs : List Char) : motive st cs := by
  fun_induction joinContinuationsFrom st cs with
  | case1 st => exact nil st
  | case2 rest ih => exact marker _ rest (.inl rfl) ih
  | case3 rest ih => exact marker _ rest (.inr rfl) ih
  | case4 st c rest hlf hcrlf ih =>
    refine cons st c rest ?_ ih
    rintro ⟨hst, hc, hcont⟩
    obtain ⟨rest, rfl, hbreak⟩ := startsContinuation_iff.1 hcont
    obtain ⟨more, rfl | rfl⟩ := startsWithBreak_iff.1 hbreak
    · exact hlf more hst hc rfl
    · exact hcrlf more hst hc rfl

theorem run_joinContinuationsFrom (st : Quoting) (cs : List Char) :
    st.run (joinContinuationsFrom st cs) = st.run cs := by
  induction st, cs using continuation_induction with
  | nil => rfl
  | marker br after hbr ih =>
    rw [joinContinuationsFrom_marker hbr, Quoting.run_marker_append hbr]
    exact ih
  | cons st c cs h ih =>
    rw [joinContinuationsFrom_cons_of_not h, Quoting.run_cons, Quoting.run_cons, ih]

theorem endsOpenQuote_joinContinuations (cs : List Char) :
    endsOpenQuote (joinContinuations cs) = endsOpenQuote cs := by
  rw [endsOpenQuote, joinContinuations, run_joinContinuationsFrom, endsOpenQuote]

theorem length_joinContinuationsFrom_le (st : Quoting) (cs : List Char) :
    (joinContinuationsFrom st cs).length ≤ cs.length := by
  induction st, cs using continuation_induction with
  | nil => exact Nat.le_refl 0
  | marker br after hbr ih =>
    rw [joinContinuationsFrom_marker hbr]
    simp only [List.length_cons, List.length_append]
    omega
  | cons st c cs h ih =>
    rw [joinContinuationsFrom_cons_of_not h]
    exact Nat.succ_le_succ ih

theorem joinContinuationsFrom_append (hs : Seam startsContinuation st as bs) :
    joinContinuationsFrom st (as ++ bs) =
      joinContinuationsFrom st as ++ joinContinuationsFrom (st.run as) bs := by
  induction st, as using continuation_induction with
  | nil => rfl
  | marker br after hbr ih =>
    have hdrop : Seam startsContinuation .outside after bs := by
      have hs : Seam startsContinuation .outside ((';' :: '\\' :: br) ++ after) bs := hs
      exact Quoting.run_marker hbr ▸ hs.drop
    have hassoc : (';' :: '\\' :: (br ++ after)) ++ bs = ';' :: '\\' :: (br ++ (after ++ bs)) := by
      simp
    rw [hassoc, joinContinuationsFrom_marker hbr, joinContinuationsFrom_marker hbr, ih hdrop,
      Quoting.run_marker_append hbr]
    rfl
  | cons st c cs h ih =>
    have h' : ¬(st = .outside ∧ c = ';' ∧ startsContinuation (cs ++ bs) = true) := by
      rintro ⟨rfl, rfl, hcont⟩
      exact h ⟨rfl, rfl, hs.eq_of_semicolon ▸ hcont⟩
    rw [List.cons_append, joinContinuationsFrom_cons_of_not h', joinContinuationsFrom_cons_of_not h,
      ih hs.tail]
    rfl

theorem joinContinuationsFrom_of_whole (h : Whole startsContinuation st cs) :
    joinContinuationsFrom st cs = cs := by
  induction st, cs using continuation_induction with
  | nil => rfl
  | marker br after hbr ih =>
    have hmarker : MarkerAt .outside (';' :: '\\' :: (br ++ after)) [] br after := ⟨rfl, hbr, rfl⟩
    exact absurd hmarker.cutAt (h _ _)
  | cons st c cs hc ih =>
    rw [joinContinuationsFrom_cons_of_not hc, ih h.tail]

theorem joinContinuationsFrom_of_isAllBlank (h : isAllBlank cs = true) (st : Quoting) :
    joinContinuationsFrom st cs = cs :=
  joinContinuationsFrom_of_whole (plain_of_isAllBlank h).whole

theorem localTest_startsContinuation : LocalTest startsContinuation where
  append cs more h := by
    obtain ⟨rest, rfl, hbreak⟩ := startsContinuation_iff.1 h
    exact localTest_startsWithBreak.append rest more hbreak
  semicolon cs more h := by
    obtain ⟨rest, heq, hbreak⟩ := startsContinuation_iff.1 h
    cases cs with
    | nil => exact nomatch heq
    | cons c cs =>
      obtain ⟨rfl, rfl⟩ := List.cons.inj heq
      exact localTest_startsWithBreak.semicolon cs more hbreak

-- At a marker the lines on both sides are joined by the semicolon alone.
theorem MarkerAt.joinContinuationsFrom_eq (h : MarkerAt st cs before br after) :
    joinContinuationsFrom st cs =
      joinContinuationsFrom st before ++ ';' :: joinContinuationsFrom .outside after := by
  have hseam := @LocalTest.seam _ st localTest_startsContinuation before ('\\' :: (br ++ after))
  rw [h.eq, joinContinuationsFrom_append hseam, h.unquoted, joinContinuationsFrom_marker h.isBreak]

theorem MarkerAt.length_joinContinuationsFrom_lt (h : MarkerAt st cs before br after) :
    (joinContinuationsFrom st cs).length < cs.length := by
  have hbefore := length_joinContinuationsFrom_le st before
  have hafter := length_joinContinuationsFrom_le .outside after
  rw [h.joinContinuationsFrom_eq, h.eq]
  simp only [List.length_append, List.length_cons]
  omega

theorem joinContinuationsFrom_eq_self_iff :
    joinContinuationsFrom st cs = cs ↔ Whole startsContinuation st cs := by
  refine ⟨fun h before rest hcut => ?_, joinContinuationsFrom_of_whole⟩
  have ⟨br, after, _, hm⟩ := exists_markerAt hcut
  have hlt := hm.length_joinContinuationsFrom_lt
  rw [h] at hlt
  exact Nat.lt_irrefl _ hlt

end QueryConsole.Script
