import QueryConsole.Proofs.Script.Split

namespace QueryConsole.Script

-- A text on one line, with its quotes closed.
structure Sealed (cs : List Char) : Prop where
  closed : Quoting.outside.run cs = .outside
  notMem : '\n' ∉ cs

variable {as bs cs : List Char}

theorem Sealed.append (ha : Sealed as) (hb : Sealed bs) : Sealed (as ++ bs) where
  closed := by simp [Quoting.run_append, ha.closed, hb.closed]
  notMem := by simp [ha.notMem, hb.notMem]

theorem sealed_of_forall (h : ∀ c ∈ cs, isQuote c = false ∧ c ≠ '\n') : Sealed cs := by
  induction cs with
  | nil => exact ⟨rfl, by simp⟩
  | cons c cs ih =>
    have ⟨hc, hcs⟩ := List.forall_mem_cons.1 h
    have ⟨hclosed, hmem⟩ := ih hcs
    constructor
    case closed => simpa [Quoting.next_outside_of_not_quote hc.1] using hclosed
    case notMem => simpa [hmem] using hc.2.symm

theorem sealed_of_all (h : cs.all fun c => !isQuote c && c ≠ '\n') : Sealed cs := by
  apply sealed_of_forall
  simpa using h

-- A character that is neither a blank nor a mark of a script.
def Inert (c : Char) : Prop :=
  isQuote c = false ∧ Text.isBlank c = false ∧ c ≠ ';'

instance (c : Char) : Decidable (Inert c) :=
  inferInstanceAs (Decidable (_ ∧ _ ∧ _))

theorem inert_of_isAlphanum {c : Char} (h : c.isAlphanum = true) : Inert c := by
  have h : (decide (65 ≤ c.val ∧ c.val ≤ 90) || (97 ≤ c.val && c.val ≤ 122) ||
    (48 ≤ c.val && c.val ≤ 57)) = true := h
  simp only [Bool.or_eq_true, Bool.and_eq_true, decide_eq_true_eq, UInt32.le_iff_toNat_le] at h
  have h : (65 ≤ c.toNat ∧ c.toNat ≤ 90 ∨ 97 ≤ c.toNat ∧ c.toNat ≤ 122) ∨
    48 ≤ c.toNat ∧ c.toNat ≤ 57 := h
  have ne {d : Char} (hd : d.toNat < 48) : c ≠ d := by grind
  refine ⟨?_, ?_, ?_⟩
  · simp [isQuote, ne (d := '\'') (by decide), ne (d := '"') (by decide)]
  · simp only [Text.isBlank, Bool.or_eq_false_iff, Bool.and_eq_false_iff, decide_eq_false_iff_not,
      beq_eq_false_iff_ne]
    omega
  · rintro rfl
    revert h
    decide

theorem sealed_of_inert (h : ∀ c ∈ cs, Inert c) : Sealed cs := by
  refine sealed_of_forall fun c hc => ⟨(h c hc).1, ?_⟩
  rintro rfl
  exact absurd (h _ hc) (by decide)

theorem Sealed.whole (h : Sealed cs) : Whole startsWithBreak .outside cs :=
  whole_append_of_notMem .nil h.notMem

-- Lines with a terminator between them.
def joinLines (lines : List (List Char)) : List Char :=
  [';', '\n'].intercalate lines

theorem units_joinLines {lines : List (List Char)} (hne : lines ≠ [])
    (h : ∀ line ∈ lines, Sealed line ∧ Text.Tidy line) : units (joinLines lines) = lines := by
  induction lines with
  | nil => exact absurd rfl hne
  | cons line lines ih =>
    have ⟨⟨hsealed, htidy⟩, hlines⟩ := List.forall_mem_cons.1 h
    have hline : units line = [line] := units_of_tidy htidy hsealed.whole
    cases lines with
    | nil => rw [joinLines, List.intercalate_singleton, hline]
    | cons next lines =>
      have hrest := ih (List.cons_ne_nil next lines) hlines
      have hjoin : joinLines (line :: next :: lines) =
          line ++ ';' :: '\n' :: joinLines (next :: lines) := by
        simp [joinLines, List.intercalate_cons_cons]
      have hclosed : endsOpenQuote line = false := endsOpenQuote_eq_false.2 hsealed.closed
      rw [hjoin, units_append hclosed rfl, units_of_blank (by decide), hline, hrest]
      rfl

end QueryConsole.Script
