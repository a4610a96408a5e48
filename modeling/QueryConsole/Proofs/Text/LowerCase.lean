import Mathlib.Data.List.Basic
import QueryConsole.Text.Blank
import QueryConsole.Text.LowerCase
import QueryConsole.Text.Search

-- Few characters beyond ASCII have a lower case within it, so a word that does without those
-- letters was written in ASCII.
namespace QueryConsole.Text

variable {c w : Char} {word before cs : List Char}

-- The sign for kelvin is the only capital beyond ASCII whose small letter is not.
theorem small_of_mem_caseRuns : ∀ run ∈ caseRuns,
    run.last < 128 ∨ 128 ≤ run.small ∨ run.first = run.last ∧ run.small = 'k'.toNat := by
  decide +kernel

theorem toNat_lt_of_smallLetter (h : smallLetter c = w) (hw : w.toNat < 128) (hk : w ≠ 'k')
    (h0 : w.toNat ≠ 0) : c.toNat < 128 := by
  by_contra hc
  rw [smallLetter, if_neg hc] at h
  cases hf : caseRuns.find? (·.contains c.toNat) with
  | none =>
    have h : c = w := by simpa only [hf] using h
    exact hc (h ▸ hw)
  | some run =>
    have h : Char.ofNat (run.small + (c.toNat - run.first)) = w := by simpa only [hf] using h
    have hrange := List.find?_some hf
    simp only [CaseRun.contains, Bool.and_eq_true, decide_eq_true_eq] at hrange
    rcases small_of_mem_caseRuns run (List.mem_of_find?_eq_some hf) with hl | hs | ⟨hfirst, hs⟩
    · omega
    · have hval := congrArg Char.toNat h
      by_cases hn : (run.small + (c.toNat - run.first)).isValidChar
      case pos =>
        rw [Char.ofNat, dif_pos hn] at hval
        have hval : run.small + (c.toNat - run.first) = w.toNat := hval
        omega
      case neg =>
        rw [Char.ofNat, dif_neg hn] at hval
        exact h0 hval.symm
    · have hn : c.toNat - run.first = 0 := by omega
      rw [hs, hn] at h
      exact hk h.symm

theorem utf8Size_of_toNat_lt (h : c.toNat < 128) : c.utf8Size = 1 :=
  Char.utf8Size_eq_one_iff.2 (UInt32.le_iff_toNat_le.2 (Nat.le_of_lt_succ h))

-- The two characters for a dotted capital I do not go on like an ASCII word, unless it ends there.
theorem exists_of_prefix_lowerAfter (hw : ∀ w ∈ word, w.toNat < 128 ∧ w ≠ 'k' ∧ w.toNat ≠ 0)
    (hi : word.getLast? ≠ some 'i') (h : word <+: lowerAfter before cs) :
    ∃ front rest, cs = front ++ rest ∧ front.length = word.length ∧
      ∀ c ∈ front, c.utf8Size = 1 := by
  induction word generalizing before cs with
  | nil => exact ⟨[], cs, rfl, rfl, nofun⟩
  | cons w word ih =>
    have ⟨hascii, hk, h0⟩ := hw w List.mem_cons_self
    cases cs with
    | nil => exact nomatch List.prefix_nil.1 h
    | cons c cs =>
      rw [lowerAfter] at h
      by_cases hs : c = 'Σ'
      case pos =>
        rw [if_pos hs, List.singleton_append, List.cons_prefix_cons] at h
        have hsmall : w = 'ς' ∨ w = 'σ' := by
          have hw' := h.1
          split at hw'
          · exact .inl hw'
          · exact .inr hw'
        rcases hsmall with rfl | rfl <;> exact absurd hascii (by decide)
      case neg =>
        by_cases hd : c = 'İ'
        case pos =>
          rw [if_neg hs, if_pos hd, List.cons_append, List.cons_prefix_cons] at h
          obtain ⟨rfl, hrest⟩ := h
          cases word with
          | nil => exact absurd rfl hi
          | cons w word =>
            have ⟨hdot, _⟩ := List.cons_prefix_cons.1 hrest
            have hw' := (hw w (by simp)).1
            exact absurd (hdot ▸ hw') (by decide)
        case neg =>
          rw [if_neg hs, if_neg hd, List.singleton_append, List.cons_prefix_cons] at h
          have ⟨hc, hrest⟩ := h
          have hlast : word.getLast? ≠ some 'i' := by
            intro hl
            simp [List.getLast?_cons, hl] at hi
          have ⟨front, rest, hcs, hlen, hfront⟩ :=
            ih (fun w hm => hw w (List.mem_cons_of_mem _ hm)) hlast hrest
          have hone := utf8Size_of_toNat_lt (toNat_lt_of_smallLetter hc.symm hascii hk h0)
          exact ⟨c :: front, rest, by rw [hcs]; rfl, by simp [hlen],
            List.forall_mem_cons.2 ⟨hone, hfront⟩⟩

-- So the word can be cut off by its length, whatever the letter case.
theorem dropBytes?_of_prefix_lower (hw : ∀ w ∈ word, w.toNat < 128 ∧ w ≠ 'k' ∧ w.toNat ≠ 0)
    (hi : word.getLast? ≠ some 'i') (h : word <+: lower cs) :
    ∃ rest, dropBytes? word.length cs = some rest := by
  obtain ⟨front, rest, rfl, hlen, hfront⟩ := exists_of_prefix_lowerAfter hw hi h
  exact ⟨rest, hlen ▸ dropBytes?_length_of_ascii hfront rest⟩

-- Only capitals have another small letter.
theorem toLower_eq_self (h : ¬(65 ≤ c.toNat ∧ c.toNat ≤ 90)) : c.toLower = c := by
  refine dif_neg fun hc => h ?_
  simp only [ge_iff_le, UInt32.le_iff_toNat_le] at hc
  exact hc

theorem toLower_of_isBlank (h : isBlank c = true) : c.toLower = c := by
  refine toLower_eq_self fun hc => ?_
  simp [isBlank] at h
  omega

theorem toNat_lt_of_toLower (h : c.toLower.toNat < 128) : c.toNat < 128 := by
  by_cases hc : 65 ≤ c.toNat ∧ c.toNat ≤ 90
  case pos => omega
  case neg => exact toLower_eq_self hc ▸ h

theorem lowerAfter_of_ascii (h : ∀ c ∈ cs, c.toNat < 128) (before : List Char) :
    lowerAfter before cs = cs.map Char.toLower := by
  induction cs generalizing before with
  | nil => rfl
  | cons c cs ih =>
    have ⟨hc, hcs⟩ := List.forall_mem_cons.1 h
    have hs : c ≠ 'Σ' := by
      rintro rfl
      exact absurd hc (by decide)
    have hd : c ≠ 'İ' := by
      rintro rfl
      exact absurd hc (by decide)
    rw [lowerAfter, if_neg hs, if_neg hd, ih hcs, smallLetter_of_ascii hc]
    rfl

-- A word is met by its letters in any case.
theorem lower_of_map_toLower (hw : ∀ w ∈ word, w.toNat < 128)
    (h : cs.map Char.toLower = word) : lower cs = word := by
  have hcs : ∀ c ∈ cs, c.toNat < 128 := fun c hc =>
    toNat_lt_of_toLower (hw _ (h ▸ List.mem_map_of_mem hc))
  rw [lower, lowerAfter_of_ascii hcs, h]

-- A slash has no case, and is the small letter of nothing else.
theorem head?_of_lower (h : (lower cs).head? = some '/') : cs.head? = some '/' := by
  cases cs with
  | nil => exact h
  | cons c cs =>
    rw [lower, lowerAfter] at h
    by_cases hs : c = 'Σ'
    case pos =>
      rw [if_pos hs] at h
      split at h
      all_goals exact absurd (Option.some.inj h) (by decide)
    case neg =>
      by_cases hd : c = 'İ'
      case pos =>
        rw [if_neg hs, if_pos hd] at h
        exact absurd (Option.some.inj h) (by decide)
      case neg =>
        rw [if_neg hs, if_neg hd] at h
        have hsmall : smallLetter c = '/' := Option.some.inj h
        have hascii := toNat_lt_of_smallLetter hsmall (by decide) (by decide) (by decide)
        have hall : ∀ n < 128, (Char.ofNat n).toLower = '/' → Char.ofNat n = '/' := by decide
        have hc := hall c.toNat hascii
        rw [Char.ofNat_toNat, ← smallLetter_of_ascii hascii] at hc
        exact congrArg some (hc hsmall)

end QueryConsole.Text
