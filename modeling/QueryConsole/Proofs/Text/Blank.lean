import Mathlib.Data.List.DropRight
import QueryConsole.Text.Blank

namespace QueryConsole.Text

variable {c : Char} {as bs cs : List Char}

-- A text that holds something and neither starts nor ends with a blank.
structure Tidy (cs : List Char) : Prop where
  ne_nil : cs ≠ []
  first : ∀ c, cs.head? = some c → isBlank c = false
  last : ∀ c, cs.getLast? = some c → isBlank c = false

theorem trimStart_of_blank (h : isBlank c = true) (cs : List Char) :
    trimStart (c :: cs) = trimStart cs := by
  rw [trimStart_cons, if_pos h]

theorem trim_of_blank (h : isBlank c = true) (cs : List Char) : trim (c :: cs) = trim cs := by
  rw [trim, trim, trimStart_of_blank h]

theorem trim_eq_nil_iff : trim cs = [] ↔ isAllBlank cs = true := by
  constructor
  · intro h
    have hblank : ∀ c ∈ trimStart cs, isBlank c = true := List.rdropWhile_eq_nil_iff.1 h
    -- The first character that is not dropped is not blank.
    refine trimStart_eq_nil.1 (by_contra fun hne => ?_)
    have hfirst := hblank _ (List.head_mem hne)
    exact absurd hfirst (Bool.eq_false_iff.1 (List.head_dropWhile_not isBlank hne))
  · intro h
    rw [trim, trimStart_eq_nil.2 h, trimEnd_nil]

theorem isAllBlank_append (as bs : List Char) :
    isAllBlank (as ++ bs) = (isAllBlank as && isAllBlank bs) :=
  List.all_append

theorem trimEnd_append_of_blank (as : List Char) (h : isAllBlank bs = true) :
    trimEnd (as ++ bs) = trimEnd as := by
  have hblank : ∀ c ∈ bs.reverse, isBlank c = true := by simpa [isAllBlank] using h
  rw [trimEnd, trimStart, List.reverse_append, List.dropWhile_append_of_pos hblank]
  rfl

theorem trimEnd_of_isAllBlank (h : isAllBlank cs = true) : trimEnd cs = [] :=
  trimEnd_append_of_blank [] h

theorem trimEnd_concat (as : List Char) (h : isBlank c = false) :
    trimEnd (as ++ [c]) = as ++ [c] :=
  List.rdropWhile_concat_neg isBlank as c (Bool.eq_false_iff.1 h)

theorem isBlank_of_trimEnd_eq (h : trimEnd cs = cs) (hc : cs.getLast? = some c) :
    isBlank c = false := by
  have hne : cs ≠ [] := fun hn => by simp [hn] at hc
  rw [List.getLast?_eq_some_getLast hne] at hc
  have hlast := List.rdropWhile_eq_self_iff.1 h hne
  exact Option.some.inj hc ▸ Bool.eq_false_iff.2 hlast

theorem isBlank_of_getLast?_trimEnd (h : (trimEnd cs).getLast? = some c) : isBlank c = false :=
  isBlank_of_trimEnd_eq (trimEnd_trimEnd cs) h

theorem notMem_trimEnd (h : c ∉ cs) : c ∉ trimEnd cs :=
  fun hc => h ((List.rdropWhile_prefix isBlank cs).subset hc)

theorem trim_trimStart (cs : List Char) : trim (trimStart cs) = trim cs := by
  rw [trim, trimStart_trimStart, trim]

-- What is trimmed off at the end is blank.
theorem exists_trim_append (cs : List Char) :
    ∃ after, isAllBlank after = true ∧ trim cs ++ after = trimStart cs :=
  ⟨(trimStart cs).rtakeWhile isBlank, List.all_eq_true.2 fun _ => List.mem_rtakeWhile_imp,
    List.rdropWhile_append_rtakeWhile⟩

theorem tidy_trim (h : trim cs ≠ []) : Tidy (trim cs) where
  ne_nil := h
  first c hc := by
    have ⟨after, _, hafter⟩ := exists_trim_append cs
    have hne : trimStart cs ≠ [] := fun hnil => h (by rw [trim, hnil, trimEnd_nil])
    have hhead : (trimStart cs).head? = some c := by
      rw [← hafter, List.head?_append, hc, Option.some_or]
    rw [List.head?_eq_some_head hne] at hhead
    exact Option.some.inj hhead ▸ List.head_dropWhile_not isBlank hne
  last c hc := by
    rw [List.getLast?_eq_some_getLast h] at hc
    have hlast := List.rdropWhile_last_not isBlank (trimStart cs) h
    exact Option.some.inj hc ▸ Bool.eq_false_iff.2 hlast

theorem trimStart_append_cons (as : List Char) (h : isBlank c = false) (bs : List Char) :
    trimStart (as ++ c :: bs) = trimStart as ++ c :: bs := by
  induction as with
  | nil => simp [trimStart_cons, h]
  | cons a as ih =>
    rw [List.cons_append, trimStart_cons, trimStart_cons, ih]
    split <;> rfl

theorem trimEnd_append_cons (as : List Char) (h : isBlank c = false) (bs : List Char) :
    trimEnd (as ++ c :: bs) = as ++ c :: trimEnd bs := by
  have hrev : (as ++ c :: bs).reverse = bs.reverse ++ c :: as.reverse := by simp
  rw [trimEnd, hrev, trimStart_append_cons _ h, List.reverse_append, List.reverse_cons,
    List.reverse_reverse, List.append_assoc]
  rfl

theorem trim_append_cons (as : List Char) (h : isBlank c = false) (bs : List Char) :
    trim (as ++ c :: bs) = trimStart as ++ c :: trimEnd bs := by
  rw [trim, trimStart_append_cons as h, trimEnd_append_cons _ h]

theorem trim_append_of_blank (as : List Char) (h : isAllBlank bs = true) :
    trim (as ++ bs) = trim as := by
  by_cases ha : isAllBlank as = true
  case pos =>
    have hall : isAllBlank (as ++ bs) = true := by rw [isAllBlank_append, ha, h]; rfl
    rw [trim_eq_nil_iff.2 ha, trim_eq_nil_iff.2 hall]
  case neg =>
    have hne : trimStart as ≠ [] := fun hn => ha (trimStart_eq_nil.1 hn)
    have hempty : ¬(as.dropWhile isBlank).isEmpty = true := fun hn => hne (List.isEmpty_iff.1 hn)
    have hstart : trimStart (as ++ bs) = trimStart as ++ bs := by
      rw [trimStart, List.dropWhile_append, if_neg hempty, trimStart]
    rw [trim, hstart, trimEnd_append_of_blank _ h, trim]

theorem trim_append_of_blank_left (h : isAllBlank as = true) (bs : List Char) :
    trim (as ++ bs) = trim bs := by
  rw [trim, trimStart, List.dropWhile_append_of_pos (List.all_eq_true.1 h), trim, trimStart]

theorem trim_of_tidy (h : Tidy cs) : trim cs = cs := by
  have ⟨c, rest, hcs⟩ := List.exists_cons_of_ne_nil h.ne_nil
  have hstart : trimStart cs = cs := by
    rw [hcs, trimStart_cons, h.first c (by rw [hcs]; rfl)]
    rfl
  have hend : trimEnd cs = cs := by
    refine List.rdropWhile_eq_self_iff.2 fun hne => Bool.eq_false_iff.1 ?_
    exact h.last _ (List.getLast?_eq_some_getLast hne)
  rw [trim, hstart, hend]

theorem tidy_iff : Tidy cs ↔ cs ≠ [] ∧ trim cs = cs := by
  constructor
  · exact fun h => ⟨h.ne_nil, trim_of_tidy h⟩
  · rintro ⟨hne, htrim⟩
    have htidy := @tidy_trim cs
    rw [htrim] at htidy
    exact htidy hne

instance : Decidable (Tidy cs) :=
  decidable_of_iff _ tidy_iff.symm

theorem trim_between (ha : isAllBlank as = true) (h : Tidy cs) (hb : isAllBlank bs = true) :
    trim (as ++ (cs ++ bs)) = cs := by
  rw [trim_append_of_blank_left ha, trim_append_of_blank _ hb, trim_of_tidy h]

theorem tidy_of_forall (hne : cs ≠ []) (h : ∀ c ∈ cs, isBlank c = false) : Tidy cs where
  ne_nil := hne
  first c hc := h c (List.mem_of_head? hc)
  last c hc := h c (List.mem_of_getLast? hc)

-- What stands between two tidy texts does not count.
theorem Tidy.append (ha : Tidy as) (hb : Tidy bs) (cs : List Char) : Tidy (as ++ (cs ++ bs)) where
  ne_nil := List.append_ne_nil_of_left_ne_nil ha.ne_nil _
  first c hc := by
    rw [List.head?_append_of_ne_nil _ ha.ne_nil] at hc
    exact ha.first c hc
  last c hc := by
    rw [← List.append_assoc, List.getLast?_append_of_ne_nil _ hb.ne_nil] at hc
    exact hb.last c hc

theorem exists_eq_append_trim (cs : List Char) :
    ∃ before after, isAllBlank before = true ∧ isAllBlank after = true ∧
      cs = before ++ (trim cs ++ after) := by
  have ⟨after, hafter, htrim⟩ := exists_trim_append cs
  refine ⟨cs.takeWhile isBlank, after, List.all_takeWhile, hafter, ?_⟩
  rw [htrim]
  exact List.takeWhile_append_dropWhile.symm

theorem length_trim_le (cs : List Char) : (trim cs).length ≤ cs.length := by
  have ⟨before, after, _, _, hcs⟩ := exists_eq_append_trim cs
  have hlen := congrArg List.length hcs
  simp only [List.length_append] at hlen
  omega

end QueryConsole.Text
