import QueryConsole.Proofs.Script.Cut

namespace QueryConsole.Script

-- Behind each unquoted semicolon of `as` the test says the same whether `bs` follows or not.
def Seam (isCut : List Char → Bool) (st : Quoting) (as bs : List Char) : Prop :=
  ∀ before after, as = before ++ ';' :: after → st.run before = .outside →
    isCut (after ++ bs) = isCut after

-- There is no unquoted semicolon.
def Plain (st : Quoting) (cs : List Char) : Prop :=
  Whole (fun _ => true) st cs

variable {isCut : List Char → Bool} {st : Quoting} {c : Char}
  {as bs cs before after u v : List Char} {left right : List (List Char)}

namespace Seam

theorem tail (h : Seam isCut st (c :: as) bs) : Seam isCut (st.next c) as bs := by
  intro before after heq hst
  exact h (c :: before) after (by rw [heq, List.cons_append]) hst

theorem eq_of_semicolon (h : Seam isCut .outside (';' :: as) bs) :
    isCut (as ++ bs) = isCut as :=
  h [] as rfl rfl

-- What comes before a place outside quotes has no say in the seam.
theorem drop (h : Seam isCut st (as ++ cs) bs) : Seam isCut (st.run as) cs bs := by
  intro before after heq hst
  refine h (as ++ before) after ?_ ?_
  · rw [heq, List.append_assoc]
  · rw [Quoting.run_append, hst]

end Seam

theorem LocalTest.seam (ht : LocalTest isCut) (as bs : List Char) :
    Seam isCut st as (';' :: bs) := by
  intro before after _ _
  rw [Bool.eq_iff_iff]
  exact ⟨ht.semicolon after bs, ht.append after _⟩

-- No cut arises at a seam.
theorem Whole.append (hs : Seam isCut st as bs) (ha : Whole isCut st as)
    (hb : Whole isCut (st.run as) bs) : Whole isCut st (as ++ bs) := by
  rintro before after ⟨heq, hst, hcut⟩
  rcases List.append_eq_append_iff.1 heq with ⟨mid, rfl, rfl⟩ | ⟨mid, rfl, hmid⟩
  case inl =>
    rw [Quoting.run_append] at hst
    exact hb mid after ⟨rfl, hst, hcut⟩
  case inr =>
    cases mid with
    | nil =>
      rw [List.append_nil] at hb
      exact hb [] after ⟨hmid.symm, hst, hcut⟩
    | cons d mid =>
      obtain ⟨rfl, rfl⟩ := List.cons.inj hmid
      have hmid : isCut mid = true := hs before mid rfl hst ▸ hcut
      exact ha before mid ⟨rfl, hst, hmid⟩

theorem Whole.tail (h : Whole isCut st (c :: cs)) : Whole isCut (st.next c) cs :=
  fun before after hcut => h (c :: before) after (cutAt_cons_iff.2 ⟨rfl, hcut⟩)

theorem Whole.drop (h : Whole isCut st (as ++ bs)) : Whole isCut (st.run as) bs := by
  rintro before after ⟨rfl, hst, hcut⟩
  refine h (as ++ before) after ⟨?_, ?_, hcut⟩
  · rw [List.append_assoc]
  · rw [Quoting.run_append, hst]

theorem cutFrom_append_of_seam (hs : Seam isCut st as bs) (hl : cutFrom isCut st as = left ++ [u])
    (hr : cutFrom isCut (st.run as) bs = v :: right) :
    cutFrom isCut st (as ++ bs) = left ++ (u ++ v) :: right := by
  induction as generalizing st left u with
  | nil =>
    obtain ⟨rfl, hu⟩ | ⟨left, rfl, hnil⟩ := List.append_eq_cons_iff.1 hl.symm
    · obtain rfl := (List.cons.inj hu).1
      exact hr
    · exact absurd hnil.symm (by simp)
  | cons a as ih =>
    by_cases hc : st = .outside ∧ a = ';' ∧ isCut as = true
    case pos =>
      obtain ⟨rfl, rfl, hcut⟩ := hc
      have hcut' : isCut (as ++ bs) = true := by rw [hs.eq_of_semicolon, hcut]
      rw [cutFrom_semicolon hcut] at hl
      -- The piece in front of the cut is empty, and not the last one.
      obtain ⟨rfl, hu⟩ | ⟨left, rfl, hrest⟩ := List.append_eq_cons_iff.1 hl.symm
      · exact absurd (List.cons.inj hu).2.symm (cutFrom_ne_nil .outside as)
      · have hrest : cutFrom isCut .outside (as ++ bs) = left ++ (u ++ v) :: right :=
          ih hs.tail hrest hr
        rw [List.cons_append, cutFrom_semicolon hcut', hrest]
        rfl
    case neg =>
      have hc' : ¬(st = .outside ∧ a = ';' ∧ isCut (as ++ bs) = true) := by
        rintro ⟨rfl, rfl, hcut⟩
        exact hc ⟨rfl, rfl, hs.eq_of_semicolon ▸ hcut⟩
      have ⟨piece, pieces, hp⟩ := exists_cutFrom_eq isCut (st.next a) as
      rw [cutFrom_cons_of_not hc, hp] at hl
      rw [List.cons_append, cutFrom_cons_of_not hc']
      obtain ⟨rfl, hu⟩ | ⟨left, rfl, hrest⟩ := List.append_eq_cons_iff.1 hl.symm
      · obtain ⟨rfl, rfl⟩ := List.cons.inj hu
        have hone : cutFrom isCut (st.next a) (as ++ bs) = [] ++ (piece ++ v) :: right :=
          ih hs.tail hp hr
        rw [hone]
        rfl
      · rw [hrest] at hp
        have hmore : cutFrom isCut (st.next a) (as ++ bs) = (piece :: left) ++ (u ++ v) :: right :=
          ih hs.tail hp hr
        rw [hmore]
        rfl

-- The last piece ends in the state in which the whole text ends.
theorem run_last_cutFrom (h : cutFrom isCut .outside cs = left ++ [u]) :
    Quoting.outside.run u = Quoting.outside.run cs := by
  by_cases hl : left = []
  case pos =>
    subst hl
    have hjoin := @join_cutFrom isCut .outside cs
    rw [h] at hjoin
    exact congrArg Quoting.outside.run hjoin
  case neg =>
    have hcut := cutAt_of_cutFrom h hl (List.cons_ne_nil u [])
    rw [hcut.eq, Quoting.run_append, hcut.unquoted]
    rfl

theorem plain_of_notMem (h : ';' ∉ cs) : Plain st cs :=
  fun _ _ hcut => h (by simp [hcut.eq])

-- Nothing in a quoted run counts.
theorem plain_of_isOpen (h : ∀ before, before <+: cs → (st.run before).isOpen = true) :
    Plain st cs := by
  rintro before after ⟨rfl, hst, -⟩
  have hopen := h before (List.prefix_append ..)
  rw [hst] at hopen
  exact nomatch hopen

theorem localTest_true : LocalTest fun _ => true :=
  ⟨fun _ _ _ => rfl, fun _ _ _ => rfl⟩

theorem plain_iff : Plain st cs ↔ cutFrom (fun _ => true) st cs = [cs] :=
  ⟨cutFrom_of_whole, fun h => (whole_of_cutFrom localTest_true h).1⟩

instance : Decidable (Plain st cs) :=
  decidable_of_iff _ plain_iff.symm

namespace Plain

theorem whole (h : Plain st cs) : Whole isCut st cs :=
  fun before after hcut => h before after ⟨hcut.eq, hcut.unquoted, rfl⟩

theorem seam (h : Plain st as) : Seam isCut st as bs :=
  fun before after heq hst => absurd ⟨heq, hst, rfl⟩ (h before after)

theorem append (ha : Plain st as) (hb : Plain (st.run as) bs) : Plain st (as ++ bs) :=
  Whole.append ha.seam ha hb

theorem cutFrom_append (h : Plain st as) (hr : cutFrom isCut (st.run as) bs = v :: right) :
    cutFrom isCut st (as ++ bs) = (as ++ v) :: right := by
  have halone : cutFrom isCut st as = [] ++ [as] := cutFrom_of_whole h.whole
  exact cutFrom_append_of_seam h.seam halone hr

end Plain

end QueryConsole.Script
