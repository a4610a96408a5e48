import QueryConsole.Script.Cut

namespace QueryConsole.Script

-- A semicolon between `before` and `after` at which a text is cut, if it starts in the state `st`.
structure CutAt (isCut : List Char → Bool) (st : Quoting) (cs before after : List Char) : Prop where
  eq : cs = before ++ ';' :: after
  unquoted : st.run before = .outside
  passes : isCut after = true

-- There is no place to cut.
def Whole (isCut : List Char → Bool) (st : Quoting) (cs : List Char) : Prop :=
  ∀ before after, ¬CutAt isCut st cs before after

-- What a test for cuts says about the text behind a semicolon,
structure LocalTest (isCut : List Char → Bool) : Prop where
  -- it says about every longer text too,
  append : ∀ cs more, isCut cs = true → isCut (cs ++ more) = true
  -- and it does not look past the next semicolon.
  semicolon : ∀ cs more, isCut (cs ++ ';' :: more) = true → isCut cs = true

section

variable {piece : List Char} {left right pieces : List (List Char)}

theorem joinPieces_cons (piece : List Char) (h : pieces ≠ []) :
    joinPieces (piece :: pieces) = piece ++ ';' :: joinPieces pieces := by
  cases pieces with
  | nil => exact absurd rfl h
  | cons => rfl

theorem joinPieces_append (hl : left ≠ []) (hr : right ≠ []) :
    joinPieces (left ++ right) = joinPieces left ++ ';' :: joinPieces right := by
  induction left with
  | nil => exact absurd rfl hl
  | cons piece left ih =>
    by_cases h : left = []
    case pos =>
      subst h
      exact joinPieces_cons piece hr
    case neg =>
      rw [List.cons_append, joinPieces_cons piece (List.append_ne_nil_of_left_ne_nil h right), ih h,
        joinPieces_cons piece h, List.append_assoc, List.cons_append]

theorem prefix_joinPieces (piece : List Char) (pieces : List (List Char)) :
    piece <+: joinPieces (piece :: pieces) := by
  by_cases h : pieces = []
  case pos =>
    subst h
    exact List.prefix_rfl
  case neg =>
    rw [joinPieces_cons piece h]
    exact List.prefix_append ..

theorem consHead_append (c : Char) (h : left ≠ []) (right : List (List Char)) :
    consHead c (left ++ right) = consHead c left ++ right := by
  cases left with
  | nil => exact absurd rfl h
  | cons => rfl

end

variable {isCut : List Char → Bool} {st : Quoting} {c : Char} {as bs cs before after : List Char}
  {left right : List (List Char)}

theorem exists_cutFrom_eq (isCut : List Char → Bool) (st : Quoting) (cs : List Char) :
    ∃ piece pieces, cutFrom isCut st cs = piece :: pieces :=
  List.exists_cons_of_ne_nil (cutFrom_ne_nil st cs)

theorem exists_cutFrom_eq_concat (isCut : List Char → Bool) (st : Quoting) (cs : List Char) :
    ∃ pieces piece, cutFrom isCut st cs = pieces ++ [piece] :=
  ⟨_, _, (List.dropLast_concat_getLast (cutFrom_ne_nil st cs)).symm⟩

-- A cut right at the front.
theorem cutFrom_semicolon (h : isCut cs = true) :
    cutFrom isCut .outside (';' :: cs) = [] :: cutFrom isCut .outside cs := by
  simp [cutFrom, h]

theorem cutFrom_cons_of_not (h : ¬(st = .outside ∧ c = ';' ∧ isCut cs = true)) :
    cutFrom isCut st (c :: cs) = consHead c (cutFrom isCut (st.next c) cs) := by
  rw [cutFrom, if_neg h]

theorem cutAt_nil_iff :
    CutAt isCut st (c :: cs) [] after ↔ st = .outside ∧ c = ';' ∧ isCut cs = true ∧ after = cs := by
  constructor
  · rintro ⟨heq, hst, ha⟩
    obtain ⟨rfl, rfl⟩ := List.cons.inj heq
    exact ⟨hst, rfl, ha, rfl⟩
  · rintro ⟨rfl, rfl, ha, rfl⟩
    exact ⟨rfl, rfl, ha⟩

theorem cutAt_cons_iff {d : Char} :
    CutAt isCut st (c :: cs) (d :: before) after ↔
      d = c ∧ CutAt isCut (st.next c) cs before after := by
  constructor
  · rintro ⟨heq, hst, ha⟩
    obtain ⟨rfl, rfl⟩ := List.cons.inj heq
    exact ⟨rfl, rfl, hst, ha⟩
  · rintro ⟨rfl, rfl, hst, ha⟩
    exact ⟨rfl, hst, ha⟩

-- The quoting rules carry on over each piece, and start anew behind a cut.
theorem cutFrom_append (ht : LocalTest isCut) (hst : st.run as = .outside) (hb : isCut bs = true) :
    cutFrom isCut st (as ++ ';' :: bs) = cutFrom isCut st as ++ cutFrom isCut .outside bs := by
  induction as generalizing st with
  | nil =>
    obtain rfl : st = .outside := hst
    exact cutFrom_semicolon hb
  | cons a as ih =>
    have hsame : isCut (as ++ ';' :: bs) = true ↔ isCut as = true :=
      ⟨ht.semicolon as bs, ht.append as _⟩
    by_cases h : st = .outside ∧ a = ';' ∧ isCut as = true
    case pos =>
      obtain ⟨rfl, rfl, ha⟩ := h
      have hnext : Quoting.outside.run as = .outside := hst
      rw [List.cons_append, cutFrom_semicolon (hsame.2 ha), cutFrom_semicolon ha, ih hnext]
      rfl
    case neg =>
      have h' : ¬(st = .outside ∧ a = ';' ∧ isCut (as ++ ';' :: bs) = true) := by rwa [hsame]
      rw [List.cons_append, cutFrom_cons_of_not h', cutFrom_cons_of_not h, ih hst]
      exact consHead_append a (cutFrom_ne_nil _ as) _

-- Between two of the pieces there is a cut.
theorem cutAt_of_cutFrom (h : cutFrom isCut st cs = left ++ right) (hl : left ≠ [])
    (hr : right ≠ []) : CutAt isCut st cs (joinPieces left) (joinPieces right) := by
  induction cs generalizing st left with
  | nil =>
    obtain ⟨piece, left, rfl⟩ := List.exists_cons_of_ne_nil hl
    have ⟨_, h⟩ := List.cons.inj h
    exact absurd (List.append_eq_nil_iff.1 h.symm).2 hr
  | cons c cs ih =>
    obtain ⟨piece, left, rfl⟩ := List.exists_cons_of_ne_nil hl
    by_cases hc : st = .outside ∧ c = ';' ∧ isCut cs = true
    case pos =>
      obtain ⟨rfl, rfl, hcut⟩ := hc
      rw [cutFrom_semicolon hcut] at h
      obtain ⟨rfl, hrest⟩ := List.cons.inj h
      by_cases hn : left = []
      case pos =>
        subst hn
        have hjoin : joinPieces right = cs := by
          have hjoin := @join_cutFrom isCut .outside cs
          rwa [hrest] at hjoin
        exact cutAt_nil_iff.2 ⟨rfl, rfl, hcut, hjoin⟩
      case neg =>
        rw [joinPieces_cons [] hn]
        exact cutAt_cons_iff.2 ⟨rfl, ih hrest hn⟩
    case neg =>
      rw [cutFrom_cons_of_not hc] at h
      have ⟨front, pieces, hp⟩ := exists_cutFrom_eq isCut (st.next c) cs
      rw [hp] at h
      obtain ⟨rfl, rfl⟩ := List.cons.inj h
      have hcut : CutAt isCut (st.next c) cs (joinPieces (front :: left)) (joinPieces right) :=
        ih hp (List.cons_ne_nil front left)
      rw [show (c :: front) :: left = consHead c (front :: left) from rfl, joinPieces_consHead]
      exact cutAt_cons_iff.2 ⟨rfl, hcut⟩

theorem cutAt_iff (ht : LocalTest isCut) :
    CutAt isCut st cs before after ↔
      ∃ left right, left ≠ [] ∧ right ≠ [] ∧ cutFrom isCut st cs = left ++ right ∧
        before = joinPieces left ∧ after = joinPieces right := by
  constructor
  · rintro ⟨rfl, hst, ha⟩
    refine ⟨_, _, cutFrom_ne_nil st before, cutFrom_ne_nil .outside after,
      cutFrom_append ht hst ha, ?_, ?_⟩
    · exact (join_cutFrom st before).symm
    · exact (join_cutFrom .outside after).symm
  · rintro ⟨left, right, hl, hr, h, rfl, rfl⟩
    exact cutAt_of_cutFrom h hl hr

theorem Whole.nil : Whole isCut st [] :=
  fun _ _ h => nomatch (List.append_eq_nil_iff.1 h.eq.symm).2

theorem Whole.cons (h : ¬(st = .outside ∧ c = ';' ∧ isCut cs = true))
    (hw : Whole isCut (st.next c) cs) : Whole isCut st (c :: cs) := by
  intro before after hcut
  cases before with
  | nil =>
    have ⟨hst, hc, ha, _⟩ := cutAt_nil_iff.1 hcut
    exact h ⟨hst, hc, ha⟩
  | cons d before => exact hw before after (cutAt_cons_iff.1 hcut).2

theorem Whole.of_append (ht : LocalTest isCut) (h : Whole isCut st (as ++ bs)) :
    Whole isCut st as := by
  rintro before after ⟨rfl, hst, ha⟩
  refine h before (after ++ bs) ⟨?_, hst, ht.append after bs ha⟩
  rw [List.append_assoc, List.cons_append]

theorem cutFrom_of_whole (h : Whole isCut st cs) : cutFrom isCut st cs = [cs] := by
  have ⟨piece, pieces, hp⟩ := exists_cutFrom_eq isCut st cs
  by_cases hn : pieces = []
  case pos =>
    have hjoin := @join_cutFrom isCut st cs
    rw [hp, hn] at hjoin ⊢
    exact congrArg (fun piece => [piece]) hjoin
  case neg =>
    have hcut : CutAt isCut st cs piece (joinPieces pieces) :=
      cutAt_of_cutFrom (show _ = [piece] ++ pieces from hp) (List.cons_ne_nil piece []) hn
    exact absurd hcut (h _ _)

theorem whole_of_cutFrom (ht : LocalTest isCut) {piece : List Char} {pieces : List (List Char)}
    (h : cutFrom isCut st cs = piece :: pieces) :
    Whole isCut st piece ∧ ∀ piece' ∈ pieces, Whole isCut .outside piece' := by
  induction cs generalizing st piece pieces with
  | nil =>
    obtain ⟨rfl, rfl⟩ := List.cons.inj h
    exact ⟨.nil, nofun⟩
  | cons c cs ih =>
    by_cases hc : st = .outside ∧ c = ';' ∧ isCut cs = true
    case pos =>
      obtain ⟨rfl, rfl, hcut⟩ := hc
      rw [cutFrom_semicolon hcut] at h
      obtain ⟨rfl, rfl⟩ := List.cons.inj h
      refine ⟨.nil, fun piece' hm => ?_⟩
      have ⟨front, rest, hp⟩ := exists_cutFrom_eq isCut .outside cs
      have ⟨hfront, hrest⟩ := ih hp
      rw [hp] at hm
      rcases List.mem_cons.1 hm with rfl | hm
      · exact hfront
      · exact hrest piece' hm
    case neg =>
      have ⟨front, rest, hp⟩ := exists_cutFrom_eq isCut (st.next c) cs
      rw [cutFrom_cons_of_not hc, hp] at h
      obtain ⟨rfl, rfl⟩ := List.cons.inj h
      have ⟨hfront, hrest⟩ := ih hp
      refine ⟨.cons ?_ hfront, hrest⟩
      -- The test passes on the whole rest if it passes on what the piece has of it.
      rintro ⟨hst, hsemi, ha⟩
      have ⟨more, hmore⟩ := prefix_joinPieces front rest
      rw [← hp, join_cutFrom] at hmore
      exact hc ⟨hst, hsemi, hmore ▸ ht.append front more ha⟩

end QueryConsole.Script
