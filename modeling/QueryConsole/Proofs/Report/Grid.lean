import Mathlib.Data.List.Forall2
import Mathlib.Order.Bounds.Basic
import QueryConsole.Proofs.Text.Blank
import QueryConsole.Report.Grid

namespace QueryConsole.Report.Grid

variable {g : Grid} {i w : Nat} {ws : List Nat} {row : List String} {rows : List (List String)}
  {mark cs : List Char} {pieces : List (List Char)}

-- The lengths that cells have in a column. Short rows have no cell there.
def lengths (rows : List (List String)) (i : Nat) : Set Nat :=
  {n | ∃ row ∈ rows, ∃ cell ∈ row[i]?, cell.length = n}

theorem lengths_cons (row : List String) (rows : List (List String)) (i : Nat) :
    lengths (row :: rows) i = lengths [row] i ∪ lengths rows i := by
  ext n
  simp [lengths]

theorem lengths_of_getElem? {cell : String} (h : row[i]? = some cell) :
    lengths [row] i = {cell.length} := by
  ext n
  simp [lengths, h, eq_comm]

theorem lengths_of_short (h : row[i]? = none) : lengths [row] i = ∅ := by
  ext n
  simp [lengths, h]

theorem getElem?_widen (ws : List Nat) (row : List String) (i : Nat) :
    (widen ws row)[i]? = ws[i]?.map fun w => max w ((row[i]?.map String.length).getD 0) := by
  induction ws generalizing row i with
  | nil => rfl
  | cons w ws ih =>
    cases row with
    | nil => simp [widen]
    | cons cell row =>
      cases i with
      | zero => rfl
      | succ i => exact ih row i

theorem isGreatest_widen {s : Set Nat} (hw : ws[i]? = some w) (h : IsGreatest s w)
    (row : List String) :
    ∃ w', (widen ws row)[i]? = some w' ∧ IsGreatest (s ∪ lengths [row] i) w' := by
  refine ⟨_, by rw [getElem?_widen, hw]; rfl, ?_⟩
  cases hc : row[i]? with
  | none => simpa [lengths_of_short hc] using h
  | some cell => simpa [lengths_of_getElem? hc] using h.union isGreatest_singleton

theorem isGreatest_foldl_widen {s : Set Nat} (hw : ws[i]? = some w) (h : IsGreatest s w)
    (rows : List (List String)) :
    ∃ w', (rows.foldl widen ws)[i]? = some w' ∧ IsGreatest (s ∪ lengths rows i) w' := by
  induction rows generalizing ws w s with
  | nil => exact ⟨w, hw, by simpa [lengths] using h⟩
  | cons row rows ih =>
    have ⟨_, hw₁, h₁⟩ := isGreatest_widen hw h row
    have ⟨w', hw', h'⟩ := ih hw₁ h₁
    refine ⟨w', hw', ?_⟩
    rwa [lengths_cons, ← Set.union_assoc]

-- A column is as wide as the widest of its cells, the header included.
theorem isGreatest_widths (h : g.widths[i]? = some w) :
    IsGreatest (lengths (g.headers :: g.rows) i) w := by
  have hi : i < g.headers.length := by
    rw [← length_widths]
    exact (List.getElem?_eq_some_iff.1 h).1
  have hheader : g.headers[i]? = some g.headers[i] := List.getElem?_eq_getElem hi
  have hfirst : (g.headers.map String.length)[i]? = some g.headers[i].length := by
    rw [List.getElem?_map, hheader, Option.map_some]
  have ⟨w', hw', hgreatest⟩ := isGreatest_foldl_widen hfirst isGreatest_singleton g.rows
  obtain rfl : w' = w := Option.some.inj (hw'.symm.trans h)
  rwa [lengths_cons, lengths_of_getElem? hheader]

theorem length_le_of_mem_rows (hr : row ∈ g.headers :: g.rows) {cell : String}
    (hc : row[i]? = some cell) (hw : g.widths[i]? = some w) : cell.length ≤ w :=
  (isGreatest_widths hw).2 ⟨row, hr, cell, hc, rfl⟩

-- Where a column starts: behind the columns before it, with three characters between two of them.
def offset : List Nat → Nat → Nat
  | w :: ws, i + 1 => w + 3 + offset ws i
  | _, _ => 0

@[simp]
theorem offset_zero (ws : List Nat) : offset ws 0 = 0 := by
  cases ws <;> rfl

@[simp]
theorem offset_cons_succ (w : Nat) (ws : List Nat) (i : Nat) :
    offset (w :: ws) (i + 1) = w + 3 + offset ws i :=
  rfl

-- The line consists of these pieces with a mark between two of them, and each piece of a column
-- takes up its column.
structure Aligned (mark : List Char) (ws : List Nat) (pieces : List (List Char))
    (line : List Char) : Prop where
  piece : ∀ i w piece, ws[i]? = some w → pieces[i]? = some piece →
    (line.drop (offset ws i)).take w = piece
  between : ∀ i w, ws[i]? = some w → i + 1 < pieces.length →
    (line.drop (offset ws i + w)).take 3 = mark
  -- Pieces beyond the last column follow as they are.
  surplus : ws.length < pieces.length →
    line.drop (offset ws ws.length) = mark.intercalate (pieces.drop ws.length)
  -- Otherwise nothing comes behind the last piece.
  length : pieces.length ≤ ws.length → line.length = offset ws pieces.length - 3

-- Each piece of a column is as wide as the column.
def Fitting (ws : List Nat) (pieces : List (List Char)) : Prop :=
  ∀ (i w : Nat) (piece : List Char), ws[i]? = some w → pieces[i]? = some piece → piece.length = w

theorem Fitting.head {piece : List Char} (h : Fitting (w :: ws) (piece :: pieces)) :
    piece.length = w :=
  h 0 w piece rfl rfl

theorem Fitting.tail {piece : List Char} (h : Fitting (w :: ws) (piece :: pieces)) :
    Fitting ws pieces :=
  fun i => h (i + 1)

theorem drop_intercalate (hm : mark.length = 3) (h : Fitting ws pieces) (hi : i ≤ ws.length)
    (hp : i < pieces.length) :
    (mark.intercalate pieces).drop (offset ws i) = mark.intercalate (pieces.drop i) := by
  induction i generalizing ws pieces with
  | zero => simp
  | succ i ih =>
    obtain ⟨w, ws, rfl⟩ := List.exists_cons_of_length_pos (Nat.zero_lt_of_lt hi)
    match pieces, hp with
    | piece :: next :: pieces, hp =>
      have hlength : (piece ++ mark).length = w + 3 := by
        rw [List.length_append, h.head, hm]
      rw [List.intercalate_cons_cons, offset_cons_succ, ← hlength, ← List.drop_drop,
        List.drop_left, List.drop_succ_cons]
      exact ih h.tail (Nat.le_of_succ_le_succ hi) (Nat.lt_of_succ_lt_succ hp)

theorem length_intercalate (hm : mark.length = 3) (h : Fitting ws pieces)
    (hp : pieces.length ≤ ws.length) :
    (mark.intercalate pieces).length = offset ws pieces.length - 3 := by
  induction pieces generalizing ws with
  | nil => simp
  | cons piece pieces ih =>
    obtain ⟨w, ws, rfl⟩ := List.exists_cons_of_length_pos (Nat.zero_lt_of_lt hp)
    have hrest := ih h.tail (Nat.le_of_succ_le_succ hp)
    cases pieces with
    | nil => simp [h.head]
    | cons next pieces =>
      obtain ⟨w', ws, rfl⟩ :=
        List.exists_cons_of_length_pos (Nat.zero_lt_of_lt (Nat.le_of_succ_le_succ hp))
      rw [List.intercalate_cons_cons, List.length_append, List.length_append, hrest, h.head, hm]
      simp only [List.length_cons, offset_cons_succ]
      omega

theorem aligned_intercalate (hm : mark.length = 3) (h : Fitting ws pieces) :
    Aligned mark ws pieces (mark.intercalate pieces) where
  piece i w piece hw hp := by
    have hi := (List.getElem?_eq_some_iff.1 hw).1
    have ⟨hlt, hpiece⟩ := List.getElem?_eq_some_iff.1 hp
    rw [drop_intercalate hm h (Nat.le_of_lt hi) hlt, List.drop_eq_getElem_cons hlt, hpiece,
      ← h i w piece hw hp]
    cases pieces.drop (i + 1) with
    | nil => simp
    | cons => simp [List.intercalate_cons_cons]
  between i w hw hlt := by
    have hi := (List.getElem?_eq_some_iff.1 hw).1
    have hlt' := Nat.lt_of_succ_lt hlt
    have hlength := h i w pieces[i] hw (List.getElem?_eq_getElem hlt')
    rw [← List.drop_drop, drop_intercalate hm h (Nat.le_of_lt hi) hlt',
      List.drop_eq_getElem_cons hlt', List.drop_eq_getElem_cons hlt, List.intercalate_cons_cons,
      List.append_assoc, ← hlength, List.drop_left, ← hm, List.take_left]
  surplus hlt := drop_intercalate hm h (Nat.le_refl _) hlt
  length := length_intercalate hm h

-- The cells of a row, each filled up with blanks to its column. There is no column for surplus
-- cells, so nothing is added to them.
def filled (ws : List Nat) (row : List String) : List (List Char) :=
  row.mapIdx fun i cell => cell.toList ++ .replicate (ws.getD i 0 - cell.length) ' '

-- The line of a row, without the blanks at its end.
def Shows (ws : List Nat) (row : List String) (line : List Char) : Prop :=
  ∃ full, Aligned bar ws (filled ws row) full ∧ line = Text.trimEnd full

theorem cells_eq_filled (ws : List Nat) (row : List String) : cells ws row = filled ws row := by
  induction row generalizing ws with
  | nil => cases ws <;> rfl
  | cons cell row ih =>
    rw [filled, List.mapIdx_cons]
    cases ws with
    | nil => rw [cells, ih]; simp [filled]
    | cons w ws => rw [cells, ih]; rfl

theorem fitting_filled
    (h : ∀ (i w : Nat) cell, row[i]? = some cell → ws[i]? = some w → cell.length ≤ w) :
    Fitting ws (filled ws row) := by
  intro i w piece hw hp
  rw [filled, List.getElem?_mapIdx] at hp
  obtain ⟨cell, hc, rfl⟩ := Option.map_eq_some_iff.1 hp
  have hle := h i w cell hc hw
  rw [List.length_append, List.length_replicate, List.getD_eq_getElem?_getD, hw, Option.getD_some,
    String.length_toList]
  omega

theorem shows_line (hr : row ∈ g.headers :: g.rows) :
    Shows g.widths row (Text.trimEnd (line g.widths row)) := by
  refine ⟨_, ?_, rfl⟩
  rw [line, cells_eq_filled]
  exact aligned_intercalate rfl (fitting_filled fun _ _ _ hc hw => length_le_of_mem_rows hr hc hw)

theorem aligned_rule (ws : List Nat) :
    Aligned crossing ws (ws.map (.replicate · '─')) (rule ws) := by
  refine aligned_intercalate rfl fun i w piece hw hp => ?_
  rw [List.getElem?_map, hw] at hp
  cases hp
  exact List.length_replicate

theorem mem_intercalate {c : Char} (h : c ∈ mark.intercalate pieces) :
    c ∈ mark ∨ ∃ piece ∈ pieces, c ∈ piece := by
  induction pieces with
  | nil => simp at h
  | cons piece pieces ih =>
    cases pieces with
    | nil => exact .inr ⟨piece, List.mem_cons_self, by simpa using h⟩
    | cons next pieces =>
      rw [List.intercalate_cons_cons, List.mem_append, List.mem_append] at h
      rcases h with (h | h) | h
      · exact .inr ⟨piece, List.mem_cons_self, h⟩
      · exact .inl h
      · exact (ih h).imp_right fun ⟨p, hp, hc⟩ => ⟨p, List.mem_cons_of_mem _ hp, hc⟩

theorem notMem_line (ws : List Nat) (h : ∀ cell ∈ row, '\n' ∉ cell.toList) :
    '\n' ∉ line ws row := by
  intro hmem
  rw [line, cells_eq_filled] at hmem
  rcases mem_intercalate hmem with hbar | ⟨piece, hp, hc⟩
  · exact absurd hbar (by decide)
  · obtain ⟨i, hi, rfl⟩ := List.mem_mapIdx.1 hp
    rcases List.mem_append.1 hc with hc | hc
    · exact h _ (List.getElem_mem hi) hc
    · exact nomatch List.eq_of_mem_replicate hc

theorem eq_of_mem_rule {c : Char} (h : c ∈ rule ws) : c = '─' ∨ c = '┼' := by
  rcases mem_intercalate h with hmark | ⟨piece, hp, hc⟩
  · simpa [crossing, or_comm] using hmark
  · obtain ⟨w, -, rfl⟩ := List.mem_map.1 hp
    exact .inl (List.eq_of_mem_replicate hc)

theorem lines_eq_self (h : '\n' ∉ cs) : lines cs = [cs] := by
  induction cs with
  | nil => rfl
  | cons c cs ih =>
    have ⟨hc, hcs⟩ := List.ne_and_not_mem_of_not_mem_cons h
    rw [lines, if_neg hc.symm, ih hcs]

theorem trimEnd_rule (ws : List Nat) : Text.trimEnd (rule ws) = rule ws := by
  refine List.rdropWhile_eq_self_iff.2 fun hne => ?_
  rcases eq_of_mem_rule (List.getLast_mem hne) with h | h
  all_goals
    rw [h]
    decide

-- What the text is made of, header and rule first.
def all (g : Grid) : List (List Char) :=
  line g.widths g.headers :: rule g.widths :: g.rows.map (line g.widths)

-- The lines of the text are those of the grid, since no cell has a line of its own.
theorem splitOn_render (hne : g.headers ≠ [])
    (h : ∀ row ∈ g.headers :: g.rows, ∀ cell ∈ row, '\n' ∉ cell.toList) :
    g.render.toList.splitOn '\n' = g.all.map Text.trimEnd := by
  have hall : ∀ cs ∈ g.all, '\n' ∉ cs := by
    have ⟨hheaders, hrows⟩ := List.forall_mem_cons.1 h
    simp only [all, List.forall_mem_cons, List.forall_mem_map]
    refine ⟨notMem_line _ hheaders, fun hmem => ?_, fun row hr => notMem_line _ (hrows row hr)⟩
    rcases eq_of_mem_rule hmem with hc | hc <;> exact absurd hc (by decide)
  have hlines : g.all.flatMap lines = g.all := by
    rw [List.flatMap_congr fun cs hcs => lines_eq_self (hall cs hcs)]
    exact List.flatMap_singleton' _
  have hempty : ¬g.headers.isEmpty = true := by simpa using hne
  have hrender : g.render.toList = ['\n'].intercalate (g.all.map Text.trimEnd) := by
    rw [render, if_neg hempty, String.toList_ofList]
    exact congrArg (fun cs => ['\n'].intercalate (cs.map Text.trimEnd)) hlines
  rw [hrender]
  refine List.splitOn_intercalate '\n' ?_ (by simp [all])
  rw [List.forall_mem_map]
  exact fun cs hcs => Text.notMem_trimEnd (hall cs hcs)

-- Every row has its line, and the columns start at the same places in all of them.
theorem lines_render (hne : g.headers ≠ [])
    (h : ∀ row ∈ g.headers :: g.rows, ∀ cell ∈ row, '\n' ∉ cell.toList) :
    (g.widths.length = g.headers.length ∧
      ∀ i w, g.widths[i]? = some w → IsGreatest (lengths (g.headers :: g.rows) i) w) ∧
    ∃ header rule rows, g.render.toList.splitOn '\n' = header :: rule :: rows ∧
      List.Forall₂ (Shows g.widths) (g.headers :: g.rows) (header :: rows) ∧
      Aligned crossing g.widths (g.widths.map (.replicate · '─')) rule ∧
      ∀ line ∈ header :: rule :: rows, ∀ c ∈ line.getLast?, Text.isBlank c = false := by
  have hshows : List.Forall₂ (Shows g.widths) (g.headers :: g.rows)
      ((g.headers :: g.rows).map (Text.trimEnd ∘ line g.widths)) :=
    List.forall₂_map_right_iff.2 (List.forall₂_same.2 fun _ hr => shows_line hr)
  refine ⟨⟨g.length_widths, fun i w => isGreatest_widths⟩, _, _, _, splitOn_render hne h,
    ?_, ?_, ?_⟩
  · rw [List.map_map]
    exact hshows
  · rw [trimEnd_rule]
    exact aligned_rule _
  · intro cs hcs c hc
    have hcs : cs ∈ g.all.map Text.trimEnd := hcs
    obtain ⟨full, -, rfl⟩ := List.mem_map.1 hcs
    exact Text.isBlank_of_getLast?_trimEnd hc

-- Rows that are too short or too long, an empty header, and cells that end with blanks.
def ragged : Grid :=
  ⟨["Näme", "", "n"], [["a\r", "…"], [], ["x", "", "1 ", "more ", "", "│"], [" ", "\t", ""]]⟩

theorem lines_render_ragged :
    ragged.headers ≠ [] ∧
      (∀ row ∈ ragged.headers :: ragged.rows, ∀ cell ∈ row, '\n' ∉ cell.toList) ∧
      ragged.widths = [4, 1, 2] ∧
      ∃ header rule rows, ragged.render.toList.splitOn '\n' = header :: rule :: rows ∧
        rows.length = 4 ∧ (rule.drop 4).take 3 = crossing ∧ (rule.drop 8).take 3 = crossing ∧
        rule.length = 13 := by
  have hne : ragged.headers ≠ [] := by decide
  have hcells : ∀ row ∈ ragged.headers :: ragged.rows, ∀ cell ∈ row, '\n' ∉ cell.toList := by
    decide
  have hwidths : ragged.widths = [4, 1, 2] := by decide
  have ⟨_, header, rule, rows, hlines, hshows, hrule, _⟩ := lines_render hne hcells
  rw [hwidths] at hrule
  refine ⟨hne, hcells, hwidths, header, rule, rows, hlines, ?_, ?_, ?_, ?_⟩
  · exact (Nat.succ.inj hshows.length_eq).symm
  · exact hrule.between 0 4 rfl (by decide)
  · exact hrule.between 1 1 rfl (by decide)
  · exact hrule.length (by decide)

end QueryConsole.Report.Grid
