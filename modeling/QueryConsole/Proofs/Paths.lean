import Mathlib.Data.List.Basic
import QueryConsole.Paths

namespace QueryConsole.Path

variable {name part path : String} {names : List String}

-- A part of a path that leads from a directory to something in it.
structure Plain (part : String) : Prop where
  ne_empty : part ≠ ""
  ne_dot : part ≠ "."
  ne_dots : part ≠ ".."
  unslashed : '/' ∉ part.toList

-- The path from the root through these names.
def through (names : List String) : String :=
  "/" ++ "/".intercalate names

theorem toList_through (h : names ≠ []) :
    (through names).toList = names.flatMap fun name => '/' :: name.toList := by
  obtain ⟨name, names, rfl⟩ := List.exists_cons_of_ne_nil h
  rw [through, String.toList_append, String.toList_intercalate]
  change '/' :: ['/'].intercalate _ = _
  induction names generalizing name with
  | nil => simp
  | cons next names ih =>
    have hrest := ih next (List.cons_ne_nil _ _)
    simp only [List.map_cons, List.intercalate_cons_cons, List.flatMap_cons] at hrest ⊢
    rw [← hrest]
    simp

theorem toList_through_concat (names : List String) (name : String) :
    ∃ around, (through (names ++ [name])).toList = around ++ '/' :: name.toList :=
  ⟨names.flatMap fun name => '/' :: name.toList, by simp [toList_through]⟩

-- The name at the end of a path. Slashes behind it do not count.
def lastName (path : String) : String :=
  let unslashed := (path.toList.reverse.dropWhile (· = '/')).reverse
  .ofList (unslashed.reverse.takeWhile (· ≠ '/')).reverse

theorem lastName_through_concat (h : Plain name) (names : List String) :
    lastName (through (names ++ [name])) = name := by
  have ⟨around, hlist⟩ := toList_through_concat names name
  have hall : ∀ c ∈ name.toList.reverse, c ≠ '/' := by
    rintro c hc rfl
    exact h.unslashed (List.mem_reverse.1 hc)
  obtain ⟨c, cs, hcs⟩ : ∃ c cs, name.toList.reverse = c :: cs :=
    List.exists_cons_of_ne_nil (by simpa using h.ne_empty)
  have hkept : (name.toList.reverse ++ '/' :: around.reverse).dropWhile (· = '/') =
      name.toList.reverse ++ '/' :: around.reverse := by
    have hc : c ≠ '/' := hall c (hcs ▸ List.mem_cons_self)
    simp [hcs, hc]
  have htaken : (name.toList.reverse ++ '/' :: around.reverse).takeWhile (· ≠ '/') =
      name.toList.reverse := by
    rw [List.takeWhile_append_of_pos fun c hc => decide_eq_true (hall c hc)]
    simp
  have hreverse : (around ++ '/' :: name.toList).reverse =
      name.toList.reverse ++ '/' :: around.reverse := by simp
  simp only [lastName, hlist, hreverse, hkept, List.reverse_reverse]
  rw [htaken, List.reverse_reverse, String.ofList_toList]

theorem notMem_of_mem_splitOn {α : Type} [DecidableEq α] {mark : α} {piece cs : List α}
    (h : piece ∈ cs.splitOn mark) : mark ∉ piece := by
  induction cs generalizing piece with
  | nil => simp_all
  | cons c cs ih =>
    rw [List.splitOn_cons_eq_if_modifyHead] at h
    split at h
    case isTrue =>
      rcases List.mem_cons.1 h with rfl | h
      · exact List.not_mem_nil
      · exact ih h
    case isFalse hc =>
      obtain ⟨first, rest, hcs⟩ := List.exists_cons_of_ne_nil (List.splitOn_ne_nil mark cs)
      rw [hcs, List.modifyHead_cons] at h
      rw [hcs] at ih
      rcases List.mem_cons.1 h with rfl | h
      · have hne : mark ≠ c := fun heq => hc (beq_iff_eq.2 heq.symm)
        exact List.not_mem_cons_of_ne_of_not_mem hne (ih List.mem_cons_self)
      · exact ih (List.mem_cons_of_mem _ h)

theorem ne_empty_of_mem_parts (h : part ∈ parts path) :
    part ≠ "" ∧ part ≠ "." ∧ '/' ∉ part.toList := by
  obtain ⟨hm, hp⟩ := List.mem_filter.1 h
  obtain ⟨piece, hpiece, rfl⟩ := List.mem_map.1 hm
  have hslash := notMem_of_mem_splitOn hpiece
  simp_all

theorem parts_through (h : ∀ name ∈ names, Plain name) : parts (through names) = names := by
  by_cases hne : names = []
  case pos =>
    subst hne
    decide
  case neg =>
    have hpieces : (through names).toList = ['/'].intercalate ([] :: names.map String.toList) := by
      obtain ⟨name, names, rfl⟩ := List.exists_cons_of_ne_nil hne
      rw [through, String.toList_append, String.toList_intercalate, List.map_cons,
        List.intercalate_cons_cons]
      rfl
    have hsplit : (through names).toList.splitOn '/' = [] :: names.map String.toList := by
      rw [hpieces]
      refine List.splitOn_intercalate '/' ?_ (List.cons_ne_nil _ _)
      simpa using fun name hn => (h name hn).unslashed
    have hnames : (names.map String.toList).map String.ofList = names := by simp
    rw [parts, hsplit, List.map_cons, hnames, List.filter_cons_of_neg (by simp)]
    refine List.filter_eq_self.2 fun name hn => ?_
    simpa using ⟨(h name hn).ne_empty, (h name hn).ne_dot⟩

theorem plain_of_mem_kept {parts kept : List String}
    (hp : ∀ part ∈ parts, part ≠ "" ∧ part ≠ "." ∧ '/' ∉ part.toList)
    (hk : ∀ name ∈ kept, Plain name) :
    ∀ name ∈ parts.foldl (fun kept part => if part = ".." then kept.drop 1 else part :: kept) kept,
      Plain name := by
  induction parts generalizing kept with
  | nil => exact hk
  | cons part parts ih =>
    have ⟨⟨hempty, hdot, hslash⟩, hp⟩ := List.forall_mem_cons.1 hp
    refine ih hp ?_
    dsimp only
    split
    case isTrue => exact fun name hn => hk name (List.mem_of_mem_drop hn)
    case isFalse hdots => exact List.forall_mem_cons.2 ⟨⟨hempty, hdot, hdots, hslash⟩, hk⟩

-- Dots are gone once a path is resolved.
theorem exists_resolve_eq (base path : String) :
    ∃ names, (∀ name ∈ names, Plain name) ∧ resolve base path = through names := by
  have hparts : ∀ part ∈ partsFrom base path, part ≠ "" ∧ part ≠ "." ∧ '/' ∉ part.toList := by
    intro part hp
    unfold partsFrom at hp
    split at hp
    · exact ne_empty_of_mem_parts hp
    · exact (List.mem_append.1 hp).elim ne_empty_of_mem_parts ne_empty_of_mem_parts
  refine ⟨_, fun name hn => ?_, rfl⟩
  exact plain_of_mem_kept hparts (List.forall_mem_nil _) name (List.mem_reverse.1 hn)

theorem exists_concat_of_ne_nil (hne : names ≠ []) : ∃ init last, names = init ++ [last] :=
  ⟨names.dropLast, names.getLast hne, (List.dropLast_append_getLast hne).symm⟩

theorem isSlashed_through (h : ∀ name ∈ names, Plain name) (hne : names ≠ []) :
    isSlashed (through names) = false := by
  obtain ⟨init, last, rfl⟩ := exists_concat_of_ne_nil hne
  have hplain := h last (by simp)
  have ⟨around, hlist⟩ := toList_through_concat init last
  have hchars : last.toList ≠ [] := by simpa using hplain.ne_empty
  rw [isSlashed, hlist, List.getLast?_append_of_ne_nil _ (List.cons_ne_nil _ _),
    List.getLast?_cons_of_ne_nil hchars]
  refine decide_eq_false fun hslash => hplain.unslashed ?_
  exact List.mem_of_getLast? hslash

theorem join_through (h : ∀ name ∈ names, Plain name) (name : String) :
    join (through names) name = through (names ++ [name]) := by
  rw [← String.toList_inj]
  by_cases hne : names = []
  case pos =>
    subst hne
    simp [through, join, isSlashed]
  case neg =>
    have hempty : (through names).isEmpty = false := by
      simp [through]
    simp [join, isSlashed_through h hne, hempty, toList_through, hne]

end QueryConsole.Path
