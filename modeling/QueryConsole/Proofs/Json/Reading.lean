import Mathlib.Data.List.Forall2
import QueryConsole.Proofs.Json.Token

namespace QueryConsole.Json

-- The text of the document is read as the source, and what comes behind it is left.
structure Reads (j : Json) (source : Source) : Prop where
  starts : ∃ c cs, j.print = c :: cs ∧ isSpace c = false ∧ c ≠ ']'
  value? : ∀ fuel rest, j.print.length ≤ fuel → EndsNumber rest →
    Json.value? fuel (j.print ++ rest) = some (source, rest)

variable {c : Char} {cs rest : List Char} {fuel : Nat} {item : Json} {items : List Json}
  {source : Source} {sources : List Source} {fields : List (String × Json)}
  {reads : List (Option String × Source)}

theorem endsNumber_nil : EndsNumber [] :=
  nofun

theorem endsNumber_cons (h : c = ',' ∨ c = ']' ∨ c = '\x7d') : EndsNumber (c :: cs) := by
  rintro d ⟨⟩
  rcases h with rfl | rfl | rfl <;> decide

@[simp]
theorem skipSpace_cons (h : isSpace c = false) : skipSpace (c :: cs) = c :: cs := by
  simp [skipSpace, h]

theorem name?_printString (name : String) (rest : List Char) :
    name? (printString name ++ ':' :: rest) = some (some name, rest) := by
  have hquote : isSpace '"' = false := by decide
  have hcolon : isSpace ':' = false := by decide
  simp [name?, printString, hquote, hcolon, afterWord?, string?_escaped]

theorem exists_succ_of_print {j : Json} (h : j.print = c :: cs) (hf : j.print.length ≤ fuel) :
    ∃ n, fuel = n + 1 ∧ cs.length ≤ n := by
  rw [h, List.length_cons] at hf
  exact ⟨fuel - 1, by omega, by omega⟩

theorem reads_null : Reads null .null where
  starts := ⟨'n', _, rfl, by decide, by decide⟩
  value? fuel rest hf _ := by
    have ⟨n, hn, _⟩ := exists_succ_of_print (c := 'n') rfl hf
    simp [hn, print, value?, afterWord?, show isSpace 'n' = false by decide]

theorem reads_bool (b : Bool) : Reads (.bool b) (.bool b) where
  starts := by cases b <;> exact ⟨_, _, rfl, by decide, by decide⟩
  value? fuel rest hf _ := by
    cases b with
    | true =>
      have ⟨n, hn, _⟩ := exists_succ_of_print (c := 't') rfl hf
      simp [hn, print, value?, afterWord?, show isSpace 't' = false by decide]
    | false =>
      have ⟨n, hn, _⟩ := exists_succ_of_print (c := 'f') rfl hf
      simp [hn, print, value?, afterWord?, show isSpace 'f' = false by decide]

theorem reads_string (s : String) : Reads (.string s) (.string (some s)) where
  starts := ⟨'"', _, rfl, by decide, by decide⟩
  value? fuel rest hf _ := by
    have ⟨n, hn, _⟩ := exists_succ_of_print (c := '"') rfl hf
    simp [hn, print, printString, value?, string?_escaped, show isSpace '"' = false by decide]

theorem not_isSpace_of_numeral (h : c = '-' ∨ c.isDigit = true) : isSpace c = false := by
  by_contra hc
  simp only [isSpace, Bool.not_eq_false, Bool.or_eq_true, decide_eq_true_eq] at hc
  rcases hc with ((rfl | rfl) | rfl) | rfl <;> exact absurd h (by decide)

theorem value?_of_numeral (h : c = '-' ∨ c.isDigit = true) :
    value? (fuel + 1) (c :: cs) = (numeral? (c :: cs)).map fun (m, rest) => (.numeral m, rest) := by
  simp only [value?, skipSpace_cons (not_isSpace_of_numeral h)]
  split
  case h_7 => rfl
  all_goals
    rename_i heq
    obtain ⟨rfl, -⟩ := List.cons.inj heq
    exact absurd h (by decide)

theorem reads_numeral {j : Json} {m : Numeral} (h : m.Written) (hj : j.print = m.text) :
    Reads j (.numeral m) where
  starts := by
    have ⟨c, cs, hcs, hc⟩ := exists_text_cons h
    refine ⟨c, cs, hj.trans hcs, not_isSpace_of_numeral hc, ?_⟩
    rintro rfl
    exact absurd hc (by decide)
  value? fuel rest hf hr := by
    have ⟨c, cs, hcs, hc⟩ := exists_text_cons h
    have ⟨n, hn, _⟩ := exists_succ_of_print (hj.trans hcs) hf
    have hread := numeral?_text h hr
    rw [hcs, List.cons_append] at hread
    simp [hn, hj, hcs, value?_of_numeral hc, hread]

theorem reads_int (n : Int) : Reads (.int n) (.numeral (.ofInt n)) :=
  reads_numeral (Numeral.written_ofInt n) (Numeral.text_ofInt n).symm

theorem items?_eq (hr : Reads item source) (h : List.Forall₂ Reads items sources)
    (hf : (item.print ++ printMoreItems items).length ≤ fuel) (rest : List Char) :
    items? fuel (item.print ++ (printMoreItems items ++ rest)) =
      some (source :: sources, rest) := by
  induction h generalizing item source fuel with
  | nil =>
    simp only [printMoreItems, List.length_append, List.length_singleton] at hf
    obtain ⟨n, rfl⟩ := Nat.exists_eq_succ_of_ne_zero (show fuel ≠ 0 by omega)
    have hitem := hr.value? n (']' :: rest) (by omega) (endsNumber_cons (by decide))
    have hspace : isSpace ']' = false := by decide
    simp [items?, printMoreItems, hitem, hspace]
  | @cons next source' items sources hnext _ ih =>
    simp only [printMoreItems, List.length_append, List.length_cons] at hf
    obtain ⟨n, rfl⟩ := Nat.exists_eq_succ_of_ne_zero (show fuel ≠ 0 by omega)
    have hitem := hr.value? n (',' :: (next.print ++ (printMoreItems items ++ rest))) (by omega)
      (endsNumber_cons (by decide))
    have hlength : (next.print ++ printMoreItems items).length ≤ n := by simp; omega
    have hmore := ih hnext hlength
    have hspace : isSpace ',' = false := by decide
    simp [items?, printMoreItems, hitem, hmore, hspace]

theorem reads_array (h : List.Forall₂ Reads items sources) :
    Reads (.array items) (.array sources) where
  starts := ⟨'[', _, rfl, by decide, by decide⟩
  value? fuel rest hf _ := by
    have ⟨n, hn, hlength⟩ := exists_succ_of_print (c := '[') rfl hf
    have hopen : isSpace '[' = false := by decide
    cases h with
    | nil => simp [hn, print, printItems, value?, hopen, show isSpace ']' = false by decide]
    | @cons item source items sources hr h =>
      have ⟨c, cs, hcs, hspace, hclose⟩ := hr.starts
      have hitems := items?_eq hr h hlength rest
      rw [hcs, List.cons_append] at hitems
      simp only [hn, print, printItems, value?, hcs, List.cons_append, skipSpace_cons hopen,
        skipSpace_cons hspace, List.append_assoc]
      split
      · exact absurd (List.cons.inj ‹_›).1 hclose
      · simp [hitems]

-- The field of a source that a field of a document is read as.
structure ReadsField (field : String × Json) (read : Option String × Source) : Prop where
  name : read.1 = some field.1
  value : Reads field.2 read.2

theorem fields?_eq {field : String × Json} {read : Option String × Source}
    (hr : ReadsField field read) (h : List.Forall₂ ReadsField fields reads)
    (hf : (printString field.1 ++ ':' :: field.2.print ++ printMoreFields fields).length ≤ fuel)
    (rest : List Char) :
    fields? fuel
        (printString field.1 ++ ':' :: (field.2.print ++ (printMoreFields fields ++ rest))) =
      some (read :: reads, rest) := by
  induction h generalizing field read fuel with
  | nil =>
    simp only [printMoreFields, List.length_append, List.length_cons, List.length_nil] at hf
    obtain ⟨n, rfl⟩ := Nat.exists_eq_succ_of_ne_zero (show fuel ≠ 0 by omega)
    have hvalue := hr.value.value? n ('\x7d' :: rest) (by omega) (endsNumber_cons (by decide))
    have hspace : isSpace '\x7d' = false := by decide
    simp [fields?, printMoreFields, name?_printString, hvalue, hspace, ← hr.name]
  | @cons next read' fields reads hnext _ ih =>
    obtain ⟨name, value⟩ := next
    simp only [printMoreFields, List.length_append, List.length_cons] at hf
    obtain ⟨n, rfl⟩ := Nat.exists_eq_succ_of_ne_zero (show fuel ≠ 0 by omega)
    have hvalue := hr.value.value? n
      (',' :: (printString name ++ ':' :: (value.print ++ (printMoreFields fields ++ rest))))
      (by omega) (endsNumber_cons (by decide))
    have hlength :
        (printString name ++ ':' :: value.print ++ printMoreFields fields).length ≤ n := by
      simp
      omega
    have hmore := ih hnext hlength
    have hspace : isSpace ',' = false := by decide
    simp [fields?, printMoreFields, name?_printString, hvalue, hmore, hspace, ← hr.name]

theorem reads_object (h : List.Forall₂ ReadsField fields reads) :
    Reads (.object fields) (.object reads) where
  starts := ⟨'\x7b', _, rfl, by decide, by decide⟩
  value? fuel rest hf _ := by
    have ⟨n, hn, hlength⟩ := exists_succ_of_print (c := '\x7b') rfl hf
    have hopen : isSpace '\x7b' = false := by decide
    cases h with
    | nil => simp [hn, print, printFields, value?, hopen, show isSpace '\x7d' = false by decide]
    | @cons field read fields reads hr h =>
      obtain ⟨name, value⟩ := field
      have hfields := fields?_eq hr h hlength rest
      have hquote : isSpace '"' = false := by decide
      simp only [printString, List.cons_append, List.append_assoc, List.nil_append] at hfields
      simp [hn, print, printFields, printString, value?, hopen, hquote, hfields]

theorem parse?_text {j : Json} (h : Reads j source) : parse? j.text = some source := by
  have hread := h.value? (j.print.length + 1) [] (Nat.le_succ _) endsNumber_nil
  rw [List.append_nil] at hread
  simp only [parse?, text, String.toList_ofList, hread, Option.bind_eq_bind, Option.bind_some]
  rfl

end QueryConsole.Json
