import QueryConsole.Json.Basic
import QueryConsole.Proofs.Json.Token
import QueryConsole.Proofs.Script.Sealed

-- The text of a document is one line, and its strings are quoted runs that the rules of scripts
-- close where the document does.
namespace QueryConsole.Json

open Script (Sealed Quoting sealed_of_all sealed_of_forall)

variable {items : List Json} {fields : List (String × Json)}

structure Inline (j : Json) : Prop where
  text : Sealed j.print
  first : ∃ c, j.print.head? = some c ∧ Text.isBlank c = false
  last : ∃ c, j.print.getLast? = some c ∧ Text.isBlank c = false ∧ c ≠ ';'

theorem Inline.tidy {j : Json} (h : Inline j) : Text.Tidy j.print where
  ne_nil hnil := by
    have ⟨c, hc, _⟩ := h.first
    simp [hnil] at hc
  first c hc := by
    have ⟨d, hd, hblank⟩ := h.first
    exact Option.some.inj (hc.symm.trans hd) ▸ hblank
  last c hc := by
    have ⟨d, hd, hblank, _⟩ := h.last
    exact Option.some.inj (hc.symm.trans hd) ▸ hblank

theorem hexDigit_ne (n : Nat) : hexDigit n ≠ '\\' ∧ hexDigit n ≠ '"' ∧ hexDigit n ≠ '\n' := by
  have small : ∀ d < 16,
      Nat.digitChar d ≠ '\\' ∧ Nat.digitChar d ≠ '"' ∧ Nat.digitChar d ≠ '\n' := by
    decide
  exact small (n % 16) (Nat.mod_lt n (by decide))

theorem notMem_escapeChar (c : Char) : '\n' ∉ escapeChar c := by
  unfold escapeChar
  split
  case h_8 =>
    split
    case isTrue => simp [(hexDigit_ne _).2.2.symm]
    case isFalse => simpa using Ne.symm ‹¬c = '\n'›
  all_goals decide

-- An escape neither closes the string nor leaves a backslash behind.
theorem run_escapeChar (c : Char) :
    (Quoting.inside '"').run (escapeChar c) = .inside '"' := by
  unfold escapeChar
  split
  case h_8 hquote hslash _ _ _ _ _ =>
    split
    case isTrue => simp [Quoting.next, hexDigit_ne]
    case isFalse =>
      have hnext : (Quoting.inside '"').next c = .inside '"' := by
        rw [Quoting.next, if_neg hslash, if_neg hquote]
      exact hnext
  all_goals decide

theorem run_escaped (cs : List Char) :
    (Quoting.inside '"').run (cs.flatMap escapeChar) = .inside '"' := by
  induction cs with
  | nil => rfl
  | cons c cs ih => simp [Quoting.run_append, run_escapeChar, ih]

theorem sealed_printString (s : String) : Sealed (printString s) where
  closed := by
    have hopen : Quoting.outside.next '"' = .inside '"' := by decide
    have hclose : (Quoting.inside '"').next '"' = .outside := by decide
    simp [printString, Quoting.run_append, hopen, run_escaped, hclose]
  notMem := by
    have hescaped : '\n' ∉ s.toList.flatMap escapeChar := by simp [notMem_escapeChar]
    simp [printString, hescaped]

theorem inline_string (s : String) : Inline (.string s) where
  text := sealed_printString s
  first := ⟨'"', rfl, by decide⟩
  last := ⟨'"', by simp [print, printString, List.getLast?_cons], by decide⟩

theorem inline_null : Inline .null where
  text := sealed_of_all (by decide)
  first := ⟨'n', by decide⟩
  last := ⟨'l', by decide⟩

theorem inline_bool (b : Bool) : Inline (.bool b) := by
  cases b with
  | true => exact ⟨sealed_of_all (by decide), ⟨'t', by decide⟩, ⟨'e', by decide⟩⟩
  | false => exact ⟨sealed_of_all (by decide), ⟨'f', by decide⟩, ⟨'e', by decide⟩⟩

theorem inert_of_isDigit {c : Char} (h : c.isDigit = true) : Script.Inert c :=
  Script.inert_of_isAlphanum (by simp [Char.isAlphanum, h])

namespace Numeral

variable {m : Numeral} {c : Char}

theorem inert_of_mem_decimalsText (h : ∀ ds ∈ m.decimals, AreDigits ds)
    (hc : c ∈ decimalsText m.decimals) : Script.Inert c := by
  cases hd : m.decimals with
  | none => simp [hd, decimalsText] at hc
  | some ds =>
    rw [hd, decimalsText, List.mem_cons] at hc
    rcases hc with rfl | hc
    · decide
    · exact inert_of_isDigit ((h ds hd).isDigit c hc)

theorem inert_of_mem_exponentText (h : ∀ e ∈ m.exponent, AreDigits e.2)
    (hc : c ∈ exponentText m.exponent) : Script.Inert c := by
  cases he : m.exponent with
  | none => simp [he, exponentText] at hc
  | some e =>
    obtain ⟨below, ds⟩ := e
    rw [he, exponentText, List.mem_cons, List.mem_cons] at hc
    rcases hc with rfl | rfl | hc
    · decide
    · split <;> decide
    · exact inert_of_isDigit ((h _ he).isDigit c hc)

theorem inert_of_mem_text (h : m.Written) (hc : c ∈ m.text) : Script.Inert c := by
  simp only [text, List.mem_append] at hc
  rcases hc with hc | hc | hc | hc
  · obtain rfl : c = '-' := by
      cases hn : m.negative <;> simp_all
    decide
  · exact inert_of_isDigit (h.whole.isDigit c hc)
  · exact inert_of_mem_decimalsText h.decimals hc
  · exact inert_of_mem_exponentText h.exponent hc

end Numeral

theorem inline_numeral {j : Json} {m : Numeral} (h : m.Written) (hj : j.print = m.text) :
    Inline j := by
  have hinert : ∀ c ∈ j.print, Script.Inert c := hj ▸ fun _ => Numeral.inert_of_mem_text h
  have hne : j.print ≠ [] := by
    have ⟨c, cs, hcs, _⟩ := exists_text_cons h
    simp [hj, hcs]
  exact {
    text := Script.sealed_of_inert hinert
    first := ⟨_, List.head?_eq_some_head hne, (hinert _ (List.head_mem hne)).2.1⟩
    last := ⟨_, List.getLast?_eq_some_getLast hne, (hinert _ (List.getLast_mem hne)).2⟩ }

theorem inline_int (n : Int) : Inline (.int n) :=
  inline_numeral (Numeral.written_ofInt n) (Numeral.text_ofInt n).symm

theorem sealed_printMoreItems (h : ∀ item ∈ items, Sealed item.print) :
    Sealed (printMoreItems items) := by
  induction items with
  | nil => exact sealed_of_all (by decide)
  | cons item items ih =>
    have ⟨hitem, hitems⟩ := List.forall_mem_cons.1 h
    have hcomma : Sealed [','] := sealed_of_all (by decide)
    exact hcomma.append (hitem.append (ih hitems))

theorem getLast?_printMoreItems (items : List Json) :
    (printMoreItems items).getLast? = some ']' := by
  induction items with
  | nil => rfl
  | cons item items ih => simp [printMoreItems, List.getLast?_cons, ih]

theorem inline_array (h : ∀ item ∈ items, Inline item) : Inline (.array items) where
  text := by
    have hopen : Sealed ['['] := sealed_of_all (by decide)
    refine hopen.append ?_
    cases items with
    | nil => exact sealed_of_all (by decide)
    | cons item items =>
      have ⟨hitem, hitems⟩ := List.forall_mem_cons.1 h
      exact hitem.text.append (sealed_printMoreItems fun item hm => (hitems item hm).text)
  first := ⟨'[', rfl, by decide⟩
  last := by
    refine ⟨']', ?_, by decide⟩
    cases items <;> simp [print, printItems, List.getLast?_cons, getLast?_printMoreItems]

theorem sealed_printMoreFields (h : ∀ field ∈ fields, Sealed field.2.print) :
    Sealed (printMoreFields fields) := by
  induction fields with
  | nil => exact sealed_of_all (by decide)
  | cons field fields ih =>
    have ⟨hfield, hfields⟩ := List.forall_mem_cons.1 h
    have hcomma : Sealed [','] := sealed_of_all (by decide)
    have hcolon : Sealed [':'] := sealed_of_all (by decide)
    have hname := sealed_printString field.1
    simpa [printMoreFields] using
      hcomma.append (hname.append (hcolon.append (hfield.append (ih hfields))))

theorem getLast?_printMoreFields (fields : List (String × Json)) :
    (printMoreFields fields).getLast? = some '\x7d' := by
  induction fields with
  | nil => rfl
  | cons field fields ih => simp [printMoreFields, List.getLast?_cons, ih]

theorem inline_object (h : ∀ field ∈ fields, Inline field.2) : Inline (.object fields) where
  text := by
    have hopen : Sealed ['\x7b'] := sealed_of_all (by decide)
    refine hopen.append ?_
    cases fields with
    | nil => exact sealed_of_all (by decide)
    | cons field fields =>
      have ⟨hfield, hfields⟩ := List.forall_mem_cons.1 h
      have hcolon : Sealed [':'] := sealed_of_all (by decide)
      have hmore := sealed_printMoreFields fun field hm => (hfields field hm).text
      simpa [printFields] using
        (sealed_printString field.1).append (hcolon.append (hfield.text.append hmore))
  first := ⟨'\x7b', rfl, by decide⟩
  last := by
    refine ⟨'\x7d', ?_, by decide⟩
    cases fields <;> simp [print, printFields, List.getLast?_cons, getLast?_printMoreFields]

end QueryConsole.Json
