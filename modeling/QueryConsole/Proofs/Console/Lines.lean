import QueryConsole.Console.Lines
import QueryConsole.Proofs.Text.Encoding

namespace QueryConsole.Console

open Text (Marks bytesOf bytesOf_cons bytesOf_concat marks_of_lt)

variable {k c : Char} {b : UInt8}

section

variable {α : Type} [DecidableEq α] {feed : α} {front rest : List α}

theorem cutLines_append (hne : front ≠ []) (hf : feed ∉ front) :
    cutLines feed (front ++ rest) = prepend front (cutLines feed rest) := by
  induction front with
  | nil => exact absurd rfl hne
  | cons a front ih =>
    have ⟨ha, hfront⟩ := List.ne_and_not_mem_of_not_mem_cons hf
    rw [List.cons_append, cutLines, if_neg ha.symm]
    cases front with
    | nil => rfl
    | cons a' front =>
      rw [ih (List.cons_ne_nil _ _) hfront]
      cases cutLines feed rest <;> rfl

theorem cutLines_line (hf : feed ∉ front) :
    cutLines feed (front ++ feed :: rest) = (front, true) :: cutLines feed rest := by
  have hfeed : cutLines feed (feed :: rest) = ([], true) :: cutLines feed rest := by
    rw [cutLines, if_pos rfl]
  by_cases hne : front = []
  case pos => rw [hne, List.nil_append, hfeed]
  case neg => rw [cutLines_append hne hf, hfeed, prepend, List.append_nil]

end

-- The text consists of these lines, all of them ended.
def Lines (text : String) (lines : List String) : Prop :=
  cutLines '\n' text.toList = lines.map fun line => (line.toList, true)

theorem Lines.nil : Lines "" [] :=
  rfl

theorem Lines.cons {text line : String} {lines : List String} (h : Lines text lines)
    (hline : '\n' ∉ line.toList) : Lines (line ++ "\n" ++ text) (line :: lines) := by
  have htext : (line ++ "\n" ++ text).toList = line.toList ++ '\n' :: text.toList := by simp
  rw [Lines, htext, cutLines_line hline, h, List.map_cons]

-- The bytes of each line.
def bytesOfLine (line : List Char × Bool) : List UInt8 × Bool :=
  (bytesOf line.1, line.2)

theorem prepend_bytesOf (c : Char) (lines : List (List Char × Bool)) :
    (prepend [c] lines).map bytesOfLine =
      prepend (String.utf8EncodeChar c) (lines.map bytesOfLine) := by
  cases lines <;> simp [prepend, bytesOfLine, bytesOf]

theorem cutLines_bytesOf (h : Marks b k) (text : List Char) :
    cutLines b (bytesOf text) = (cutLines k text).map bytesOfLine := by
  induction text with
  | nil => rfl
  | cons c text ih =>
    rw [bytesOf_cons, cutLines]
    by_cases hc : c = k
    case pos =>
      rw [if_pos hc, hc, h.bytes, List.singleton_append, cutLines, if_pos rfl, ih]
      rfl
    case neg =>
      have hb : b ∉ String.utf8EncodeChar c := fun hb => hc (h.only c hb)
      rw [if_neg hc, cutLines_append String.utf8EncodeChar_ne_nil hb, ih, prepend_bytesOf]

theorem withoutEnd_bytesOf (h : Marks b k) (line : List Char × Bool) :
    withoutEnd b (bytesOfLine line) = bytesOf (withoutEnd k line) := by
  obtain ⟨text, ended⟩ := line
  cases ended with
  | false => rfl
  | true =>
    simp only [withoutEnd, bytesOfLine, Bool.true_and, decide_eq_true_eq, h.getLast?_bytesOf]
    split
    case isTrue hk =>
      obtain ⟨front, rfl⟩ := List.getLast?_eq_some_iff.1 hk
      rw [bytesOf_concat, h.bytes, List.dropLast_concat, List.dropLast_concat]
    case isFalse => rfl

theorem linesAt_bytesOf {b' : UInt8} {k' : Char} (h : Marks b k) (h' : Marks b' k')
    (text : List Char) : linesAt b b' (bytesOf text) = (linesAt k k' text).map bytesOf := by
  rw [linesAt, linesAt, cutLines_bytesOf h, List.map_map, List.map_map]
  exact List.map_congr_left fun line _ => withoutEnd_bytesOf h' line

theorem decodeLine_bytesOf (line : List Char) : decodeLine (bytesOf line) = some line := by
  have hvalid : ByteArray.IsValidUTF8 (String.ofList line).toByteArray :=
    (String.ofList line).isValidUTF8
  have hread : String.fromUTF8? (String.ofList line).toByteArray = some (.ofList line) := by
    rw [String.fromUTF8?, dif_pos hvalid]
    rfl
  rw [decodeLine, ← Text.toByteArray_ofList, hread, Option.map_some, String.toList_ofList]

-- The lines of a text in characters.
def textLines (text : String) : List (List Char) :=
  linesAt '\n' '\r' text.toList

theorem linesOf_toUTF8 (text : String) : linesOf text.toUTF8 = (textLines text).map some := by
  have hlines := linesAt_bytesOf (marks_of_lt (k := '\n') (by decide))
    (marks_of_lt (k := '\r') (by decide)) text.toList
  rw [linesOf, Text.toList_toUTF8, textLines]
  refine (congrArg (List.map decodeLine) hlines).trans ?_
  rw [List.map_map]
  exact List.map_congr_left fun line _ => decodeLine_bytesOf line

end QueryConsole.Console
