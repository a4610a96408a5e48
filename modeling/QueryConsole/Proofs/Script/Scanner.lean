import QueryConsole.Proofs.Script.Split
import QueryConsole.Proofs.Text.Encoding
import QueryConsole.Script.Offsets

-- The scanner over bytes and the automaton over characters. Before each character the scanner
-- stands where the automaton has got to (`stand`), but for a quoted run, which it has passed over
-- as soon as the run is opened, and the byte behind a backslash, which it has skipped. Each
-- character keeps them together (`stand_next`, `next_stand`), so in the end they have seen the same
-- (`drain_stand`).
namespace QueryConsole.Script.Offsets

open Text (Marks bytesOf bytesOf_cons marks_of_lt)

variable {bytes : ByteArray} {pos : Nat} {b quote : UInt8} {front rest : List UInt8}
  {st : Quoting} {q c : Char} {cs before after : List Char}

-- From `pos` on the bytes are these.
def RestAt (bytes : ByteArray) (pos : Nat) (rest : List UInt8) : Prop :=
  bytes.data.toList.drop pos = rest

theorem restAt_toUTF8 {text : String} (h : text.toList = before ++ after) :
    RestAt text.toUTF8 (bytesOf before).length (bytesOf after) := by
  rw [RestAt, Text.toList_toUTF8, h, Text.bytesOf_append, List.drop_left]

namespace RestAt

theorem append (h : RestAt bytes pos (front ++ rest)) :
    RestAt bytes (pos + front.length) rest := by
  rw [RestAt, ← List.drop_drop, h, List.drop_left]

theorem tail (h : RestAt bytes pos (b :: rest)) : RestAt bytes (pos + 1) rest := by
  have hsplit : RestAt bytes pos ([b] ++ rest) := h
  exact hsplit.append

theorem getElem?_eq (h : RestAt bytes pos rest) : bytes[pos]? = rest.head? := by
  have hdata : bytes[pos]? = bytes.data[pos]? := by
    by_cases hlt : pos < bytes.size
    case pos => rw [getElem?_pos bytes pos hlt, getElem?_pos bytes.data pos hlt]; rfl
    case neg => rw [getElem?_neg bytes pos hlt, getElem?_neg bytes.data pos hlt]
  rw [hdata, ← Array.getElem?_toList, ← List.head?_drop, h]

theorem exists_getElem (h : RestAt bytes pos (b :: rest)) :
    ∃ hlt : pos < bytes.size, bytes[pos] = b :=
  getElem?_eq_some_iff.1 h.getElem?_eq

theorem size_le (h : RestAt bytes pos []) : bytes.size ≤ pos :=
  List.drop_eq_nil_iff.1 h

end RestAt

theorem endOfQuoted_of_le (h : bytes.size ≤ pos) : endOfQuoted bytes quote pos = none := by
  rw [endOfQuoted, dif_neg (Nat.not_lt.2 h)]

theorem endOfQuoted_backslash (h : RestAt bytes pos (backslash :: rest)) :
    endOfQuoted bytes quote pos = endOfQuoted bytes quote (pos + 2) := by
  obtain ⟨hlt, hb⟩ := h.exists_getElem
  rw [endOfQuoted, dif_pos hlt, if_pos hb]

theorem endOfQuoted_quote (h : RestAt bytes pos (quote :: rest)) (hq : quote ≠ backslash) :
    endOfQuoted bytes quote pos = some (pos + 1) := by
  obtain ⟨hlt, hb⟩ := h.exists_getElem
  rw [endOfQuoted, dif_pos hlt, hb, if_neg hq, if_pos rfl]

theorem endOfQuoted_append (h : RestAt bytes pos (front ++ rest)) (hb : backslash ∉ front)
    (hq : quote ∉ front) :
    endOfQuoted bytes quote pos = endOfQuoted bytes quote (pos + front.length) := by
  induction front generalizing pos with
  | nil => rfl
  | cons b front ih =>
    have ⟨hne, hfront⟩ := List.ne_and_not_mem_of_not_mem_cons hb
    have ⟨hneq, hqfront⟩ := List.ne_and_not_mem_of_not_mem_cons hq
    obtain ⟨hlt, hget⟩ := h.exists_getElem
    rw [endOfQuoted, dif_pos hlt, hget, if_neg hne.symm, if_neg hneq.symm,
      ih h.tail hfront hqfront, List.length_cons, Nat.add_right_comm, Nat.add_assoc]

namespace Scanner

variable {s t last : Scanner}

theorem next_of_le (h : s.bytes.size ≤ s.pos) : s.next = (none, s) := by
  rw [next, dif_neg (Nat.not_lt.2 h)]

theorem next_plain (h : RestAt bytes pos (b :: rest)) (hb : isQuoteByte b = false) :
    next ⟨bytes, pos, false⟩ = (some (pos, b), ⟨bytes, pos + 1, false⟩) := by
  obtain ⟨hlt, hget⟩ := h.exists_getElem
  rw [next]
  simp [hlt, hget, hb]

-- The scanner behind a quoted run that ends at this position, or that is not closed.
def past (bytes : ByteArray) : Option Nat → Scanner
  | some stop => ⟨bytes, stop, false⟩
  | none => ⟨bytes, bytes.size, true⟩

theorem next_quote (h : RestAt bytes pos (b :: rest)) (hb : isQuoteByte b = true) :
    next ⟨bytes, pos, false⟩ = (past bytes (endOfQuoted bytes b (pos + 1))).next := by
  obtain ⟨hlt, rfl⟩ := h.exists_getElem
  rw [next, dif_pos hlt, if_pos hb]
  split
  case h_1 stop hstop =>
    rw [hstop]
    rfl
  case h_2 hopen =>
    rw [hopen, next_of_le (Nat.le_refl _)]
    rfl

theorem drain_of_none (h : s.next = (none, last)) : s.drain = ([], last) := by
  rw [drain]
  split
  case h_1 h' =>
    cases h.symm.trans h'
    rfl
  case h_2 h' => cases h.symm.trans h'

theorem drain_of_some {found : Nat × UInt8} (h : s.next = (some found, t)) :
    s.drain = (found :: t.drain.1, t.drain.2) := by
  rw [drain]
  split
  case h_1 h' => cases h.symm.trans h'
  case h_2 h' =>
    cases h.symm.trans h'
    rfl

theorem drain_congr (h : s.next = t.next) : s.drain = t.drain := by
  rcases ht : t.next with ⟨_ | found, later⟩
  case none => rw [drain_of_none ht, drain_of_none (h.trans ht)]
  case some => rw [drain_of_some ht, drain_of_some (h.trans ht)]

-- Asking the scanner `s` for bytes until there is none gives `found`, and leaves `last`.
inductive Drives : Scanner → List (Nat × UInt8) → Scanner → Prop
  | stop {s last : Scanner} : s.next = (none, last) → Drives s [] last
  | more {s t last : Scanner} {y : Nat × UInt8} {found : List (Nat × UInt8)} :
    s.next = (some y, t) → Drives t found last → Drives s (y :: found) last

theorem drives_drain (s : Scanner) : Drives s s.drain.1 s.drain.2 := by
  fun_induction drain s with
  | case1 s last h => exact .stop h
  | case2 s y t h _ found last heq ih =>
    rw [heq] at ih
    exact .more h ih

theorem Drives.le_of_mem {found : List (Nat × UInt8)} (h : Drives s found last) :
    ∀ y ∈ found, s.pos ≤ y.1 := by
  induction h with
  | stop => exact nofun
  | more h d ih =>
    have hfound := found_of_next h
    refine List.forall_mem_cons.2 ⟨hfound.le, fun y hy => ?_⟩
    have hlater := ih y hy
    rw [hfound.next] at hlater
    exact Nat.le_trans (Nat.le_succ_of_le hfound.le) hlater

theorem Drives.pairwise {found : List (Nat × UInt8)} (h : Drives s found last) :
    (found.map Prod.fst).Pairwise (· < ·) := by
  induction h with
  | stop => exact .nil
  | more h d ih =>
    rw [List.map_cons, List.pairwise_cons]
    refine ⟨fun pos hpos => ?_, ih⟩
    obtain ⟨y, hy, rfl⟩ := List.mem_map.1 hpos
    have hlater := d.le_of_mem y hy
    rw [(found_of_next h).next] at hlater
    exact hlater

end Scanner

theorem marks_semicolon : Marks semicolon ';' :=
  marks_of_lt (k := ';') (by decide)

theorem marks_backslash : Marks backslash '\\' :=
  marks_of_lt (k := '\\') (by decide)

def quoteByte (q : Char) : UInt8 :=
  .ofNat q.toNat

theorem toNat_lt_of_isQuote (hq : isQuote q = true) : q.toNat < 0x80 := by
  rcases isQuote_iff.1 hq with rfl | rfl <;> decide

theorem marks_quoteByte (hq : isQuote q = true) : Marks (quoteByte q) q :=
  marks_of_lt (toNat_lt_of_isQuote hq)

theorem quoteByte_ne_backslash (hq : isQuote q = true) : quoteByte q ≠ backslash := by
  rcases isQuote_iff.1 hq with rfl | rfl <;> decide

theorem isQuoteByte_quoteByte (hq : isQuote q = true) : isQuoteByte (quoteByte q) = true := by
  rcases isQuote_iff.1 hq with rfl | rfl <;> rfl

theorem exists_of_isQuoteByte (hb : isQuoteByte b = true) :
    ∃ q, isQuote q = true ∧ b = quoteByte q := by
  have h : b = 0x27 ∨ b = 0x22 := by simpa [isQuoteByte] using hb
  rcases h with rfl | rfl
  · exact ⟨'\'', rfl, rfl⟩
  · exact ⟨'"', rfl, rfl⟩

theorem isQuoteByte_of_mem (hc : isQuote c = false) (hm : b ∈ String.utf8EncodeChar c) :
    isQuoteByte b = false := by
  refine Bool.eq_false_iff.2 fun hb => ?_
  obtain ⟨q, hq, rfl⟩ := exists_of_isQuoteByte hb
  obtain rfl := (marks_quoteByte hq).only c hm
  exact nomatch hc.symm.trans hq

-- A quoted run was opened by a quote.
def Opened (st : Quoting) : Prop :=
  ∀ q, st.quote? = some q → isQuote q = true

theorem opened_outside : Opened .outside :=
  nofun

theorem Opened.next (h : Opened st) (c : Char) : Opened (st.next c) :=
  Quoting.isQuote_of_run st h [c]

-- Where the scanner stands when the automaton has come to `pos` and is in the state `st`.
def stand (bytes : ByteArray) (pos : Nat) : Quoting → Scanner
  | .outside => ⟨bytes, pos, false⟩
  | .inside q => .past bytes (endOfQuoted bytes (quoteByte q) pos)
  | .escaped q => .past bytes (endOfQuoted bytes (quoteByte q) (pos + 1))

theorem bytes_past (bytes : ByteArray) (stop? : Option Nat) :
    (Scanner.past bytes stop?).bytes = bytes := by
  cases stop? <;> rfl

theorem stand_bytes (bytes : ByteArray) (pos : Nat) (st : Quoting) :
    (stand bytes pos st).bytes = bytes := by
  cases st with
  | outside => rfl
  | inside | escaped => exact bytes_past ..

-- In a quoted run the scanner is past the run all the time.
theorem stand_next (h : RestAt bytes pos (String.utf8EncodeChar c ++ rest))
    (hq : st.quote? = some q) (hquote : isQuote q = true) :
    stand bytes pos st = stand bytes (pos + (String.utf8EncodeChar c).length) (st.next c) := by
  have hmarks := marks_quoteByte hquote
  cases st with
  | outside => exact nomatch hq
  | inside q' =>
    obtain rfl : q = q' := (Option.some.inj hq).symm
    by_cases hb : c = '\\'
    case pos =>
      subst hb
      rw [marks_backslash.bytes] at h ⊢
      rw [stand, endOfQuoted_backslash h]
      rfl
    case neg =>
      by_cases hc : c = q
      case pos =>
        subst hc
        rw [hmarks.bytes] at h ⊢
        rw [stand, endOfQuoted_quote h (quoteByte_ne_backslash hquote), Quoting.next, if_neg hb,
          if_pos rfl]
        rfl
      case neg =>
        have hbyte : backslash ∉ String.utf8EncodeChar c :=
          fun hm => hb (marks_backslash.only c hm)
        have hend : quoteByte q ∉ String.utf8EncodeChar c := fun hm => hc (hmarks.only c hm)
        rw [stand, endOfQuoted_append h hbyte hend, Quoting.next, if_neg hb, if_neg hc]
        rfl
  | escaped q' =>
    obtain rfl : q = q' := (Option.some.inj hq).symm
    -- The first byte of the character has gone with the backslash. What is left of it is no quote
    -- and no backslash.
    obtain ⟨b, more, hc⟩ := List.exists_cons_of_ne_nil (String.utf8EncodeChar_ne_nil (c := c))
    have hbyte := marks_backslash.notMem_tail c
    have hend := hmarks.notMem_tail c
    rw [hc] at h hbyte hend ⊢
    have htail : RestAt bytes (pos + 1) (more ++ rest) := h.tail
    rw [stand, endOfQuoted_append htail hbyte hend, List.length_cons, Nat.add_right_comm]
    rfl

-- A character that is not to be found moves the automaton, and the scanner goes on as before.
theorem next_stand (h : RestAt bytes pos (String.utf8EncodeChar c ++ rest))
    (hst : Opened st) (hc : ¬(st = .outside ∧ isQuote c = false)) :
    (stand bytes pos st).next =
      (stand bytes (pos + (String.utf8EncodeChar c).length) (st.next c)).next := by
  cases st with
  | outside =>
    have hquote : isQuote c = true := by simpa using hc
    rw [(marks_quoteByte hquote).bytes] at h ⊢
    rw [stand, Scanner.next_quote h (isQuoteByte_quoteByte hquote), Quoting.next, if_pos hquote]
    rfl
  | inside q => exact congrArg Scanner.next (stand_next h rfl (hst q rfl))
  | escaped q => exact congrArg Scanner.next (stand_next h rfl (hst q rfl))

theorem stand_of_size_le (h : bytes.size ≤ pos) (st : Quoting) :
    (stand bytes pos st).next = (none, stand bytes pos st) ∧
      (stand bytes pos st).unterminated = st.isOpen := by
  cases st with
  | outside => exact ⟨Scanner.next_of_le h, rfl⟩
  | inside q =>
    rw [stand, endOfQuoted_of_le h]
    exact ⟨Scanner.next_of_le (Nat.le_refl _), rfl⟩
  | escaped q =>
    rw [stand, endOfQuoted_of_le (Nat.le_succ_of_le h)]
    exact ⟨Scanner.next_of_le (Nat.le_refl _), rfl⟩

-- Bytes with their positions, the first of which is `pos`.
def placed (pos : Nat) (rest : List UInt8) : List (Nat × UInt8) :=
  (rest.zipIdx pos).map Prod.swap

theorem placed_cons (pos : Nat) (b : UInt8) (rest : List UInt8) :
    placed pos (b :: rest) = (pos, b) :: placed (pos + 1) rest :=
  rfl

theorem mem_placed_iff {y : Nat × UInt8} :
    y ∈ placed pos rest ↔ ∃ i, rest[i]? = some y.2 ∧ y.1 = pos + i := by
  rw [placed, List.mem_map]
  constructor
  · rintro ⟨⟨b, n⟩, hmem, rfl⟩
    have ⟨hle, hget⟩ := List.mk_mem_zipIdx_iff_le_and_getElem?_sub.1 hmem
    exact ⟨n - pos, hget, (Nat.add_sub_cancel' hle).symm⟩
  · rintro ⟨i, hget, hpos⟩
    refine ⟨y.swap, List.mk_mem_zipIdx_iff_le_and_getElem?_sub.2 ?_, y.swap_swap⟩
    rw [hpos, Nat.add_sub_cancel_left]
    exact ⟨Nat.le_add_right pos i, hget⟩

-- The bytes of the characters outside quoted runs, for a text that begins at `pos`.
def unquotedFrom : Quoting → Nat → List Char → List (Nat × UInt8)
  | _, _, [] => []
  | st, pos, c :: cs =>
    let more := unquotedFrom (st.next c) (pos + (String.utf8EncodeChar c).length) cs
    if st = .outside ∧ isQuote c = false then placed pos (String.utf8EncodeChar c) ++ more
    else more

-- A character that the automaton meets outside quotes, and that opens none.
structure PlainAt (st : Quoting) (cs before : List Char) (c : Char) (after : List Char) : Prop where
  eq : cs = before ++ c :: after
  outside : st.run before = .outside
  plain : isQuote c = false

theorem plainAt_nil_iff {d : Char} :
    PlainAt st (c :: cs) [] d after ↔ st = .outside ∧ isQuote c = false ∧ d = c ∧ after = cs := by
  constructor
  · rintro ⟨heq, hst, hplain⟩
    obtain ⟨rfl, rfl⟩ := List.cons.inj heq
    exact ⟨hst, hplain, rfl, rfl⟩
  · rintro ⟨hst, hplain, rfl, rfl⟩
    exact ⟨rfl, hst, hplain⟩

theorem plainAt_cons_iff {d e : Char} :
    PlainAt st (c :: cs) (d :: before) e after ↔
      d = c ∧ PlainAt (st.next c) cs before e after := by
  constructor
  · rintro ⟨heq, hst, hplain⟩
    obtain ⟨rfl, rfl⟩ := List.cons.inj heq
    exact ⟨rfl, rfl, hst, hplain⟩
  · rintro ⟨rfl, rfl, hst, hplain⟩
    exact ⟨rfl, hst, hplain⟩

theorem mem_unquotedFrom_cons {y : Nat × UInt8} :
    y ∈ unquotedFrom st pos (c :: cs) ↔
      (st = .outside ∧ isQuote c = false) ∧ y ∈ placed pos (String.utf8EncodeChar c) ∨
        y ∈ unquotedFrom (st.next c) (pos + (String.utf8EncodeChar c).length) cs := by
  rw [unquotedFrom]
  split
  case isTrue h => rw [List.mem_append, and_iff_right h]
  case isFalse h => exact ⟨.inr, fun hm => hm.resolve_left fun hm => h hm.1⟩

theorem mem_unquotedFrom_iff {y : Nat × UInt8} :
    y ∈ unquotedFrom st pos cs ↔ ∃ before c after i, PlainAt st cs before c after ∧
      (String.utf8EncodeChar c)[i]? = some y.2 ∧ y.1 = pos + (bytesOf before).length + i := by
  induction cs generalizing st pos with
  | nil =>
    refine ⟨nofun, ?_⟩
    rintro ⟨before, c, after, i, hplain, -⟩
    exact nomatch (List.append_eq_nil_iff.1 hplain.eq.symm).2
  | cons c cs ih =>
    have hlength (before : List Char) : pos + (bytesOf (c :: before)).length =
        pos + (String.utf8EncodeChar c).length + (bytesOf before).length := by
      rw [bytesOf_cons, List.length_append, Nat.add_assoc]
    rw [mem_unquotedFrom_cons, mem_placed_iff, ih]
    constructor
    · rintro (⟨⟨hst, hc⟩, i, hi, hpos⟩ | ⟨before, d, after, i, hplain, hi, hpos⟩)
      · exact ⟨[], c, cs, i, plainAt_nil_iff.2 ⟨hst, hc, rfl, rfl⟩, hi, hpos⟩
      · exact ⟨c :: before, d, after, i, plainAt_cons_iff.2 ⟨rfl, hplain⟩, hi,
          hlength before ▸ hpos⟩
    · rintro ⟨_ | ⟨d, before⟩, e, after, i, hplain, hi, hpos⟩
      · obtain ⟨hst, hc, rfl, rfl⟩ := plainAt_nil_iff.1 hplain
        exact .inl ⟨⟨hst, hc⟩, i, hi, hpos⟩
      · obtain ⟨rfl, hplain⟩ := plainAt_cons_iff.1 hplain
        exact .inr ⟨before, e, after, i, hplain, hi, hlength before ▸ hpos⟩

theorem drain_placed (h : RestAt bytes pos (front ++ rest))
    (hf : ∀ b ∈ front, isQuoteByte b = false) :
    (stand bytes pos .outside).drain =
      (placed pos front ++ (stand bytes (pos + front.length) .outside).drain.1,
        (stand bytes (pos + front.length) .outside).drain.2) := by
  induction front generalizing pos with
  | nil => rfl
  | cons b front ih =>
    have ⟨hb, hfront⟩ := List.forall_mem_cons.1 hf
    have hlater := ih h.tail hfront
    rw [stand, Scanner.drain_of_some (Scanner.next_plain h hb)]
    rw [stand] at hlater
    rw [hlater, List.length_cons, placed_cons]
    simp only [List.cons_append, Nat.add_assoc, Nat.add_comm 1]

theorem drain_stand (h : RestAt bytes pos (bytesOf cs)) (hst : Opened st) :
    (stand bytes pos st).drain.1 = unquotedFrom st pos cs ∧
      (stand bytes pos st).drain.2.unterminated = (st.run cs).isOpen := by
  induction cs generalizing st pos with
  | nil =>
    have ⟨hnext, hopen⟩ := stand_of_size_le h.size_le st
    rw [Scanner.drain_of_none hnext]
    exact ⟨rfl, hopen⟩
  | cons c cs ih =>
    have hnext := ih h.append (hst.next c)
    by_cases hc : st = .outside ∧ isQuote c = false
    case pos =>
      obtain ⟨rfl, hplain⟩ := hc
      have hstay := Quoting.next_outside_of_not_quote hplain
      have ⟨hmore, hopen⟩ := hnext
      rw [hstay] at hmore hopen
      rw [drain_placed h fun b hb => isQuoteByte_of_mem hplain hb, unquotedFrom,
        if_pos ⟨rfl, hplain⟩, Quoting.run_cons, hstay, hmore]
      exact ⟨rfl, hopen⟩
    case neg =>
      rw [Scanner.drain_congr (next_stand h hst hc), unquotedFrom, if_neg hc]
      exact hnext

end QueryConsole.Script.Offsets
