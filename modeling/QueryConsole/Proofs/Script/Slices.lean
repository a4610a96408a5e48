import QueryConsole.Proofs.Script.Continuation
import QueryConsole.Proofs.Script.Scanner

namespace QueryConsole.Script.Offsets

open Text (Marks bytesOf bytesOf_append marks_of_lt)

variable {bytes : ByteArray} {pos : Nat} {b : UInt8} {rest : List UInt8} {st : Quoting} {c : Char}
  {text : String} {cs before piece front after : List Char} {pieces : List (List Char)}

theorem length_bytesOf_concat (before : List Char) (c : Char) :
    (bytesOf (before ++ [c])).length =
      (bytesOf before).length + (String.utf8EncodeChar c).length := by
  rw [Text.bytesOf_concat, List.length_append]

theorem utf8ByteSize_eq (text : String) : text.utf8ByteSize = (bytesOf text.toList).length := by
  rw [← String.size_toByteArray, ← Text.toList_toUTF8, String.toUTF8_eq_toByteArray]
  rfl

theorem isValid_of_append (h : text.toList = before ++ after) :
    String.Pos.Raw.IsValid text ⟨(bytesOf before).length⟩ := by
  refine String.Pos.Raw.isValid_iff_exists_append.2 ⟨.ofList before, .ofList after, ?_, ?_⟩
  · rw [← String.ofList_append, ← h, String.ofList_toList]
  · rw [String.Pos.Raw.ext_iff, String.byteIdx_rawEndPos, utf8ByteSize_eq, String.toList_ofList]

theorem sliceable_of_append (h : text.toList = before ++ (piece ++ after)) :
    Sliceable text (bytesOf before).length (bytesOf (before ++ piece)).length where
  le := by
    rw [bytesOf_append, List.length_append]
    exact Nat.le_add_right _ _
  start := isValid_of_append h
  stop := isValid_of_append (h.trans (List.append_assoc before piece after).symm)

theorem slice?_eq (h : text.toList = before ++ (piece ++ after)) :
    slice? text (bytesOf before).length (bytesOf (before ++ piece)).length =
      some (.ofList piece) := by
  have hbytes : text.toByteArray.data.toList =
      bytesOf before ++ (bytesOf piece ++ bytesOf after) := by
    rw [← String.toUTF8_eq_toByteArray, Text.toList_toUTF8, h, bytesOf_append, bytesOf_append]
  rw [slice?, dif_pos (sliceable_of_append h), Option.some.injEq, ← String.toByteArray_inj,
    String.toByteArray_extract, Text.toByteArray_ofList]
  refine ByteArray.ext (Array.toList_inj.1 ?_)
  rw [ByteArray.data_extract, Array.toList_extract, hbytes, String.offset_pos, String.offset_pos,
    List.extract_eq_take_drop, bytesOf_append, List.length_append, Nat.add_sub_cancel_left,
    List.drop_left, List.take_left]

theorem slice?_last (h : text.toList = before ++ piece) :
    slice? text (bytesOf before).length text.utf8ByteSize = some (.ofList piece) := by
  have hall : text.toList = before ++ (piece ++ []) := by rw [List.append_nil, h]
  rw [utf8ByteSize_eq, h, slice?_eq hall]

-- The test says of a position what the other says of the characters from there on.
def Agree (bytes : ByteArray) (isCutAt : Nat → Bool) (isCut : List Char → Bool) : Prop :=
  ∀ pos cs, RestAt bytes pos (bytesOf cs) → isCutAt pos = isCut cs

section

variable {isCutAt : Nat → Bool} {isCut : List Char → Bool}

theorem semicolons_append (found more : List (Nat × UInt8)) :
    semicolons isCutAt (found ++ more) = semicolons isCutAt found ++ semicolons isCutAt more :=
  List.filterMap_append

theorem semicolons_placed (h : semicolon ∉ rest) : semicolons isCutAt (placed pos rest) = [] := by
  refine List.filterMap_eq_nil_iff.2 fun y hy => if_neg fun hb => ?_
  obtain ⟨i, hget, -⟩ := mem_placed_iff.1 hy
  exact h (hb.1 ▸ List.mem_of_getElem? hget)

theorem unquotedFrom_semicolon (pos : Nat) (cs : List Char) :
    unquotedFrom .outside pos (';' :: cs) =
      (pos, semicolon) :: unquotedFrom .outside (pos + 1) cs := by
  rw [unquotedFrom, marks_semicolon.bytes]
  rfl

theorem semicolons_cut (h : isCutAt (pos + 1) = true) (cs : List Char) :
    semicolons isCutAt (unquotedFrom .outside pos (';' :: cs)) =
      pos :: semicolons isCutAt (unquotedFrom .outside (pos + 1) cs) := by
  rw [unquotedFrom_semicolon]
  simp [semicolons, h]

theorem semicolons_of_not (h : ¬(st = .outside ∧ c = ';' ∧ isCutAt (pos + 1) = true))
    (cs : List Char) :
    semicolons isCutAt (unquotedFrom st pos (c :: cs)) =
      semicolons isCutAt
        (unquotedFrom (st.next c) (pos + (String.utf8EncodeChar c).length) cs) := by
  rw [unquotedFrom]
  split
  case isFalse => rfl
  case isTrue hplain =>
    have hnone : semicolons isCutAt (placed pos (String.utf8EncodeChar c)) = [] := by
      by_cases hc : c = ';'
      case pos =>
        subst hc
        have hpos : ¬isCutAt (pos + 1) = true := fun hcut => h ⟨hplain.1, rfl, hcut⟩
        simp [marks_semicolon.bytes, placed, semicolons, hpos]
      case neg => exact semicolons_placed fun hm => hc (marks_semicolon.only c hm)
    rw [semicolons_append, hnone, List.nil_append]

theorem slicesFrom?_cut (h : text.toList = before ++ (front ++ ';' :: cs))
    (hcut : isCutAt ((bytesOf (before ++ front)).length + 1) = true) :
    let behind := (bytesOf (before ++ front ++ [';'])).length
    slicesFrom? text (bytesOf before).length
        (semicolons isCutAt (unquotedFrom .outside (bytesOf (before ++ front)).length
          (';' :: cs))) = do
      let pieces ← slicesFrom? text behind (semicolons isCutAt (unquotedFrom .outside behind cs))
      return .ofList front :: pieces := by
  have hbehind : (bytesOf (before ++ front ++ [';'])).length =
      (bytesOf (before ++ front)).length + 1 := by
    rw [length_bytesOf_concat, marks_semicolon.bytes]
    rfl
  rw [semicolons_cut hcut, slicesFrom?, slice?_eq h, hbehind]
  rfl

-- The slices continue `front`, which has been passed since the last cut.
theorem slicesFrom?_eq (hagree : Agree text.toUTF8 isCutAt isCut)
    (h : text.toList = before ++ (front ++ cs)) (hp : cutFrom isCut st cs = piece :: pieces) :
    slicesFrom? text (bytesOf before).length
        (semicolons isCutAt (unquotedFrom st (bytesOf (before ++ front)).length cs)) =
      some (((front ++ piece) :: pieces).map .ofList) := by
  induction cs generalizing before front st piece pieces with
  | nil =>
    obtain ⟨rfl, rfl⟩ := List.cons.inj hp
    have hlast : text.toList = before ++ (front ++ []) := h
    rw [List.append_nil] at hlast ⊢
    rw [unquotedFrom, semicolons, List.filterMap_nil, slicesFrom?, slice?_last hlast]
    rfl
  | cons c cs ih =>
    have hbehind : text.toList = (before ++ front ++ [c]) ++ ([] ++ cs) := by simp [h]
    have hlength := length_bytesOf_concat (before ++ front) c
    have hsame (hc : c = ';') : isCutAt ((bytesOf (before ++ front)).length + 1) = isCut cs := by
      subst hc
      rw [marks_semicolon.bytes] at hlength
      exact hagree _ _ (hlength ▸ restAt_toUTF8 hbehind)
    by_cases hcut : st = .outside ∧ c = ';' ∧ isCut cs = true
    case pos =>
      obtain ⟨rfl, rfl, hpass⟩ := hcut
      obtain ⟨next, later, hnext⟩ := exists_cutFrom_eq isCut .outside cs
      have hlater := ih hbehind hnext
      rw [List.append_nil] at hlater
      rw [cutFrom_semicolon hpass, hnext] at hp
      obtain ⟨rfl, rfl⟩ := List.cons.inj hp
      rw [slicesFrom?_cut h ((hsame rfl).trans hpass), hlater]
      simp
    case neg =>
      obtain ⟨next, later, hnext⟩ := exists_cutFrom_eq isCut (st.next c) cs
      have hpassed : text.toList = before ++ ((front ++ [c]) ++ cs) := by simp [h]
      have hlater := ih hpassed hnext
      rw [cutFrom_cons_of_not hcut, hnext] at hp
      obtain ⟨rfl, rfl⟩ := List.cons.inj hp
      have hcutAt : ¬(st = .outside ∧ c = ';' ∧
          isCutAt ((bytesOf (before ++ front)).length + 1) = true) := by
        rintro ⟨hst, hc, hpass⟩
        exact hcut ⟨hst, hc, hsame hc ▸ hpass⟩
      rw [semicolons_of_not hcutAt, ← hlength, List.append_assoc before, hlater]
      simp

end

theorem marks_lineFeed : Marks lineFeed '\n' :=
  marks_of_lt (k := '\n') (by decide)

theorem marks_carriageReturn : Marks carriageReturn '\r' :=
  marks_of_lt (k := '\r') (by decide)

theorem RestAt.getElem?_eq_some_iff {k : Char} (h : RestAt bytes pos (bytesOf cs))
    (hm : Marks b k) : bytes[pos]? = some b ↔ cs.head? = some k := by
  rw [h.getElem?_eq, hm.head?_bytesOf]

theorem RestAt.behind {k : Char} (h : RestAt bytes pos (bytesOf (k :: cs))) (hm : Marks b k) :
    RestAt bytes (pos + 1) (bytesOf cs) := by
  rw [hm.bytesOf_cons] at h
  exact h.tail

theorem breakLength?_of_isBreak {br : List Char} (hbr : IsBreak br)
    (h : RestAt bytes pos (bytesOf (br ++ after))) : breakLength? bytes pos = some br.length := by
  rcases hbr with rfl | rfl
  · rw [breakLength?, if_pos ((h.getElem?_eq_some_iff marks_lineFeed).2 rfl)]
    rfl
  · have hfeed : bytes[pos]? ≠ some lineFeed := by
      rw [Ne, h.getElem?_eq_some_iff marks_lineFeed]
      exact nofun
    have hret : bytes[pos]? = some carriageReturn :=
      (h.getElem?_eq_some_iff marks_carriageReturn).2 rfl
    have hlast : bytes[pos + 1]? = some lineFeed :=
      ((h.behind marks_carriageReturn).getElem?_eq_some_iff marks_lineFeed).2 rfl
    rw [breakLength?, if_neg hfeed, if_pos ⟨hret, hlast⟩]
    rfl

theorem breakLength?_of_not (h : RestAt bytes pos (bytesOf cs))
    (hcs : startsWithBreak cs = false) : breakLength? bytes pos = none := by
  have hfeed : bytes[pos]? ≠ some lineFeed := by
    rw [Ne, h.getElem?_eq_some_iff marks_lineFeed]
    intro hhead
    obtain ⟨more, rfl⟩ := List.head?_eq_some_iff.1 hhead
    exact nomatch hcs
  have hret : ¬(bytes[pos]? = some carriageReturn ∧ bytes[pos + 1]? = some lineFeed) := by
    rintro ⟨hhead, hlast⟩
    obtain ⟨more, rfl⟩ :=
      List.head?_eq_some_iff.1 ((h.getElem?_eq_some_iff marks_carriageReturn).1 hhead)
    have hmore := (h.behind marks_carriageReturn).getElem?_eq_some_iff marks_lineFeed
    obtain ⟨more, rfl⟩ := List.head?_eq_some_iff.1 (hmore.1 hlast)
    exact nomatch hcs
  rw [breakLength?, if_neg hfeed, if_neg hret]

theorem agree_startsWithBreak (bytes : ByteArray) :
    Agree bytes (fun pos => (breakLength? bytes pos).isSome) startsWithBreak := by
  intro pos cs h
  cases hcs : startsWithBreak cs with
  | false => exact congrArg Option.isSome (breakLength?_of_not h hcs)
  | true =>
    obtain ⟨br, after, hbr, rfl⟩ := startsWithBreak_iff_isBreak.1 hcs
    exact congrArg Option.isSome (breakLength?_of_isBreak hbr h)

theorem behindMarker?_of_isBreak {br : List Char} (hbr : IsBreak br)
    (h : RestAt bytes pos (bytesOf (';' :: '\\' :: (br ++ after)))) :
    behindMarker? bytes pos semicolon = some (pos + 2 + br.length) := by
  have hslash := h.behind marks_semicolon
  rw [behindMarker?, if_pos ⟨rfl, (hslash.getElem?_eq_some_iff marks_backslash).2 rfl⟩,
    breakLength?_of_isBreak hbr (hslash.behind marks_backslash)]
  rfl

theorem behindMarker?_of_not (h : RestAt bytes pos (bytesOf (';' :: cs)))
    (hcs : startsContinuation cs = false) : behindMarker? bytes pos semicolon = none := by
  have hslash := h.behind marks_semicolon
  rw [behindMarker?]
  split
  case isFalse => rfl
  case isTrue hb =>
    obtain ⟨more, rfl⟩ :=
      List.head?_eq_some_iff.1 ((hslash.getElem?_eq_some_iff marks_backslash).1 hb.2)
    rw [breakLength?_of_not (hslash.behind marks_backslash) hcs]
    rfl

section

variable {copied : Nat} {s t last : Scanner} {found : List UInt8}

theorem joinFrom?_of_none (h : s.next = (none, last)) :
    joinFrom? text copied s = slice? text copied text.utf8ByteSize := by
  rw [joinFrom?]
  split
  case h_1 => rfl
  case h_2 h' => cases h.symm.trans h'

theorem joinFrom?_of_not (h : s.next = (some (pos, b), t))
    (hb : behindMarker? s.bytes pos b = none) :
    joinFrom? text copied s = joinFrom? text copied t := by
  rw [joinFrom?]
  split
  case h_1 h' => cases h.symm.trans h'
  case h_2 h' =>
    cases h.symm.trans h'
    simp only [hb]

theorem joinFrom?_of_marker {behind : Nat} (h : s.next = (some (pos, b), t))
    (hb : behindMarker? s.bytes pos b = some behind) :
    joinFrom? text copied s = do
      let front ← slice? text copied (pos + 1)
      let rest ← joinFrom? text behind (t.skipTo behind)
      return front ++ rest := by
  rw [joinFrom?]
  split
  case h_1 h' => cases h.symm.trans h'
  case h_2 h' =>
    cases h.symm.trans h'
    simp only [hb]

theorem joinFrom?_congr (hbytes : s.bytes = t.bytes) (h : s.next = t.next) :
    joinFrom? text copied s = joinFrom? text copied t := by
  rcases ht : t.next with ⟨_ | ⟨pos, b⟩, later⟩
  case none => rw [joinFrom?_of_none ht, joinFrom?_of_none (h.trans ht)]
  case some =>
    cases hb : behindMarker? t.bytes pos b with
    | none => rw [joinFrom?_of_not ht hb, joinFrom?_of_not (h.trans ht) (hbytes ▸ hb)]
    | some behind =>
      rw [joinFrom?_of_marker ht hb, joinFrom?_of_marker (h.trans ht) (hbytes ▸ hb)]

theorem skipTo_eq_stand (bytes : ByteArray) {pos stop : Nat} (h : pos ≤ stop) :
    Scanner.skipTo ⟨bytes, pos, false⟩ stop = stand bytes stop .outside := by
  rw [Scanner.skipTo, Nat.max_eq_right h, stand]

theorem joinFrom?_placed (h : RestAt bytes pos (found ++ rest))
    (hf : ∀ b ∈ found, isQuoteByte b = false) (hs : semicolon ∉ found) :
    joinFrom? text copied (stand bytes pos .outside) =
      joinFrom? text copied (stand bytes (pos + found.length) .outside) := by
  induction found generalizing pos with
  | nil => rfl
  | cons b found ih =>
    have ⟨hb, hfound⟩ := List.forall_mem_cons.1 hf
    have ⟨hne, hmore⟩ := List.ne_and_not_mem_of_not_mem_cons hs
    have hnone : behindMarker? bytes pos b = none := if_neg fun hm => hne hm.1.symm
    have hlater := ih h.tail hfound hmore
    rw [List.length_cons, ← Nat.add_assoc, Nat.add_right_comm, ← hlater]
    exact joinFrom?_of_not (Scanner.next_plain h hb) hnone

theorem joinFrom?_next (h : RestAt bytes pos (bytesOf (c :: cs))) (hst : Opened st)
    (hc : ¬(st = .outside ∧ c = ';' ∧ startsContinuation cs = true)) :
    joinFrom? text copied (stand bytes pos st) =
      joinFrom? text copied (stand bytes (pos + (String.utf8EncodeChar c).length) (st.next c)) := by
  by_cases hplain : st = .outside ∧ isQuote c = false
  case pos =>
    obtain ⟨rfl, hquote⟩ := hplain
    rw [Quoting.next_outside_of_not_quote hquote]
    by_cases hsemi : c = ';'
    case pos =>
      subst hsemi
      have hcs : startsContinuation cs = false :=
        Bool.eq_false_iff.2 fun hcs => hc ⟨rfl, rfl, hcs⟩
      have hnone := behindMarker?_of_not h hcs
      rw [marks_semicolon.bytesOf_cons] at h
      rw [marks_semicolon.bytes]
      exact joinFrom?_of_not (Scanner.next_plain h rfl) hnone
    case neg =>
      exact joinFrom?_placed h (fun b hb => isQuoteByte_of_mem hquote hb)
        fun hm => hsemi (marks_semicolon.only c hm)
  case neg =>
    refine joinFrom?_congr ?_ (next_stand h hst hplain)
    rw [stand_bytes, stand_bytes]

theorem length_bytesOf_marker {br : List Char} (hbr : IsBreak br) (before : List Char) :
    (bytesOf (before ++ ';' :: '\\' :: br)).length = (bytesOf before).length + 2 + br.length := by
  have hbreak : (bytesOf br).length = br.length := by rcases hbr with rfl | rfl <;> rfl
  rw [bytesOf_append, marks_semicolon.bytesOf_cons, marks_backslash.bytesOf_cons,
    List.length_append, List.length_cons, List.length_cons, hbreak]
  omega

theorem joinFrom?_marker {br : List Char} (hbr : IsBreak br)
    (h : text.toList = before ++ (front ++ ';' :: '\\' :: (br ++ after))) :
    let behind := (bytesOf (before ++ (front ++ ';' :: '\\' :: br))).length
    joinFrom? text (bytesOf before).length
        (stand text.toUTF8 (bytesOf (before ++ front)).length .outside) = do
      let rest ← joinFrom? text behind (stand text.toUTF8 behind .outside)
      return .ofList (front ++ [';']) ++ rest := by
  have hpiece : text.toList = before ++ ((front ++ [';']) ++ '\\' :: (br ++ after)) := by simp [h]
  have hstop : (bytesOf (before ++ (front ++ [';']))).length =
      (bytesOf (before ++ front)).length + 1 := by
    rw [← List.append_assoc, length_bytesOf_concat, marks_semicolon.bytes]
    rfl
  have hbehind : (bytesOf (before ++ (front ++ ';' :: '\\' :: br))).length =
      (bytesOf (before ++ front)).length + 2 + br.length := by
    rw [← List.append_assoc, length_bytesOf_marker hbr]
  have hrest := restAt_toUTF8 (h.trans (List.append_assoc ..).symm)
  have hmarker := behindMarker?_of_isBreak hbr hrest
  rw [marks_semicolon.bytesOf_cons] at hrest
  have hnext := Scanner.next_plain hrest rfl
  rw [stand, joinFrom?_of_marker hnext hmarker, skipTo_eq_stand _ (by omega), ← hstop,
    slice?_eq hpiece, ← hbehind]
  rfl

-- The slices continue `front`, which has been passed since the last marker.
theorem joinFrom?_stand (hst : Opened st) (h : text.toList = before ++ (front ++ cs)) :
    joinFrom? text (bytesOf before).length
        (stand text.toUTF8 (bytesOf (before ++ front)).length st) =
      some (.ofList (front ++ joinContinuationsFrom st cs)) := by
  induction st, cs using continuation_induction generalizing before front with
  | nil st =>
    have hend : text.toList = (before ++ front) ++ [] := by simp [h]
    have hle : text.toUTF8.size ≤ (bytesOf (before ++ front)).length :=
      (restAt_toUTF8 hend).size_le
    have hlast : text.toList = before ++ front := hend.trans (List.append_nil _)
    rw [joinFrom?_of_none (stand_of_size_le hle st).1, slice?_last hlast, joinContinuationsFrom,
      List.append_nil]
  | marker br after hbr ih =>
    have hbehind : text.toList = (before ++ (front ++ ';' :: '\\' :: br)) ++ ([] ++ after) := by
      simp [h]
    have hlater := ih opened_outside hbehind
    rw [List.append_nil, List.nil_append] at hlater
    rw [joinFrom?_marker hbr h, hlater, joinContinuationsFrom_marker hbr]
    simp [← String.toList_inj]
  | cons st c cs hc ih =>
    have hrest := restAt_toUTF8 (h.trans (List.append_assoc ..).symm)
    have hbehind : text.toList = before ++ ((front ++ [c]) ++ cs) := by simp [h]
    have hlength : (bytesOf (before ++ (front ++ [c]))).length =
        (bytesOf (before ++ front)).length + (String.utf8EncodeChar c).length := by
      rw [← List.append_assoc, length_bytesOf_concat]
    rw [joinFrom?_next hrest hst hc, ← hlength, ih (hst.next c) hbehind,
      joinContinuationsFrom_cons_of_not hc]
    simp

end

theorem drain_start (text : String) :
    (Scanner.start text.toUTF8).drain.1 = unquotedFrom .outside 0 text.toList ∧
      (Scanner.start text.toUTF8).drain.2.unterminated =
        (Quoting.outside.run text.toList).isOpen := by
  have hall : text.toList = [] ++ text.toList := rfl
  exact drain_stand (restAt_toUTF8 hall) opened_outside

theorem cutWhere?_eq {isCutAt : ByteArray → Nat → Bool} {isCut : List Char → Bool}
    (h : ∀ bytes, Agree bytes (isCutAt bytes) isCut) (text : String) :
    cutWhere? isCutAt text = some ((cutWhere isCut text.toList).map .ofList) := by
  have hall : text.toList = [] ++ ([] ++ text.toList) := rfl
  have ⟨piece, pieces, hp⟩ := exists_cutFrom_eq isCut .outside text.toList
  have hslices := slicesFrom?_eq (h text.toUTF8) hall hp
  rw [cutWhere?, cutWhere, hp, (drain_start text).1]
  exact hslices

theorem segments?_eq (raw : String) :
    segments? raw = some ((segments raw.toList).map .ofList) :=
  cutWhere?_eq agree_startsWithBreak raw

theorem joinContinuations?_eq (segment : String) :
    joinContinuations? segment = some (.ofList (joinContinuations segment.toList)) := by
  have hall : segment.toList = [] ++ ([] ++ segment.toList) := rfl
  exact joinFrom?_stand opened_outside hall

theorem isEmpty_ofList (text : List Char) : (String.ofList text).isEmpty = text.isEmpty := by
  rw [Bool.eq_iff_iff, String.isEmpty_iff, String.ofList_eq_empty_iff, List.isEmpty_iff]

theorem filter_trimmed (pieces : List (List Char)) :
    ((pieces.map String.ofList).map Text.trimmed).filter (!·.isEmpty) =
      ((pieces.map Text.trim).filter (!·.isEmpty)).map .ofList := by
  simp [List.filter_map, Function.comp_def, Text.trimmed, isEmpty_ofList]

theorem clauses?_eq (statement : String) : clauses? statement = some (clauses statement) := by
  have hagree : ∀ bytes, Agree bytes (fun _ => true) (fun _ => true) := fun _ _ _ _ => rfl
  rw [clauses?, cutWhere?_eq hagree]
  simp only [Option.bind_eq_bind, Option.bind_some, filter_trimmed]
  rfl

theorem split?_eq (raw : String) : split? raw = some (split raw) := by
  have hjoin : joinContinuations? =
      fun segment => pure (.ofList (joinContinuations segment.toList)) :=
    funext joinContinuations?_eq
  rw [split?, segments?_eq, hjoin]
  simp only [Option.bind_eq_bind, Option.bind_some, filter_trimmed, List.mapM_pure]
  simp [split, splitChars, units, List.filter_map, Function.comp_def, isEmpty_ofList]

theorem endsOpenQuote_eq (text : String) :
    endsOpenQuote text = (Quoting.outside.run text.toList).isOpen :=
  (drain_start text).2

-- A backslash takes along the first byte of the é, and a byte that is no longer there.
example : endsOpenQuote "'\\é'" = false ∧ endsOpenQuote "'\\" = true := by decide +kernel

-- What a scanner has found in a text when it has come to the end.
structure Scanned (text : String) (found : List (Nat × UInt8)) (last : Scanner) : Prop where
  increasing : (found.map Prod.fst).Pairwise (· < ·)
  -- The bytes of the characters that the automaton meets outside quoted runs are found, but for
  -- those of quotes, and no others.
  mem_iff : ∀ pos b, (pos, b) ∈ found ↔
    ∃ before c after i, PlainAt .outside text.toList before c after ∧
      (String.utf8EncodeChar c)[i]? = some b ∧ pos = (bytesOf before).length + i
  sliceable : ∀ pos, (pos, semicolon) ∈ found → Sliceable text pos (pos + 1)
  unterminated : last.unterminated = (Quoting.outside.run text.toList).isOpen

theorem scanned_drain (text : String) :
    Scanned text (Scanner.start text.toUTF8).drain.1 (Scanner.start text.toUTF8).drain.2 where
  increasing := (Scanner.drives_drain _).pairwise
  mem_iff pos b := by
    rw [(drain_start text).1, mem_unquotedFrom_iff]
    simp only [Nat.zero_add]
  sliceable pos h := by
    rw [(drain_start text).1, mem_unquotedFrom_iff] at h
    obtain ⟨before, c, after, i, hplain, hi, hpos⟩ := h
    -- The byte is a whole character.
    obtain rfl := marks_semicolon.only c (List.mem_of_getElem? hi)
    rw [marks_semicolon.bytes, List.getElem?_singleton] at hi
    obtain rfl : i = 0 := by
      by_contra hne
      exact nomatch (if_neg hne).symm.trans hi
    have hsplit : text.toList = before ++ ([';'] ++ after) := hplain.eq
    have hslice := sliceable_of_append hsplit
    obtain rfl : pos = (bytesOf before).length := hpos.trans (Nat.zero_add _)
    rwa [length_bytesOf_concat, marks_semicolon.bytes] at hslice
  unterminated := (drain_start text).2

-- That there is an answer says that all positions of the slices lie between characters: elsewhere
-- `slice?` has none.
theorem scanned_and_sliced (text : String) :
    (∃ found last, Scanner.Drives (.start text.toUTF8) found last ∧ Scanned text found last) ∧
      (endsOpenQuote text = true ↔ (Quoting.outside.run text.toList).isOpen = true) ∧
      segments? text = some ((segments text.toList).map .ofList) ∧
      split? text = some (split text) ∧
      clauses? text = some (clauses text) ∧
      joinContinuations? text = some (.ofList (joinContinuations text.toList)) :=
  ⟨⟨_, _, Scanner.drives_drain _, scanned_drain text⟩, by rw [endsOpenQuote_eq], segments?_eq text,
    split?_eq text, clauses?_eq text, joinContinuations?_eq text⟩

end QueryConsole.Script.Offsets
