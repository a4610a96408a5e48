import QueryConsole.Backend.Directive
import QueryConsole.Proofs.Script.Seam
import QueryConsole.Proofs.Text.LowerCase
import QueryConsole.Proofs.Value.Encoding

namespace QueryConsole

open Script (Inert Sealed sealed_of_all sealed_of_inert)
open Text (Tidy isBlank)

namespace Text

variable {c : Char} {word as bs : List Char}

-- What does not fold to the word has no part in it.
theorem startsWithFolded_of_append (h : ∀ w ∈ word, ∀ c ∈ bs, foldsTo w c = false)
    (hs : startsWithFolded word (as ++ bs) = true) : startsWithFolded word as = true := by
  induction word generalizing as with
  | nil => rfl
  | cons w word ih =>
    have ⟨hw, hword⟩ := List.forall_mem_cons.1 h
    cases as with
    | nil =>
      cases bs with
      | nil => exact hs
      | cons b bs => simp [startsWithFolded, hw b] at hs
    | cons a as =>
      simp only [List.cons_append, startsWithFolded, Bool.and_eq_true] at hs ⊢
      exact ⟨hs.1, ih hword hs.2⟩

end Text

namespace Directive

variable {c w : Char} {cs : List Char} {raw : String}

theorem inert_of_isNamePart (h : isNamePart c = true) : Inert c := by
  simp only [isNamePart, isNameStart, Bool.or_eq_true, decide_eq_true_eq] at h
  rcases h with (((h | rfl) | rfl) | rfl) | h
  case inr => exact Script.inert_of_isAlphanum (by simp [Char.isAlphanum, h])
  case inl.inl.inl.inl => exact Script.inert_of_isAlphanum (by simp [Char.isAlphanum, h])
  all_goals decide

theorem isNamePart_of_isNameStart (h : isNameStart c = true) : isNamePart c = true := by
  simp [isNamePart, h]

-- A directive that is sent does not end with a blank, so only semicolons are taken off its end.
theorem body_of_tidy (h : Tidy cs) (hlast : cs.getLast? ≠ some ';') : body (.ofList cs) = cs := by
  have hend : (cs.reverse.dropWhile (· = ';')).reverse = cs := by
    refine List.rdropWhile_eq_self_iff.2 fun hne hsemi => hlast ?_
    simpa [List.getLast?_eq_some_getLast hne] using hsemi
  have htrim := Text.trim_of_tidy h
  have hstart : Text.trimEnd cs = cs := by
    refine List.rdropWhile_eq_self_iff.2 fun hne => ?_
    simpa using h.last _ (List.getLast?_eq_some_getLast hne)
  rw [body, String.toList_ofList, htrim, hend, hstart]

theorem foldsTo_eq_false (hc : isBlank c = true ∨ c = ';')
    (hw : w ∈ [':', 'p', 'a', 'r', 'a', 'm', 's']) : Text.foldsTo w c = false := by
  cases hc with
  | inl hc =>
    have hword : [':', 'p', 'a', 'r', 'a', 'm', 's', 'ſ', '\u212a'].all (!isBlank ·) = true := by
      decide
    have hne {d : Char} (hd : d ∈ [':', 'p', 'a', 'r', 'a', 'm', 's', 'ſ', '\u212a']) : c ≠ d := by
      rintro rfl
      have hnot := List.all_eq_true.1 hword c hd
      rw [hc] at hnot
      exact nomatch hnot
    have hw' := hne (List.mem_append_left ['ſ', '\u212a'] hw)
    have hlong : c ≠ 'ſ' := hne (by decide)
    have hkelvin : c ≠ '\u212a' := hne (by decide)
    simp [Text.foldsTo, Text.toLower_of_isBlank hc, hw', hlong, hkelvin]
  | inr hc =>
    subst hc
    have hword : [':', 'p', 'a', 'r', 'a', 'm', 's'].all (!Text.foldsTo · ';') = true := by decide
    simpa using List.all_eq_true.1 hword w hw

theorem exists_rdropWhile_append (p : Char → Bool) (cs : List Char) :
    ∃ after, cs.rdropWhile p ++ after = cs ∧ ∀ c ∈ after, p c = true :=
  ⟨cs.rtakeWhile p, List.rdropWhile_append_rtakeWhile, fun _ => List.mem_rtakeWhile_imp⟩

-- What is taken off a directive before it is read.
theorem exists_body_append (raw : String) :
    ∃ after, Text.trimStart raw.toList = body raw ++ after ∧
      ∀ c ∈ after, isBlank c = true ∨ c = ';' := by
  have ⟨blanks, hblanks, htrim⟩ := Text.exists_trim_append raw.toList
  have ⟨marks, hmarks, hm⟩ := exists_rdropWhile_append (· = ';') (Text.trim raw.toList)
  have ⟨more, hmore, hb⟩ :=
    exists_rdropWhile_append isBlank ((Text.trim raw.toList).rdropWhile (· = ';'))
  have hbody : body raw ++ more = (Text.trim raw.toList).rdropWhile (· = ';') := hmore
  refine ⟨more ++ (marks ++ blanks), ?_, fun c hc => ?_⟩
  · rw [← htrim, ← hmarks, ← hbody, List.append_assoc, List.append_assoc]
  · simp only [List.mem_append] at hc
    rcases hc with hc | hc | hc
    · exact .inl (hb c hc)
    · exact .inr (by simpa using hm c hc)
    · exact .inl (List.all_eq_true.1 hblanks c hc)

theorem trimStart_body (raw : String) : Text.trimStart (body raw) = body raw := by
  have ⟨after, hbody, _⟩ := exists_body_append raw
  cases hb : body raw with
  | nil => rfl
  | cons c cs =>
    have hne : Text.trimStart raw.toList ≠ [] := by simp [hbody, hb]
    have hfirst := List.head_dropWhile_not isBlank hne
    have hhead : (Text.trimStart raw.toList).head hne = c := by simp [hbody, hb]
    have hblank : isBlank c = false := hhead ▸ hfirst
    rw [Text.trimStart_cons, hblank]
    rfl

-- A directive that only reads parameters is still one when it is carried out.
theorem isInspection_body (h : Script.isInspection raw = true) :
    Script.isInspection (.ofList (body raw)) = true := by
  have ⟨after, hbody, hafter⟩ := exists_body_append raw
  rw [Script.isInspection, hbody] at h
  rw [Script.isInspection, String.toList_ofList, trimStart_body]
  exact Text.startsWithFolded_of_append (fun w hw c hc => foldsTo_eq_false (hafter c hc) hw) h

theorem assignment?_line (hc : isNameStart c = true) (hcs : ∀ d ∈ cs, isNamePart d = true)
    (literal : List Char) :
    assignment? (":param ".toList ++ (c :: cs ++ ' ' :: '=' :: '>' :: literal)) =
      some (c :: cs, literal) := by
  have hspace : isNamePart ' ' = false ∧ isBlank ' ' = true := by decide
  have hblank := (inert_of_isNamePart (isNamePart_of_isNameStart hc)).2.1
  have hname : (cs ++ ' ' :: '=' :: '>' :: literal).takeWhile isNamePart = cs := by
    rw [List.takeWhile_append_of_pos hcs]
    simp [hspace]
  have hrest : (cs ++ ' ' :: '=' :: '>' :: literal).dropWhile isNamePart =
      ' ' :: '=' :: '>' :: literal := by
    rw [List.dropWhile_append_of_pos hcs]
    simp [hspace]
  have hword : Text.afterFolded? [':', 'p', 'a', 'r', 'a', 'm']
      (Text.trimStart (":param ".toList ++ (c :: cs ++ ' ' :: '=' :: '>' :: literal))) =
        some (' ' :: c :: (cs ++ ' ' :: '=' :: '>' :: literal)) := rfl
  have hstart : Text.trimStart (' ' :: c :: (cs ++ ' ' :: '=' :: '>' :: literal)) =
      c :: (cs ++ ' ' :: '=' :: '>' :: literal) := by
    simp [Text.trimStart_cons, hblank, hspace]
  have harrow : Text.trimStart (' ' :: '=' :: '>' :: literal) = '=' :: '>' :: literal := rfl
  rw [assignment?, hword]
  simp [hspace, hstart, hc, hname, hrest, harrow]

-- A character that can stand in a listed name.
def isListed (c : Char) : Bool :=
  !(c = ',' || isBlank c)

variable {word rest : List Char} {words : List (List Char)}

theorem names_cons (hc : isListed c = false) (rest : List Char) :
    names (c :: rest) = [] :: names rest := by
  simp only [isListed, Bool.not_eq_false', Bool.or_eq_true, decide_eq_true_eq] at hc
  simp [names, hc]

theorem names_append_cons (h : ∀ c ∈ word, isListed c = true) (hc : isListed c = false)
    (rest : List Char) : names (word ++ c :: rest) = word :: names rest := by
  induction word with
  | nil => exact names_cons hc rest
  | cons d word ih =>
    have ⟨hd, hword⟩ := List.forall_mem_cons.1 h
    simp only [isListed, Bool.not_eq_true', Bool.or_eq_false_iff, decide_eq_false_iff_not] at hd
    simp [names, hd, ih hword]

theorem names_of_listed (h : ∀ c ∈ word, isListed c = true) : names word = [word] := by
  induction word with
  | nil => rfl
  | cons d word ih =>
    have ⟨hd, hword⟩ := List.forall_mem_cons.1 h
    simp only [isListed, Bool.not_eq_true', Bool.or_eq_false_iff, decide_eq_false_iff_not] at hd
    simp [names, hd, ih hword]

-- Names with a comma and a space between them are found again.
theorem names_intercalate (h : ∀ word ∈ words, word ≠ [] ∧ ∀ c ∈ word, isListed c = true) :
    (names ([',', ' '].intercalate words)).filter (!·.isEmpty) = words := by
  have hcomma : isListed ',' = false := by decide
  have hspace : isListed ' ' = false := by decide
  induction words with
  | nil => rfl
  | cons word words ih =>
    have ⟨⟨hne, hword⟩, hwords⟩ := List.forall_mem_cons.1 h
    cases words with
    | nil => simp [names_of_listed hword, hne]
    | cons next words =>
      have hnames (rest) : names (word ++ [',', ' '] ++ rest) = word :: [] :: names rest := by
        rw [List.append_assoc, List.cons_append, List.cons_append, List.nil_append,
          names_append_cons hword hcomma, names_cons hspace]
      rw [List.intercalate_cons_cons, hnames]
      simp [hne, ih hwords]

-- The line that lists these parameters.
def inspection (names : List String) : String :=
  ":params " ++ ", ".intercalate names

-- A name that can be listed, also at the end of a line.
structure Listable (name : String) : Prop where
  ne_nil : name.toList ≠ []
  isListed : ∀ c ∈ name.toList, isListed c = true
  notMem : ';' ∉ name.toList

variable {names : List String}

theorem toList_inspection (names : List String) : (inspection names).toList =
    ":params".toList ++ ' ' :: [',', ' '].intercalate (names.map String.toList) := by
  simp [inspection, String.toList_intercalate]

theorem isInspection_inspection (names : List String) :
    Script.isInspection (inspection names) = true := by
  rw [Script.isInspection, toList_inspection]
  rfl

theorem intercalate_of_listable (hne : names ≠ []) (h : ∀ name ∈ names, Listable name) :
    ';' ∉ [',', ' '].intercalate (names.map String.toList) ∧
      ∃ c, ([',', ' '].intercalate (names.map String.toList)).getLast? = some c ∧
        isListed c = true := by
  induction names with
  | nil => exact absurd rfl hne
  | cons name names ih =>
    have ⟨hname, hnames⟩ := List.forall_mem_cons.1 h
    cases names with
    | nil =>
      refine ⟨by simpa using hname.notMem, _, ?_, hname.isListed _ (List.getLast_mem hname.ne_nil)⟩
      simp [List.getLast?_eq_some_getLast hname.ne_nil]
    | cons next names =>
      have ⟨hsemi, c, hc, hlisted⟩ := ih (List.cons_ne_nil next names) hnames
      refine ⟨?_, c, ?_, hlisted⟩
      · simpa [List.intercalate_cons_cons, hname.notMem] using hsemi
      · rw [List.map_cons] at hc
        simp [List.intercalate_cons_cons, List.getLast?_append, List.getLast?_cons, hc]

theorem tidy_inspection (hne : names ≠ []) (h : ∀ name ∈ names, Listable name) :
    Tidy (inspection names).toList ∧ ';' ∉ (inspection names).toList := by
  have ⟨hsemi, c, hc, hlisted⟩ := intercalate_of_listable hne h
  have hblank : isBlank c = false := by
    simp only [isListed, Bool.not_eq_true', Bool.or_eq_false_iff] at hlisted
    exact hlisted.2
  rw [toList_inspection]
  refine ⟨⟨by simp, by rintro d ⟨⟩; decide, fun d hd => ?_⟩, by simpa using hsemi⟩
  have hlast : (":params".toList ++
      ' ' :: [',', ' '].intercalate (names.map String.toList)).getLast? = some c := by
    simp [List.getLast?_cons, hc]
  exact Option.some.inj (hlast.symm.trans hd) ▸ hblank

theorem read?_inspection (hne : names ≠ []) (h : ∀ name ∈ names, Listable name) :
    read? (body (inspection names)) = some (.inspect names) := by
  have ⟨htidy, hsemi⟩ := tidy_inspection hne h
  have hbody : body (inspection names) = (inspection names).toList := by
    have hlast : (inspection names).toList.getLast? ≠ some ';' :=
      fun hl => hsemi (List.mem_of_getLast? hl)
    simpa using body_of_tidy htidy hlast
  have hinspect : Script.isInspection (.ofList (inspection names).toList) = true := by
    simpa using isInspection_inspection names
  have hrest : Text.dropBytes? ":params".utf8ByteSize (inspection names).toList =
      some (' ' :: [',', ' '].intercalate (names.map String.toList)) := by
    have hascii : ":params".toList.all (·.utf8Size = 1) = true := by decide
    rw [toList_inspection]
    exact Text.dropBytes?_length_of_ascii
      (fun c hc => of_decide_eq_true (List.all_eq_true.1 hascii c hc)) _
  have hwords : ∀ word ∈ names.map String.toList, word ≠ [] ∧ ∀ c ∈ word, isListed c = true := by
    intro word hm
    have ⟨name, hname, hword⟩ := List.mem_map.1 hm
    exact hword ▸ ⟨(h name hname).ne_nil, (h name hname).isListed⟩
  have hfirst : Directive.names (' ' :: [',', ' '].intercalate (names.map String.toList)) =
      [] :: Directive.names ([',', ' '].intercalate (names.map String.toList)) :=
    names_cons (by decide) _
  have hnames := names_intercalate hwords
  rw [hbody, read?, if_pos hinspect, hrest, Option.map_some, hfirst]
  simp [hnames]

theorem split_inspection (hne : names ≠ []) (h : ∀ name ∈ names, Listable name) :
    Script.split (inspection names) = ⟨[inspection names], []⟩ := by
  have ⟨htidy, hsemi⟩ := tidy_inspection hne h
  have hcolon : Script.isDirective (inspection names).toList = true := by
    rw [toList_inspection]
    rfl
  rw [Script.split, Script.splitChars_eq,
    Script.units_of_tidy htidy (Script.plain_of_notMem hsemi).whole]
  simp [Script.sent, hcolon]

theorem requiresRefresh_inspection (hne : names ≠ []) (h : ∀ name ∈ names, Listable name) :
    (Script.split (inspection names)).requiresRefresh = false := by
  simp [split_inspection hne h, Script.Split.requiresRefresh, isInspection_inspection]

end Directive

-- What one line of a script does to a parameter: it sets it, or, without a value, removes it.
structure Assignment where
  name : String
  value? : Option Value

namespace Assignment

def literal (a : Assignment) : String :=
  match a.value? with
  | some v => " " ++ v.toJson.text
  | none => ""

def line (a : Assignment) : String :=
  ":param " ++ a.name ++ " =>" ++ a.literal

def directive (a : Assignment) : Directive :=
  match a.value? with
  | some v => .assign a.name v
  | none => .remove a.name

def update (params : Params) (a : Assignment) : Params :=
  match a.value? with
  | some v => params.insert a.name v
  | none => params.erase a.name

-- The name is one that directives can write, and JSON keeps the value.
structure Writable (a : Assignment) : Prop where
  name : ∃ c cs, a.name.toList = c :: cs ∧ Directive.isNameStart c = true ∧
    ∀ d ∈ cs, Directive.isNamePart d = true
  value : ∀ v ∈ a.value?, v.Exact Value.maxDepth

variable {a : Assignment}

theorem toList_line (a : Assignment) : a.line.toList =
    ":param ".toList ++ (a.name.toList ++ ' ' :: '=' :: '>' :: a.literal.toList) := by
  simp [line]

theorem isInspection_line (a : Assignment) : Script.isInspection a.line = false := by
  rw [Script.isInspection, toList_line]
  rfl

-- The literal is blank, or it is the text of the value.
theorem literal_cases (h : a.Writable) :
    a.value? = none ∧ a.literal.toList = [] ∨
      ∃ v, a.value? = some v ∧ v.Exact Value.maxDepth ∧
        a.literal.toList = ' ' :: v.toJson.print := by
  cases hv : a.value? with
  | none => exact .inl ⟨rfl, by simp [literal, hv]⟩
  | some v => exact .inr ⟨v, rfl, h.value v hv, by simp [literal, hv, Json.text]⟩

theorem sealed_line (h : a.Writable) : Sealed a.line.toList := by
  have hliteral : Sealed a.literal.toList := by
    rcases literal_cases h with ⟨_, hl⟩ | ⟨v, _, hv, hl⟩ <;> rw [hl]
    case inl => exact sealed_of_all rfl
    case inr =>
      have hspace : Sealed [' '] := sealed_of_all (by decide)
      exact hspace.append v.toJson.inline.text
  have hname : Sealed a.name.toList := by
    have ⟨c, cs, hname, hc, hcs⟩ := h.name
    refine hname ▸ sealed_of_inert (List.forall_mem_cons.2 ⟨?_, fun d hd => ?_⟩)
    · exact Directive.inert_of_isNamePart (Directive.isNamePart_of_isNameStart hc)
    · exact Directive.inert_of_isNamePart (hcs d hd)
  have hword : Sealed ":param ".toList := sealed_of_all (by decide)
  have harrow : Sealed [' ', '=', '>'] := sealed_of_all (by decide)
  rw [toList_line]
  exact hword.append (hname.append (harrow.append hliteral))

theorem tidy_line (h : a.Writable) : Tidy a.line.toList ∧ a.line.toList.getLast? ≠ some ';' := by
  have hcolon : Tidy [':'] := by decide
  rw [toList_line]
  rcases literal_cases h with ⟨_, hl⟩ | ⟨v, _, hv, hl⟩ <;> rw [hl]
  case inl =>
    have harrow : Tidy ['>'] := by decide
    have htidy := hcolon.append harrow ("param ".toList ++ (a.name.toList ++ [' ', '=']))
    refine ⟨by simpa using htidy, by simp [List.getLast?_cons]⟩
  case inr =>
    have ⟨c, hc, _, hsemi⟩ := v.toJson.inline.last
    have htidy := hcolon.append v.toJson.inline.tidy
      ("param ".toList ++ (a.name.toList ++ [' ', '=', '>', ' ']))
    refine ⟨by simpa using htidy, by simp [List.getLast?_cons, List.getLast?_append, hc, hsemi]⟩

theorem read?_line (h : a.Writable) :
    Directive.read? (Directive.body a.line) = some a.directive := by
  have ⟨htidy, hlast⟩ := tidy_line h
  have hbody : Directive.body a.line = a.line.toList := by
    simpa using Directive.body_of_tidy htidy hlast
  have ⟨c, cs, hname, hc, hcs⟩ := h.name
  have hinspect : Script.isInspection (.ofList a.line.toList) = false := by
    simpa using isInspection_line a
  have hassign := Directive.assignment?_line hc hcs a.literal.toList
  rw [← hname, ← toList_line] at hassign
  rw [hbody, Directive.read?, hinspect, hassign]
  rcases literal_cases h with ⟨hv, hl⟩ | ⟨v, hv, hexact, hl⟩
  case inl => simp [hl, directive, hv, Text.trim]
  case inr =>
    have hblank : isBlank ' ' = true := by decide
    have htrim : Text.trim a.literal.toList = v.toJson.print := by
      rw [hl, Text.trim_of_blank hblank, Text.trim_of_tidy v.toJson.inline.tidy]
    have hliteral : Value.ofLiteral (.ofList v.toJson.print) = v := Value.ofLiteral_text hexact
    simp [htrim, directive, hv, v.toJson.inline.tidy.ne_nil, hliteral]

-- A script of such lines.
def script (as : List Assignment) : String :=
  ";\n".intercalate (as.map line)

variable {as : List Assignment}

theorem split_script (hne : as ≠ []) (h : ∀ a ∈ as, a.Writable) :
    Script.split (script as) = ⟨as.map line, []⟩ := by
  have hlines : ∀ cs ∈ as.map (·.line.toList),
      (Sealed cs ∧ Tidy cs) ∧ Script.isDirective cs = true := by
    intro cs hm
    have ⟨a, ha, hcs⟩ := List.mem_map.1 hm
    refine hcs ▸ ⟨⟨sealed_line (h a ha), (tidy_line (h a ha)).1⟩, ?_⟩
    rw [toList_line]
    rfl
  have htext : (script as).toList = Script.joinLines (as.map (·.line.toList)) := by
    simp [script, String.toList_intercalate, Script.joinLines, Function.comp_def]
  have hunits : Script.units (script as).toList = as.map (·.line.toList) :=
    htext ▸ Script.units_joinLines (by simpa using hne) fun cs hm => (hlines cs hm).1
  have hall : (as.map (·.line.toList)).filter Script.isDirective = as.map (·.line.toList) :=
    List.filter_eq_self.2 fun cs hm => (hlines cs hm).2
  have hnone : (as.map (·.line.toList)).filter (!Script.isDirective ·) = [] :=
    List.filter_eq_nil_iff.2 fun cs hm => by simp [(hlines cs hm).2]
  rw [Script.split, Script.splitChars_eq, hunits, Script.sent, hall, hnone]
  simp [Function.comp_def]

theorem requiresRefresh_script (hne : as ≠ []) (h : ∀ a ∈ as, a.Writable) :
    (Script.split (script as)).requiresRefresh = true := by
  obtain ⟨a, _, rfl⟩ := List.exists_cons_of_ne_nil hne
  simp [split_script hne h, Script.Split.requiresRefresh, isInspection_line]

end Assignment
end QueryConsole
