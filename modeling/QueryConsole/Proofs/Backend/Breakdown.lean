import QueryConsole.Proofs.Backend.Mock

-- The word of an inspection is met by a long s as well, but it is cut off by its length in bytes,
-- and a long s takes two. No other text is cut inside a character.
namespace QueryConsole

namespace Text

variable {c w : Char} {word as front cs : List Char}

theorem dropBytes?_append_of_ascii (h : ∀ c ∈ as, c.utf8Size = 1) (n : Nat) (cs : List Char) :
    dropBytes? (as.length + n) (as ++ cs) = dropBytes? n cs := by
  induction as with
  | nil => rw [List.length_nil, Nat.zero_add, List.nil_append]
  | cons a as ih =>
    have ⟨ha, has⟩ := List.forall_mem_cons.1 h
    have hlen : (a :: as).length + n = as.length + n + 1 := by rw [List.length_cons]; omega
    rw [hlen, List.cons_append, dropBytes?, ha, if_pos (Nat.le_add_left 1 _)]
    exact ih has

theorem utf8Size_of_toLower (h : c.toLower = w) (hw : w.toNat < 128) : c.utf8Size = 1 :=
  utf8Size_of_toNat_lt (toNat_lt_of_toLower (h ▸ hw))

-- Letters besides `s` and `k` are met by their capitals alone.
theorem foldsTo_iff (hs : w ≠ 's') (hk : w ≠ 'k') : foldsTo w c = true ↔ c.toLower = w := by
  simp [foldsTo, hs, hk]

theorem startsWithFolded_append_iff (hs : 's' ∉ word) (hk : 'k' ∉ word) (more : List Char) :
    startsWithFolded (word ++ more) cs = true ↔
      ∃ front rest, cs = front ++ rest ∧ front.map Char.toLower = word ∧
        startsWithFolded more rest = true := by
  induction word generalizing cs with
  | nil => simp
  | cons w word ih =>
    simp only [List.mem_cons, not_or] at hs hk
    cases cs with
    | nil => simp [startsWithFolded]
    | cons c cs =>
      rw [List.cons_append, startsWithFolded, Bool.and_eq_true,
        foldsTo_iff (Ne.symm hs.1) (Ne.symm hk.1), ih hs.2 hk.2]
      constructor
      · rintro ⟨hc, front, rest, rfl, hfront, hmore⟩
        exact ⟨c :: front, rest, rfl, by rw [List.map_cons, hc, hfront], hmore⟩
      · rintro ⟨front, rest, hcs, hfront, hmore⟩
        cases front with
        | nil => cases hfront
        | cons d front =>
          obtain ⟨rfl, rfl⟩ := List.cons.inj hcs
          obtain ⟨hc, hfront⟩ := List.cons.inj hfront
          exact ⟨hc, front, rest, rfl, hfront, hmore⟩

theorem dropBytes?_one_eq_none_iff : dropBytes? 1 (c :: cs) = none ↔ 1 < c.utf8Size := by
  rw [dropBytes?]
  split
  case isTrue hc =>
    have hone : 0 + 1 - c.utf8Size = 0 := by have hpos := c.utf8Size_pos; omega
    simp [hone, dropBytes?, Nat.not_lt.2 hc]
  case isFalse hc => simpa using hc

-- Of what meets an `s`, only the long one takes more than a byte.
theorem one_lt_utf8Size_iff (h : foldsTo 's' c = true) : 1 < c.utf8Size ↔ c = 'ſ' := by
  constructor
  · intro hc
    by_contra hlong
    have hlower : c.toLower = 's' := by simpa [foldsTo, hlong] using h
    have hone := utf8Size_of_toLower hlower (by decide)
    omega
  · rintro rfl
    decide

end Text

namespace Directive

open Text (trimStart foldsTo)

variable {raw : String} {c d : Char} {cs front front' rest rest' : List Char}

-- The word of an inspection, without its last letter.
def stem : List Char :=
  [':', 'p', 'a', 'r', 'a', 'm']

-- The word of an inspection, in any letter case, with a long s at its end.
def Torn (raw : String) : Prop :=
  ∃ front rest, trimStart raw.toList = front ++ 'ſ' :: rest ∧ front.map Char.toLower = stem

theorem length_of_stem (h : front.map Char.toLower = stem) : front.length = 6 := by
  simpa [stem] using congrArg List.length h

theorem utf8Size_of_stem (h : front.map Char.toLower = stem) : ∀ c ∈ front, c.utf8Size = 1 := by
  intro c hc
  have hword : c.toLower ∈ stem := h ▸ List.mem_map_of_mem hc
  have hascii : stem.all (·.toNat < 128) = true := by decide
  exact Text.utf8Size_of_toLower rfl (of_decide_eq_true (List.all_eq_true.1 hascii _ hword))

theorem last_unique (hc : front.map Char.toLower = stem) (hd : front'.map Char.toLower = stem)
    (h : front ++ c :: rest = front' ++ d :: rest') : c = d := by
  have ⟨_, htail⟩ := List.append_inj h ((length_of_stem hc).trans (length_of_stem hd).symm)
  exact (List.cons.inj htail).1

theorem isInspection_iff (hcs : trimStart cs = cs) :
    Script.isInspection (.ofList cs) = true ↔
      ∃ front c rest, cs = front ++ c :: rest ∧ front.map Char.toLower = stem ∧
        foldsTo 's' c = true := by
  have hfolded : Text.startsWithFolded (stem ++ ['s']) cs = true ↔ _ :=
    Text.startsWithFolded_append_iff (by decide) (by decide) ['s']
  rw [Script.isInspection, String.toList_ofList, hcs]
  refine hfolded.trans ⟨?_, ?_⟩
  · rintro ⟨front, rest, hrest, hfront, hs⟩
    cases rest with
    | nil => cases hs
    | cons c rest =>
      rw [Text.startsWithFolded, Bool.and_eq_true] at hs
      exact ⟨front, c, rest, hrest, hfront, hs.1⟩
  · rintro ⟨front, c, rest, hrest, hfront, hs⟩
    exact ⟨front, c :: rest, hrest, hfront, by simp [Text.startsWithFolded, hs]⟩

-- The bytes of the word are those of what meets it, unless a long s stands at its end.
theorem dropBytes?_eq_none_iff (hc : front.map Char.toLower = stem) (hs : foldsTo 's' c = true) :
    Text.dropBytes? ":params".utf8ByteSize (front ++ c :: rest) = none ↔ c = 'ſ' := by
  have hdrop := Text.dropBytes?_append_of_ascii (utf8Size_of_stem hc) 1 (c :: rest)
  rw [length_of_stem hc] at hdrop
  have hsize : ":params".utf8ByteSize = 6 + 1 := rfl
  rw [hsize, hdrop, Text.dropBytes?_one_eq_none_iff, Text.one_lt_utf8Size_iff hs]

theorem read?_eq_none_iff : read? (body raw) = none ↔ Torn raw := by
  have hinspect := isInspection_iff (trimStart_body raw)
  have ⟨after, hbody, _⟩ := exists_body_append raw
  constructor
  · intro h
    unfold read? at h
    split at h
    case isTrue hi =>
      have ⟨front, c, rest, hcs, hfront, hs⟩ := hinspect.1 hi
      rw [hcs, Option.map_eq_none_iff, dropBytes?_eq_none_iff hfront hs] at h
      exact ⟨front, rest ++ after, by rw [hbody, hcs, h]; simp, hfront⟩
    case isFalse =>
      cases ha : assignment? (body raw) with
      | none => simp [ha] at h
      | some pair =>
        simp only [ha] at h
        split at h <;> exact nomatch h
  · rintro ⟨front, rest, hraw, hfront⟩
    have hi : Script.isInspection raw = true := by
      have hcs := (isInspection_iff (Text.trimStart_trimStart raw.toList)).2
        ⟨front, 'ſ', rest, hraw, hfront, by decide⟩
      rw [Script.isInspection, String.toList_ofList, Text.trimStart_trimStart] at hcs
      exact hcs
    have hi := isInspection_body hi
    have ⟨front', c, rest', hcs, hfront', hs⟩ := hinspect.1 hi
    have hc : c = 'ſ' := by
      rw [hbody, hcs, List.append_assoc, List.cons_append] at hraw
      exact last_unique hfront' hfront hraw
    rw [read?, if_pos hi, hcs, (dropBytes?_eq_none_iff hfront' hs).2 hc]
    rfl

theorem readable_iff : Readable raw ↔ ¬Torn raw := by
  rw [Readable, Option.isSome_iff_ne_none, Ne, read?_eq_none_iff]

end Directive

namespace Call

def directives : Call → List String
  | .batch _ directives _ => directives
  | .single _ directives => directives

end Call

namespace Mock

open Directive (Torn readable_iff read?_eq_none_iff)

variable {m : Mock} {raw : String} {directives : List String}

-- What comes back from a call, as a list in either case.
def answer (m : Mock) : Call → Mock × Answer (List Response)
  | .batch statements directives _ => m.batch statements directives
  | .single statement directives =>
    let (m, response) := m.single statement directives
    (m, response.map ([·]))

-- The mock after these calls.
def after (m : Mock) : List Call → Mock
  | [] => m
  | call :: calls => ((m.receive call).1.answer call).1.after calls

theorem applyDirective_of_poisoned (h : m.poisoned = true) (raw : String) :
    m.applyDirective raw = (m, .error ⟨.internal, "mock parameter table poisoned"⟩) := by
  rw [applyDirective, if_pos h]

theorem applyDirective_of_torn (hm : m.poisoned = false) (h : Torn raw) :
    m.applyDirective raw = ({ m with poisoned := true }, .crash) := by
  simp [applyDirective, hm, read?_eq_none_iff.2 h]

theorem applyDirective_eq_crash_iff :
    (m.applyDirective raw).2 = .crash ↔ m.poisoned = false ∧ Torn raw := by
  cases hm : m.poisoned with
  | true => simp [applyDirective_of_poisoned hm]
  | false =>
    by_cases ht : Torn raw
    case pos => simp [applyDirective_of_torn hm ht, ht]
    case neg =>
      have ⟨m', r, hr, _⟩ := exists_applyDirective hm (readable_iff.2 ht)
      simp [hr, ht]

theorem applyDirective_eq_ok_iff :
    (∃ r, (m.applyDirective raw).2 = .ok r ∧ r.statement = raw) ↔
      m.poisoned = false ∧ ¬Torn raw := by
  cases hm : m.poisoned with
  | true => simp [applyDirective_of_poisoned hm]
  | false =>
    by_cases ht : Torn raw
    case pos => simp [applyDirective_of_torn hm ht, ht]
    case neg =>
      have ⟨m', r, hr, _, hs⟩ := exists_applyDirective hm (readable_iff.2 ht)
      simp [hr, ht, hs]

-- A torn directive is reached, unless an earlier one has broken the mock down.
theorem poisoned_applyAll (m : Mock) (directives : List String) :
    (m.applyAll directives).1.poisoned = true ↔
      m.poisoned = true ∨ ∃ raw ∈ directives, Torn raw := by
  induction directives generalizing m with
  | nil => simp [applyAll]
  | cons raw directives ih =>
    cases hm : m.poisoned with
    | true => simp [applyAll, applyDirective_of_poisoned hm, hm]
    | false =>
      by_cases ht : Torn raw
      case pos => simp [applyAll, applyDirective_of_torn hm ht, ht]
      case neg =>
        obtain ⟨m', r, hr, hm', -⟩ := exists_applyDirective hm (readable_iff.2 ht)
        simp [applyAll, hr, ih, hm', ht]

theorem poisoned_answer (m : Mock) (call : Call) :
    (m.answer call).1.poisoned = true ↔
      m.poisoned = true ∨ ∃ raw ∈ call.directives, Torn raw := by
  cases call with
  | batch statements directives tag => exact m.poisoned_applyAll directives
  | single statement directives => exact m.poisoned_applyAll directives

theorem poisoned_after (m : Mock) (calls : List Call) :
    (m.after calls).poisoned = true ↔
      m.poisoned = true ∨ ∃ call ∈ calls, ∃ raw ∈ call.directives, Torn raw := by
  induction calls generalizing m with
  | nil => simp [after]
  | cons call calls ih =>
    have hanswer := (m.receive call).1.poisoned_answer call
    have hreceive : (m.receive call).1.poisoned = m.poisoned := rfl
    rw [after, ih, hanswer, hreceive, or_assoc]
    simp only [List.mem_cons, exists_eq_or_imp]

-- After any calls, one torn directive is all it takes to break the mock down, and then no directive
-- is answered any more; every other directive is, and so is every statement throughout.
theorem answers_after (m : Mock) (calls : List Call) :
    ((m.after calls).poisoned = true ↔
      m.poisoned = true ∨ ∃ call ∈ calls, ∃ raw ∈ call.directives, Torn raw) ∧
    (∀ raw, ((m.after calls).applyDirective raw).2 = .crash ↔
      (m.after calls).poisoned = false ∧ Torn raw) ∧
    (∀ raw, (∃ r, ((m.after calls).applyDirective raw).2 = .ok r ∧ r.statement = raw) ↔
      (m.after calls).poisoned = false ∧ ¬Torn raw) ∧
    ∀ statement, ∃ r, (m.after calls).respond statement = .ok r ∧ r.statement = statement :=
  ⟨m.poisoned_after calls, fun _ => applyDirective_eq_crash_iff,
    fun _ => applyDirective_eq_ok_iff, (m.after calls).exists_respond⟩

-- A long s breaks the mock down, and the inspection after it is refused.
theorem crash_of_long_s :
    (Mock.default.applyDirective ":paramſ").2 = .crash ∧
      ((Mock.default.after [.batch [] [":paramſ"] .consoleRun]).applyDirective ":params").2 =
        .error ⟨.internal, "mock parameter table poisoned"⟩ :=
  ⟨rfl, rfl⟩

end Mock
end QueryConsole
