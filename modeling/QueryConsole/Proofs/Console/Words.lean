import QueryConsole.Console.Words
import QueryConsole.Proofs.Script.Quoted

namespace QueryConsole.Console

open Text (isBlank isAllBlank)
open Script (isQuote)

-- A backslash goes before every backslash, and before the quote that the text stands between.
def escape (quote : Char) (text : List Char) : List Char :=
  text.flatMap fun c => if c = '\\' ∨ c = quote then ['\\', c] else [c]

inductive Part
  | quoted (quote : Char) (hq : isQuote quote = true) (text : List Char)
  -- A backslash is a character like any other here.
  | bare (text : List Char) (hne : text ≠ [])
      (hplain : ∀ c ∈ text, isBlank c = false ∧ isQuote c = false)

namespace Part

def text : Part → List Char
  | quoted _ _ text | bare text _ _ => text

def written : Part → List Char
  | quoted quote _ text => quote :: (escape quote text ++ [quote])
  | bare text _ _ => text

end Part

-- One way to write a word.
structure Spelling where
  parts : List Part
  ne_nil : parts ≠ []

namespace Spelling

def text (word : Spelling) : List Char :=
  word.parts.flatMap Part.text

def written (word : Spelling) : List Char :=
  word.parts.flatMap Part.written

def ofPart (part : Part) : Spelling :=
  ⟨[part], List.cons_ne_nil _ _⟩

end Spelling

-- The line is one way to write these words. There may be blanks around them, and there have to be
-- blanks between them.
inductive Spells : List Char → List String → Prop
  | nil (after : List Char) (hb : isAllBlank after = true) : Spells after []
  | cons (gap : List Char) (hb : isAllBlank gap = true) (word : Spelling)
      (hp : ∀ c, rest.head? = some c → isBlank c = true) (hr : Spells rest texts) :
      Spells (gap ++ (word.written ++ rest)) (.ofList word.text :: texts)

variable {c quote : Char} {gap rest line : List Char} {texts : List String}

theorem unescape_of_escaped (h : c = '\\' ∨ isQuote c = true) : unescape c = [c] := by
  cases h
  case inl h => exact h ▸ rfl
  case inr h =>
    cases Script.isQuote_iff.1 h
    case inl h => exact h ▸ rfl
    case inr h => exact h ▸ rfl

theorem wordsFrom_escape (hq : isQuote quote = true) (text read rest : List Char) :
    wordsFrom (.quoted quote read) (escape quote text ++ quote :: rest) =
      wordsFrom (.bare (text.reverse ++ read)) rest := by
  have hne : quote ≠ '\\' := by
    rintro rfl
    exact absurd hq (by decide)
  induction text generalizing read with
  | nil => simp [escape, wordsFrom, hne]
  | cons c text ih =>
    rw [escape] at ih
    by_cases hc : c = '\\' ∨ c = quote
    case pos =>
      have hu : unescape c = [c] := unescape_of_escaped (hc.imp_right fun (h : c = quote) => h ▸ hq)
      simp [escape, wordsFrom, hc, hu, ih]
    case neg =>
      obtain ⟨hbackslash, hquote⟩ := not_or.1 hc
      simp [escape, wordsFrom, hbackslash, hquote, ih]

theorem wordsFrom_plain {text : List Char}
    (h : ∀ c ∈ text, isBlank c = false ∧ isQuote c = false) (read rest : List Char) :
    wordsFrom (.bare read) (text ++ rest) = wordsFrom (.bare (text.reverse ++ read)) rest := by
  induction text generalizing read with
  | nil => rfl
  | cons c text ih =>
    have ⟨⟨hb, hq⟩, htext⟩ := List.forall_mem_cons.1 h
    simp [wordsFrom, WordState.enter, hb, hq, ih htext]

namespace Part

theorem exists_written_cons (part : Part) :
    ∃ c cs, part.written = c :: cs ∧ isBlank c = false := by
  cases part with
  | quoted quote hq text => exact ⟨_, _, rfl, Script.isBlank_of_isQuote hq⟩
  | bare text hne hplain =>
    have ⟨c, cs, hcs⟩ := List.exists_cons_of_ne_nil hne
    exact ⟨c, cs, hcs, (hplain c (hcs ▸ List.mem_cons_self)).1⟩

-- A part goes on with the word that is being read.
theorem wordsFrom_written (part : Part) (read rest : List Char) :
    wordsFrom (.bare read) (part.written ++ rest) =
      wordsFrom (.bare (part.text.reverse ++ read)) rest := by
  cases part with
  | quoted quote hq text =>
    have hopen : wordsFrom (.bare read) ((quoted quote hq text).written ++ rest) =
        wordsFrom (.quoted quote read) (escape quote text ++ quote :: rest) := by
      simp [written, wordsFrom, WordState.enter, Script.isBlank_of_isQuote hq, hq]
    rw [hopen]
    exact wordsFrom_escape hq text read rest
  | bare text hne hplain => exact wordsFrom_plain hplain read rest

end Part

theorem wordsFrom_parts (parts : List Part) (read rest : List Char) :
    wordsFrom (.bare read) (parts.flatMap Part.written ++ rest) =
      wordsFrom (.bare ((parts.flatMap Part.text).reverse ++ read)) rest := by
  induction parts generalizing read with
  | nil => rfl
  | cons part parts ih =>
    rw [List.flatMap_cons, List.flatMap_cons, List.append_assoc, part.wordsFrom_written, ih,
      List.reverse_append, List.append_assoc]

theorem wordsFrom_gap (hb : isAllBlank gap = true) (rest : List Char) :
    wordsFrom .between (gap ++ rest) = wordsFrom .between rest := by
  induction gap with
  | nil => rfl
  | cons c gap ih =>
    have ⟨hc, hgap⟩ : isBlank c = true ∧ isAllBlank gap = true := by
      simpa [isAllBlank] using hb
    rw [List.cons_append, wordsFrom, if_pos hc, ih hgap]

-- A word begins where there is no blank.
theorem wordsFrom_between_of_not_blank (hc : isBlank c = false) (cs : List Char) :
    wordsFrom .between (c :: cs) = wordsFrom (.bare []) (c :: cs) := by
  simp [wordsFrom, hc]

-- It ends at a blank, or with the text.
theorem wordsFrom_bare (hp : ∀ c, rest.head? = some c → isBlank c = true) (read : List Char) :
    wordsFrom (.bare read) rest = read.reverse :: wordsFrom .between rest := by
  cases rest with
  | nil => rfl
  | cons c rest => simp [wordsFrom, hp c rfl]

theorem Spelling.wordsFrom_written (word : Spelling)
    (hp : ∀ c, rest.head? = some c → isBlank c = true) :
    wordsFrom .between (word.written ++ rest) = word.text :: wordsFrom .between rest := by
  have ⟨part, parts, hparts⟩ := List.exists_cons_of_ne_nil word.ne_nil
  have ⟨c, cs, hpart, hc⟩ := part.exists_written_cons
  have hword : word.written ++ rest = c :: (cs ++ (parts.flatMap Part.written ++ rest)) := by
    simp [written, hparts, hpart]
  calc wordsFrom .between (word.written ++ rest)
    _ = wordsFrom (.bare []) (word.written ++ rest) := by
      rw [hword]
      exact wordsFrom_between_of_not_blank hc _
    _ = wordsFrom (.bare word.text.reverse) rest := by
      rw [written, wordsFrom_parts, List.append_nil]
      rfl
    _ = word.text :: wordsFrom .between rest := by rw [wordsFrom_bare hp, List.reverse_reverse]

theorem Spells.wordsFrom (h : Spells line texts) :
    (wordsFrom .between line).map .ofList = texts := by
  induction h with
  | nil after hb => rw [wordsFrom_between_of_blank hb, List.map_nil]
  | cons gap hb word hp _ ih =>
    rw [wordsFrom_gap hb, word.wordsFrom_written hp, List.map_cons, ih]

theorem Spells.words (h : Spells line texts) : Console.words (.ofList line) = texts := by
  rw [Console.words, String.toList_ofList, h.wordsFrom]

theorem exists_spells (texts : List String) : ∃ line, Spells line texts ∧
    ∀ c, line.head? = some c → isBlank c = true := by
  induction texts with
  | nil => exact ⟨[], .nil [] rfl, nofun⟩
  | cons text texts ih =>
    have ⟨rest, hr, hp⟩ := ih
    have hword := Spells.cons [' '] rfl (.ofPart (.quoted '"' rfl text.toList)) hp hr
    have htext : String.ofList (Spelling.ofPart (.quoted '"' rfl text.toList)).text = text := by
      simp [Spelling.ofPart, Spelling.text, Part.text]
    refine ⟨_, htext ▸ hword, ?_⟩
    rintro c ⟨⟩
    rfl

-- Every list of words can be written, and is read back, in whatever way it is written.
theorem words_of_spells (texts : List String) :
    (∃ line, Spells line texts) ∧
      ∀ line, Spells line texts → words (.ofList line) = texts :=
  ⟨(exists_spells texts).imp fun _ h => h.1, fun _ h => h.words⟩

-- An empty word, quotes of both kinds around one another, and a backslash that is not quoted.
def busyWords : List Spelling :=
  [.ofPart (.quoted '\'' rfl []),
    ⟨[.quoted '"' rfl "it's ".toList, .quoted '\'' rfl "\"a\\b'\n".toList], by decide⟩,
    ⟨[.bare "top".toList (by decide) (by simp [isBlank, isQuote]), .quoted '"' rfl " ".toList,
      .bare "10\\".toList (by decide) (by simp [isBlank, isQuote])], by decide⟩]

theorem words_of_busyLine :
    let line := "\t''  \"it's \"'\"a\\\\b\\'\n' top\" \"10\\ \u3000".toList
    let texts := ["", "it's \"a\\b'\n", "top 10\\"]
    busyWords.map (String.ofList ·.text) = texts ∧ Spells line texts ∧
      words (.ofList line) = texts := by
  intro line texts
  have hspells : Spells line texts :=
    .cons "\t".toList rfl busyWords[0] (fun _ hc => by cases hc; rfl) <|
      .cons "  ".toList rfl busyWords[1] (fun _ hc => by cases hc; rfl) <|
        .cons " ".toList rfl busyWords[2] (fun _ hc => by cases hc; rfl) <|
          .nil " \u3000".toList rfl
  exact ⟨by decide, hspells, (words_of_spells texts).2 line hspells⟩

end QueryConsole.Console
