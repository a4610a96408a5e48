import QueryConsole.Console.Command
import QueryConsole.Proofs.Console.Words
import QueryConsole.Proofs.Script.Sealed
import QueryConsole.Proofs.Text.Blank
import QueryConsole.Proofs.Text.LowerCase

namespace QueryConsole.Console.Command

open Text (isBlank isAllBlank Tidy)

-- The words that a command goes by.
def keywords : Command → List String
  | favorites => ["/favorites", "/favs"]
  | save _ => ["/save"]
  | run _ => ["/run"]
  | forget _ => ["/forget"]
  | params => ["/params"]
  | history _ => ["/history"]
  | reset => ["/reset"]
  | help => ["/help"]
  | quit => ["/quit", "/exit"]

def favorite? : Command → Option String
  | save name | run name | forget name => some name
  | favorites | params | history _ | reset | help | quit => none

def quote (name : String) : List Char :=
  '"' :: (escape '"' name.toList ++ ['"'])

-- What stands behind the word of a command.
def argument? : Command → Option (List Char)
  | save name | run name | forget name => some (quote name)
  | history limit => limit.map fun n => n.repr.toList
  | favorites | params | reset | help | quit => none

-- A favorite needs a name that is not blank, and a limit has to be a machine word.
structure Valid (command : Command) : Prop where
  nonblank : ∀ name, command.favorite? = some name → isAllBlank name.toList = false
  limit_lt : ∀ n, command = history (some n) → n < UInt64.size

-- The word is one of the command's, in any letter case.
def Means (word : List Char) (command : Command) : Prop :=
  ∃ keyword ∈ command.keywords, word.map Char.toLower = keyword.toList

-- The line says the command.
inductive Typed (command : Command) : List Char → Prop
  | bare (before word after : List Char) (hb : isAllBlank before = true)
      (hw : Means word command) (hn : command.argument? = none) (ha : isAllBlank after = true) :
      Typed command (before ++ (word ++ after))
  | argument (before word gap argument after : List Char) (hb : isAllBlank before = true)
      (hw : Means word command) (hg : isAllBlank gap = true) (hne : gap ≠ [])
      (hs : command.argument? = some argument) (ha : isAllBlank after = true) :
      Typed command (before ++ ((word ++ (gap ++ argument)) ++ after))

variable {command : Command} {keyword line : String} {args : List String}
  {word rest argument gap : List Char} {n : Nat}

def allKeywords : List String :=
  ["/favorites", "/favs", "/save", "/run", "/forget", "/params", "/history", "/reset", "/help",
    "/quit", "/exit"]

theorem mem_allKeywords (h : keyword ∈ command.keywords) : keyword ∈ allKeywords := by
  have hall : command.keywords ⊆ allKeywords := by
    cases command <;> simp [keywords, allKeywords]
  exact hall h

theorem toNat_lt_of_mem_allKeywords :
    ∀ keyword ∈ allKeywords, ∀ c ∈ keyword.toList, c.toNat < 128 ∧ isBlank c = false := by
  have hall : (allKeywords.all fun keyword =>
      keyword.toList.all fun c => c.toNat < 128 && !isBlank c) = true := by decide
  simpa using hall

theorem head?_of_mem_allKeywords :
    ∀ keyword ∈ allKeywords, keyword.toList.head? = some '/' := by
  decide

theorem isBlank_of_map_toLower (hk : keyword ∈ allKeywords)
    (hw : word.map Char.toLower = keyword.toList) : ∀ c ∈ word, isBlank c = false := by
  intro c hc
  by_contra hb
  have hb := Bool.not_eq_false _ ▸ hb
  have hlower : c.toLower ∈ keyword.toList := hw ▸ List.mem_map_of_mem hc
  rw [Text.toLower_of_isBlank hb] at hlower
  exact nomatch hb.symm.trans (toNat_lt_of_mem_allKeywords keyword hk c hlower).2

theorem tidy_of_map_toLower (hk : keyword ∈ allKeywords)
    (hw : word.map Char.toLower = keyword.toList) : Tidy word := by
  refine Text.tidy_of_forall ?_ (isBlank_of_map_toLower hk hw)
  rintro rfl
  have hhead := head?_of_mem_allKeywords keyword hk
  rw [← hw] at hhead
  exact nomatch hhead

theorem isDigit_of_mem_repr : ∀ c ∈ n.repr.toList, c.isDigit = true := by
  intro c hc
  rw [Nat.toList_repr] at hc
  exact Nat.isDigit_of_mem_toDigits (by decide) (by decide) hc

theorem limit?_repr (h : n < UInt64.size) : limit? n.repr = some n := by
  have hvalue : Nat.ofDigitChars 10 n.repr.toList 0 = n := by
    rw [Nat.toList_repr, Nat.ofDigitChars_ten_toDigits]
  have hne : n.repr.toList ≠ [] := Nat.toList_repr ▸ Nat.toDigits_ne_nil
  have hdigit := isDigit_of_mem_repr (n := n)
  have ⟨d, ds, hds⟩ := List.exists_cons_of_ne_nil hne
  rw [hds] at hvalue hdigit
  have hsign : d ≠ '+' := by
    rintro rfl
    exact nomatch hdigit '+' List.mem_cons_self
  have hall : (d :: ds).all Char.isDigit = true := List.all_eq_true.2 hdigit
  have hfold : (d :: ds).foldl (fun n d => 10 * n + (d.toNat - 48)) 0 = n := hvalue
  unfold limit?
  rw [hds]
  split
  case h_1 heq => exact absurd (List.cons.inj heq).1 hsign
  case h_2 => simp [hall, hfold, h]

theorem ofWords_of_bare (hk : keyword ∈ command.keywords) (hn : command.argument? = none) :
    ofWords keyword [] = .ok command := by
  cases command with
  | save | run | forget => exact nomatch hn
  | favorites | quit =>
    simp only [keywords, List.mem_cons, List.not_mem_nil, or_false] at hk
    cases hk
    all_goals
      subst keyword
      rfl
  | params | reset | help =>
    cases List.mem_singleton.1 hk
    rfl
  | history limit =>
    cases List.mem_singleton.1 hk
    cases Option.map_eq_none_iff.1 hn
    rfl

theorem ofPart_text (part : Part) : (Spelling.ofPart part).text = part.text := by
  simp [Spelling.ofPart, Spelling.text]

theorem ofPart_written (part : Part) : (Spelling.ofPart part).written = part.written := by
  simp [Spelling.ofPart, Spelling.written]

-- The argument is a word, and says the command together with any word of the command.
structure Completes (argument : List Char) (command : Command) : Prop where
  tidy : Tidy argument
  spelled : ∃ word : Spelling, word.written = argument ∧
    ∀ keyword ∈ command.keywords, ofWords keyword [.ofList word.text] = .ok command

theorem tidy_quote (name : String) : Tidy (quote name) where
  ne_nil := List.cons_ne_nil _ _
  first := by
    rintro c ⟨⟩
    rfl
  last := by
    intro c hc
    rw [quote, ← List.cons_append, List.getLast?_concat] at hc
    cases hc
    rfl

theorem completes_quote {name : String}
    (h : ∀ keyword ∈ command.keywords, ofWords keyword [name] = .ok command) :
    Completes (quote name) command where
  tidy := tidy_quote name
  spelled := by
    have htext : String.ofList (Part.quoted '"' rfl name.toList).text = name :=
      String.ofList_toList
    refine ⟨.ofPart (.quoted '"' rfl name.toList), ofPart_written _, ?_⟩
    rw [ofPart_text, htext]
    exact h

theorem completes_repr (h : n < UInt64.size) :
    Completes n.repr.toList (.history (some n)) := by
  have hne : n.repr.toList ≠ [] := Nat.toList_repr ▸ Nat.toDigits_ne_nil
  have hplain : ∀ c ∈ n.repr.toList, isBlank c = false ∧ Script.isQuote c = false := by
    intro c hc
    have hdigit := isDigit_of_mem_repr c hc
    have ⟨hq, hb, _⟩ := Script.inert_of_isAlphanum (c := c) (by simp [Char.isAlphanum, hdigit])
    exact ⟨hb, hq⟩
  constructor
  case tidy => exact Text.tidy_of_forall hne fun c hc => (hplain c hc).1
  case spelled =>
    have htext : String.ofList (Part.bare _ hne hplain).text = n.repr := String.ofList_toList
    refine ⟨.ofPart (.bare _ hne hplain), ofPart_written _, ?_⟩
    intro keyword hk
    cases List.mem_singleton.1 hk
    rw [ofPart_text, htext]
    simp [ofWords, historyLimit?, limit?_repr h, Except.map]

theorem completes (hv : command.Valid) (hs : command.argument? = some argument) :
    Completes argument command := by
  cases command with
  | favorites | params | reset | help | quit => exact nomatch hs
  | save name | run name | forget name =>
    cases hs
    have hb := hv.nonblank name rfl
    refine completes_quote fun keyword hk => ?_
    cases List.mem_singleton.1 hk
    simp [ofWords, name?, hb, Except.map]
  | history limit =>
    obtain ⟨n, rfl, rfl⟩ := Option.map_eq_some_iff.1 hs
    exact completes_repr (hv.limit_lt n rfl)

-- The first word of a line is cut off at the first blank behind it.
theorem divide_eq (ht : Text.trim line.toList = word ++ rest)
    (hw : ∀ c ∈ word, isBlank c = false) (hr : ∀ c, rest.head? = some c → isBlank c = true) :
    divide line = (.ofList (Text.lower word), .ofList (rest.drop 1)) := by
  have htake : rest.takeWhile (!isBlank ·) = [] := by
    cases rest with
    | nil => rfl
    | cons c rest => simp [hr c rfl]
  have hdrop : rest.dropWhile (!isBlank ·) = rest := by
    cases rest with
    | nil => rfl
    | cons c rest => simp [hr c rfl]
  have hword : ∀ c ∈ word, (!isBlank c) = true := fun c hc => by simp [hw c hc]
  simp only [divide, ht, List.takeWhile_append_of_pos hword, List.dropWhile_append_of_pos hword,
    htake, hdrop, List.append_nil]

theorem parse_eq (ht : Text.trim line.toList = word ++ rest) (hk : keyword ∈ command.keywords)
    (hw : word.map Char.toLower = keyword.toList)
    (hr : ∀ c, rest.head? = some c → isBlank c = true)
    (h : ofWords keyword (words (.ofList (rest.drop 1))) = .ok command) :
    parse line = .ok command := by
  have hk := mem_allKeywords hk
  have hascii : ∀ c ∈ keyword.toList, c.toNat < 128 := fun c hc =>
    (toNat_lt_of_mem_allKeywords keyword hk c hc).1
  have hlower : String.ofList (Text.lower word) = keyword := by
    rw [Text.lower_of_map_toLower hascii hw, String.ofList_toList]
  rw [parse, divide_eq ht (isBlank_of_map_toLower hk hw) hr, hlower]
  simp only [h]
  rfl

theorem parse_of_typed (hv : command.Valid) (h : command.Typed line.toList) :
    parse line = .ok command := by
  generalize hline : line.toList = cs at h
  cases h with
  | bare before word after hb hw hn ha =>
    obtain ⟨keyword, hk, hw⟩ := hw
    have htidy := tidy_of_map_toLower (mem_allKeywords hk) hw
    have htrim : Text.trim line.toList = word ++ [] := by
      rw [hline, Text.trim_between hb htidy ha, List.append_nil]
    exact parse_eq htrim hk hw nofun (ofWords_of_bare hk hn)
  | argument before word gap argument after hb hw hg hne hs ha =>
    obtain ⟨keyword, hk, hw⟩ := hw
    have hdone := completes hv hs
    have ⟨spelling, hwritten, hspelled⟩ := hdone.spelled
    have htidy := (tidy_of_map_toLower (mem_allKeywords hk) hw).append hdone.tidy gap
    have htrim := (congrArg Text.trim hline).trans (Text.trim_between hb htidy ha)
    have ⟨g, gs, hgap⟩ := List.exists_cons_of_ne_nil hne
    subst hgap
    have ⟨hg, hgs⟩ : isBlank g = true ∧ isAllBlank gs = true := by
      simpa [isAllBlank] using hg
    refine parse_eq htrim hk hw ?_ ?_
    · rintro c ⟨⟩
      exact hg
    · have hspells : Spells (gs ++ (spelling.written ++ [])) [.ofList spelling.text] :=
        .cons gs hgs spelling nofun (.nil [] rfl)
      rw [List.append_nil, hwritten] at hspells
      exact hspells.words.symm ▸ hspelled keyword hk

theorem lt_of_limit? {text : String} (h : limit? text = some n) : n < UInt64.size := by
  simp only [limit?] at h
  split_ifs at h with hbad hlt
  cases h
  exact hlt

theorem isAllBlank_of_name? {name : String} (h : name? args = .ok name) :
    isAllBlank name.toList = false := by
  unfold name? at h
  split at h
  case h_1 =>
    split at h
    case isTrue => exact nomatch h
    case isFalse hb =>
      cases h
      exact Bool.not_eq_true _ ▸ hb
  case h_2 => exact nomatch h
  case h_3 => exact nomatch h

theorem lt_of_historyLimit? (h : historyLimit? args = .ok (some n)) : n < UInt64.size := by
  unfold historyLimit? at h
  split at h
  case h_1 => exact nomatch h
  case h_2 text =>
    cases hl : limit? text with
    | none => simp [hl] at h
    | some m =>
      simp only [hl, Except.ok.injEq, Option.some.injEq] at h
      exact h ▸ lt_of_limit? hl
  case h_3 => exact nomatch h

theorem valid_of_name {name : String} (hb : isAllBlank name.toList = false)
    (hf : command.favorite? = some name) : command.Valid where
  nonblank name' h := by
    cases hf.symm.trans h
    exact hb
  limit_lt n h := by
    subst h
    exact nomatch hf

theorem valid_of_plain (hf : command.favorite? = none) (hn : ∀ n, command ≠ history (some n)) :
    command.Valid where
  nonblank _ h := nomatch hf.symm.trans h
  limit_lt n h := absurd h (hn n)

theorem eq_of_noArguments {c : Command} (h : noArguments c args = .ok command) :
    command = c := by
  cases args with
  | nil => exact (Except.ok.inj h).symm
  | cons => exact nomatch h

theorem exists_of_map {α : Type} {x : Except Misuse α} {f : α → Command}
    (h : x.map f = .ok command) : ∃ a, x = .ok a ∧ command = f a := by
  cases x with
  | error => exact nomatch h
  | ok a => exact ⟨a, rfl, (Except.ok.inj h).symm⟩

-- What is read was said, by one of its words.
theorem of_ofWords (h : ofWords keyword args = .ok command) :
    keyword ∈ command.keywords ∧ command.Valid := by
  unfold ofWords at h
  split_ifs at h with hfavorites hsave hrun hforget hparams hhistory hreset hhelp hquit
  · obtain rfl := eq_of_noArguments h
    exact ⟨by simpa [keywords] using hfavorites, valid_of_plain rfl nofun⟩
  · obtain ⟨name, hname, rfl⟩ := exists_of_map h
    exact ⟨by simpa [keywords] using hsave, valid_of_name (isAllBlank_of_name? hname) rfl⟩
  · obtain ⟨name, hname, rfl⟩ := exists_of_map h
    exact ⟨by simpa [keywords] using hrun, valid_of_name (isAllBlank_of_name? hname) rfl⟩
  · obtain ⟨name, hname, rfl⟩ := exists_of_map h
    exact ⟨by simpa [keywords] using hforget, valid_of_name (isAllBlank_of_name? hname) rfl⟩
  · obtain rfl := eq_of_noArguments h
    exact ⟨by simpa [keywords] using hparams, valid_of_plain rfl nofun⟩
  · obtain ⟨limit, hlimit, rfl⟩ := exists_of_map h
    refine ⟨by simpa [keywords] using hhistory, nofun, ?_⟩
    rintro n ⟨⟩
    exact lt_of_historyLimit? hlimit
  · obtain rfl := eq_of_noArguments h
    exact ⟨by simpa [keywords] using hreset, valid_of_plain rfl nofun⟩
  · cases h
    exact ⟨by simpa [keywords] using hhelp, valid_of_plain rfl nofun⟩
  · cases h
    exact ⟨by simpa [keywords] using hquit, valid_of_plain rfl nofun⟩

-- Blanks aside, a line begins like its first word in lower case, if that is a slash.
theorem isCommandLine_of_divide (h : (divide line).1.toList.head? = some '/') :
    isCommandLine line.toList = true := by
  rw [divide, String.toList_ofList] at h
  have hword := Text.head?_of_lower h
  have ⟨after, _, htrim⟩ := Text.exists_trim_append line.toList
  cases hcs : Text.trim line.toList with
  | nil => simp [hcs] at hword
  | cons c cs =>
    rw [hcs, List.takeWhile_cons] at hword
    split at hword
    case isTrue =>
      cases hword
      rw [isCommandLine, ← htrim, hcs]
      rfl
    case isFalse => exact nomatch hword

theorem of_parse (h : parse line = .ok command) :
    isCommandLine line.toList = true ∧ command.Valid := by
  cases hw : ofWords (divide line).1 (words (divide line).2) with
  | error e =>
    have herror : parse line = .error ⟨(divide line).1, e⟩ := by
      simp only [parse, hw]
      rfl
    exact nomatch h.symm.trans herror
  | ok c =>
    have hok : parse line = .ok c := by
      simp only [parse, hw]
      rfl
    cases h.symm.trans hok
    have ⟨hk, hv⟩ := of_ofWords hw
    exact ⟨isCommandLine_of_divide (head?_of_mem_allKeywords _ (mem_allKeywords hk)), hv⟩

-- So every favorite whose name is not blank can be saved, run and forgotten.
theorem parse_typed :
    (∀ (command : Command) (line : String), command.Valid → command.Typed line.toList →
      parse line = .ok command) ∧
    ∀ (line : String) (command : Command), parse line = .ok command →
      isCommandLine line.toList = true ∧
        ∀ name, command.favorite? = some name → isAllBlank name.toList = false :=
  ⟨fun _ _ => parse_of_typed, fun _ _ h => ⟨(of_parse h).1, (of_parse h).2.nonblank⟩⟩

-- A name with everything in it that would end a word or a quote, typed in capitals.
theorem parse_busyName :
    let command := forget "\"it's\\\n "
    let line := "\t/FoRGET\u3000 \"\\\"it's\\\\\n \"\r\n"
    command.Valid ∧ command.Typed line.toList ∧ parse line = .ok command ∧
      isCommandLine line.toList = true := by
  intro command line
  have hvalid : command.Valid := valid_of_name (by decide) rfl
  have hline : line.toList = "\t".toList ++
      (("/FoRGET".toList ++ ("\u3000 ".toList ++ quote "\"it's\\\n ")) ++ "\r\n".toList) := by
    decide
  have hmeans : Means "/FoRGET".toList command :=
    ⟨"/forget", List.mem_singleton_self _, by decide⟩
  have htyped : command.Typed line.toList :=
    hline ▸ .argument _ _ _ _ _ rfl hmeans rfl (by decide) rfl rfl
  have hparse := parse_typed.1 command line hvalid htyped
  exact ⟨hvalid, htyped, hparse, (parse_typed.2 line command hparse).1⟩

end QueryConsole.Console.Command
