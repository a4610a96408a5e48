import QueryConsole.Json.Basic
import QueryConsole.Json.Reader

namespace QueryConsole.Json

variable {c : Char} {p : Piece} {ps : List Piece} {ds rest : List Char} {bound start n : Nat}

-- The piece of a string that is assembled to the character.
def Piece.StandsFor (p : Piece) (c : Char) : Prop :=
  p = .char c ∨ p = .unit c.toNat ∧ c.toNat < 0x20

theorem assemble?_cons (h : p.StandsFor c) :
    assemble? (p :: ps) = (assemble? ps).map (c :: ·) := by
  cases h
  case inl h => simp [h, assemble?]
  case inr h =>
    have ⟨hp, hc⟩ := h
    have high : isHighSurrogate c.toNat = false := by simp [isHighSurrogate]; omega
    have low : isLowSurrogate c.toNat = false := by simp [isLowSurrogate]; omega
    cases ps with
    | nil => simp [hp, assemble?, high, low]
    | cons q ps =>
      cases q with
      | char d => simp [hp, assemble?, high, low, Function.comp_def]
      | unit m => simp [hp, assemble?, high, low]

theorem hexValue?_hexDigit (n : Nat) : hexValue? (hexDigit n) = some (n % 16) := by
  have small : ∀ d < 16, hexValue? (Nat.digitChar d) = some d := by decide
  exact small (n % 16) (Nat.mod_lt n (by decide))

theorem unit?_hexDigits (h : n < 0x20) :
    unit? '0' '0' (hexDigit (n / 16)) (hexDigit n) = some (.unit n) := by
  have zero : hexValue? '0' = some 0 := by decide
  simp [unit?, zero, hexValue?_hexDigit]
  omega

theorem pieces?_cons (hquote : c ≠ '"') (hslash : c ≠ '\\') (h : ¬c.toNat < 0x20) :
    pieces? (c :: rest) = (pieces? rest).map fun (ps, rest) => (.char c :: ps, rest) := by
  cases hr : pieces? rest <;> simp [pieces?, hslash, h, hr]

-- A character is read from its escape, whatever follows.
theorem exists_pieces?_escapeChar (c : Char) :
    ∃ p : Piece, p.StandsFor c ∧ ∀ rest, pieces? (escapeChar c ++ rest) =
      (pieces? rest).map fun (ps, rest) => (p :: ps, rest) := by
  unfold escapeChar
  split
  case h_8 hquote hslash _ _ _ _ _ =>
    split
    case isTrue h =>
      refine ⟨.unit c.toNat, .inr ⟨rfl, h⟩, fun rest => ?_⟩
      cases hr : pieces? rest <;> simp [pieces?, unit?_hexDigits h, hr]
    case isFalse h =>
      exact ⟨.char c, .inl rfl, fun rest => pieces?_cons hquote hslash h⟩
  all_goals
    refine ⟨_, .inl rfl, fun rest => ?_⟩
    cases hr : pieces? rest <;> simp [pieces?, shortEscape?, hr]

theorem exists_pieces?_escaped (cs rest : List Char) :
    ∃ ps, pieces? (cs.flatMap escapeChar ++ '"' :: rest) = some (ps, rest) ∧
      assemble? ps = some cs := by
  induction cs with
  | nil => exact ⟨[], by simp [pieces?], by simp [assemble?]⟩
  | cons c cs ih =>
    have ⟨ps, hps, hcs⟩ := ih
    have ⟨p, hp, hread⟩ := exists_pieces?_escapeChar c
    refine ⟨p :: ps, ?_, ?_⟩
    · simp [hread, hps]
    · simp [assemble?_cons hp, hcs]

theorem string?_escaped (s : String) (rest : List Char) :
    string? (s.toList.flatMap escapeChar ++ '"' :: rest) = some (some s, rest) := by
  have ⟨ps, hps, hs⟩ := exists_pieces?_escaped s.toList rest
  simp [string?, hps, hs]

-- A number does not go on with this text.
def EndsNumber (rest : List Char) : Prop :=
  ∀ c, rest.head? = some c → c.isDigit = false ∧ c ≠ '.' ∧ c ≠ 'e' ∧ c ≠ 'E'

def EndsDigits (rest : List Char) : Prop :=
  ∀ c, rest.head? = some c → c.isDigit = false

theorem EndsNumber.endsDigits (h : EndsNumber rest) : EndsDigits rest :=
  fun c hc => (h c hc).1

theorem endsDigits_cons (h : c.isDigit = false) (rest : List Char) : EndsDigits (c :: rest) := by
  rintro d ⟨⟩
  exact h

-- Digits, at least one of them.
structure AreDigits (ds : List Char) : Prop where
  ne_nil : ds ≠ []
  isDigit : ∀ c ∈ ds, c.isDigit = true

theorem digits?_append (h : AreDigits ds) (hr : EndsDigits rest) :
    digits? (ds ++ rest) = some (ds, rest) := by
  have stop : rest.takeWhile Char.isDigit = [] ∧ rest.dropWhile Char.isDigit = rest := by
    cases rest with
    | nil => simp
    | cons c rest => simp [hr c rfl]
  have hne := h.ne_nil
  simp only [digits?, List.takeWhile_append_of_pos h.isDigit,
    List.dropWhile_append_of_pos h.isDigit, stop.1, stop.2, List.append_nil]

-- Only zero starts with a zero.
theorem head?_toDigits_ne_zero (h : 0 < n) : (Nat.toDigits 10 n).head? ≠ some '0' := by
  induction n using Nat.strongRecOn with
  | ind n ih =>
    by_cases hlt : n < 10
    case pos =>
      rw [Nat.toDigits_of_lt_base hlt]
      have small : ∀ d < 10, 0 < d → Nat.digitChar d ≠ '0' := by decide
      simpa using small n hlt h
    case neg =>
      have hpos : 0 < n / 10 := by omega
      have hhead := ih (n / 10) (by omega) hpos
      have hsplit := Nat.toDigits_of_base_le (b := 10) (n := n) (by decide) (by omega)
      rw [hsplit, List.head?_append, List.head?_eq_some_head Nat.toDigits_ne_nil]
      rwa [List.head?_eq_some_head Nat.toDigits_ne_nil] at hhead

theorem isDigit_of_mem_toDigits (h : c ∈ Nat.toDigits 10 n) : c.isDigit = true :=
  Nat.isDigit_of_mem_toDigits (by decide) (by decide) h

theorem areDigits_toDigits (n : Nat) : AreDigits (Nat.toDigits 10 n) where
  ne_nil := Nat.toDigits_ne_nil
  isDigit _ := isDigit_of_mem_toDigits

-- Digits of a whole number: only zero starts with a zero.
structure IsWhole (ds : List Char) : Prop extends AreDigits ds where
  zero : ds.head? = some '0' → ds = ['0']

theorem isWhole_toDigits (n : Nat) : IsWhole (Nat.toDigits 10 n) where
  toAreDigits := areDigits_toDigits n
  zero hz := by
    cases Nat.eq_zero_or_pos n with
    | inl hn => rw [hn, Nat.toDigits_zero]
    | inr hn => exact absurd hz (head?_toDigits_ne_zero hn)

theorem whole?_append (h : IsWhole ds) (hr : EndsDigits rest) :
    whole? (ds ++ rest) = some (ds, rest) := by
  by_cases hz : ds.head? = some '0'
  case pos =>
    rw [h.zero hz]
    cases rest with
    | nil => simp [whole?]
    | cons c rest => simp [whole?, hr c rfl]
  case neg =>
    have hdigits := digits?_append h.toAreDigits hr
    rw [← hdigits]
    cases ds with
    | nil => exact absurd rfl h.ne_nil
    | cons d ds =>
      unfold whole?
      split
      · simp_all
      · rfl

namespace Numeral

def decimalsText : Option (List Char) → List Char
  | none => []
  | some ds => '.' :: ds

def exponentText : Option (Bool × List Char) → List Char
  | none => []
  | some (below, ds) => 'e' :: (if below then '-' else '+') :: ds

-- The numeral with a sign before every exponent.
def text (m : Numeral) : List Char :=
  (if m.negative then ['-'] else []) ++
    (m.whole ++ (decimalsText m.decimals ++ exponentText m.exponent))

structure Written (m : Numeral) : Prop where
  whole : IsWhole m.whole
  decimals : ∀ ds ∈ m.decimals, AreDigits ds
  exponent : ∀ e ∈ m.exponent, AreDigits e.2

variable {decimals : Option (List Char)} {exponent : Option (Bool × List Char)} {m : Numeral}

theorem exponent?_append (h : ∀ e ∈ exponent, AreDigits e.2) (hr : EndsNumber rest) :
    exponent? (exponentText exponent ++ rest) = some (exponent, rest) := by
  cases exponent with
  | none =>
    cases rest with
    | nil => rfl
    | cons c rest => simp [exponentText, exponent?, hr c rfl]
  | some e =>
    obtain ⟨below, ds⟩ := e
    have hdigits := digits?_append (h _ rfl) hr.endsDigits
    cases below <;> simp [exponentText, exponent?, hdigits]

-- What follows the digits before the exponent.
theorem endsDigits_exponentText (exponent : Option (Bool × List Char)) (hr : EndsNumber rest) :
    EndsDigits (exponentText exponent ++ rest) ∧
      (exponentText exponent ++ rest).head? ≠ some '.' := by
  cases exponent with
  | none => exact ⟨hr.endsDigits, fun hdot => (hr '.' hdot).2.1 rfl⟩
  | some e => exact ⟨endsDigits_cons (by decide) _, by simp [exponentText]⟩

theorem decimals?_append (h : ∀ ds ∈ decimals, AreDigits ds) (hr : EndsDigits rest)
    (hdot : rest.head? ≠ some '.') :
    decimals? (decimalsText decimals ++ rest) = some (decimals, rest) := by
  cases decimals with
  | none =>
    unfold decimals?
    split
    · simp_all [decimalsText]
    · rfl
  | some ds => simp [decimalsText, decimals?, digits?_append (h ds rfl) hr]

theorem endsDigits_decimalsText (decimals : Option (List Char)) (hr : EndsDigits rest) :
    EndsDigits (decimalsText decimals ++ rest) := by
  cases decimals with
  | none => exact hr
  | some ds => exact endsDigits_cons (by decide) _

end Numeral

theorem numeral?_text {m : Numeral} (h : m.Written) (hr : EndsNumber rest) :
    numeral? (m.text ++ rest) = some (m, rest) := by
  have ⟨hends, hdot⟩ := Numeral.endsDigits_exponentText m.exponent hr
  have hexponent := Numeral.exponent?_append h.exponent hr
  have hdecimals := Numeral.decimals?_append h.decimals hends hdot
  have hwhole := whole?_append h.whole (Numeral.endsDigits_decimalsText m.decimals hends)
  obtain ⟨negative, whole, decimals, exponent⟩ := m
  cases negative with
  | true => simp [numeral?, Numeral.text, hwhole, hdecimals, hexponent]
  | false =>
    cases whole with
    | nil => exact absurd rfl h.whole.ne_nil
    | cons d ds =>
      have hminus : d ≠ '-' := fun hd => by
        have hdigit := h.whole.isDigit d List.mem_cons_self
        simp [hd] at hdigit
      simp only [List.cons_append] at hwhole
      simp [numeral?, Numeral.text, hminus, hwhole, hdecimals, hexponent]

theorem exists_text_cons {m : Numeral} (h : m.Written) :
    ∃ c cs, m.text = c :: cs ∧ (c = '-' ∨ c.isDigit = true) := by
  unfold Numeral.text
  cases m.negative with
  | true => exact ⟨'-', _, rfl, .inl rfl⟩
  | false =>
    cases hw : m.whole with
    | nil => exact absurd hw h.whole.ne_nil
    | cons d ds => exact ⟨d, _, rfl, .inr (h.whole.isDigit d (by simp [hw]))⟩

namespace Numeral

def ofInt (n : Int) : Numeral :=
  ⟨n < 0, Nat.toDigits 10 n.natAbs, none, none⟩

theorem written_ofInt (n : Int) : (ofInt n).Written where
  whole := isWhole_toDigits n.natAbs
  decimals := nofun
  exponent := nofun

theorem text_ofInt (n : Int) : (ofInt n).text = printInt n := by
  cases n with
  | ofNat n => simp [ofInt, text, decimalsText, exponentText, printInt]
  | negSucc n => simp [ofInt, text, decimalsText, exponentText, printInt, Int.negSucc_lt_zero]

end Numeral

theorem le_ofDigitChars (ds : List Char) (start : Nat) : start ≤ Nat.ofDigitChars 10 ds start := by
  induction ds generalizing start with
  | nil => simp
  | cons d ds ih =>
    have h := ih (10 * start + (d.toNat - '0'.toNat))
    rw [Nat.ofDigitChars_cons]
    omega

namespace Numeral

theorem readBelow_eq (h : Nat.ofDigitChars 10 ds start < bound) :
    readBelow bound start ds = (Nat.ofDigitChars 10 ds start, []) := by
  induction ds generalizing start with
  | nil => simp [readBelow]
  | cons d ds ih =>
    rw [Nat.ofDigitChars_cons] at h ⊢
    have hle := le_ofDigitChars ds (10 * start + (d.toNat - '0'.toNat))
    have hlt : 10 * start + digit d < bound := Nat.lt_of_le_of_lt hle h
    simp only [readBelow, if_pos hlt]
    exact ih h

theorem readBelow_toDigits (h : n < UInt64.size) :
    readBelow UInt64.size 0 (Nat.toDigits 10 n) = (n, []) := by
  rw [readBelow_eq] <;> simp [h]

theorem number?_ofInt_of_nonneg {n : Int} (h : 0 ≤ n) (hn : n < UInt64.size) :
    (ofInt n).number? = some (.unsigned n.toNat.toUInt64) := by
  have hnat : n.natAbs = n.toNat := by omega
  have hread := readBelow_toDigits (n := n.toNat) (by omega)
  simp only [number?, ofInt, hnat, hread]
  simp [h]

theorem number?_ofInt_of_neg {n : Int} (h : n < 0) (hn : -(Int64.size / 2 : Nat) ≤ n) :
    (ofInt n).number? = some (.negative (Int64.ofInt n)) := by
  have hsize : Int64.size / 2 < UInt64.size := by decide
  have hread := readBelow_toDigits (n := n.natAbs) (by omega)
  have hneg : -(n.natAbs : Int) = n := by omega
  have hrange : ¬(n.natAbs = 0 ∨ Int64.size / 2 < n.natAbs) := by omega
  simp only [number?, ofInt, hread, hneg, if_neg hrange]
  simp [h]

end Numeral
end QueryConsole.Json
