import QueryConsole.Proofs.Decimal
import QueryConsole.Proofs.Json.Token

namespace QueryConsole.Json

open Decimal (Digits Style)

variable {as bs ds : List Char} {exponent : Int} {d : Digits}

theorem areDigits_append (ha : AreDigits as) (hb : ∀ c ∈ bs, c.isDigit = true) :
    AreDigits (as ++ bs) where
  ne_nil := List.append_ne_nil_of_left_ne_nil ha.ne_nil bs
  isDigit c hc := (List.mem_append.1 hc).elim (ha.isDigit c) (hb c)

theorem isDigit_of_mem_replicate {n : Nat} {c : Char} (h : c ∈ List.replicate n '0') :
    c.isDigit = true :=
  List.eq_of_mem_replicate h ▸ by decide

theorem isWhole_append_zeros (h : IsWhole ds) (n : Nat) (hz : ds = ['0'] → n = 0) :
    IsWhole (ds ++ .replicate n '0') where
  toAreDigits := areDigits_append h.toAreDigits fun _ => isDigit_of_mem_replicate
  zero hhead := by
    rw [List.head?_append, List.head?_eq_some_head h.ne_nil, Option.some_or,
      ← List.head?_eq_some_head h.ne_nil] at hhead
    have hds := h.zero hhead
    rw [hds, hz hds]
    rfl

theorem isWhole_take (h : IsWhole ds) {n : Nat} (hn : 0 < n) (hz : ds ≠ ['0']) :
    IsWhole (ds.take n) where
  ne_nil := by
    have hpos := List.length_pos_iff.2 h.ne_nil
    exact List.ne_nil_of_length_pos (by rw [List.length_take]; omega)
  isDigit c hc := h.isDigit c (List.mem_of_mem_take hc)
  zero hhead := by
    rw [List.head?_take, if_neg (Nat.ne_of_gt hn)] at hhead
    exact absurd (h.zero hhead) hz

theorem isWhole_zero : IsWhole ['0'] where
  ne_nil := nofun
  isDigit := List.forall_mem_singleton.2 rfl
  zero _ := rfl

theorem areDigits_drop (h : ∀ c ∈ ds, c.isDigit = true) {n : Nat} (hn : n < ds.length) :
    AreDigits (ds.drop n) where
  ne_nil := List.ne_nil_of_length_pos (by rw [List.length_drop]; omega)
  isDigit c hc := h c (List.mem_of_mem_drop hc)

-- The text is a numeral, with a minus sign before it as well as without one.
def IsNumeral (cs : List Char) : Prop :=
  ∀ negative : Bool, ∃ m : Numeral, m.Written ∧ m.text = (if negative then ['-'] else []) ++ cs

theorem isNumeral_of_parts (hw : IsWhole ds) (decimals : Option (List Char))
    (hd : ∀ ds ∈ decimals, AreDigits ds) (exponent : Option (Bool × List Char))
    (he : ∀ e ∈ exponent, AreDigits e.2) :
    IsNumeral (ds ++ (Numeral.decimalsText decimals ++ Numeral.exponentText exponent)) :=
  fun negative => ⟨⟨negative, ds, decimals, exponent⟩, ⟨hw, hd, he⟩, rfl⟩

-- Zeros before the digits stand for those that are missing up to the point.
theorem isNumeral_plain_of_neg (h : IsWhole ds) (he : exponent < 0) (hz : ds ≠ ['0']) :
    IsNumeral (Decimal.plain true ds exponent) := by
  rw [Decimal.plain, if_neg (Int.not_le.2 he)]
  dsimp only
  generalize hplaces : (-exponent).toNat = places
  generalize hpadded : List.replicate (places + 1 - ds.length) '0' ++ ds = padded
  have hpos : 0 < places := by omega
  have hdigits : ∀ c ∈ padded, c.isDigit = true := by
    intro c hc
    rw [← hpadded] at hc
    exact (List.mem_append.1 hc).elim isDigit_of_mem_replicate (h.isDigit c)
  have hlength : padded.length = (places + 1 - ds.length) + ds.length := by
    rw [← hpadded, List.length_append, List.length_replicate]
  have hwhole : IsWhole (padded.take (padded.length - places)) := by
    by_cases hshort : ds.length ≤ places
    case pos =>
      have hone : padded.length - places = 1 := by omega
      have hreplicate : places + 1 - ds.length = (places - ds.length) + 1 := by omega
      rw [hone, ← hpadded, hreplicate, List.replicate_succ]
      exact isWhole_zero
    case neg =>
      have hnone : places + 1 - ds.length = 0 := by omega
      rw [hnone] at hpadded
      obtain rfl : ds = padded := hpadded
      exact isWhole_take h (by omega) hz
  have hdecimals : AreDigits (padded.drop (padded.length - places)) :=
    areDigits_drop hdigits (by omega)
  have hparts := isNumeral_of_parts hwhole (some _) (by rintro _ ⟨⟩; exact hdecimals) none nofun
  simpa [Numeral.decimalsText, Numeral.exponentText] using hparts

theorem isNumeral_plain (h : IsWhole ds) (hz : ds = ['0'] → exponent = 0) :
    IsNumeral (Decimal.plain true ds exponent) := by
  by_cases he : 0 ≤ exponent
  case pos =>
    have hwhole := isWhole_append_zeros h exponent.toNat fun hds => by rw [hz hds]; rfl
    have hparts := isNumeral_of_parts hwhole (some ['0'])
      (by rintro _ ⟨⟩; exact isWhole_zero.toAreDigits) none nofun
    rw [Decimal.plain, if_pos he]
    simpa [Numeral.decimalsText, Numeral.exponentText] using hparts
  case neg =>
    exact isNumeral_plain_of_neg h (Int.not_le.1 he) fun hds => he (hz hds ▸ Int.le_refl 0)

theorem isWhole_singleton {c : Char} (h : c.isDigit = true) : IsWhole [c] where
  ne_nil := nofun
  isDigit := by simpa using h
  zero hhead := by rw [Option.some.inj hhead]

theorem isNumeral_scientific (h : AreDigits ds) (leading : Int) :
    IsNumeral (Decimal.scientific ds leading) := by
  have hpower : ∀ e ∈ some (decide (leading < 0), Nat.toDigits 10 leading.natAbs),
      AreDigits e.2 := by
    rintro _ ⟨⟩
    exact areDigits_toDigits leading.natAbs
  cases ds with
  | nil => exact absurd rfl h.ne_nil
  | cons d ds =>
    obtain ⟨hd, hds⟩ := List.forall_mem_cons.1 h.isDigit
    have hwhole := isWhole_singleton hd
    cases ds with
    | nil =>
      have hparts := isNumeral_of_parts hwhole none (by simp) _ hpower
      simpa [Decimal.scientific, Numeral.decimalsText, Numeral.exponentText] using hparts
    | cons e ds =>
      have hdecimals : ∀ es ∈ some (e :: ds), AreDigits es := by
        rintro _ ⟨⟩
        exact ⟨List.cons_ne_nil e ds, hds⟩
      simpa [Decimal.scientific, Numeral.decimalsText, Numeral.exponentText] using
        isNumeral_of_parts hwhole _ hdecimals _ hpower

theorem exponent_of_zero (hd : d.Proper) (hz : d.text = ['0']) : d.exponent = 0 := by
  refine hd (Nat.eq_zero_of_not_pos fun hpos => head?_toDigits_ne_zero hpos ?_)
  rw [← Digits.text, hz]
  rfl

-- A finite number is written as a numeral.
theorem exists_text_write (x : Float) :
    ∃ m : Numeral, m.Written ∧ m.text = floatStyle.write x := by
  unfold Style.write
  dsimp only
  generalize hd : ((Decimal.Binary.ofBits x.toBits).shortest floatStyle.tie).normal = d
  have hproper : d.Proper := hd ▸ (Decimal.Binary.proper_shortest _ _).normal
  have hwhole : IsWhole d.text := isWhole_toDigits d.digits
  have hbody : IsNumeral (if floatStyle.isPlain d.leading
      then Decimal.plain floatStyle.keepsDecimal d.text d.exponent
      else Decimal.scientific d.text d.leading) := by
    split
    case isTrue => exact isNumeral_plain hwhole (exponent_of_zero hproper)
    case isFalse => exact isNumeral_scientific hwhole.toAreDigits d.leading
  have ⟨m, hm, htext⟩ := hbody (decide (x.toBits >>> 63 = 1))
  exact ⟨m, hm, by simpa using htext⟩

end QueryConsole.Json
