import QueryConsole.Decimal.Layout

namespace QueryConsole.Decimal

variable {b : Binary} {tie : Tie} {power : Int} {d : Digits}

-- Zero is no power of ten.
def Digits.Proper (d : Digits) : Prop :=
  d.digits = 0 → d.exponent = 0

namespace Binary

theorem scale_pos (b : Binary) (power : Int) : 0 < b.unit.1 * Nat.pow 10 (-power).toNat :=
  Nat.mul_pos (Nat.pow_pos (by decide)) (Nat.pow_pos (by decide))

-- One of the two neighbours is taken, the lower one only if it lies in the interval.
theorem digits_of_taken {below : Nat} {isLow isHigh roundsUp : Bool}
    (h : (if isLow && !(isHigh && roundsUp) then some ⟨below, power⟩
      else if isHigh then some ⟨below + 1, power⟩ else none) = some d) :
    isLow = true ∧ d.digits = below ∨ d.digits = below + 1 := by
  split at h
  case isTrue htaken =>
    cases h
    exact .inl ⟨(Bool.and_eq_true_iff.1 htaken).1, rfl⟩
  case isFalse =>
    split at h
    case isTrue =>
      cases h
      exact .inr rfl
    case isFalse => exact nomatch h

-- The reals that round to a number other than zero do not reach down to zero.
theorem digits_ne_zero_of_onGrid (hm : b.mantissa ≠ 0) (h : b.onGrid tie power = some d) :
    d.digits ≠ 0 := by
  have hlow : 0 < (4 * b.mantissa - if b.closeBelow then 1 else 2) *
      (b.unit.1 * Nat.pow 10 (-power).toNat) := by
    refine Nat.mul_pos ?_ (b.scale_pos power)
    split <;> omega
  intro hzero
  cases digits_of_taken h with
  | inl hbelow =>
    have ⟨hin, hdigits⟩ := hbelow
    rw [← hdigits, hzero, Nat.zero_mul] at hin
    simp only [Nat.not_lt_zero, decide_false, Bool.false_or, Bool.and_eq_true,
      decide_eq_true_eq] at hin
    exact absurd hin.2 (Nat.ne_of_gt hlow)
  | inr hsucc => exact absurd (hsucc.symm.trans hzero) (Nat.succ_ne_zero _)

theorem proper_shortest (tie : Tie) (b : Binary) : (b.shortest tie).Proper := by
  unfold shortest
  split
  case isTrue => exact fun _ => rfl
  case isFalse hm =>
    cases hf : (List.range 17).findSome? fun (i : Nat) => b.onGrid tie (b.leading - i) with
    | none => exact fun hzero => absurd hzero hm
    | some d =>
      have ⟨i, _, hi⟩ := List.exists_of_findSome?_eq_some hf
      exact fun hzero => absurd hzero (digits_ne_zero_of_onGrid hm hi)

end Binary

namespace Digits

theorem Proper.stripZeros (h : d.Proper) (fuel : Nat) : (d.stripZeros fuel).Proper := by
  induction fuel generalizing d with
  | zero => exact h
  | succ fuel ih =>
    rw [Digits.stripZeros]
    split
    case isTrue hd =>
      refine ih fun hzero => ?_
      dsimp only at hzero
      omega
    case isFalse => exact h

theorem Proper.normal (h : d.Proper) : d.normal.Proper :=
  h.stripZeros _

end Digits

end QueryConsole.Decimal
