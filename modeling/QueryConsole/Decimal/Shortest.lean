-- The shortest decimal that reads back as a given binary floating-point number. All steps are exact
-- arithmetic on natural numbers: of the decimals with the fewest digits inside the interval of
-- reals that round to the number, the nearest one is taken.
namespace QueryConsole.Decimal

-- The value `digits * 10 ^ exponent`.
structure Digits where
  digits : Nat
  exponent : Int
  deriving DecidableEq, Repr

-- A finite binary number `mantissa * 2 ^ exponent`.
structure Binary where
  mantissa : Nat
  exponent : Int
  -- The next smaller number is only half as far away as the next larger one.
  closeBelow : Bool
  deriving DecidableEq, Repr

-- Which of two equally near decimals is taken.
inductive Tie
  | toEven
  | up
  deriving DecidableEq, Repr

namespace Binary

-- The magnitude of a finite double with these bits.
def ofBits (bits : UInt64) : Binary :=
  let n := bits.toNat
  let fraction := n % Nat.pow 2 52
  let power : Nat := n / Nat.pow 2 52 % Nat.pow 2 11
  if power = 0 then ⟨fraction, -1074, false⟩
  else ⟨fraction + Nat.pow 2 52, (power : Int) - 1075, fraction = 0 ∧ 1 < power⟩

-- Numerator and denominator of `2 ^ (exponent - 2)`, in which unit the mantissa counts four.
def unit (b : Binary) : Nat × Nat :=
  (Nat.pow 2 (b.exponent - 2).toNat, Nat.pow 2 (2 - b.exponent).toNat)

def leading (b : Binary) : Int :=
  let num := 4 * b.mantissa * b.unit.1
  let den := b.unit.2
  if den ≤ num then
    (Nat.toDigits 10 (num / den)).length - 1
  else
    let length := (Nat.toDigits 10 (den / num)).length
    if den ≤ num * Nat.pow 10 (length - 1) then 1 - (length : Int) else -(length : Int)

-- The nearest multiple of `10 ^ power` among the two next to the number, if one of them reads back
-- as the number. The ends of the interval belong to it when the mantissa is even.
def onGrid (tie : Tie) (b : Binary) (power : Int) : Option Digits :=
  let scale := b.unit.1 * Nat.pow 10 (-power).toNat
  let step := b.unit.2 * Nat.pow 10 power.toNat
  let value := 4 * b.mantissa * scale
  let low := (4 * b.mantissa - if b.closeBelow then 1 else 2) * scale
  let high := (4 * b.mantissa + 2) * scale
  let even : Bool := b.mantissa % 2 = 0
  let below := value / step
  let rest := value % step
  let isLow : Bool := low < below * step || (even && low = below * step)
  let isHigh : Bool := (below + 1) * step < high || (even && (below + 1) * step = high)
  let roundsUp : Bool :=
    if 2 * rest = step then
      match tie with
      | .toEven => below % 2 = 1
      | .up => true
    else step < 2 * rest
  if isLow && !(isHigh && roundsUp) then some ⟨below, power⟩
  else if isHigh then some ⟨below + 1, power⟩
  else none

-- Seventeen digits are always enough.
def shortest (tie : Tie) (b : Binary) : Digits :=
  if b.mantissa = 0 then ⟨0, 0⟩
  else
    let grid := (List.range 17).findSome? fun (i : Nat) => b.onGrid tie (b.leading - i)
    grid.getD ⟨b.mantissa, b.exponent⟩

end Binary

namespace Digits

-- The digits without zeros at the end. Bounded by the number of digits.
def stripZeros : Nat → Digits → Digits
  | 0, d => d
  | fuel + 1, d =>
    if d.digits ≠ 0 ∧ d.digits % 10 = 0 then stripZeros fuel ⟨d.digits / 10, d.exponent + 1⟩ else d

def normal (d : Digits) : Digits :=
  stripZeros (Nat.toDigits 10 d.digits).length d

def text (d : Digits) : List Char :=
  Nat.toDigits 10 d.digits

def leading (d : Digits) : Int :=
  d.text.length - 1 + d.exponent

end Digits
end QueryConsole.Decimal
