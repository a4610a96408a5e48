-- Numbers in JSON text. A numeral is kept as it was written until a type asks for its value; then
-- whole numbers within 64 bits are exact, and others become floating-point numbers.  The value of a
-- decimal is taken in two roundings: as many digits as fit into 64 bits are read as a whole number,
-- and that is multiplied or divided by a power of ten. The digits that no longer fit only count for
-- the size of the number, and those after the point not even for that.
namespace QueryConsole.Json

-- A numeral as written: the digits before the point, those after it, and the exponent.
structure Numeral where
  negative : Bool
  whole : List Char
  -- Without a point there are none.
  decimals : Option (List Char)
  -- The sign (true for a minus) and the digits.
  exponent : Option (Bool × List Char)
  deriving DecidableEq, Repr

inductive Number
  -- From zero to `2 ^ 64 - 1`.
  | unsigned (n : UInt64)
  -- Less than zero.
  | negative (n : Int64)
  | float (x : Float)

namespace Numeral

def digit (c : Char) : Nat :=
  c.toNat - '0'.toNat

-- Reads digits onto `start` for as long as the number stays below `bound`; the digits that do not
-- fit come second.
def readBelow (bound start : Nat) : List Char → Nat × List Char
  | [] => (start, [])
  | c :: rest =>
    let n := 10 * start + digit c
    if n < bound then readBelow bound n rest else (start, c :: rest)

-- `x * 10 ^ exponent`, none if that is not finite. Smaller powers than the least normal ten are
-- divided off in steps.
def scaleFloat : Nat → Float → Int → Option Float
  | 0, x, _ => some x
  | fuel + 1, x, exponent =>
    if exponent.natAbs ≤ 308 then
      let power := Float.ofScientific 1 false exponent.natAbs
      if exponent < 0 then some (x / power)
      else if (x * power).isInf then none
      else some (x * power)
    else if x == 0.0 then some x
    else if 0 ≤ exponent then none
    else scaleFloat fuel (x / Float.ofScientific 1 false 308) (exponent + 308)

-- After three steps every 64-bit number has vanished.
def scale (significand : Nat) (exponent : Int) : Option Float :=
  scaleFloat 4 significand.toUInt64.toFloat exponent

-- The value without its sign, where the numeral stands for a floating-point number.
def magnitude? (m : Numeral) : Option Float :=
  let (whole, lost) := readBelow UInt64.size 0 m.whole
  let decimals := m.decimals.getD []
  let (significand, dropped) := readBelow UInt64.size whole decimals
  let exponent : Int := (lost.length : Int) - ((decimals.length : Int) - dropped.length)
  match m.exponent with
  | none => scale significand exponent
  | some (below, digits) =>
    let (power, rest) := readBelow (Int32.size / 2) 0 digits
    if rest.isEmpty then
      scale significand (if below then exponent - power else exponent + power)
    else if significand ≠ 0 ∧ !below then none
    else some 0.0

def float? (m : Numeral) : Option Number :=
  m.magnitude?.map fun x => .float (if m.negative then -x else x)

-- Whole numbers within 64 bits are exact; zero with a minus sign is a floating-point number.
def number? (m : Numeral) : Option Number :=
  if m.decimals.isSome || m.exponent.isSome then m.float?
  else
    match readBelow UInt64.size 0 m.whole with
    | (n, []) =>
      if !m.negative then some (.unsigned n.toUInt64)
      else if n = 0 ∨ Int64.size / 2 < n then m.float?
      else some (.negative (Int64.ofInt (-n)))
    | _ => m.float?

end Numeral
end QueryConsole.Json
