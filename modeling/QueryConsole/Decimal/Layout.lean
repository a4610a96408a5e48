import QueryConsole.Decimal.Shortest

-- Written forms of a floating-point number: its shortest digits, laid out by a `Style`. A style
-- says where plain notation ends, and whether a whole number keeps a decimal.
namespace QueryConsole.Decimal

structure Style where
  tie : Tie
  -- First digits with this decimal exponent are written plainly; others take an exponent.
  isPlain : Int → Bool
  -- A whole number is written with one decimal, a zero.
  keepsDecimal : Bool

-- Plain notation of `digits * 10 ^ exponent`.
def plain (keepsDecimal : Bool) (digits : List Char) (exponent : Int) : List Char :=
  if 0 ≤ exponent then
    digits ++ .replicate exponent.toNat '0' ++ if keepsDecimal then ['.', '0'] else []
  else
    let decimals := (-exponent).toNat
    let padded := List.replicate (decimals + 1 - digits.length) '0' ++ digits
    let whole := padded.length - decimals
    padded.take whole ++ '.' :: padded.drop whole

-- One digit before the point, if there is a point, and the exponent with its sign.
def scientific (digits : List Char) (leading : Int) : List Char :=
  let decimals := digits.drop 1
  digits.take 1 ++ (if decimals.isEmpty then [] else '.' :: decimals) ++
    'e' :: (if leading < 0 then '-' else '+') :: Nat.toDigits 10 leading.natAbs

-- A finite number.
def Style.write (style : Style) (x : Float) : List Char :=
  let bits := x.toBits
  let d := ((Binary.ofBits bits).shortest style.tie).normal
  (if bits >>> 63 = 1 then ['-'] else []) ++
    if style.isPlain d.leading then plain style.keepsDecimal d.text d.exponent
    else scientific d.text d.leading

end QueryConsole.Decimal
