import QueryConsole.Toml.Token

-- Numbers, dates and times in TOML text.
namespace QueryConsole.Toml

-- Digits, with single underscores between them.
def moreDigits (isDigit : Char → Bool) : Reader (List Char)
  | '_' :: c :: rest =>
    if isDigit c then do
      let (more, rest) ← moreDigits isDigit rest
      return (c :: more, rest)
    else decided (wanting ["digit"] (.error (.next (c :: rest))))
  | ['_'] => decided (wanting ["digit"] (.error (.next [])))
  | c :: rest =>
    if isDigit c then do
      let (more, rest) ← moreDigits isDigit rest
      return (c :: more, rest)
    else .ok ([], c :: rest)
  | [] => .ok ([], [])

def digits (isDigit : Char → Bool) : Reader (List Char) := fun cs =>
  if (cs.head?).any isDigit then moreDigits isDigit cs else .error (.next cs)

def ofDigits (base : Nat) (ds : List Char) : Nat :=
  ds.foldl (fun n d => base * n + (Json.hexValue? d).getD 0) 0

-- Whole numbers have sixty-four bits.
def integerOf (cs : List Char) (n : Int) : Except Fault Scalar :=
  if n < Int64.minValue.toInt then refuse cs "number too small to fit in target type"
  else if Int64.maxValue.toInt < n then refuse cs "number too large to fit in target type"
  else .ok (.integer n)

def isHexDigit (c : Char) : Bool :=
  (Json.hexValue? c).isSome

-- The digits after `0x` and the like; the number starts with `cs`.
def based (base : Nat) (name : String) (isDigit : Char → Bool) (cs : List Char) : Reader Scalar :=
  fun front => decided do
    let (ds, rest) ← reading (name ++ " integer") (digits isDigit front)
    return (← integerOf cs (ofDigits base ds), rest)

structure Signed where
  -- The sign, if there is one; true for a minus.
  minus : Option Bool
  digits : List Char

def takeSign : List Char → Option Bool × List Char
  | '+' :: rest => (some false, rest)
  | '-' :: rest => (some true, rest)
  | cs => (none, cs)

-- A leading zero stands alone.
def decimal : Reader Signed := fun cs =>
  reading "integer" do
    let (minus, front) := takeSign cs
    let (ds, rest) ← match front with
      | '0' :: rest => .ok (['0'], rest)
      | front => digits Char.isDigit front
    return (⟨minus, ds⟩, rest)

-- A sign and digits after the letter e, if it is there.
def exponent : Reader Int
  | 'e' :: rest | 'E' :: rest => do
    let (minus, front) := takeSign rest
    let (ds, rest) ← decided (digits Char.isDigit front)
    let n : Int := ofDigits 10 ds
    return (if minus = some true then -n else n, rest)
  | cs => .error (.next cs)

def decimals : Reader (List Char)
  | '.' :: rest => decided (wanting ["digit"] (digits Char.isDigit rest))
  | cs => .error (.next cs)

-- The nearest number to `digits * 10 ^ exponent`. Powers that are out of the question are not
-- worked out.
def floatOf (digits : Nat) (exponent : Int) : Float :=
  let size := (Nat.toDigits 10 digits).length + exponent
  if digits = 0 ∨ size < -400 then 0.0
  else if 400 < size then Float.ofScientific 1 false 400
  else Float.ofScientific digits (exponent < 0) exponent.natAbs

def special (minus : Option Bool) : Reader Scalar
  | 'i' :: 'n' :: 'f' :: rest =>
    let x := Float.ofScientific 1 false 400
    .ok (.float (if minus = some true then -x else x), rest)
  | 'n' :: 'a' :: 'n' :: rest => .ok (.float (0.0 / 0.0), rest)
  | cs => .error (.next cs)

-- A number with decimals or an exponent. Only one without a minus can be too large.
def finite : Reader Scalar := fun cs => do
  let (whole, rest) ← decimal cs
  let (ds, exponent, rest) ← match rest with
    | '.' :: _ => do
      let (ds, rest) ← decimals rest
      match ← ifMeant (exponent rest) with
      | some (power, rest) => pure (ds, power, rest)
      | none => pure (ds, 0, rest)
    | rest => do
      let (power, rest) ← exponent rest
      pure ([], power, rest)
  let x := floatOf (ofDigits 10 (whole.digits ++ ds)) (exponent - ds.length)
  if whole.minus = some true then return (.float (-x), rest)
  else if x.isInf then decided (.error (.next cs))
  else return (.float x, rest)

def float : Reader Scalar := fun cs =>
  reading "floating-point number" <| orElse (finite cs) fun _ =>
    let (minus, rest) := takeSign cs
    special minus rest

def integer : Reader Scalar := fun cs =>
  match cs with
  | '0' :: 'x' :: rest => based 16 "hexadecimal" isHexDigit cs rest
  | '0' :: 'o' :: rest => based 8 "octal" (fun c => '0' ≤ c && c ≤ '7') cs rest
  | '0' :: 'b' :: rest => based 2 "binary" (fun c => c = '0' || c = '1') cs rest
  | cs => do
    let (m, rest) ← decimal cs
    let n : Int := ofDigits 10 m.digits
    return (← decided (integerOf cs (if m.minus = some true then -n else n)), rest)

-- A number of exactly so many digits, between two bounds.
def fixed (count low high : Nat) : Reader Nat := fun cs =>
  let ds := cs.take count
  let n := ofDigits 10 ds
  if ds.length < count || !ds.all Char.isDigit then .error (.next cs)
  else if n < low || high < n then refuse cs outOfRange
  else .ok (n, cs.drop count)

def char (c : Char) (cs : List Char) : Except Fault (List Char) :=
  if cs.head? = some c then .ok (cs.drop 1) else .error (.next cs)

def daysIn (year month : Nat) : Nat :=
  if month = 2 then
    if year % 4 = 0 ∧ (year % 100 ≠ 0 ∨ year % 400 = 0) then 29 else 28
  else if month = 4 ∨ month = 6 ∨ month = 9 ∨ month = 11 then 30
  else 31

def date (cs : List Char) : Except Fault (List Char) := do
  let (year, rest) ← fixed 4 0 9999 cs
  let rest ← char '-' rest
  decided do
    let (month, rest) ← fixed 2 1 12 rest
    let (_, rest) ← fixed 2 1 (daysIn year month) (← char '-' rest)
    return rest

def time (cs : List Char) : Except Fault (List Char) := do
  let (_, rest) ← fixed 2 0 23 cs
  let rest ← char ':' rest
  decided do
    let (_, rest) ← fixed 2 0 59 rest
    let (_, rest) ← fixed 2 0 60 (← char ':' rest)
    match rest with
    | '.' :: c :: more => return if c.isDigit then more.dropWhile Char.isDigit else rest
    | rest => return rest

-- The distance from universal time, if there is one.
def afterOffset (cs : List Char) : Except Fault (List Char) :=
  match cs with
  | 'Z' :: rest | 'z' :: rest => .ok rest
  | '+' :: rest | '-' :: rest =>
    reading "time offset" <| decided do
      let (_, rest) ← fixed 2 0 23 rest
      let (_, rest) ← fixed 2 0 59 (← char ':' rest)
      return rest
  | cs => .ok cs

-- A date, with a time after it if that is meant.
def dateAndTime (cs : List Char) : Except Fault (List Char) :=
  reading "date-time" do
    let rest ← date cs
    match rest with
    | 'T' :: more | 't' :: more | ' ' :: more =>
      match ← ifMeant (time more) with
      | some rest => afterOffset rest
      | none => return rest
    | rest => return rest

def dateTime : Reader Scalar := fun cs => do
  let rest ← orElse (dateAndTime cs) fun _ => reading "time" (time cs)
  return (.dateTime, rest)

-- Of several readings that all fail, the last one tells why.
def number : Reader Scalar := fun cs =>
  orElse (dateTime cs) fun _ => orElse (float cs) fun _ => integer cs

end QueryConsole.Toml
