import QueryConsole.Json.Number

-- Reading JSON text. The reader knows the grammar alone: strings may still hold half of a surrogate
-- pair, numerals may still be out of range and nesting is not limited. The types that are read from
-- a `Source` decide about these, since parts that no type asks for are not held to them.
namespace QueryConsole.Json

-- A JSON text by its grammar. A string is none where a surrogate stands without its partner.
inductive Source
  | null
  | bool (b : Bool)
  | numeral (m : Numeral)
  | string (s : Option String)
  | array (items : List Source)
  | object (fields : List (Option String × Source))

def isSpace (c : Char) : Bool :=
  c = ' ' || c = '\n' || c = '\r' || c = '\t'

def skipSpace (cs : List Char) : List Char :=
  cs.dropWhile isSpace

def afterWord? : (word : List Char) → List Char → Option (List Char)
  | [], cs => some cs
  | _ :: _, [] => none
  | w :: word, c :: cs => if w = c then afterWord? word cs else none

-- Digits at the start, of which there has to be one.
def digits? (cs : List Char) : Option (List Char × List Char) :=
  match cs.takeWhile Char.isDigit with
  | [] => none
  | ds => some (ds, cs.dropWhile Char.isDigit)

-- A zero stands alone before the point.
def whole? : List Char → Option (List Char × List Char)
  | '0' :: rest =>
    match rest with
    | c :: _ => if c.isDigit then none else some (['0'], rest)
    | [] => some (['0'], [])
  | cs => digits? cs

def decimals? : List Char → Option (Option (List Char) × List Char)
  | '.' :: rest => (digits? rest).map fun (ds, rest) => (some ds, rest)
  | cs => some (none, cs)

def exponent? : List Char → Option (Option (Bool × List Char) × List Char)
  | [] => some (none, [])
  | c :: rest =>
    if c = 'e' ∨ c = 'E' then
      let (below, rest) := match rest with
        | '-' :: rest => (true, rest)
        | '+' :: rest => (false, rest)
        | rest => (false, rest)
      (digits? rest).map fun (ds, rest) => (some (below, ds), rest)
    else
      some (none, c :: rest)

def numeral? (cs : List Char) : Option (Numeral × List Char) := do
  let (negative, cs) := match cs with
    | '-' :: rest => (true, rest)
    | cs => (false, cs)
  let (whole, cs) ← whole? cs
  let (decimals, cs) ← decimals? cs
  let (exponent, cs) ← exponent? cs
  return (⟨negative, whole, decimals, exponent⟩, cs)

def hexValue? (c : Char) : Option Nat :=
  if '0' ≤ c ∧ c ≤ '9' then some (c.toNat - 48)
  else if 'a' ≤ c ∧ c ≤ 'f' then some (c.toNat - 87)
  else if 'A' ≤ c ∧ c ≤ 'F' then some (c.toNat - 55)
  else none

-- One character of a string, or a sixteen-bit unit given by its number.
inductive Piece
  | char (c : Char)
  | unit (n : Nat)
  deriving DecidableEq, Repr

def unit? (a b c d : Char) : Option Piece := do
  let a ← hexValue? a
  let b ← hexValue? b
  let c ← hexValue? c
  let d ← hexValue? d
  return .unit (((a * 16 + b) * 16 + c) * 16 + d)

-- The escape that `c` stands for after a backslash, `u` apart.
def shortEscape? (c : Char) : Option Char :=
  match c with
  | '"' | '\\' | '/' => some c
  | 'b' => some '\x08'
  | 'f' => some '\x0c'
  | 'n' => some '\n'
  | 'r' => some '\r'
  | 't' => some '\t'
  | _ => none

-- The pieces of a string up to its closing quote, and what comes after the quote.
def pieces? : List Char → Option (List Piece × List Char)
  | [] => none
  | '"' :: rest => some ([], rest)
  | '\\' :: 'u' :: a :: b :: c :: d :: rest => do
    let piece ← unit? a b c d
    let (pieces, rest) ← pieces? rest
    return (piece :: pieces, rest)
  | '\\' :: c :: rest => do
    let c ← shortEscape? c
    let (pieces, rest) ← pieces? rest
    return (.char c :: pieces, rest)
  | c :: rest =>
    if c = '\\' ∨ c.toNat < 0x20 then none
    else do
      let (pieces, rest) ← pieces? rest
      return (.char c :: pieces, rest)

def isHighSurrogate (n : Nat) : Bool :=
  0xd800 ≤ n && n < 0xdc00

def isLowSurrogate (n : Nat) : Bool :=
  0xdc00 ≤ n && n < 0xe000

-- Joins surrogate pairs; none if half of a pair stands alone.
def assemble? : List Piece → Option (List Char)
  | [] => some []
  | .char c :: rest => (assemble? rest).map (c :: ·)
  | [.unit n] => if isHighSurrogate n || isLowSurrogate n then none else some [.ofNat n]
  | .unit n :: .char c :: rest =>
    if isHighSurrogate n || isLowSurrogate n then none
    else (assemble? rest).map fun cs => .ofNat n :: c :: cs
  | .unit n :: .unit m :: rest =>
    if isHighSurrogate n then
      if isLowSurrogate m then
        (assemble? rest).map (.ofNat (0x10000 + (n - 0xd800) * 0x400 + (m - 0xdc00)) :: ·)
      else none
    else if isLowSurrogate n then none
    else (assemble? (.unit m :: rest)).map (.ofNat n :: ·)

-- A string after its opening quote.
def string? (cs : List Char) : Option (Option String × List Char) :=
  (pieces? cs).map fun (pieces, rest) => ((assemble? pieces).map .ofList, rest)

-- The name of a field, and what comes after the colon.
def name? (cs : List Char) : Option (Option String × List Char) := do
  let cs ← afterWord? ['"'] (skipSpace cs)
  let (name, cs) ← string? cs
  let cs ← afterWord? [':'] (skipSpace cs)
  return (name, cs)

mutual

-- One value at the start of the text. A value, an item and a field each take one unit of fuel, and
-- each of them takes a character, so fuel beyond the length of the text changes nothing.
def value? : Nat → List Char → Option (Source × List Char)
  | 0, _ => none
  | fuel + 1, cs =>
    match skipSpace cs with
    | 'n' :: rest => (afterWord? ['u', 'l', 'l'] rest).map (.null, ·)
    | 't' :: rest => (afterWord? ['r', 'u', 'e'] rest).map (.bool true, ·)
    | 'f' :: rest => (afterWord? ['a', 'l', 's', 'e'] rest).map (.bool false, ·)
    | '"' :: rest => (string? rest).map fun (s, rest) => (.string s, rest)
    | '[' :: rest =>
      match skipSpace rest with
      | ']' :: rest => some (.array [], rest)
      | rest => (items? fuel rest).map fun (items, rest) => (.array items, rest)
    | '\x7b' :: rest =>
      match skipSpace rest with
      | '\x7d' :: rest => some (.object [], rest)
      | rest => (fields? fuel rest).map fun (fields, rest) => (.object fields, rest)
    | cs => (numeral? cs).map fun (m, rest) => (.numeral m, rest)

def items? : Nat → List Char → Option (List Source × List Char)
  | 0, _ => none
  | fuel + 1, cs => do
    let (item, cs) ← value? fuel cs
    match skipSpace cs with
    | ']' :: rest => return ([item], rest)
    | ',' :: rest =>
      let (items, rest) ← items? fuel rest
      return (item :: items, rest)
    | _ => none

def fields? : Nat → List Char → Option (List (Option String × Source) × List Char)
  | 0, _ => none
  | fuel + 1, cs => do
    let (name, cs) ← name? cs
    let (value, cs) ← value? fuel cs
    match skipSpace cs with
    | '\x7d' :: rest => return ([(name, value)], rest)
    | ',' :: rest =>
      let (fields, rest) ← fields? fuel rest
      return ((name, value) :: fields, rest)
    | _ => none

end

-- A text that holds one value and nothing else.
def parse? (text : String) : Option Source := do
  let cs := text.toList
  let (source, rest) ← value? (cs.length + 1) cs
  if (skipSpace rest).isEmpty then return source else none

end QueryConsole.Json
