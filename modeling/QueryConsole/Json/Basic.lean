import QueryConsole.Decimal.Layout

-- JSON documents and their compact text: no blanks between tokens, and in strings only what has to
-- be escaped is escaped. Fields are written in the order in which the document holds them.
namespace QueryConsole

inductive Json
  | null
  | bool (b : Bool)
  | int (n : Int)
  | float (x : Float)
  | string (s : String)
  | array (items : List Json)
  | object (fields : List (String × Json))

namespace Json

-- Plain notation from `0.00001` up to sixteen digits before the point, always with a decimal.
def floatStyle : Decimal.Style where
  tie := .toEven
  isPlain leading := -5 ≤ leading ∧ leading < 16
  keepsDecimal := true

def hexDigit (n : Nat) : Char :=
  Nat.digitChar (n % 16)

def escapeChar (c : Char) : List Char :=
  match c with
  | '"' => ['\\', '"']
  | '\\' => ['\\', '\\']
  | '\x08' => ['\\', 'b']
  | '\x0c' => ['\\', 'f']
  | '\n' => ['\\', 'n']
  | '\r' => ['\\', 'r']
  | '\t' => ['\\', 't']
  | c =>
    if c.toNat < 0x20 then ['\\', 'u', '0', '0', hexDigit (c.toNat / 16), hexDigit c.toNat]
    else [c]

def printString (s : String) : List Char :=
  '"' :: s.toList.flatMap escapeChar ++ ['"']

def printInt (n : Int) : List Char :=
  match n with
  | .ofNat n => Nat.toDigits 10 n
  | .negSucc n => '-' :: Nat.toDigits 10 (n + 1)

mutual

def print : Json → List Char
  | null => ['n', 'u', 'l', 'l']
  | bool true => ['t', 'r', 'u', 'e']
  | bool false => ['f', 'a', 'l', 's', 'e']
  | int n => printInt n
  -- What is not finite has no numeral.
  | float x => if x.isFinite then floatStyle.write x else ['n', 'u', 'l', 'l']
  | string s => printString s
  | array items => '[' :: printItems items
  | object fields => '\x7b' :: printFields fields

-- The items of an array and its closing bracket.
def printItems : List Json → List Char
  | [] => [']']
  | item :: items => print item ++ printMoreItems items

def printMoreItems : List Json → List Char
  | [] => [']']
  | item :: items => ',' :: print item ++ printMoreItems items

-- The fields of an object and its closing brace.
def printFields : List (String × Json) → List Char
  | [] => ['\x7d']
  | (name, value) :: fields => printString name ++ ':' :: print value ++ printMoreFields fields

def printMoreFields : List (String × Json) → List Char
  | [] => ['\x7d']
  | (name, value) :: fields =>
    ',' :: printString name ++ ':' :: print value ++ printMoreFields fields

end

def text (j : Json) : String :=
  .ofList j.print

def strings (ss : List String) : Json :=
  .array (ss.map .string)

def ofOption (toJson : α → Json) : Option α → Json
  | none => null
  | some a => toJson a

end Json
end QueryConsole
