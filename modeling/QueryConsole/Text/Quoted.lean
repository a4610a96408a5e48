import QueryConsole.Text.LowerCase
import QueryConsole.Text.PrintTable

-- A text between double quotes, with an escape for each character that could be misread: the quote
-- and the backslash themselves, controls, and whatever has no glyph of its own.
namespace QueryConsole.Text

def isPlain (c : Char) : Bool :=
  if c.toNat < 128 then
    32 ≤ c.toNat && c.toNat < 127
  else
    !inRanges extendRanges c && !inRanges hiddenRanges c

def hexDigits (n : Nat) : List Char :=
  Nat.toDigits 16 n

def quoteChar (c : Char) : List Char :=
  match c with
  | '"' => ['\\', '"']
  | '\\' => ['\\', '\\']
  | '\n' => ['\\', 'n']
  | '\r' => ['\\', 'r']
  | '\t' => ['\\', 't']
  | '\x00' => ['\\', '0']
  | c => if isPlain c then [c] else ['\\', 'u', '\x7b'] ++ hexDigits c.toNat ++ ['\x7d']

def quoted (s : String) : String :=
  .ofList ('"' :: s.toList.flatMap quoteChar ++ ['"'])

end QueryConsole.Text
