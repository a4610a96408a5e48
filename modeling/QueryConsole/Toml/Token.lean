import QueryConsole.Json.Reader
import QueryConsole.Toml.Basic

-- The smallest parts of TOML text: blanks and comments, strings, and keys.
namespace QueryConsole.Toml

-- Values in arrays and inline tables may be nested less deep than this, and keys have fewer parts.
def maxDepth : Nat := 80

def tooDeep : String :=
  "recursion limit exceeded"

def outOfRange : String :=
  "value is out of range"

def isSpace (c : Char) : Bool :=
  c = ' ' || c = '\t'

def skipSpace (cs : List Char) : List Char :=
  cs.dropWhile isSpace

-- Allowed in comments, and in strings apart from quotes and backslashes.
def isText (c : Char) : Bool :=
  c = '\t' || (0x20 ≤ c.toNat && c.toNat ≠ 0x7f)

def afterBreak? : List Char → Option (List Char)
  | '\n' :: rest => some rest
  | '\r' :: '\n' :: rest => some rest
  | _ => none

def skipComment : List Char → List Char
  | '#' :: rest => rest.dropWhile isText
  | cs => cs

-- Blanks and a comment up to the end of the line, or of the text.
def endLine (cs : List Char) : Except Fault (List Char) :=
  match skipComment (skipSpace cs) with
  | [] => .ok []
  | rest => (afterBreak? rest).elim (.error (.next rest)) .ok

-- Blanks, comments and line breaks; so many of them at most. A comment ends in a line break.
def skipLines : Nat → List Char → Except Fault (List Char)
  | 0, cs => .ok cs
  | fuel + 1, cs =>
    let start := skipSpace cs
    let behind := skipComment start
    match afterBreak? behind with
    | some rest => skipLines fuel rest
    | none =>
      if start.head? = some '#' || start.head? = some '\r' then .error (.next behind)
      else .ok start

def skipAll (cs : List Char) : Except Fault (List Char) :=
  skipLines cs.length cs

-- The given text, which is the whole of what is wanted.
def expect (word : String) (wanted : List String) (cs : List Char) : Except Fault (List Char) :=
  if word.toList.isPrefixOf cs then .ok (cs.drop word.length)
  else wanting wanted (.error (.next cs))

-- A character by the number of its hexadecimal digits.
def codePoint (digits : Nat) : Reader Char := fun cs =>
  decided <| reading ("unicode " ++ toString digits ++ "-digit hex code") <|
    match (cs.take digits).mapM Json.hexValue? with
    | none => .error (.next cs)
    | some values =>
      let n := values.foldl (fun n v => 16 * n + v) 0
      if values.length < digits then .error (.next cs)
      else if n < 0xd800 ∨ (0xdfff < n ∧ n < 0x110000) then .ok (.ofNat n, cs.drop digits)
      else refuse cs outOfRange

-- A character after a backslash.
def escape : Reader Char
  | '\\' :: 'b' :: rest => .ok ('\x08', rest)
  | '\\' :: 't' :: rest => .ok ('\t', rest)
  | '\\' :: 'n' :: rest => .ok ('\n', rest)
  | '\\' :: 'f' :: rest => .ok ('\x0c', rest)
  | '\\' :: 'r' :: rest => .ok ('\r', rest)
  | '\\' :: '"' :: rest => .ok ('"', rest)
  | '\\' :: '\\' :: rest => .ok ('\\', rest)
  | '\\' :: 'u' :: rest => codePoint 4 rest
  | '\\' :: 'U' :: rest => codePoint 8 rest
  | '\\' :: _ :: rest =>
    decided <| reading "escape sequence" <|
      wanting ["`b`", "`f`", "`n`", "`r`", "`t`", "`u`", "`U`", "`\\`", "`\"`"] <|
        .error (.next rest)
  | cs => .error (.next cs)

-- A string on one line, after its opening quote. Backslashes escape between double quotes only.
def shortString (quote : Char) : Nat → Reader (List Char)
  | 0, cs => .error (.next cs)
  | fuel + 1, cs =>
    match cs with
    | [] => .error (.next [])
    | c :: rest =>
      if c = quote then .ok ([], rest)
      else if c = '\\' ∧ quote = '"' then do
        let (c, rest) ← escape cs
        let (more, rest) ← shortString quote fuel rest
        return (c :: more, rest)
      else if isText c then do
        let (more, rest) ← shortString quote fuel rest
        return (c :: more, rest)
      else .error (.next cs)

-- Blanks and line breaks after a backslash at the end of a line.
def skipFolded : List Char → List Char
  | '\r' :: '\n' :: rest => skipFolded rest
  | c :: rest => if isSpace c || c = '\n' then skipFolded rest else c :: rest
  | [] => []

-- A string over several lines, after its opening quotes. Up to two quotes in front of the closing
-- three belong to it.
def longString (quote : Char) : Nat → Reader (List Char)
  | 0, cs => .error (.next cs)
  | fuel + 1, cs =>
    match cs with
    | [] => .error (.next [])
    | c :: rest =>
      if c = quote then
        let quotes := (cs.takeWhile (· = quote)).length
        if 3 ≤ quotes then
          let inner := min (quotes - 3) 2
          .ok (.replicate inner quote, cs.drop (inner + 3))
        else do
          let (more, rest) ← longString quote fuel rest
          return (c :: more, rest)
      else if c = '\\' ∧ quote = '"' then
        match afterBreak? (skipSpace rest) with
        | some rest => longString quote fuel (skipFolded rest)
        | none => do
          let (c, rest) ← escape cs
          let (more, rest) ← longString quote fuel rest
          return (c :: more, rest)
      else
        match afterBreak? cs with
        | some rest => do
          let (more, rest) ← longString quote fuel rest
          return ('\n' :: more, rest)
        | none =>
          if isText c then do
            let (more, rest) ← longString quote fuel rest
            return (c :: more, rest)
          else .error (.next cs)

def shortStringOf (quote : Char) (name : String) : Reader String := fun cs => do
  let (s, rest) ← decided (reading name (shortString quote (cs.length + 1) cs))
  return (.ofList s, rest)

def basicString : Reader String :=
  shortStringOf '"' "basic string"

def literalString : Reader String :=
  shortStringOf '\'' "literal string"

-- A line break right after the opening quotes does not count.
def longStringOf (quote : Char) (name : String) : Reader String := fun cs => do
  let body := (afterBreak? cs).getD cs
  let (s, rest) ← decided (reading name (longString quote (body.length + 1) body))
  return (.ofList s, rest)

def string : Reader String
  | '"' :: '"' :: '"' :: rest => longStringOf '"' "multiline basic string" rest
  | '\'' :: '\'' :: '\'' :: rest => longStringOf '\'' "multiline literal string" rest
  | '"' :: rest => basicString rest
  | '\'' :: rest => literalString rest
  | cs => .error (.next cs)

def isBareKey (c : Char) : Bool :=
  c.isAlphanum || c = '-' || c = '_'

def simpleKey : Reader Key := fun cs => do
  let (name, rest) ← match cs with
    | '"' :: rest => basicString rest
    | '\'' :: rest => literalString rest
    | cs =>
      let name := cs.takeWhile isBareKey
      if name.isEmpty then .error (.next cs)
      else .ok (.ofList name, cs.dropWhile isBareKey)
  return (⟨name, .between cs rest⟩, rest)

-- The parts of a key; so many at most. A dot with no part behind it is left.
def keyParts : Nat → Reader (List Key)
  | 0, cs => .error (.next cs)
  | fuel + 1, cs => do
    let (part, rest) ← simpleKey (skipSpace cs)
    let rest := skipSpace rest
    match rest with
    | '.' :: behind =>
      match ← ifMeant (keyParts fuel behind) with
      | some (parts, rest) => return (part :: parts, rest)
      | none => return ([part], rest)
    | rest => return ([part], rest)

def key : Reader (List Key) := fun cs => do
  let (parts, rest) ← reading "key" (keyParts (cs.length + 1) cs)
  if maxDepth ≤ parts.length then refuse cs tooDeep else return (parts, rest)

end QueryConsole.Toml
