import QueryConsole.Toml.Number

-- Reading TOML text: values, statements and whole documents. The statements are put together in
-- their order, so that of two faults the one that comes first in the text is found.
namespace QueryConsole.Toml

-- What is expected where no value starts.
def noValue (cs : List Char) : Except Fault α :=
  reading "string" (wanting ["`\"`", "`'`"] (.error (.next cs)))

-- A word that is a value.
def word (text : String) (value : Scalar) : Reader Scalar := fun cs =>
  if text.toList.isPrefixOf cs then .ok (value, cs.drop text.length) else noValue cs

def scalarValue : Reader Scalar := fun cs =>
  match cs with
  | [] => .error (.next [])
  | c :: _ =>
    if c = '"' || c = '\'' then (string cs).map fun (s, rest) => (.string s, rest)
    else if c = '+' || c = '-' || c.isDigit then number cs
    else if c = '_' then wanting ["leading digit"] (integer cs)
    else if c = '.' then wanting ["leading digit"] (float cs)
    else if c = 't' then decided (word "true" (.boolean true) cs)
    else if c = 'f' then decided (word "false" (.boolean false) cs)
    else if c = 'i' then word "inf" (.float (floatOf 1 400)) cs
    else if c = 'n' then word "nan" (.float (0.0 / 0.0)) cs
    else noValue cs

def dropComma : List Char → List Char
  | ',' :: rest => rest
  | cs => cs

mutual

-- A value; arrays and inline tables, their items and their fields each take one unit of fuel.
def value (depth : Nat) : Nat → Reader Toml
  | 0, cs => .error (.next cs)
  | fuel + 1, cs =>
    match cs with
    | '[' :: front =>
      if maxDepth ≤ depth + 1 then decided (refuse cs tooDeep)
      else decided do
        let (items, rest) ← items (depth + 1) fuel front
        let rest ← skipAll (if items.isEmpty then rest else dropComma rest)
        let rest ← reading "array" (expect "]" ["`]`"] rest)
        return (.array (.between cs rest) items, rest)
    | '\x7b' :: front =>
      if maxDepth ≤ depth + 1 then decided (refuse cs tooDeep)
      else decided do
        let (fields, rest) ← fields (depth + 1) fuel front
        let fields ← match buildInline fields with
          | .ok fields => .ok fields
          | .error clash => refuse front clash.reason
        let rest ← reading "inline table" (expect "\x7d" ["`\x7d`"] (skipSpace rest))
        return (.inlineTable (.between cs rest) fields, rest)
    | cs => do
      let (value, rest) ← scalarValue cs
      return (.scalar (.between cs rest) value, rest)

-- Items with commas between them, as far as there are any. A comma with no item behind it is left.
def items (depth : Nat) : Nat → Reader (List Toml)
  | 0, cs => .ok ([], cs)
  | fuel + 1, cs => do
    let item := do
      let (item, rest) ← value depth fuel (← skipAll cs)
      return (item, ← skipAll rest)
    match ← ifMeant item with
    | none => return ([], cs)
    | some (item, rest) =>
      match rest with
      | ',' :: behind =>
        let (items, last) ← items depth fuel behind
        return (item :: items, if items.isEmpty then rest else last)
      | rest => return ([item], rest)

-- The fields of an inline table, all on one line.
def fields (depth : Nat) : Nat → Reader (List (List Key × Toml))
  | 0, cs => .ok ([], cs)
  | fuel + 1, cs => do
    match ← ifMeant (key cs) with
    | none => return ([], cs)
    | some (path, rest) =>
      let (value, rest) ← decided do
        let rest ← expect "=" ["`.`", "`=`"] rest
        let (value, rest) ← value depth fuel (skipSpace rest)
        return (value, skipSpace rest)
      match rest with
      | ',' :: behind =>
        let (fields, last) ← fields depth fuel behind
        return ((path, value) :: fields, if fields.isEmpty then rest else last)
      | rest => return ([(path, value)], rest)

end

-- The rest of a line behind a statement.
def endStatement (cs : List Char) : Except Fault (List Char) :=
  decided (wanting ["newline", "`#`"] (endLine cs))

-- A header between brackets.
def header (opening closing : String) (make : Span → List Key → Statement) : Reader Statement :=
  fun cs => reading "table header" <| decided do
    let (path, behind) ← key (cs.drop opening.length)
    let behind ← expect closing ["`.`", "`" ++ closing ++ "`"] behind
    return (make (.between cs behind) path, ← endStatement behind)

def fieldStatement : Reader Statement := fun cs => do
  let (path, rest) ← key cs
  decided do
    let rest ← expect "=" ["`.`", "`=`"] rest
    let (value, rest) ← value 0 (2 * rest.length + 2) (skipSpace rest)
    return (.field path value, ← endStatement rest)

-- A statement with the end of its line.
def statement : Reader Statement
  | '[' :: '[' :: rest => header "[[" "]]" .arrayHeader ('[' :: '[' :: rest)
  | ['['] => reading "table header" (.error (.next ['[']))
  | '[' :: rest => header "[" "]" .header ('[' :: rest)
  | cs => fieldStatement cs

-- Adds a statement that starts with `cs`.
def addStatement (b : Builder) (cs : List Char) (s : Statement) : Except Fault Builder :=
  match b.add s with
  | .ok b => .ok b
  | .error clash =>
    match s with
    | .field .. => refuse cs clash.reason
    | _ => reading "table header" (refuse cs clash.reason)

-- Adds the statements of a text, which stand on lines of their own; so many at most.
def addStatements : Nat → Builder → List Char → Except Fault Builder
  | 0, b, _ => .ok b
  | fuel + 1, b, cs => do
    let cs := skipSpace cs
    if cs.isEmpty then return b
    else if cs.head? = some '#' then addStatements fuel b (← endLine cs)
    else
      match afterBreak? cs with
      | some rest => addStatements fuel b rest
      | none =>
        if cs.head? = some '\r' then .error (.next cs)
        else
          let (s, rest) ← statement cs
          addStatements fuel (← addStatement b cs s) rest

-- The fields of a document; a mark for the order of bytes may precede them.
def parse (text : String) : Except Fault Fields := do
  let cs := match text.toList with
    | '\ufeff' :: rest => rest
    | cs => cs
  return (← addStatements (cs.length + 1) ⟨[], []⟩ cs).fields

end QueryConsole.Toml
