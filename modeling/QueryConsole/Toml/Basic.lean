import QueryConsole.Toml.Fault

-- TOML documents, built up from the statements of a text. A table may be extended only in the way
-- in which it was made: by headers, or by dotted keys of the table around it.
namespace QueryConsole

namespace Toml

-- How a table came about.
inductive Form
  -- As part of the path to another table.
  | implied
  -- By a dotted key.
  | dotted
  -- By a header of its own.
  | headed
  deriving DecidableEq, Repr

inductive Scalar
  | string (s : String)
  | integer (n : Int)
  | float (x : Float)
  | boolean (b : Bool)
  | dateTime

end Toml

-- Values with their places in the text. A table without a header has the place of its key.
inductive Toml
  | scalar (span : Toml.Span) (value : Toml.Scalar)
  | array (span : Toml.Span) (items : List Toml)
  | inlineTable (span : Toml.Span) (fields : List (String × Toml))
  | table (span : Toml.Span) (form : Toml.Form) (fields : List (String × Toml))
  | tables (items : List (Toml.Span × List (String × Toml)))

namespace Toml

abbrev Fields := List (String × Toml)

structure Key where
  name : String
  span : Span

inductive Statement
  | header (span : Span) (path : List Key)
  | arrayHeader (span : Span) (path : List Key)
  | field (path : List Key) (value : Toml)

-- What a statement contradicts.
inductive Clash
  -- The name is taken; if it is known where, in the table with this path.
  | duplicate (name : String) (table : Option (List String))
  -- A path goes through a value of this kind.
  | notTable (path : List String) (kind : String)

def dotted (path : List String) : String :=
  ".".intercalate path

namespace Clash

def reason : Clash → String
  | duplicate name none => "duplicate key `" ++ name ++ "`"
  | duplicate name (some []) => "duplicate key `" ++ name ++ "` in document root"
  | duplicate name (some path) => "duplicate key `" ++ name ++ "` in table `" ++ dotted path ++ "`"
  | notTable path kind =>
    "dotted key `" ++ dotted path ++ "` attempted to extend non-table type (" ++ kind ++ ")"

end Clash

def Scalar.kind : Scalar → String
  | string _ => "string"
  | integer _ => "integer"
  | float _ => "float"
  | boolean _ => "boolean"
  | dateTime => "datetime"

def kind : Toml → String
  | scalar _ value => value.kind
  | array .. => "array"
  | inlineTable .. => "inline table"
  | table .. => "table"
  | tables _ => "array of tables"

-- The place of an array of tables goes from its first table to its last.
def span : Toml → Span
  | scalar span _ | array span _ | inlineTable span _ | table span .. => span
  | tables items =>
    ⟨(items.head?.map (·.1.start)).getD 0, (items.getLast?.map (·.1.stop)).getD 0⟩

-- Changes the field `name`, which `f` may refuse.
def alter (name : String) (f : Option Toml → Except Clash Toml) : Fields → Except Clash Fields
  | [] => (f none).map fun value => [(name, value)]
  | (other, value) :: fields =>
    if other = name then (f (some value)).map fun value => (name, value) :: fields
    else (alter name f fields).map ((other, value) :: ·)

def alterLast (f : α → Except Clash α) : List α → Except Clash (List α)
  | [] => .ok []
  | [a] => (f a).map ([·])
  | a :: as => (alterLast f as).map (a :: ·)

def onFields (f : Fields → Except Clash Fields) (item : Span × Fields) :
    Except Clash (Span × Fields) :=
  (f item.2).map (item.1, ·)

-- Goes along the path of a header, through tables and the last items of arrays of tables, and makes
-- what is missing on the way. The end of the path is left to `atEnd`; `before` has been passed.
def along (atEnd : Option Toml → Except Clash Toml) (before : List String) :
    List Key → Fields → Except Clash Fields
  | [], fields => .ok fields
  | [key], fields => alter key.name atEnd fields
  | key :: path, fields =>
    let here := before ++ [key.name]
    alter key.name (fun
      | none => (along atEnd here path []).map (table key.span .implied)
      | some (table span form inner) => (along atEnd here path inner).map (table span form)
      | some (tables items) => (alterLast (onFields (along atEnd here path)) items).map tables
      | some value => .error (.notTable here value.kind)) fields

def names (path : List Key) : List String :=
  path.map (·.name)

def taken (path : List String) : Clash :=
  .duplicate (path.getLast?.getD "") (some path.dropLast)

-- A header makes a table, or takes over one that was only implied.
def openTable (span : Span) (path : List String) : Option Toml → Except Clash Toml
  | none => .ok (table span .headed [])
  | some (table _ .implied fields) => .ok (table span .headed fields)
  | some _ => .error (taken path)

def openItem (span : Span) (path : List String) : Option Toml → Except Clash Toml
  | none => .ok (tables [(span, [])])
  | some (tables items) => .ok (tables (items ++ [(span, [])]))
  | some _ => .error (taken path)

-- Where a field is put.
inductive Owner
  -- In the table with this path.
  | table (path : List String)
  | inlineTable

-- Sets a field by its dotted key. On the way tables may be entered that no header has opened, and
-- the last items of arrays of tables; the last one has to be of dotted keys alone, as `fits` says
-- of the fields at hand.
def put (owner : Owner) (value : Toml) (before : List String) (fits : Bool) :
    List Key → Fields → Except Clash Fields
  | [], fields => .ok fields
  | [key], fields =>
    if fits then
      alter key.name (fun
        | none => .ok value
        | some _ => .error (.duplicate key.name (match owner with
          | .table path => some path
          | .inlineTable => none))) fields
    else .error (.duplicate key.name none)
  | key :: path, fields =>
    let here := before ++ [key.name]
    alter key.name (fun
      | none => (put owner value here true path []).map (table key.span .dotted)
      | some (table span form inner) =>
        if form = .headed then .error (.duplicate key.name none)
        else (put owner value here (form = .dotted) path inner).map (table span form)
      | some (tables items) =>
        (alterLast (onFields (put owner value here false path)) items).map tables
      | some other =>
        match owner, other with
        | .inlineTable, inlineTable .. => .error (.duplicate key.name none)
        | _, other => .error (.notTable here other.kind)) fields

-- Sets a field of the table that the last header has opened.
def putUnder (header path : List Key) (value : Toml) (fields : Fields) : Except Clash Fields :=
  let set := put (.table (names header)) value [] true path
  let extend (span : Span) : Span := ⟨span.start, value.span.stop⟩
  if header.isEmpty then set fields
  else
    along (fun
      | some (table span form inner) => (set inner).map (table (extend span) form)
      | some (tables items) =>
        (alterLast (fun (span, inner) => (set inner).map (extend span, ·)) items).map tables
      | _ => .error (taken (names header))) [] header fields

-- The statements in order, each with its place.
structure Builder where
  -- The last header.
  header : List Key
  fields : Fields

def Builder.add (b : Builder) : Statement → Except Clash Builder
  | .header span path =>
    (along (openTable span (names path)) [] path b.fields).map fun fields => ⟨path, fields⟩
  | .arrayHeader span path =>
    (along (openItem span (names path)) [] path b.fields).map fun fields => ⟨path, fields⟩
  | .field path value =>
    (putUnder b.header path value b.fields).map fun fields => ⟨b.header, fields⟩

-- An inline table is built in one go, by the rules for dotted keys.
def buildInline (fields : List (List Key × Toml)) : Except Clash Fields :=
  fields.foldlM (fun built (path, value) => put .inlineTable value [] true path built) []

end Toml
end QueryConsole
