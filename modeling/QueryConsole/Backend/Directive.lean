import QueryConsole.Script.Split
import QueryConsole.Text.Search
import QueryConsole.Value.Encoding

-- Parameter directives. An inspection lists parameters, all of them or those it names; an
-- assignment sets one, or removes it when nothing follows the arrow.
namespace QueryConsole

inductive Directive
  -- No names stand for all.
  | inspect (names : List String)
  | assign (name : String) (value : Value)
  | remove (name : String)
  | unknown (text : String)
  deriving Inhabited

namespace Directive

-- Letters of a parameter name, to which case folding adds the long s and the sign for kelvin.
def isNameStart (c : Char) : Bool :=
  c.isAlpha || c = '_' || c = 'ſ' || c = '\u212a'

def isNamePart (c : Char) : Bool :=
  isNameStart c || c.isDigit

-- The names in the text behind an inspection, with commas or blanks between them.
def names : List Char → List (List Char)
  | [] => [[]]
  | c :: rest =>
    if c = ',' || Text.isBlank c then [] :: names rest
    else
      match names rest with
      | [] => [[c]]
      | name :: more => (c :: name) :: more

-- The name and the literal of an assignment.
def assignment? (cs : List Char) : Option (List Char × List Char) := do
  let rest ← Text.afterFolded? [':', 'p', 'a', 'r', 'a', 'm'] (Text.trimStart cs)
  let c :: _ := rest | none
  if !Text.isBlank c then none
  let c :: more := Text.trimStart rest | none
  if !isNameStart c then none
  let name := c :: more.takeWhile isNamePart
  match Text.trimStart (more.dropWhile isNamePart) with
  | '=' :: '>' :: literal => return (name, literal)
  | _ => none

def body (raw : String) : List Char :=
  Text.trimEnd (((Text.trim raw.toList).reverse.dropWhile (· = ';')).reverse)

-- Reads the body of a directive. The names of an inspection follow the bytes of the word itself;
-- there is no reading if that cut would fall inside a character.
def read? (cs : List Char) : Option Directive :=
  if Script.isInspection (.ofList cs) then
    (Text.dropBytes? ":params".utf8ByteSize cs).map fun rest =>
      inspect (((names rest).filter (!·.isEmpty)).map .ofList)
  else
    match assignment? cs with
    | none => some (unknown (.ofList cs))
    | some (name, literal) =>
      let literal := Text.trim literal
      if literal.isEmpty then some (remove (.ofList name))
      else some (assign (.ofList name) (.ofLiteral (.ofList literal)))

end Directive
end QueryConsole
