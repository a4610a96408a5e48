-- The lines of a text given in bytes. A line ends at a line feed, which may have a carriage return
-- before it; each line has to be valid UTF-8 on its own.
namespace QueryConsole.Console

variable {α : Type} [DecidableEq α]

-- More text in front of the first line.
def prepend (front : List α) : List (List α × Bool) → List (List α × Bool)
  | [] => [(front, false)]
  | (line, ended) :: lines => (front ++ line, ended) :: lines

-- Each line, and whether a line feed ended it. What comes after the last line feed is a line if it
-- is not empty.
def cutLines (feed : α) : List α → List (List α × Bool)
  | [] => []
  | a :: rest =>
    if a = feed then ([], true) :: cutLines feed rest else prepend [a] (cutLines feed rest)

-- The line without the carriage return that belongs to its end.
def withoutEnd (ret : α) (line : List α × Bool) : List α :=
  if line.2 && line.1.getLast? = some ret then line.1.dropLast else line.1

def linesAt (feed ret : α) (text : List α) : List (List α) :=
  (cutLines feed text).map (withoutEnd ret)

def decodeLine (line : List UInt8) : Option (List Char) :=
  (String.fromUTF8? ⟨line.toArray⟩).map String.toList

-- The lines of a text, without their ends; none for a line that is not UTF-8.
def linesOf (bytes : ByteArray) : List (Option (List Char)) :=
  (linesAt 0x0a 0x0d bytes.data.toList).map decodeLine

end QueryConsole.Console
