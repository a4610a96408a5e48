import QueryConsole.Text.Blank
import QueryConsole.Script.Quoting

-- The words of a command line. Blanks part words; quotes of either kind keep blanks inside a word,
-- and quoted and bare parts that touch belong to one word. An empty pair of quotes is a word of its
-- own.
namespace QueryConsole.Console

-- What a backslash and `c` stand for between quotes.
def unescape (c : Char) : List Char :=
  match c with
  | 'n' => ['\n']
  | 't' => ['\t']
  | '\\' | '"' | '\'' => [c]
  | _ => ['\\', c]

-- Where a reader of words stands. A word read in part is kept backwards.
inductive WordState
  | between
  | bare (word : List Char)
  | quoted (quote : Char) (word : List Char)
  | escaped (quote : Char) (word : List Char)

namespace WordState

-- A character that is neither in quotes nor a blank.
def enter (word : List Char) (c : Char) : WordState :=
  if Script.isQuote c then quoted c word else bare (c :: word)

-- The words that are complete when the text ends. A backslash that escapes nothing is dropped.
def finish : WordState → List (List Char)
  | between => []
  | bare word | quoted _ word | escaped _ word => [word.reverse]

end WordState

def wordsFrom : WordState → List Char → List (List Char)
  | st, [] => st.finish
  | .between, c :: rest =>
    if Text.isBlank c then wordsFrom .between rest else wordsFrom (.enter [] c) rest
  | .bare word, c :: rest =>
    if Text.isBlank c then word.reverse :: wordsFrom .between rest
    else wordsFrom (.enter word c) rest
  | .quoted q word, c :: rest =>
    if c = '\\' then wordsFrom (.escaped q word) rest
    else if c = q then wordsFrom (.bare word) rest
    else wordsFrom (.quoted q (c :: word)) rest
  | .escaped q word, c :: rest => wordsFrom (.quoted q ((unescape c).reverse ++ word)) rest

def words (line : String) : List String :=
  (wordsFrom .between line.toList).map .ofList

theorem wordsFrom_between_of_blank {cs : List Char} (h : Text.isAllBlank cs) :
    wordsFrom .between cs = [] := by
  induction cs with
  | nil => rfl
  | cons c cs ih =>
    simp only [Text.isAllBlank, List.all_cons, Bool.and_eq_true] at h
    rw [wordsFrom, if_pos h.1]
    exact ih h.2

end QueryConsole.Console
