-- Quoting in a script: one automaton over its characters. Text between two equal quotes is opaque,
-- and a backslash inside it takes the next character with it. All cutting of scripts rests on this
-- automaton; `run_append` is why text may be scanned piece by piece.
namespace QueryConsole.Script

inductive Quoting
  | outside
  -- Between quotes, the opening one being `quote`.
  | inside (quote : Char)
  -- Just after a backslash between quotes.
  | escaped (quote : Char)
  deriving DecidableEq, Repr

def isQuote (c : Char) : Bool :=
  c = '\'' || c = '"'

namespace Quoting

def next : Quoting → Char → Quoting
  | outside, c => if isQuote c then inside c else outside
  | inside q, c => if c = '\\' then escaped q else if c = q then outside else inside q
  | escaped q, _ => inside q

def run (st : Quoting) (cs : List Char) : Quoting :=
  cs.foldl next st

def isOpen : Quoting → Bool
  | outside => false
  | _ => true

variable (st : Quoting)

@[simp]
theorem run_nil : st.run [] = st :=
  rfl

@[simp]
theorem run_cons (c : Char) (cs : List Char) : st.run (c :: cs) = (st.next c).run cs :=
  rfl

theorem run_append (as bs : List Char) : st.run (as ++ bs) = (st.run as).run bs :=
  List.foldl_append

theorem isOpen_eq_false {st : Quoting} : st.isOpen = false ↔ st = outside := by
  cases st <;> simp [isOpen]

theorem next_outside_of_not_quote {c : Char} (h : isQuote c = false) :
    outside.next c = outside := by
  simp [next, h]

end Quoting

def endsOpenQuote (cs : List Char) : Bool :=
  (Quoting.outside.run cs).isOpen

end QueryConsole.Script
