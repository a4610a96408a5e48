-- Blank characters and the trimming of blanks. `trim` drops a run of blanks at each end and nothing
-- between them, and a text that was trimmed once stays as it is (`trimStart_trimStart`).
namespace QueryConsole.Text

-- A character with the Unicode property `White_Space`.
def isBlank (c : Char) : Bool :=
  let n := c.toNat
  (9 ≤ n && n ≤ 13) || n == 0x20 || n == 0x85 || n == 0xa0 || n == 0x1680 ||
    (0x2000 ≤ n && n ≤ 0x200a) || n == 0x2028 || n == 0x2029 || n == 0x202f || n == 0x205f ||
    n == 0x3000

def trimStart (cs : List Char) : List Char :=
  cs.dropWhile isBlank

def trimEnd (cs : List Char) : List Char :=
  (trimStart cs.reverse).reverse

def trim (cs : List Char) : List Char :=
  trimEnd (trimStart cs)

def isAllBlank (cs : List Char) : Bool :=
  cs.all isBlank

@[simp]
theorem trimStart_nil : trimStart [] = [] :=
  rfl

theorem trimStart_cons (c : Char) (cs : List Char) :
    trimStart (c :: cs) = if isBlank c then trimStart cs else c :: cs := by
  simp only [trimStart, List.dropWhile_cons]

@[simp]
theorem trimEnd_nil : trimEnd [] = [] :=
  rfl

theorem trimStart_trimStart (cs : List Char) : trimStart (trimStart cs) = trimStart cs := by
  induction cs with
  | nil => rfl
  | cons c cs ih =>
    rw [trimStart_cons]
    split
    · exact ih
    · rename_i h
      rw [trimStart_cons, if_neg h]

theorem trimEnd_trimEnd (cs : List Char) : trimEnd (trimEnd cs) = trimEnd cs := by
  simp [trimEnd, trimStart_trimStart]

theorem trimStart_eq_nil {cs : List Char} : trimStart cs = [] ↔ isAllBlank cs := by
  induction cs with
  | nil => simp [isAllBlank]
  | cons c cs ih =>
    rw [trimStart_cons]
    by_cases h : isBlank c = true <;> simp_all [isAllBlank]

def trimmed (s : String) : String :=
  .ofList (trim s.toList)

end QueryConsole.Text
