import QueryConsole.Script.Quoting

-- Cutting a text at some of its unquoted semicolons. `cutWhere` takes the choice as a test on what
-- follows the semicolon; both the units of a script and the clauses of a statement are cut by it.
-- Joining the pieces with semicolons gives the text back (`join_cutFrom`).
namespace QueryConsole.Script

def consHead (c : Char) : List (List Char) → List (List Char)
  | [] => [[c]]
  | piece :: pieces => (c :: piece) :: pieces

-- The pieces of a text that starts in the quoting state `st`, cut at each unquoted semicolon whose
-- continuation passes `isCut`. The semicolon belongs to no piece.
def cutFrom (isCut : List Char → Bool) : Quoting → List Char → List (List Char)
  | _, [] => [[]]
  | st, c :: rest =>
    if st = .outside ∧ c = ';' ∧ isCut rest then
      [] :: cutFrom isCut .outside rest
    else
      consHead c (cutFrom isCut (st.next c) rest)

def cutWhere (isCut : List Char → Bool) (cs : List Char) : List (List Char) :=
  cutFrom isCut .outside cs

def joinPieces : List (List Char) → List Char
  | [] => []
  | [piece] => piece
  | piece :: pieces => piece ++ ';' :: joinPieces pieces

variable {isCut : List Char → Bool}

theorem consHead_ne_nil (c : Char) (pieces : List (List Char)) : consHead c pieces ≠ [] := by
  cases pieces <;> simp [consHead]

theorem cutFrom_ne_nil (st : Quoting) (cs : List Char) : cutFrom isCut st cs ≠ [] := by
  cases cs with
  | nil => simp [cutFrom]
  | cons c rest =>
    rw [cutFrom]
    split
    · simp
    · apply consHead_ne_nil

theorem joinPieces_consHead (c : Char) (pieces : List (List Char)) :
    joinPieces (consHead c pieces) = c :: joinPieces pieces := by
  match pieces with
  | [] | [_] | _ :: _ :: _ => rfl

theorem join_cutFrom (st : Quoting) (cs : List Char) : joinPieces (cutFrom isCut st cs) = cs := by
  induction cs generalizing st with
  | nil => rfl
  | cons c rest ih =>
    rw [cutFrom]
    split
    · rename_i h
      obtain ⟨piece, pieces, hp⟩ :=
        List.exists_cons_of_ne_nil (cutFrom_ne_nil .outside rest : cutFrom isCut .outside rest ≠ [])
      have := ih .outside
      rw [hp] at this ⊢
      simp [joinPieces, this, h.2.1]
    · rw [joinPieces_consHead, ih]

end QueryConsole.Script
