-- Bytes that need not be UTF-8 text: the first fault in them, and the text that is left when every
-- fault becomes one replacement character.
namespace QueryConsole.Text

-- The bytes that have to follow a first byte, each by its bounds; none if it cannot be the first.
def followers? (b : UInt8) : Option (List (UInt8 × UInt8)) :=
  if b < 0x80 then some []
  else if b < 0xc2 then none
  else if b < 0xe0 then some [(0x80, 0xbf)]
  else if b < 0xf0 then
    some [(if b = 0xe0 then 0xa0 else 0x80, if b = 0xed then 0x9f else 0xbf), (0x80, 0xbf)]
  else if b < 0xf5 then
    some [(if b = 0xf0 then 0x90 else 0x80, if b = 0xf4 then 0x8f else 0xbf), (0x80, 0xbf),
      (0x80, 0xbf)]
  else none

-- How many of the bytes that are due are there.
def countDue : List (UInt8 × UInt8) → List UInt8 → Nat
  | (low, high) :: due, b :: bs => if low ≤ b && b ≤ high then countDue due bs + 1 else 0
  | _, _ => 0

-- What bytes start with, by the number of bytes that it takes.
inductive Piece
  | character (length : Nat)
  | wrong (length : Nat)
  -- The bytes end inside a character.
  | cut (length : Nat)
  deriving DecidableEq, Repr

namespace Piece

def length : Piece → Nat
  | character n | wrong n | cut n => n

def first (b : UInt8) (bs : List UInt8) : Piece :=
  match followers? b with
  | none => .wrong 1
  | some due =>
    let n := countDue due bs
    if n = due.length then .character (n + 1)
    else if n = bs.length then .cut (n + 1)
    else .wrong (n + 1)

theorem length_first_pos (b : UInt8) (bs : List UInt8) : 0 < (first b bs).length := by
  unfold first
  split
  · simp [length]
  · dsimp only
    split
    · simp [length]
    · split <;> simp [length]

end Piece

def pieces (bytes : List UInt8) : List (Piece × List UInt8) :=
  match bytes with
  | [] => []
  | b :: bs =>
    let piece := Piece.first b bs
    have := Piece.length_first_pos b bs
    (piece, (b :: bs).take piece.length) :: pieces ((b :: bs).drop piece.length)
termination_by bytes.length
decreasing_by simp only [List.length_drop, List.length_cons]; omega

-- The reason why bytes are no text, with the index of the first fault.
def utf8Fault? (bytes : List UInt8) : Option String :=
  let go := fun (index : Nat) (piece : Piece) =>
    match piece with
    | .character _ => none
    | .wrong n => some ("invalid utf-8 sequence of " ++ toString n ++ " bytes from index " ++
      toString index)
    | .cut _ => some ("incomplete utf-8 byte sequence from index " ++ toString index)
  let step (state : Nat × Option String) (piece : Piece × List UInt8) :=
    (state.1 + piece.1.length, state.2 <|> go state.1 piece.1)
  ((pieces bytes).foldl step (0, none)).2

def replaceFaults (bytes : List UInt8) : String :=
  String.join ((pieces bytes).map fun (_, part) =>
    (String.fromUTF8? ⟨part.toArray⟩).getD "\ufffd")

end QueryConsole.Text
