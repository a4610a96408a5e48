import QueryConsole.Response

-- Entries of a session's history.
namespace QueryConsole

structure Entry where
  -- No two entries of a session share it.
  id : Nat
  seq : Nat
  text : String
  response : Response

namespace Entry

def ofResponses (seq nextId : Nat) : List Response → List Entry
  | [] => []
  | r :: rs => ⟨nextId, seq, r.statement, r⟩ :: ofResponses seq (nextId + 1) rs

def toJson (e : Entry) : Json :=
  .object [("id", .string ("#" ++ toString e.id)), ("response", e.response.toJson),
    ("seq", .int e.seq), ("text", .string e.text)]

variable (seq nextId : Nat)

@[simp]
theorem length_ofResponses (rs : List Response) :
    (ofResponses seq nextId rs).length = rs.length := by
  induction rs generalizing nextId with
  | nil => rfl
  | cons r rs ih => simp [ofResponses, ih]

theorem map_response_ofResponses (rs : List Response) :
    (ofResponses seq nextId rs).map (·.response) = rs := by
  induction rs generalizing nextId with
  | nil => rfl
  | cons r rs ih => simp [ofResponses, ih]

theorem map_text_ofResponses (rs : List Response) :
    (ofResponses seq nextId rs).map (·.text) = rs.map (·.statement) := by
  induction rs generalizing nextId with
  | nil => rfl
  | cons r rs ih => simp [ofResponses, ih]

theorem seq_of_mem_ofResponses {rs : List Response} {e : Entry}
    (h : e ∈ ofResponses seq nextId rs) : e.seq = seq := by
  induction rs generalizing nextId with
  | nil => simp [ofResponses] at h
  | cons r rs ih =>
    rcases List.mem_cons.1 h with rfl | h
    · rfl
    · exact ih _ h

end Entry
end QueryConsole
