import QueryConsole.Script.Split

-- Scripts over their encoded bytes. A scanner finds the bytes outside quoted runs: it passes over a
-- run in one go, and a backslash in a run takes the next byte along, whatever character that byte
-- belongs to. Texts are sliced at positions that are computed from what the scanner finds, and a
-- slice needs positions that lie between characters (`Sliceable`); where they do not, there is no
-- answer.
namespace QueryConsole.Script.Offsets

def semicolon : UInt8 := 0x3b
def backslash : UInt8 := 0x5c
def lineFeed : UInt8 := 0x0a
def carriageReturn : UInt8 := 0x0d

def isQuoteByte (b : UInt8) : Bool :=
  b = 0x27 || b = 0x22

-- The position just past the closing `quote`, for a run whose content goes on at `pos`; none if the
-- run is still open at the end.
def endOfQuoted (bytes : ByteArray) (quote : UInt8) (pos : Nat) : Option Nat :=
  if h : pos < bytes.size then
    if bytes[pos] = backslash then endOfQuoted bytes quote (pos + 2)
    else if bytes[pos] = quote then some (pos + 1)
    else endOfQuoted bytes quote (pos + 1)
  else none
termination_by bytes.size - pos

theorem lt_of_endOfQuoted {bytes : ByteArray} {quote : UInt8} {pos stop : Nat}
    (h : endOfQuoted bytes quote pos = some stop) : pos < stop := by
  fun_induction endOfQuoted bytes quote pos with
  | case1 _ _ _ ih => exact Nat.lt_trans (by omega) (ih h)
  | case2 => simp_all; omega
  | case3 _ _ _ _ ih => exact Nat.lt_trans (by omega) (ih h)
  | case4 => simp at h

structure Scanner where
  bytes : ByteArray
  pos : Nat
  -- A quoted run has reached the end of the bytes without being closed.
  unterminated : Bool

namespace Scanner

def start (bytes : ByteArray) : Scanner where
  bytes := bytes
  pos := 0
  unterminated := false

-- Moves forward only.
def skipTo (s : Scanner) (pos : Nat) : Scanner :=
  { s with pos := max s.pos pos }

theorem skipTo_le (s : Scanner) (pos : Nat) :
    (s.skipTo pos).bytes.size - (s.skipTo pos).pos ≤ s.bytes.size - s.pos :=
  Nat.sub_le_sub_left (Nat.le_max_left ..) _

-- The next byte outside quoted runs, with its position, and the scanner behind it. The quotes
-- themselves are not among these bytes.
def next (s : Scanner) : Option (Nat × UInt8) × Scanner :=
  if h : s.pos < s.bytes.size then
    if isQuoteByte s.bytes[s.pos] then
      match hs : endOfQuoted s.bytes s.bytes[s.pos] (s.pos + 1) with
      | some stop => next { s with pos := stop }
      | none => (none, { s with pos := s.bytes.size, unterminated := true })
    else
      (some (s.pos, s.bytes[s.pos]), { s with pos := s.pos + 1 })
  else
    (none, s)
termination_by s.bytes.size - s.pos
decreasing_by
  have := lt_of_endOfQuoted hs
  omega

-- What the scanner has found when it finds a byte.
structure Found (s : Scanner) (pos : Nat) (b : UInt8) (t : Scanner) : Prop where
  le : s.pos ≤ pos
  getElem? : s.bytes[pos]? = some b
  next : t = { s with pos := pos + 1 }

theorem found_of_next {s t : Scanner} {pos : Nat} {b : UInt8} (h : s.next = (some (pos, b), t)) :
    s.Found pos b t := by
  fun_induction next s with
  | case1 s hlt hq stop hs ih =>
    have ⟨hle, hb, ht⟩ := ih h
    have hstop : s.pos ≤ stop := Nat.le_of_lt (Nat.lt_of_succ_lt (lt_of_endOfQuoted hs))
    exact ⟨Nat.le_trans hstop hle, hb, ht⟩
  | case2 => simp at h
  | case3 s hlt =>
    obtain ⟨⟨rfl, rfl⟩, rfl⟩ := by simpa using h
    exact ⟨Nat.le_refl _, by simp [hlt], rfl⟩
  | case4 => simp at h

theorem Found.lt {s t : Scanner} {pos : Nat} {b : UInt8} (h : s.Found pos b t) :
    t.bytes.size - t.pos < s.bytes.size - s.pos := by
  have hlt : pos < s.bytes.size := (getElem?_eq_some_iff.1 h.getElem?).1
  have hle := h.le
  rw [h.next]
  dsimp only
  omega

-- All that the scanner finds from here on, and the scanner at the end.
def drain (s : Scanner) : List (Nat × UInt8) × Scanner :=
  match h : s.next with
  | (none, last) => ([], last)
  | (some found, t) =>
    have := (found_of_next h).lt
    let (more, last) := t.drain
    (found :: more, last)
termination_by s.bytes.size - s.pos

end Scanner

def endsOpenQuote (text : String) : Bool :=
  (Scanner.start text.toUTF8).drain.2.unterminated

-- Both positions lie between characters of the text, in this order.
structure Sliceable (text : String) (start stop : Nat) : Prop where
  le : start ≤ stop
  start : String.Pos.Raw.IsValid text ⟨start⟩
  stop : String.Pos.Raw.IsValid text ⟨stop⟩

instance (text : String) (start stop : Nat) : Decidable (Sliceable text start stop) :=
  decidable_of_iff
    (start ≤ stop ∧ String.Pos.Raw.IsValid text ⟨start⟩ ∧ String.Pos.Raw.IsValid text ⟨stop⟩)
    ⟨fun ⟨h₁, h₂, h₃⟩ => ⟨h₁, h₂, h₃⟩, fun ⟨h₁, h₂, h₃⟩ => ⟨h₁, h₂, h₃⟩⟩

-- The text from `start` up to `stop`.
def slice? (text : String) (start stop : Nat) : Option String :=
  if h : Sliceable text start stop then
    some (text.extract (text.pos ⟨start⟩ h.start) (text.pos ⟨stop⟩ h.stop))
  else
    none

-- The slices between the bytes at `stops`, from `start` to the end of the text.
def slicesFrom? (text : String) (start : Nat) : List Nat → Option (List String)
  | [] => do
    let last ← slice? text start text.utf8ByteSize
    return [last]
  | stop :: stops => do
    let piece ← slice? text start stop
    let pieces ← slicesFrom? text (stop + 1) stops
    return piece :: pieces

-- The semicolons among the bytes found whose continuation passes `isCut`.
def semicolons (isCut : Nat → Bool) (found : List (Nat × UInt8)) : List Nat :=
  found.filterMap fun (pos, b) => if b = semicolon ∧ isCut (pos + 1) then some pos else none

def cutWhere? (isCut : ByteArray → Nat → Bool) (text : String) : Option (List String) :=
  let bytes := text.toUTF8
  slicesFrom? text 0 (semicolons (isCut bytes) (Scanner.start bytes).drain.1)

def breakLength? (bytes : ByteArray) (pos : Nat) : Option Nat :=
  if bytes[pos]? = some lineFeed then some 1
  else if bytes[pos]? = some carriageReturn ∧ bytes[pos + 1]? = some lineFeed then some 2
  else none

def segments? (raw : String) : Option (List String) :=
  cutWhere? (fun bytes pos => (breakLength? bytes pos).isSome) raw

def clauses? (statement : String) : Option (List String) := do
  let pieces ← cutWhere? (fun _ _ => true) statement
  return (pieces.map Text.trimmed).filter (!·.isEmpty)

-- The position behind the backslash and the line break that follow the byte `b` at `pos`, if it is
-- a semicolon and has both behind it.
def behindMarker? (bytes : ByteArray) (pos : Nat) (b : UInt8) : Option Nat :=
  if b = semicolon ∧ bytes[pos + 1]? = some backslash then
    (breakLength? bytes (pos + 2)).map (pos + 2 + ·)
  else
    none

-- Joins the rest of a segment, from `copied` on, with `s` as the scanner that looks for markers.
def joinFrom? (segment : String) (copied : Nat) (s : Scanner) : Option String :=
  match h : s.next with
  | (none, _) => slice? segment copied segment.utf8ByteSize
  | (some (pos, b), t) =>
    have := (Scanner.found_of_next h).lt
    match behindMarker? s.bytes pos b with
    | none => joinFrom? segment copied t
    | some behind => do
      have := t.skipTo_le behind
      let front ← slice? segment copied (pos + 1)
      let rest ← joinFrom? segment behind (t.skipTo behind)
      return front ++ rest
termination_by s.bytes.size - s.pos

def joinContinuations? (segment : String) : Option String :=
  joinFrom? segment 0 (.start segment.toUTF8)

def split? (raw : String) : Option Split := do
  let pieces ← segments? raw
  let units := (pieces.map Text.trimmed).filter (!·.isEmpty)
  let statements ← (units.filter (!isDirective ·.toList)).mapM joinContinuations?
  return ⟨units.filter (isDirective ·.toList), statements.filter (!·.isEmpty)⟩

end QueryConsole.Script.Offsets
