import Mathlib.Data.List.Basic

namespace QueryConsole.Text

variable {k c : Char} {b : UInt8} {text : List Char}

def bytesOf (text : List Char) : List UInt8 :=
  text.flatMap String.utf8EncodeChar

@[simp]
theorem bytesOf_nil : bytesOf [] = [] :=
  rfl

theorem bytesOf_cons (c : Char) (text : List Char) :
    bytesOf (c :: text) = String.utf8EncodeChar c ++ bytesOf text :=
  rfl

theorem bytesOf_append (text more : List Char) :
    bytesOf (text ++ more) = bytesOf text ++ bytesOf more :=
  List.flatMap_append

theorem bytesOf_concat (text : List Char) (c : Char) :
    bytesOf (text ++ [c]) = bytesOf text ++ String.utf8EncodeChar c := by
  simp [bytesOf]

-- No part of a character beyond ASCII looks like an ASCII character.
theorem le_of_mem_utf8EncodeChar (hc : 0x80 ≤ c.toNat) :
    ∀ b ∈ String.utf8EncodeChar c, 0x80 ≤ b.toNat := by
  fun_cases String.utf8EncodeChar c
  case case1 v hv => exact absurd hc (Nat.not_le.2 (Nat.lt_succ_of_le hv))
  all_goals
    simp only [List.forall_mem_cons, UInt8.toNat_ofNat', List.not_mem_nil, false_implies,
      implies_true, and_true]
    omega

theorem utf8EncodeChar_of_lt (hc : c.toNat < 0x80) :
    String.utf8EncodeChar c = [.ofNat c.toNat] :=
  if_pos (Nat.le_of_lt_succ hc)

-- The byte stands for the character, and nowhere for a part of another one.
structure Marks (b : UInt8) (k : Char) : Prop where
  bytes : String.utf8EncodeChar k = [b]
  only : ∀ c, b ∈ String.utf8EncodeChar c → c = k

theorem marks_of_lt (hk : k.toNat < 0x80) : Marks (.ofNat k.toNat) k where
  bytes := utf8EncodeChar_of_lt hk
  only c hb := by
    have hmod : ∀ n < 0x80, (UInt8.ofNat n).toNat = n := fun n hn => by
      rw [UInt8.toNat_ofNat']
      omega
    have hc : c.toNat < 0x80 := by
      refine Nat.not_le.1 fun hc => absurd (le_of_mem_utf8EncodeChar hc _ hb) ?_
      rw [hmod _ hk]
      exact Nat.not_le.2 hk
    rw [utf8EncodeChar_of_lt hc, List.mem_singleton] at hb
    have hnat := congrArg UInt8.toNat hb
    rw [hmod _ hk, hmod _ hc] at hnat
    exact Char.toNat_inj.1 hnat.symm

namespace Marks

theorem mem_utf8EncodeChar_iff (h : Marks b k) : b ∈ String.utf8EncodeChar c ↔ c = k :=
  ⟨h.only c, fun hc => hc ▸ h.bytes ▸ List.mem_singleton_self b⟩

-- A character of several bytes does not hold it behind the first one either.
theorem notMem_tail (h : Marks b k) (c : Char) : b ∉ (String.utf8EncodeChar c).tail := by
  intro hm
  obtain rfl := h.only c (List.mem_of_mem_tail hm)
  rw [h.bytes] at hm
  exact nomatch hm

theorem bytesOf_cons (h : Marks b k) (text : List Char) :
    bytesOf (k :: text) = b :: bytesOf text := by
  rw [Text.bytesOf_cons, h.bytes, List.singleton_append]

theorem head?_bytesOf (h : Marks b k) : (bytesOf text).head? = some b ↔ text.head? = some k := by
  cases text with
  | nil => simp
  | cons c text =>
    rw [Text.bytesOf_cons, List.head?_append_of_ne_nil _ String.utf8EncodeChar_ne_nil,
      List.head?_cons, Option.some.injEq, ← h.mem_utf8EncodeChar_iff]
    refine ⟨List.mem_of_mem_head?, fun hb => ?_⟩
    rw [h.only c hb, h.bytes]
    rfl

theorem getLast?_bytesOf (h : Marks b k) :
    (bytesOf text).getLast? = some b ↔ text.getLast? = some k := by
  rcases List.eq_nil_or_concat' text with rfl | ⟨front, c, rfl⟩
  · simp
  · rw [bytesOf_concat, List.getLast?_concat, Option.some.injEq, ← h.mem_utf8EncodeChar_iff,
      List.getLast?_append_of_ne_nil _ String.utf8EncodeChar_ne_nil]
    refine ⟨List.mem_of_getLast?, fun hb => ?_⟩
    rw [h.only c hb, h.bytes]
    rfl

end Marks

theorem toByteArray_ofList (text : List Char) :
    (String.ofList text).toByteArray = ⟨(bytesOf text).toArray⟩ := by
  rw [String.toByteArray_ofList, List.utf8Encode]
  exact ByteArray.ext (Array.toList_inj.1 List.toList_data_toByteArray)

theorem toList_toUTF8 (text : String) : text.toUTF8.data.toList = bytesOf text.toList := by
  rw [String.toUTF8_eq_toByteArray, ← String.ofList_toList (s := text), toByteArray_ofList,
    String.toList_ofList]

end QueryConsole.Text
