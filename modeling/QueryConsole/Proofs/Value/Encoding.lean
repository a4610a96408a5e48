import QueryConsole.Proofs.Json.Record
import QueryConsole.Value.Encoding

namespace QueryConsole.Value

open Json (Source Numeral Faithful)

-- Values that JSON keeps exactly, nested up to `depth`. The names in a map are in order.
inductive Exact : (depth : Nat) → Value → Prop
  | null : Exact depth null
  | bool : Exact depth (bool b)
  | int : Exact depth (int n)
  | string : Exact depth (string s)
  | list (h : ∀ item ∈ items, Exact depth item) : Exact (depth + 1) (list items)
  | map (ho : Entries.Ordered entries) (h : ∀ e ∈ entries, Exact depth e.2) :
      Exact (depth + 1) (map entries)

-- Values without floating-point numbers, nested as deep as they are. A map has its keys in order,
-- as every map of the program has them.
inductive Canonical : Value → Prop
  | null : Canonical null
  | bool : Canonical (bool b)
  | int : Canonical (int n)
  | string : Canonical (string s)
  | list (h : ∀ item ∈ items, Canonical item) : Canonical (list items)
  | map (ho : Entries.Ordered entries) (h : ∀ e ∈ entries, Canonical e.2) :
      Canonical (map entries)

variable {depth : Nat} {v : Value} {items : List Value} {entries : List (String × Value)}

theorem itemsToJson_eq_map (items : List Value) : itemsToJson items = items.map toJson := by
  induction items with
  | nil => rfl
  | cons item items ih => simp [itemsToJson, ih]

theorem entriesToJson_eq_map (entries : List (String × Value)) :
    entriesToJson entries = entries.map fun e => (e.1, e.2.toJson) := by
  induction entries with
  | nil => rfl
  | cons e entries ih => simp [entriesToJson, ih]

theorem Canonical.exact (h : Canonical v) (hd : v.toJson.nesting ≤ depth) : Exact depth v := by
  induction h generalizing depth with
  | null => exact .null
  | bool => exact .bool
  | int => exact .int
  | string => exact .string
  | list _ ih =>
    rw [toJson, itemsToJson_eq_map] at hd
    cases depth with
    | zero => exact absurd hd (Nat.not_succ_le_zero _)
    | succ depth =>
      have hitems := List.forall_mem_map.1 (Json.nesting_array_le_iff.1 hd)
      exact .list fun item hi => ih item hi (hitems item hi)
  | map ho _ ih =>
    rw [toJson, entriesToJson_eq_map] at hd
    cases depth with
    | zero => exact absurd hd (Nat.not_succ_le_zero _)
    | succ depth =>
      have hentries := List.forall_mem_map.1 (Json.nesting_object_le_iff.1 hd)
      exact .map ho fun e he => ih e he (hentries e he)

theorem number?_ofInt (n : Int64) :
    (Numeral.ofInt n.toInt).number?.map ofNumber = some (int n) := by
  have hlow := n.le_toInt
  have hhigh := n.toInt_lt
  cases Int.lt_or_le n.toInt 0
  case inl h =>
    have hn := Numeral.number?_ofInt_of_neg h hlow
    simp [hn, ofNumber]
  case inr h =>
    have hsize : (UInt64.size : Int) = 2 ^ 64 := by decide
    have hn := Numeral.number?_ofInt_of_nonneg h (by omega)
    have hlt : n.toInt.toNat.toUInt64 < 0x8000000000000000 := by
      rw [UInt64.lt_iff_toNat_lt]
      simp only [Nat.toUInt64_eq, UInt64.toNat_ofNat', UInt64.reduceToNat]
      omega
    have hback : n.toInt.toNat.toUInt64.toInt64 = n := by
      have hnonneg : 0 ≤ n := Int64.le_iff_toInt_le.2 (by simpa using h)
      simpa using Int64.ofNat_toNatClampNeg n hnonneg
    simp only [hn, Option.map_some, ofNumber, if_pos hlt, hback]

variable {f : Json → Source}

theorem mapM_entries (h : ∀ e ∈ entries, ofSource? depth (f e.2.toJson) = some e.2) :
    ((entries.map fun e => (some e.1, f e.2.toJson)).mapM fun (name, value) => do
      return (← name, ← ofSource? depth value)) = some entries :=
  Json.mapM_map_eq_some fun e he => by simp [h e he]

-- The value is read off what its document is read as.
theorem Exact.ofSource? (h : Exact depth v) (hf : Faithful f) :
    Value.ofSource? depth (f v.toJson) = some v := by
  induction h with
  | null => simp [toJson, hf.null, Value.ofSource?]
  | bool => simp [toJson, hf.bool, Value.ofSource?]
  | int => simp only [toJson, hf.int, Value.ofSource?, number?_ofInt]
  | string => simp [toJson, hf.string, Value.ofSource?]
  | list _ ih =>
    have hitems := Json.mapM_map_eq_some ih
    rw [toJson, itemsToJson_eq_map, hf.array, List.map_map, Value.ofSource?, Function.comp_def,
      hitems]
    rfl
  | @map es _ ho _ ih =>
    have hobject := hf.object _ (ho.map toJson)
    rw [List.map_map] at hobject
    rw [← List.nil_append es] at ho
    have hfold := Entries.foldl_insert_of_ordered ho
    have hentries := mapM_entries ih
    rw [toJson, entriesToJson_eq_map, hobject, Value.ofSource?, Function.comp_def, hentries]
    exact congrArg (fun es => some (Value.map es)) hfold

theorem ofJsonText?_text (h : Exact maxDepth v) : ofJsonText? v.toJson.text = some v := by
  rw [ofJsonText?, Json.parse?_text_eq]
  exact h.ofSource? Json.faithful_source

theorem ofLiteral_text (h : Exact maxDepth v) : ofLiteral v.toJson.text = v := by
  have htrim : Text.trimmed v.toJson.text = v.toJson.text := by
    simp [Text.trimmed, Json.text, Text.trim_of_tidy v.toJson.inline.tidy]
  simp [ofLiteral, htrim, ofJsonText?_text h]

end QueryConsole.Value
