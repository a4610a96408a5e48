import QueryConsole.Proofs.Json.Float
import QueryConsole.Proofs.Json.Line
import QueryConsole.Proofs.Json.Reading

namespace QueryConsole.Json

variable {j : Json} {s : Source} {items : List Json} {fields : List (String × Json)} {depth : Nat}

@[elab_as_elim]
theorem induction {P : Json → Prop} (null : P null) (bool : ∀ b, P (bool b))
    (int : ∀ n, P (int n)) (float : ∀ x, P (float x)) (string : ∀ s, P (string s))
    (array : ∀ items, (∀ item ∈ items, P item) → P (array items))
    (object : ∀ fields, (∀ field ∈ fields, P field.2) → P (object fields)) (j : Json) : P j :=
  @Json.rec P (fun items => ∀ item ∈ items, P item) (fun fields => ∀ field ∈ fields, P field.2)
    (fun field => P field.2) null bool int float string array object nofun
    (fun _ _ hitem hitems => List.forall_mem_cons.2 ⟨hitem, hitems⟩) nofun
    (fun _ _ hfield hfields => List.forall_mem_cons.2 ⟨hfield, hfields⟩) (fun _ _ h => h) j

-- A number that is not finite is written as nothing.
theorem print_float (x : Float) :
    print (.float x) = print .null ∨ ∃ m : Numeral, m.Written ∧ print (.float x) = m.text := by
  by_cases hx : x.isFinite = true
  case pos =>
    have ⟨m, hm, htext⟩ := exists_text_write x
    exact .inr ⟨m, hm, by simp [print, hx, htext]⟩
  case neg => exact .inl (by simp [print, hx])

theorem inline (j : Json) : Inline j := by
  induction j using Json.induction with
  | null => exact inline_null
  | bool b => exact inline_bool b
  | int n => exact inline_int n
  | float x =>
    rcases print_float x with hnull | ⟨m, hm, htext⟩
    · exact ⟨hnull ▸ inline_null.text, hnull ▸ inline_null.first, hnull ▸ inline_null.last⟩
    · exact inline_numeral hm htext
  | string s => exact inline_string s
  | array items ih => exact inline_array ih
  | object fields ih => exact inline_object ih

theorem notMem_text (j : Json) : '\n' ∉ j.text.toList := by
  rw [text, String.toList_ofList]
  exact (inline j).text.notMem

-- What the text of a document is read as.
def source (j : Json) : Source :=
  (parse? j.text).getD .null

theorem Reads.source_eq (h : Reads j s) : j.source = s := by
  rw [source, parse?_text h, Option.getD_some]

theorem reads_of_print_eq {k : Json} (h : Reads k s) (hj : j.print = k.print) : Reads j s where
  starts := hj ▸ h.starts
  value? := hj ▸ h.value?

theorem forall₂_reads (h : ∀ item ∈ items, Reads item item.source) :
    List.Forall₂ Reads items (items.map source) :=
  List.forall₂_map_right_iff.2 (List.forall₂_same.2 h)

theorem forall₂_readsField (h : ∀ field ∈ fields, Reads field.2 field.2.source) :
    List.Forall₂ ReadsField fields (fields.map fun field => (some field.1, field.2.source)) :=
  List.forall₂_map_right_iff.2 (List.forall₂_same.2 fun field hf => ⟨rfl, h field hf⟩)

theorem reads_source (j : Json) : Reads j j.source := by
  suffices h : ∃ s, Reads j s by
    have ⟨s, hs⟩ := h
    exact hs.source_eq ▸ hs
  induction j using Json.induction with
  | null => exact ⟨_, reads_null⟩
  | bool b => exact ⟨_, reads_bool b⟩
  | int n => exact ⟨_, reads_int n⟩
  | float x =>
    rcases print_float x with hnull | ⟨m, hm, htext⟩
    · exact ⟨_, reads_of_print_eq reads_null hnull⟩
    · exact ⟨_, reads_numeral hm htext⟩
  | string s => exact ⟨_, reads_string s⟩
  | array items ih =>
    refine ⟨_, reads_array (forall₂_reads fun item hi => ?_)⟩
    have ⟨s, hs⟩ := ih item hi
    exact hs.source_eq ▸ hs
  | object fields ih =>
    refine ⟨_, reads_object (forall₂_readsField fun field hf => ?_)⟩
    have ⟨s, hs⟩ := ih field hf
    exact hs.source_eq ▸ hs

-- The text of every document is read, to its end.
theorem parse?_text_eq (j : Json) : parse? j.text = some j.source :=
  parse?_text (reads_source j)

@[simp]
theorem source_null : source .null = .null :=
  reads_null.source_eq

@[simp]
theorem source_bool (b : Bool) : source (.bool b) = .bool b :=
  (reads_bool b).source_eq

@[simp]
theorem source_int (n : Int) : source (.int n) = .numeral (.ofInt n) :=
  (reads_int n).source_eq

@[simp]
theorem source_string (s : String) : source (.string s) = .string (some s) :=
  (reads_string s).source_eq

@[simp]
theorem source_array (items : List Json) : source (.array items) = .array (items.map source) :=
  (reads_array (forall₂_reads fun item _ => reads_source item)).source_eq

@[simp]
theorem source_object (fields : List (String × Json)) :
    source (.object fields) = .object (fields.map fun field => (some field.1, field.2.source)) :=
  (reads_object (forall₂_readsField fun field _ => reads_source field.2)).source_eq

mutual

-- How many arrays and objects stand around the innermost part, the document itself included.
def nesting : Json → Nat
  | array items => nestingItems items + 1
  | object fields => nestingFields fields + 1
  | _ => 0

def nestingItems : List Json → Nat
  | [] => 0
  | item :: items => max item.nesting (nestingItems items)

def nestingFields : List (String × Json) → Nat
  | [] => 0
  | (_, value) :: fields => max value.nesting (nestingFields fields)

end

theorem nestingItems_le_iff :
    nestingItems items ≤ depth ↔ ∀ item ∈ items, item.nesting ≤ depth := by
  induction items with
  | nil => simp [nestingItems]
  | cons item items ih => rw [nestingItems, Nat.max_le, ih, List.forall_mem_cons]

theorem nestingFields_le_iff :
    nestingFields fields ≤ depth ↔ ∀ field ∈ fields, field.2.nesting ≤ depth := by
  induction fields with
  | nil => simp [nestingFields]
  | cons field fields ih => rw [nestingFields, Nat.max_le, ih, List.forall_mem_cons]

theorem nesting_array_le_iff :
    (array items).nesting ≤ depth + 1 ↔ ∀ item ∈ items, item.nesting ≤ depth := by
  rw [nesting, Nat.add_le_add_iff_right, nestingItems_le_iff]

theorem nesting_object_le_iff :
    (object fields).nesting ≤ depth + 1 ↔ ∀ field ∈ fields, field.2.nesting ≤ depth := by
  rw [nesting, Nat.add_le_add_iff_right, nestingFields_le_iff]

end QueryConsole.Json
