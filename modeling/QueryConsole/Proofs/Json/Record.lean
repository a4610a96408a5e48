import QueryConsole.Json.Record
import QueryConsole.Proofs.Json.Document
import QueryConsole.Report.Document

namespace QueryConsole

namespace Entries

variable {α β : Type} {name : String} {es : Entries α}

theorem get?_map (name : String) (f : α → β) (es : Entries α) :
    get? name (es.map fun e => (e.1, f e.2)) = (get? name es).map f := by
  induction es with
  | nil => rfl
  | cons e es ih =>
    rw [List.map_cons, get?_cons, get?_cons, ih]
    split <;> rfl

theorem Ordered.nodup (h : es.Ordered) : (es.map (·.1)).Nodup := by
  refine List.Pairwise.map _ (fun a b hlt heq => ?_) h
  exact String.lt_irrefl _ (heq ▸ hlt)

theorem Ordered.map (h : es.Ordered) (f : α → β) : Ordered (es.map fun e => (e.1, f e.2)) :=
  List.Pairwise.map _ (fun _ _ => id) h

theorem filter_of_notMem (h : name ∉ es.map (·.1)) :
    es.filter (·.1 = name) = [] ∧ get? name es = none := by
  have hne : ∀ e ∈ es, ¬e.1 = name := fun e he heq => h (List.mem_map.2 ⟨e, he, heq⟩)
  refine ⟨List.filter_eq_nil_iff.2 fun e he => by simpa using hne e he, ?_⟩
  simpa [get?] using hne

end Entries

namespace Json

open Entries (Ordered)

variable {fields : List (String × Json)} {f : Json → Source}

-- A list is read back if each of its parts is.
theorem mapM_map_eq_some {α β : Type} {write : α → β} {read : β → Option α} {as : List α}
    (h : ∀ a ∈ as, read (write a) = some a) : (as.map write).mapM read = some as := by
  induction as with
  | nil => rfl
  | cons a as ih =>
    have ⟨ha, has⟩ := List.forall_mem_cons.1 h
    rw [List.map_cons, List.mapM_cons, ha, ih has]
    rfl

theorem field?_of_nodup {reads : Entries Source} (h : (reads.map (·.1)).Nodup) (name : String) :
    field? reads name = some (Entries.get? name reads) := by
  induction reads with
  | nil => rfl
  | cons e reads ih =>
    have ⟨he, hreads⟩ := List.nodup_cons.1 h
    rw [field?, List.filter_cons, Entries.get?_cons]
    by_cases hname : e.1 = name
    case pos =>
      subst hname
      simp [(Entries.filter_of_notMem he).1]
    case neg => simpa [hname, field?] using ih hreads

-- The fields of a record, whatever their order.
theorem record?_of_nodup {reads : Entries Source} (h : (reads.map (·.1)).Nodup)
    (names : List String) :
    record? names (.object (reads.map fun e => (some e.1, e.2))) =
      some (names.map fun name => Entries.get? name reads) := by
  have hfield : field? reads = fun name => pure (Entries.get? name reads) :=
    funext (field?_of_nodup h)
  simp only [record?]
  rw [mapM_map_eq_some]
  · exact (congrArg (List.mapM · names) hfield).trans List.mapM_pure
  · exact fun _ _ => rfl

-- A way to read documents that keeps what they hold, but not the order of fields.
structure Faithful (f : Json → Source) : Prop where
  null : f .null = .null
  bool (b : Bool) : f (.bool b) = .bool b
  int (n : Int) : f (.int n) = .numeral (.ofInt n)
  string (s : String) : f (.string s) = .string (some s)
  array (items : List Json) : f (.array items) = .array (items.map f)
  object (fields : List (String × Json)) (h : Ordered fields) :
    f (.object fields) = .object (fields.map fun field => (some field.1, f field.2))
  record (fields : List (String × Json)) (h : (fields.map (·.1)).Nodup) (names : List String) :
    record? names (f (.object fields)) =
      some (names.map fun name => (Entries.get? name fields).map f)

theorem faithful_source : Faithful source where
  null := source_null
  bool := source_bool
  int := source_int
  string := source_string
  array := source_array
  object fields _ := source_object fields
  record fields h names := by
    have hnodup : ((fields.map fun e => (e.1, source e.2)).map (·.1)).Nodup := by
      simpa [Function.comp_def] using h
    have hrecord := record?_of_nodup hnodup names
    simp only [List.map_map, Function.comp_def] at hrecord
    simp only [source_object, hrecord, Entries.get?_map]

theorem sortedItems_eq_map (items : List Json) : sortedItems items = items.map sorted := by
  induction items with
  | nil => rfl
  | cons item items ih => rw [sortedItems, ih, List.map_cons]

theorem ordered_sortedFields (fields : List (String × Json)) : Ordered (sortedFields fields) := by
  induction fields with
  | nil => exact .nil
  | cons field fields ih => exact ih.insert field.1 field.2.sorted

theorem get?_sortedFields (name : String) (fields : List (String × Json)) :
    Entries.get? name (sortedFields fields) = (Entries.get? name fields).map sorted := by
  induction fields with
  | nil => rfl
  | cons field fields ih =>
    rw [sortedFields, Entries.get?_insert, Entries.get?_cons, ih]
    split <;> rfl

theorem sortedFields_of_ordered (h : Ordered fields) :
    sortedFields fields = fields.map fun field => (field.1, field.2.sorted) := by
  induction fields with
  | nil => rfl
  | cons field fields ih =>
    have ⟨hfield, hfields⟩ := List.pairwise_cons.1 h
    rw [sortedFields, ih hfields, List.map_cons]
    cases fields with
    | nil => rfl
    | cons next fields =>
      have hlt := hfield next List.mem_cons_self
      rw [List.map_cons, Entries.insert, if_pos hlt]

theorem faithful_sorted : Faithful fun j => j.sorted.source where
  null := source_null
  bool := source_bool
  int := source_int
  string := source_string
  array items := by simp [sorted, sortedItems_eq_map]
  object fields h := by simp [sorted, sortedFields_of_ordered h]
  record fields _ names := by
    have hrecord := faithful_source.record _ (ordered_sortedFields fields).nodup names
    rw [sorted, hrecord]
    simp [get?_sortedFields, Function.comp_def]

namespace Faithful

variable {α : Type} {toJson : α → Json} {read : Source → Option α}

theorem text? (hf : Faithful f) (s : String) : (f (.string s)).text? = some s := by
  rw [hf.string, Source.text?]

theorem texts? (hf : Faithful f) (ss : List String) : (f (strings ss)).texts? = some ss := by
  rw [strings, hf.array, Source.texts?, List.map_map]
  exact mapM_map_eq_some fun s _ => hf.text? s

theorem int? (hf : Faithful f) {n : Int} (hlow : -0x8000000000000000 ≤ n)
    (hhigh : n < 0x10000000000000000) :
    (f (.int n)).int? = some n := by
  rw [hf.int, Source.int?]
  cases Int.lt_or_le n 0
  case inl hn =>
    rw [Numeral.number?_ofInt_of_neg hn (by simpa using hlow)]
    exact congrArg some (Int64.toInt_ofInt_of_le hlow (by omega))
  case inr hn =>
    rw [Numeral.number?_ofInt_of_nonneg hn (by simpa using hhigh)]
    simp
    omega

-- Nothing is told apart from what is there, since that is not read from nothing.
theorem optional? (hf : Faithful f) {o : Option α} (hnull : read .null = none)
    (h : ∀ a ∈ o, read (f (toJson a)) = some a) :
    (f (ofOption toJson o)).optional? read = some o := by
  cases o with
  | none => rw [ofOption, hf.null, Source.optional?]
  | some a =>
    have ha := h a rfl
    rw [ofOption]
    cases hs : f (toJson a) with
    | null => rw [hs, hnull] at ha; exact nomatch ha
    | _ => rw [hs] at ha; simp [Source.optional?, ha]

end Faithful

end Json

end QueryConsole
