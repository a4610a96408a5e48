import QueryConsole.Proofs.Favorites
import QueryConsole.Proofs.Response
import QueryConsole.Report.Document

namespace QueryConsole

open Json (Source Faithful record?)

variable {f : Json → Source} {depth : Nat}

namespace Entry

-- An identifier is shown as a number sign and a number.
def id? (text : String) : Option Nat :=
  match text.toList with
  | '#' :: digits => some (Nat.ofDigitChars 10 digits 0)
  | _ => none

-- Runs are counted by whole numbers, with no bound.
def seq? : Source → Option Nat
  | .numeral ⟨false, digits, none, none⟩ => some (Nat.ofDigitChars 10 digits 0)
  | _ => none

def ofSource? (depth : Nat) (source : Source) : Option Entry := do
  let [some id, some response, some seq, some text] ←
    record? ["id", "response", "seq", "text"] source | none
  return {
    id := ← id.text?.bind id?
    seq := ← seq? seq
    text := ← text.text?
    response := ← Response.ofSource? depth response }

theorem id?_shown (id : Nat) : id? ("#" ++ toString id) = some id := by
  have hdigits : ("#" ++ toString id).toList = '#' :: Nat.toDigits 10 id := by
    rw [String.toList_append, Nat.toString_eq_repr, Nat.toList_repr]
    rfl
  simp only [id?, hdigits, Nat.ofDigitChars_ten_toDigits]

theorem seq?_shown (hf : Faithful f) (seq : Nat) : seq? (f (.int seq)) = some seq := by
  have hsign : decide ((seq : Int) < 0) = false := by simp
  rw [hf.int, Json.Numeral.ofInt, hsign, seq?, Int.natAbs_natCast,
    Nat.ofDigitChars_ten_toDigits]

theorem ofSource?_toJson (hf : Faithful f) {e : Entry}
    (h : ∀ data ∈ e.response.data, data.Fits depth) :
    ofSource? (depth + 4) (f e.toJson) = some e := by
  have hrecord : record? ["id", "response", "seq", "text"] (f e.toJson) =
      some [some (f (.string ("#" ++ toString e.id))), some (f e.response.toJson),
        some (f (.int e.seq)), some (f (.string e.text))] :=
    hf.record _ (by simp) _
  have hid : (f (.string ("#" ++ toString e.id))).text?.bind id? = some e.id := by
    rw [hf.text?]
    exact id?_shown e.id
  have htext := hf.text? e.text
  have hseq := seq?_shown hf e.seq
  have hresponse := Response.ofSource?_toJson hf h
  simp only [ofSource?, hrecord, Option.bind_eq_bind, Option.bind_some, hid, hseq, htext, hresponse]
  rfl

end Entry

namespace Script.Split

def ofSource? (source : Source) : Option Split := do
  let [some directives, some statements] ←
    record? ["param_directives", "statements"] source | none
  return ⟨← directives.texts?, ← statements.texts?⟩

theorem ofSource?_toJson (hf : Faithful f) (s : Split) :
    ofSource? (f (.object [("param_directives", .strings s.directives),
      ("statements", .strings s.statements)])) = some s := by
  have hrecord := hf.record [("param_directives", .strings s.directives),
    ("statements", .strings s.statements)] (by simp) ["param_directives", "statements"]
  have hfields : record? ["param_directives", "statements"] (f (.object
      [("param_directives", .strings s.directives), ("statements", .strings s.statements)])) =
      some [some (f (.strings s.directives)), some (f (.strings s.statements))] := hrecord
  have hdirectives := hf.texts? s.directives
  have hstatements := hf.texts? s.statements
  simp [ofSource?, hfields, hdirectives, hstatements]

end Script.Split

namespace Report

def entries? : (depth : Nat) → Source → Option (List Entry)
  | depth + 2, .array items => items.mapM (Entry.ofSource? depth)
  | _, _ => none

-- A report by its kind and the only field of its document.
def ofField? (depth : Nat) (kind : String) (source : Source) : Option Report :=
  match kind with
  | "results" => (entries? depth source).map results
  | "split" => (Script.Split.ofSource? source).map split
  | "favorites" => (Favorites.ofSource? source).map favorites
  | "params" => (source.optional? (Response.params? depth)).map params
  | "history" => (entries? depth source).map history
  | "info" => source.text?.map info
  | "error" => source.text?.map error
  | _ => none

def ofSource? : (depth : Nat) → Source → Option Report
  | depth + 1, .object [(some kind, source)] => ofField? depth kind source
  | _, _ => none

def ofLine? (line : String) : Option Report := do
  ofSource? Value.maxDepth (← Json.parse? line)

-- There are no floating-point numbers in what is shown, and all maps are in order.
def Canonical : Report → Prop
  | results entries | history entries => ∀ e ∈ entries, e.response.Canonical
  | params table => ∀ params ∈ table, ∀ e ∈ params.entries, e.2.Canonical
  | split _ | favorites _ | info _ | error _ => True

variable {entries : List Entry} {report : Report}

theorem entries?_toJson (hf : Faithful f) (h : ∀ e ∈ entries, e.response.Canonical)
    (hd : (Json.array (entries.map Entry.toJson)).nesting ≤ depth + 6) :
    entries? (depth + 6) (f (.array (entries.map Entry.toJson))) = some entries := by
  rw [hf.array, entries?, List.map_map]
  refine Json.mapM_map_eq_some fun e he => Entry.ofSource?_toJson hf ?_
  have hentry := List.forall_mem_map.1 (Json.nesting_array_le_iff.1 hd) e he
  have hresponse := Json.nesting_object_le_iff.1 hentry ("response", e.response.toJson) (by simp)
  exact (h e he).fits hresponse

theorem params?_toJson (hf : Faithful f) {table : Option Params} (h : (params table).Canonical)
    (hd : (Json.ofOption Value.paramsToJson table).nesting ≤ depth + 1) :
    (f (.ofOption Value.paramsToJson table)).optional? (Response.params? (depth + 1)) =
      some table := by
  refine hf.optional? rfl fun params hp => Params.ofSource?_toJson hf fun e he => ?_
  rw [Option.mem_def.1 hp, Json.ofOption, Value.paramsToJson, Value.entriesToJson_eq_map,
    Json.nesting_object_le_iff] at hd
  exact (h params hp e he).exact (List.forall_mem_map.1 hd e he)

theorem ofSource?_field (hf : Faithful f) (depth : Nat) (kind : String) (j : Json) :
    ofSource? (depth + 1) (f (.object [(kind, j)])) = ofField? depth kind (f j) := by
  rw [hf.object _ (List.pairwise_singleton ..)]
  rfl

-- A report is read off what its document is read as.
theorem ofSource?_document (hf : Faithful f) (h : report.Canonical)
    (hd : report.document.nesting ≤ depth + 7) :
    ofSource? (depth + 7) (f report.document) = some report := by
  cases report with
  | results entries | history entries =>
    have hd := Json.nesting_object_le_iff.1 hd _ (List.mem_singleton_self _)
    have hentries := entries?_toJson hf h hd
    simp [document, ofSource?_field hf, ofField?, hentries]
  | split s =>
    have hsplit := Script.Split.ofSource?_toJson hf s
    simp [document, ofSource?_field hf, ofField?, hsplit]
  | favorites saved =>
    have hsaved := Favorites.ofSource?_toJson hf saved
    simp [document, ofSource?_field hf, ofField?, hsaved]
  | params table =>
    have hd := Json.nesting_object_le_iff.1 hd _ (List.mem_singleton_self _)
    have htable := params?_toJson hf h hd
    simp [document, ofSource?_field hf, ofField?, htable]
  | info text | error text =>
    have htext := hf.text? text
    simp [document, ofSource?_field hf, ofField?, htext]

theorem ofLine?_render (h : report.Canonical) (hd : report.document.nesting ≤ Value.maxDepth) :
    ofLine? (report.render .json) = some report := by
  have hd : report.document.nesting ≤ 120 + 7 := hd
  simp only [ofLine?, render, Json.parse?_text_eq, Option.bind_eq_bind, Option.bind_some]
  exact ofSource?_document Json.faithful_sorted h hd

theorem isError_iff (report : Report) :
    report.isError = true ↔ ∃ message, report = .error message := by
  cases report with
  | error message => simp [isError]
  | results | split | favorites | params | history | info => simp [isError]

-- The line of a report is one line, and a document.
theorem notMem_render (report : Report) : '\n' ∉ (report.render .json).toList :=
  Json.notMem_text _

theorem parse?_render (report : Report) :
    Json.parse? (report.render .json) = some report.document.sorted.source :=
  Json.parse?_text_eq _

end Report
end QueryConsole
