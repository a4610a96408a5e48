import QueryConsole.Proofs.Value.Encoding
import QueryConsole.Response

namespace QueryConsole

open Json (Source Faithful)

variable {f : Json → Source} {depth : Nat} {data : ResponseData} {r : Response}

theorem Params.ofSource?_toJson (hf : Faithful f) {params : Params}
    (h : ∀ e ∈ params.entries, e.2.Exact depth) :
    Response.params? (depth + 1) (f (Value.paramsToJson params)) = some params := by
  have hobject := hf.object _ (params.ordered.map Value.toJson)
  have hentries := Value.mapM_entries fun e he => (h e he).ofSource? hf
  rw [List.map_map, Function.comp_def] at hobject
  rw [Value.paramsToJson, Value.entriesToJson_eq_map, hobject, Response.params?, hentries]
  exact congrArg some (Table.ofList_entries params)

namespace ResponseData

-- The values of the rows and the parameters are canonical.
structure Canonical (data : ResponseData) : Prop where
  rows : ∀ row ∈ data.rows, ∀ v ∈ row, v.Canonical
  params : ∀ params ∈ data.localParams, ∀ e ∈ params.entries, e.2.Canonical

-- The values of the rows are nested up to `depth`, the parameters stand one level higher.
structure Fits (depth : Nat) (data : ResponseData) : Prop where
  rows : ∀ row ∈ data.rows, ∀ v ∈ row, v.Exact depth
  params : ∀ params ∈ data.localParams, ∀ e ∈ params.entries, e.2.Exact (depth + 1)

theorem Canonical.fits (h : data.Canonical) (hd : data.toJson.nesting ≤ depth + 3) :
    data.Fits depth := by
  have hfields := Json.nesting_object_le_iff.1 hd
  constructor
  · intro row hrow v hv
    have hrows := hfields
      ("rows", .array (data.rows.map fun row => .array (Value.itemsToJson row))) (by simp)
    have hitems := List.forall_mem_map.1 (Json.nesting_array_le_iff.1 hrows) row hrow
    rw [Value.itemsToJson_eq_map, Json.nesting_array_le_iff] at hitems
    exact (h.rows row hrow v hv).exact (List.forall_mem_map.1 hitems v hv)
  · intro params hparams e he
    have htable := hfields ("local_params", Value.paramsToJson params)
      (by simp [Option.mem_def.1 hparams])
    rw [Value.paramsToJson, Value.entriesToJson_eq_map, Json.nesting_object_le_iff] at htable
    exact (h.params params hparams e he).exact (List.forall_mem_map.1 htable e he)

theorem rows?_toJson (hf : Faithful f) (h : data.Fits depth) :
    Response.rows? (depth + 2)
      (f (.array (data.rows.map fun row => .array (Value.itemsToJson row)))) = some data.rows := by
  rw [hf.array, List.map_map, Response.rows?]
  refine Json.mapM_map_eq_some fun row hrow => ?_
  rw [Function.comp_apply, hf.array, Value.itemsToJson_eq_map, List.map_map]
  exact Json.mapM_map_eq_some fun v hv => (h.rows row hrow v hv).ofSource? hf

theorem timeCost?_toJson (hf : Faithful f) (n : UInt64) :
    Response.timeCost? (f (.int n.toNat)) = some n := by
  have hn := n.toNat_lt
  have hint := hf.int? (n := n.toNat) (by omega) (by omega)
  simp [Response.timeCost?, hint]

theorem record?_toJson (hf : Faithful f) (data : ResponseData) :
    Json.record? ["headers", "rows", "time_cost", "local_params"] (f data.toJson) =
      some [some (f (.strings data.headers)),
        some (f (.array (data.rows.map fun row => .array (Value.itemsToJson row)))),
        some (f (.int data.timeCost.toNat)),
        data.localParams.map fun params => f (Value.paramsToJson params)] := by
  unfold toJson
  cases data.localParams with
  | none => exact hf.record _ (by simp) _
  | some params => exact hf.record _ (by simp) _

-- No parameters and an empty table are told apart.
theorem localParams?_toJson (hf : Faithful f) (h : data.Fits depth) :
    ((data.localParams.map fun params => f (Value.paramsToJson params)).elim (some none)
      (·.optional? (Response.params? (depth + 2)))) = some data.localParams := by
  cases hp : data.localParams with
  | none => rfl
  | some params =>
    have hnull : Response.params? (depth + 2) .null = none := rfl
    have hread : (f (Json.ofOption Value.paramsToJson (some params))).optional?
        (Response.params? (depth + 2)) = some (some params) := by
      refine hf.optional? hnull ?_
      rintro _ ⟨⟩
      exact Params.ofSource?_toJson hf (h.params params hp)
    exact hread

theorem data?_toJson (hf : Faithful f) (h : data.Fits depth) :
    Response.data? (depth + 3) (f data.toJson) = some data := by
  have hheaders := hf.texts? data.headers
  have hrows := rows?_toJson hf h
  have htime := timeCost?_toJson hf data.timeCost
  have hparams := localParams?_toJson hf h
  simp [Response.data?, record?_toJson hf, hheaders, hrows, htime, hparams]

end ResponseData

namespace Response

theorem code?_toJson (hf : Faithful f) (code : Int32) :
    code? (f (.int code.toInt)) = some code := by
  have hlow := code.le_toInt
  have hhigh := code.toInt_lt
  have hint := hf.int? (n := code.toInt) (by omega) (by omega)
  have hmin : Int32.minValue.toInt = -2 ^ 31 := by decide
  have hmax : Int32.maxValue.toInt = 2 ^ 31 - 1 := by decide
  have hrange : Int32.minValue.toInt ≤ code.toInt ∧ code.toInt ≤ Int32.maxValue.toInt := by omega
  simp only [code?, hint, Option.bind_eq_bind, Option.bind_some, if_pos hrange]
  exact congrArg some (Int32.ofInt_toInt code)

-- There are no floating-point numbers in the data of the response, and all maps are in order.
def Canonical (r : Response) : Prop :=
  ∀ data ∈ r.data, data.Canonical

theorem Canonical.fits (h : r.Canonical) (hd : r.toJson.nesting ≤ depth + 4) :
    ∀ data ∈ r.data, data.Fits depth := by
  intro data hdata
  have hfields := Json.nesting_object_le_iff.1 hd
  have hdocument := hfields ("data", .ofOption ResponseData.toJson r.data) (by simp)
  rw [Option.mem_def.1 hdata] at hdocument
  exact (h data hdata).fits hdocument

-- The response is read off what its document is read as.
theorem ofSource?_toJson (hf : Faithful f) (h : ∀ data ∈ r.data, data.Fits depth) :
    ofSource? (depth + 4) (f r.toJson) = some r := by
  have hrecord := hf.record [("statement", .string r.statement), ("code", .int r.code.toInt),
    ("message", .ofOption .string r.message), ("data", .ofOption ResponseData.toJson r.data)]
    (by simp) ["statement", "code", "message", "data"]
  have hstatement := hf.text? r.statement
  have hcode := code?_toJson hf r.code
  have hmessage := hf.optional? (o := r.message) rfl fun message _ => hf.text? message
  have hdata := hf.optional? (o := r.data) rfl fun data hd =>
    ResponseData.data?_toJson hf (h data hd)
  have hfields : Json.record? ["statement", "code", "message", "data"] (f r.toJson) =
      some [some (f (.string r.statement)), some (f (.int r.code.toInt)),
        some (f (.ofOption .string r.message)),
        some (f (.ofOption ResponseData.toJson r.data))] := hrecord
  simp [ofSource?, hfields, hstatement, hcode, hmessage, hdata]

theorem ofJsonText?_toJson (h : r.Canonical) (hd : r.toJson.nesting ≤ Value.maxDepth) :
    ofJsonText? r.toJson.text = some r := by
  have hfits : ∀ data ∈ r.data, data.Fits 123 := h.fits hd
  simp only [ofJsonText?, Json.parse?_text_eq, Option.bind_eq_bind, Option.bind_some]
  exact ofSource?_toJson Json.faithful_source hfits

-- Rows of different lengths, a map in a list in a map, and an empty table of parameters.
def ragged : Response where
  statement := "RETURN \"a\nb\";"
  code := -3
  message := some "\x00 \\ ſ"
  data := some {
    headers := ["", "h"]
    rows := [[.int (-5), .string "\"\t"], [],
      [.map [("", .list [.null, .map []]), ("a", .bool true)]]]
    timeCost := 18446744073709551615
    localParams := some .empty }

theorem canonical_ragged : ragged.Canonical := by
  rintro _ ⟨⟩
  have hordered : Entries.Ordered [("", Value.list [.null, .map []]), ("a", .bool true)] :=
    List.pairwise_pair.2 (by decide)
  have hempty : (Value.map []).Canonical := .map .nil nofun
  have hlist : (Value.list [.null, .map []]).Canonical :=
    .list (List.forall_mem_cons.2 ⟨.null, List.forall_mem_singleton.2 hempty⟩)
  have hmap : (Value.map [("", .list [.null, .map []]), ("a", .bool true)]).Canonical :=
    .map hordered (List.forall_mem_cons.2 ⟨hlist, List.forall_mem_singleton.2 .bool⟩)
  refine ⟨?_, ?_⟩
  · simp only [List.forall_mem_cons]
    exact ⟨⟨.int, .string, nofun⟩, nofun, ⟨hmap, nofun⟩, nofun⟩
  · rintro _ ⟨⟩
    nofun

theorem ofJsonText?_ragged :
    ragged.Canonical ∧ ragged.toJson.nesting ≤ Value.maxDepth ∧
      ofJsonText? ragged.toJson.text = some ragged :=
  ⟨canonical_ragged, by decide, ofJsonText?_toJson canonical_ragged (by decide)⟩

end Response

end QueryConsole
