import QueryConsole.Proofs.Json.Record
import QueryConsole.Proofs.Session.Failure
import QueryConsole.Proofs.Store.Lawful

namespace QueryConsole

namespace Favorites

theorem ofSource?_toJson {f : Json → Json.Source} (hf : Json.Faithful f) (favorites : Favorites) :
    ofSource? (f favorites.toJson) = some favorites := by
  have hobject := hf.object _ (favorites.ordered.map Json.string)
  rw [List.map_map, Function.comp_def] at hobject
  rw [toJson, hobject, ofSource?, Json.mapM_map_eq_some]
  · exact congrArg some (Table.ofList_entries favorites)
  · intro e _
    simp [hf.text?]

theorem decode_encode (favorites : Favorites) : decode favorites.encode = favorites := by
  have hread := ofSource?_toJson Json.faithful_source favorites
  rw [decode, encode, Json.parse?_text_eq, Option.bind_some, hread, Option.getD_some]

end Favorites

variable {τ : Type} [KeyValueStore τ] {store : τ} {key : String} {favorites shown : Favorites}

namespace Favorites

theorem load_of_get_eq {store' : τ}
    (h : KeyValueStore.get store' key = KeyValueStore.get store key) :
    load store' key = load store key := by
  rw [load, load, h]

-- After a write the store holds the new favorites or still the old ones, as it says itself.
theorem load_set (hf : FailsCleanly τ) (hk : KeepsWrites τ) (h : load store key = .ok shown)
    (favorites : Favorites) :
    load (KeyValueStore.set store key favorites.encode).1 key =
      match (KeyValueStore.set store key favorites.encode).2 with
      | .ok () => .ok favorites
      | .error _ => .ok shown := by
  cases hset : (KeyValueStore.set store key favorites.encode).2 with
  | ok =>
    cases hget : KeyValueStore.get store key with
    | error e => simp [load, hget, Except.map] at h
    | ok stored =>
      have hkeep := hk store key favorites.encode stored hget hset
      simp [load, hkeep, Except.map, ofStored, decode_encode]
  | error e => exact (load_of_get_eq (hf store key _ e hset key)).trans h

-- Saves one after the other. The first that fails is the last.
def saveAll (store : τ) : List (String × Favorites) → τ × Except ConsoleError Unit
  | [] => (store, .ok ())
  | (key, favorites) :: saves =>
    match save store key favorites with
    | (store, .ok ()) => saveAll store saves
    | (store, .error e) => (store, .error e)

section

open LawfulStore (Shows)

variable [LawfulStore τ] {texts : Table String}

theorem saveAll_eq_ok (h : Shows store texts) (saves : List (String × Favorites)) :
    ∃ store', saveAll store saves = (store', .ok ()) ∧
      Shows store' (saves.foldl (fun texts e => texts.insert e.1 e.2.encode) texts) := by
  induction saves generalizing store texts with
  | nil => exact ⟨store, rfl, h⟩
  | cons e saves ih =>
    have ⟨next, hset, hnext⟩ := LawfulStore.set_eq h e.1 e.2.encode
    have ⟨store', hsaves, hshows⟩ := ih hnext
    refine ⟨store', ?_, hshows⟩
    rw [saveAll, save, hset]
    exact hsaves

theorem load_eq_of_shows (h : Shows store texts) (key : String) :
    load store key = .ok (ofStored (texts.get? key)) := by
  rw [load, LawfulStore.get_eq h]
  rfl

-- Under each key there is what was saved there last, or else what was there before.
theorem load_saveAll (h : Shows store texts) (saves : List (String × Favorites)) :
    ∃ store', saveAll store saves = (store', .ok ()) ∧
      ∀ key, load store' key = (lastUnder key saves).elim (load store key) .ok := by
  have ⟨store', hsaves, hshows⟩ := saveAll_eq_ok h saves
  refine ⟨store', hsaves, fun key => ?_⟩
  have hlast : (saves.foldl (fun texts e => texts.insert e.1 e.2.encode) texts).get? key =
      ((lastUnder key saves).map encode).or (texts.get? key) := by
    have hfold := Table.get?_foldl_insert key texts (saves.map fun e => (e.1, e.2.encode))
    rw [List.foldl_map] at hfold
    rw [hfold, ← lastUnder_map]
    rfl
  rw [load_eq_of_shows hshows, hlast, load_eq_of_shows h]
  cases lastUnder key saves with
  | none => rfl
  | some favorites => exact congrArg Except.ok (decode_encode favorites)

end

-- What is under a key may be no favorites at all, and names and statements may be any text.
theorem load_saveAll_mixed :
    let old : MemoryStore :=
      .ofTexts (.ofList [("a", "[not json"), ("c", "\x7b\"x\":\"YIELD 1\"\x7d")])
    let first : Favorites := .ofList [("q\"uoted", "YIELD \\ 1;")]
    let second : Favorites := .ofList [("", "line\n\x00tab\t"), ("größe", "RETURN \"ß\";")]
    ∃ store, saveAll old [("a", first), ("b", second), ("a", second), ("b", first)] =
        (store, .ok ()) ∧
      load store "a" = .ok second ∧ load store "b" = .ok first ∧ load store "c" = load old "c" := by
  intro old first second
  have hold : LawfulStore.Shows old old.texts := rfl
  have ⟨store, hsaves, hload⟩ :=
    load_saveAll hold [("a", first), ("b", second), ("a", second), ("b", first)]
  exact ⟨store, hsaves, hload "a", hload "b", hload "c"⟩

end Favorites
end QueryConsole
