import QueryConsole.Store.Memory
import QueryConsole.Store.StateDb

namespace QueryConsole

section

variable {α β : Type}

-- What was written last under a key.
def lastUnder (key : String) (writes : List (String × α)) : Option α :=
  Entries.get? key writes.reverse

theorem lastUnder_map (f : α → β) (key : String) (writes : List (String × α)) :
    lastUnder key (writes.map fun e => (e.1, f e.2)) = (lastUnder key writes).map f := by
  rw [lastUnder, lastUnder, ← List.map_reverse]
  simp only [Entries.get?, List.find?_map, Option.map_map, Function.comp_def]

end

-- A write that fails writes nothing.
def FailsCleanly (τ : Type) [KeyValueStore τ] : Prop :=
  ∀ (store : τ) (key text : String) (e : ConsoleError),
    (KeyValueStore.set store key text).2 = .error e →
    ∀ other, KeyValueStore.get (KeyValueStore.set store key text).1 other =
      KeyValueStore.get store other

-- A text that was written is read from then on, if anything can be read.
def KeepsWrites (τ : Type) [KeyValueStore τ] : Prop :=
  ∀ (store : τ) (key text : String) (stored : Option String),
    KeyValueStore.get store key = .ok stored →
    (KeyValueStore.set store key text).2 = .ok () →
    KeyValueStore.get (KeyValueStore.set store key text).1 key = .ok (some text)

class LawfulStore (τ : Type) [KeyValueStore τ] where
  -- The store is in working order, and these are the texts in it.
  Shows : τ → Table String → Prop
  get_eq {store : τ} {texts : Table String} (h : Shows store texts) (key : String) :
    KeyValueStore.get store key = .ok (texts.get? key)
  set_eq {store : τ} {texts : Table String} (h : Shows store texts) (key text : String) :
    ∃ store', KeyValueStore.set store key text = (store', .ok ()) ∧
      Shows store' (texts.insert key text)

namespace MemoryStore

instance : LawfulStore MemoryStore where
  Shows s texts := s = ofTexts texts
  get_eq := by
    rintro _ texts rfl key
    rfl
  set_eq := by
    rintro _ texts rfl key text
    exact ⟨_, rfl, rfl⟩

theorem failsCleanly : FailsCleanly MemoryStore := by
  intro store key text e he other
  simp only [KeyValueStore.set, set] at he ⊢
  split
  · rfl
  · simp_all

theorem keepsWrites : KeepsWrites MemoryStore := by
  intro store key text stored hget hset
  have hg : store.refusesGet = false := by
    cases h : store.refusesGet with
    | false => rfl
    | true => simp [KeyValueStore.get, get, h] at hget
  have hs : store.refusesSet = false := by
    cases h : store.refusesSet with
    | false => rfl
    | true => simp [KeyValueStore.set, set, h] at hset
  exact (get_set hg hs key text key).trans (if_pos rfl)

end MemoryStore

namespace StateDb

-- An open database with a table that takes texts.
structure Shows (s : StateDb) (texts : Table String) : Prop where
  opened : s.closed = false
  writable : s.readOnly = false
  entries : s.db.entries = some ⟨texts, true⟩

namespace Shows

variable {s : StateDb} {texts : Table String}

theorem get_eq (h : Shows s texts) (key : String) : s.get key = .ok (texts.get? key) := by
  simp [get, h.opened, Database.get, h.entries]

theorem set_eq (h : Shows s texts) (key text : String) :
    s.set key text =
      ({ s with db := { s.db with entries := some ⟨texts.insert key text, true⟩ } }, .ok ()) := by
  simp [set, h.opened, h.writable, Database.set, h.entries]

end Shows

instance : LawfulStore StateDb where
  Shows := Shows
  get_eq h key := h.get_eq key
  set_eq h key text := ⟨_, h.set_eq key text, h.opened, h.writable, rfl⟩

-- A write is refused and changes nothing, or it goes to a table that takes texts.
theorem set_cases (s : StateDb) (key text : String) :
    (∃ e, s.set key text = (s, .error e)) ∨ ∃ texts, s.Shows texts := by
  cases hc : s.closed with
  | true => exact .inl ⟨_, by rw [set, if_pos hc]⟩
  | false =>
    have hopen : ¬s.closed = true := by simp [hc]
    cases hw : s.readOnly with
    | true => exact .inl ⟨_, by rw [set, if_neg hopen, if_pos hw]⟩
    | false =>
      have hwritable : ¬s.readOnly = true := by simp [hw]
      rw [set, if_neg hopen, if_neg hwritable, Database.set]
      cases he : s.db.entries with
      | none => exact .inl ⟨_, rfl⟩
      | some entries =>
        obtain ⟨texts, keyed⟩ := entries
        cases keyed with
        | true => exact .inr ⟨texts, hc, hw, he⟩
        | false => exact .inl ⟨_, rfl⟩

theorem failsCleanly : FailsCleanly StateDb := by
  intro store key text e he other
  cases store.set_cases key text with
  | inl h =>
    have ⟨e', hset⟩ := h
    exact congrArg (fun s => get s other) (congrArg Prod.fst hset)
  | inr h =>
    have ⟨texts, hshows⟩ := h
    exact nomatch he.symm.trans (congrArg Prod.snd (hshows.set_eq key text))

theorem keepsWrites : KeepsWrites StateDb := by
  intro store key text stored _ hset
  cases store.set_cases key text with
  | inl h =>
    have ⟨e, hset'⟩ := h
    exact nomatch hset.symm.trans (congrArg Prod.snd hset')
  | inr h =>
    have ⟨texts, hshows⟩ := h
    have hlawful : LawfulStore.Shows store texts := hshows
    have ⟨store', hset', hshows'⟩ := LawfulStore.set_eq hlawful key text
    rw [hset', LawfulStore.get_eq hshows', Table.get?_insert, if_pos rfl]

end StateDb
end QueryConsole
