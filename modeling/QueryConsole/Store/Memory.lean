import QueryConsole.Error
import QueryConsole.Table

namespace QueryConsole

-- Stores of texts under keys. Reading leaves a store as it is.
class KeyValueStore (τ : Type) where
  -- The text last written under exactly this key.
  get : τ → (key : String) → Except ConsoleError (Option String)
  set : τ → (key text : String) → τ × Except ConsoleError Unit

-- A store in memory, which can be told to fail. A write that fails changes nothing.
structure MemoryStore where
  texts : Table String
  refusesGet : Bool
  refusesSet : Bool

namespace MemoryStore

def ofTexts (texts : Table String) : MemoryStore :=
  ⟨texts, false, false⟩

def empty : MemoryStore :=
  ofTexts .empty

def get (s : MemoryStore) (key : String) : Except ConsoleError (Option String) :=
  if s.refusesGet then .error ⟨.persistence, "store unreadable"⟩ else .ok (s.texts.get? key)

def set (s : MemoryStore) (key text : String) : MemoryStore × Except ConsoleError Unit :=
  if s.refusesSet then (s, .error ⟨.persistence, "store is read-only"⟩)
  else ({ s with texts := s.texts.insert key text }, .ok ())

instance : KeyValueStore MemoryStore where
  get := get
  set := set

theorem get_set {s : MemoryStore} (hg : s.refusesGet = false) (hs : s.refusesSet = false)
    (key text other : String) :
    (s.set key text).1.get other = if key = other then .ok (some text) else s.get other := by
  simp [set, get, hg, hs]
  split <;> rfl

end MemoryStore
end QueryConsole
