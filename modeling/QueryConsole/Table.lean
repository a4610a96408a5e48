-- Tables: values under names, kept in name order, one value a name. Insertion, removal and lookup
-- are described by `get?_insert` and `get?_erase`; the order is part of the type.
namespace QueryConsole

-- Values by name as a plain list. The operations keep strictly increasing names.
abbrev Entries (α : Type u) := List (String × α)

namespace Entries

variable {α : Type u}

def Ordered (es : Entries α) : Prop :=
  es.Pairwise (·.1 < ·.1)

def insert (name : String) (a : α) : Entries α → Entries α
  | [] => [(name, a)]
  | e :: es =>
    if name < e.1 then (name, a) :: e :: es
    else if name = e.1 then (name, a) :: es
    else e :: insert name a es

def erase (name : String) (es : Entries α) : Entries α :=
  es.filter (·.1 ≠ name)

def get? (name : String) (es : Entries α) : Option α :=
  (es.find? (·.1 = name)).map (·.2)

theorem mem_insert {name : String} {a : α} {es : Entries α} {e : String × α}
    (h : e ∈ insert name a es) : e = (name, a) ∨ e ∈ es := by
  induction es with
  | nil => simpa [insert] using h
  | cons f es ih =>
    rw [insert] at h
    split at h
    · simpa using h
    · split at h
      · exact (List.mem_cons.1 h).imp_right (List.mem_cons_of_mem _)
      · rcases List.mem_cons.1 h with h | h
        · exact .inr (h ▸ List.mem_cons_self)
        · exact (ih h).imp_right (List.mem_cons_of_mem _)

theorem Ordered.insert {es : Entries α} (h : es.Ordered) (name : String) (a : α) :
    (es.insert name a).Ordered := by
  induction es with
  | nil => simp [Entries.insert, Ordered]
  | cons e es ih =>
    have ⟨he, hes⟩ := List.pairwise_cons.1 h
    rw [Entries.insert]
    split
    · rename_i hlt
      refine List.pairwise_cons.2 ⟨fun f hf => ?_, h⟩
      rcases List.mem_cons.1 hf with rfl | hf
      · exact hlt
      · exact String.lt_trans hlt (he f hf)
    · split
      · rename_i heq
        exact List.pairwise_cons.2 ⟨fun f hf => heq ▸ he f hf, hes⟩
      · rename_i hlt hne
        refine List.pairwise_cons.2 ⟨fun f hf => ?_, ih hes⟩
        rcases mem_insert hf with rfl | hf
        · exact Std.lt_of_le_of_ne (String.not_lt.1 hlt) (Ne.symm hne)
        · exact he f hf

theorem Ordered.erase {es : Entries α} (h : es.Ordered) (name : String) :
    (es.erase name).Ordered :=
  h.filter _

@[simp]
theorem get?_nil (name : String) : get? name ([] : Entries α) = none :=
  rfl

theorem get?_cons (name : String) (e : String × α) (es : Entries α) :
    get? name (e :: es) = if e.1 = name then some e.2 else get? name es := by
  by_cases h : e.1 = name <;> simp [get?, h]

theorem get?_insert (name other : String) (a : α) (es : Entries α) :
    get? other (insert name a es) = if name = other then some a else get? other es := by
  induction es with
  | nil => simp [insert, get?_cons]
  | cons e es ih =>
    rw [insert]
    split
    · simp [get?_cons]
    · split
      · rename_i h
        simp only [get?_cons, h]
        split <;> simp_all
      · rename_i hne
        simp only [get?_cons, ih]
        split
        · rename_i h
          rw [if_neg (h ▸ hne)]
        · rfl

theorem get?_erase (name other : String) (es : Entries α) :
    get? other (erase name es) = if name = other then none else get? other es := by
  induction es with
  | nil => simp [erase]
  | cons e es ih =>
    simp only [erase, List.filter_cons] at ih ⊢
    by_cases h : e.1 = name <;> by_cases h' : name = other <;> simp_all [get?_cons]

theorem Ordered.mem_iff {name : String} {a : α} {es : Entries α} (h : es.Ordered) :
    (name, a) ∈ es ↔ get? name es = some a := by
  induction es with
  | nil => simp
  | cons e es ih =>
    have ⟨he, hes⟩ := List.pairwise_cons.1 h
    rw [List.mem_cons, get?_cons, ih hes]
    split
    case isTrue hname =>
      have hnone : get? name es ≠ some a := fun hget => by
        have hlt := he _ ((ih hes).2 hget)
        exact String.lt_irrefl _ (hname ▸ hlt)
      simp [hnone, Prod.ext_iff, hname, eq_comm]
    case isFalse hname =>
      simp [Prod.ext_iff, Ne.symm hname]

theorem get?_append (name : String) (es fs : Entries α) :
    get? name (es ++ fs) = (get? name es).or (get? name fs) := by
  simp [get?, List.find?_append, Option.map_or]

-- A name that has one value at most.
theorem get?_of_forall_mem_iff {name : String} {o : Option α} {es : Entries α}
    (h : ∀ a, (name, a) ∈ es ↔ o = some a) : get? name es = o := by
  rw [get?]
  cases hf : es.find? (·.1 = name) with
  | none =>
    cases o with
    | none => rfl
    | some a => simpa using List.find?_eq_none.1 hf _ ((h a).2 rfl)
  | some e =>
    have hname : e.1 = name := by simpa using List.find?_some hf
    have hmem : (name, e.2) ∈ es := hname ▸ List.mem_of_find?_eq_some hf
    exact ((h e.2).1 hmem).symm

theorem insert_of_forall_lt {name : String} {a : α} {es : Entries α} (h : ∀ e ∈ es, e.1 < name) :
    insert name a es = es ++ [(name, a)] := by
  induction es with
  | nil => rfl
  | cons e es ih =>
    have ⟨he, hes⟩ := List.forall_mem_cons.1 h
    have hlt : ¬name < e.1 := fun hlt => String.lt_irrefl _ (String.lt_trans he hlt)
    have hne : name ≠ e.1 := fun heq => String.lt_irrefl _ (heq ▸ he)
    rw [insert, if_neg hlt, if_neg hne, ih hes, List.cons_append]

-- Entries in order are inserted one behind the other.
theorem foldl_insert_of_ordered {es fs : Entries α} (h : Ordered (es ++ fs)) :
    fs.foldl (fun es e => insert e.1 e.2 es) es = es ++ fs := by
  induction fs generalizing es with
  | nil => simp
  | cons f fs ih =>
    have hlt : ∀ e ∈ es, e.1 < f.1 := fun e he =>
      (List.pairwise_append.1 h).2.2 e he f List.mem_cons_self
    have h : Ordered (es ++ [f] ++ fs) := by simpa using h
    rw [List.foldl_cons, insert_of_forall_lt hlt, ih h, List.append_assoc, List.singleton_append]

end Entries

-- A finite map from names, in name order.
structure Table (α : Type u) where
  entries : Entries α
  ordered : entries.Ordered

namespace Table

variable {α : Type u}

@[ext]
theorem ext {s t : Table α} (h : s.entries = t.entries) : s = t := by
  cases s
  cases t
  cases h
  rfl

def empty : Table α :=
  ⟨[], .nil⟩

instance : Inhabited (Table α) :=
  ⟨empty⟩

def insert (t : Table α) (name : String) (a : α) : Table α :=
  ⟨t.entries.insert name a, t.ordered.insert name a⟩

def erase (t : Table α) (name : String) : Table α :=
  ⟨t.entries.erase name, t.ordered.erase name⟩

def restrict (t : Table α) (keep : String → Bool) : Table α :=
  ⟨t.entries.filter (keep ·.1), t.ordered.filter _⟩

def get? (t : Table α) (name : String) : Option α :=
  t.entries.get? name

def contains (t : Table α) (name : String) : Bool :=
  (t.get? name).isSome

def size (t : Table α) : Nat :=
  t.entries.length

def isEmpty (t : Table α) : Bool :=
  t.entries.isEmpty

-- Of two values for one name the later one stays.
def ofList (es : List (String × α)) : Table α :=
  es.foldl (fun t e => t.insert e.1 e.2) empty

theorem entries_foldl_insert (t : Table α) (es : List (String × α)) :
    (es.foldl (fun t e => t.insert e.1 e.2) t).entries =
      es.foldl (fun es e => Entries.insert e.1 e.2 es) t.entries := by
  induction es generalizing t with
  | nil => rfl
  | cons e es ih => exact ih _

theorem ofList_entries (t : Table α) : ofList t.entries = t := by
  ext1
  rw [ofList, entries_foldl_insert]
  exact Entries.foldl_insert_of_ordered t.ordered

theorem get?_foldl_insert (name : String) (t : Table α) (es : List (String × α)) :
    (es.foldl (fun t e => t.insert e.1 e.2) t).get? name =
      (Entries.get? name es.reverse).or (t.get? name) := by
  induction es generalizing t with
  | nil => rfl
  | cons e es ih =>
    have hinsert : (t.insert e.1 e.2).get? name = if e.1 = name then some e.2 else t.get? name :=
      Entries.get?_insert ..
    rw [List.foldl_cons, ih, hinsert, List.reverse_cons, Entries.get?_append, Entries.get?_cons,
      Entries.get?_nil, Option.or_assoc]
    split <;> rfl

theorem get?_ofList (name : String) (es : List (String × α)) :
    (ofList es).get? name = Entries.get? name es.reverse := by
  rw [ofList, get?_foldl_insert]
  exact Option.or_none

variable (t : Table α)

theorem mem_entries_iff {name : String} {a : α} :
    (name, a) ∈ t.entries ↔ t.get? name = some a :=
  t.ordered.mem_iff

@[simp]
theorem get?_empty (name : String) : (empty : Table α).get? name = none :=
  rfl

@[simp]
theorem get?_insert (name other : String) (a : α) :
    (t.insert name a).get? other = if name = other then some a else t.get? other :=
  Entries.get?_insert ..

@[simp]
theorem get?_erase (name other : String) :
    (t.erase name).get? other = if name = other then none else t.get? other :=
  Entries.get?_erase ..

end Table
end QueryConsole
