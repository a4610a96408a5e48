import QueryConsole.Proofs.Files
import QueryConsole.Store.StateDb

namespace QueryConsole

namespace Database

variable {db db' : Database}

-- The texts that a database shows.
def Shows (db : Database) (key text : String) : Prop :=
  db.get key = .ok (some text)

-- A version that one migration, or none, brings to the supported one.
def Supported (db : Database) : Prop :=
  db.version = 0 ∨ db.version = supported

instance : Decidable db.Supported :=
  inferInstanceAs (Decidable (_ ∨ _))

theorem version_listed (db : Database) :
    ({ db with versions := some (db.versions.getD []) } : Database).version = db.version :=
  rfl

-- The migration makes a table for texts where there is none, and changes no other.
theorem shows_addEntries (db : Database) (key text : String) :
    db.addEntries.Shows key text ↔ db.Shows key text := by
  cases he : db.entries with
  | none =>
    have hblank : db.addEntries.entries = some ⟨.empty, true⟩ := by rw [addEntries, he]; rfl
    simp [Shows, get, he, hblank]
  | some entries =>
    have hsame : db.addEntries.entries = some entries := by rw [addEntries, he]; rfl
    simp [Shows, get, he, hsame]

theorem exists_migrate (h : db.Supported) :
    ∃ db', db.migrate = .ok db' ∧ ∀ key text, db'.Shows key text ↔ db.Shows key text := by
  unfold migrate
  dsimp only
  rw [version_listed]
  cases h with
  | inl hzero =>
    have hnew : ¬supported < db.version := by rw [hzero]; decide
    have hold : ¬db.version = supported := by rw [hzero]; decide
    rw [if_neg hnew, if_neg hold, if_pos hzero]
    exact ⟨_, rfl, fun key text => db.shows_addEntries key text⟩
  | inr hone =>
    rw [if_neg (by rw [hone]; exact Int.lt_irrefl _), if_pos hone]
    exact ⟨_, rfl, fun _ _ => Iff.rfl⟩

theorem exists_migrate_error (h : ¬db.Supported) : ∃ e, db.migrate = .error e := by
  have ⟨hzero, hone⟩ := not_or.1 h
  unfold migrate
  dsimp only
  rw [version_listed, if_neg hone, if_neg hzero]
  split
  case isTrue => exact ⟨_, rfl⟩
  case isFalse => exact ⟨_, rfl⟩

theorem getLast?_insertVersion (v : Int) (vs : List Int) :
    (insertVersion v vs).getLast? = some v ∨ (insertVersion v vs).getLast? = vs.getLast? := by
  induction vs with
  | nil => exact .inl rfl
  | cons w ws ih =>
    rw [insertVersion]
    split
    case isTrue => exact .inr (List.getLast?_cons_cons ..)
    case isFalse =>
      split
      case isTrue => exact .inr rfl
      case isFalse =>
        rw [List.getLast?_cons, List.getLast?_cons]
        rcases ih with hnew | hold
        · exact .inl (by rw [hnew]; rfl)
        · exact .inr (by rw [hold])

theorem version_record (db : Database) (v : Int) :
    (db.record v).version = v ∨ (db.record v).version = db.version := by
  rw [version, version, record, Option.getD_some]
  rcases getLast?_insertVersion v (db.versions.getD []) with hnew | hold
  · exact .inl (by rw [hnew]; rfl)
  · exact .inr (by rw [hold])

-- What is migrated can be migrated again.
theorem supported_migrate (h : db.migrate = .ok db') : db'.Supported := by
  unfold migrate at h
  dsimp only at h
  rw [version_listed] at h
  split at h
  case isTrue => exact nomatch h
  case isFalse =>
    split at h
    case isTrue hone =>
      cases h
      exact .inr hone
    case isFalse =>
      split at h
      case isTrue hzero =>
        cases h
        exact (version_record _ supported).symm.imp_left (·.trans hzero)
      case isFalse => exact nomatch h

end Database

namespace StateDb

open Database (supported)

variable {fs fs' : Files} {path place backup : String} {db : Database}

-- The path leads to a database in a file of its own, by its text as well as by the directories on
-- the way, and there is room for a journal beside it.
structure Holds (fs : Files) (path place : String) (db : Database) : Prop where
  around : makeParent fs path = (fs, .ok ())
  target : Url.target path = .ok ⟨path, .makes⟩
  file : (⟨path, .makes⟩ : Url.Target).file? = some path
  resolve : Path.resolve fs.base path = place
  locate : fs.locate path = .ok (.entry place false)
  found : fs.locate place = .ok (.entry place false)
  node : fs.nodes.get? place = some (.database db)
  leaf : fs.isOccupied place = false
  short : (place ++ journalSuffix).utf8ByteSize ≤ maxFile
  journal : ∃ spot, fs.locate (place ++ journalSuffix) = .ok spot

-- What is made where there was nothing.
def fresh : Database :=
  ⟨some [supported], some ⟨.empty, true⟩⟩

def opened (path : String) (db : Database) : StateDb :=
  ⟨path, some path, false, db, false⟩

-- Opening gives all that was there.
def Opens (fs : Files) (path place : String) (db : Database) : Prop :=
  ∃ fs' store, openAt fs path = (fs', .ok store) ∧
    (∀ key text, store.get key = .ok (some text) ↔ db.get key = .ok (some text)) ∧
    fs'.nodes.get? place = some (.database store.db)

-- Opening fails, and all is still there.
def Refuses (fs : Files) (path place : String) (db : Database) : Prop :=
  ∃ fs' e, openAt fs path = (fs', .error e) ∧ fs'.nodes.get? place = some (.database db)

-- Opening gives nothing, in place of what was there.
def Displaces (fs : Files) (path place : String) (db : Database) : Prop :=
  ∃ fs' store backup, openAt fs path = (fs', .ok store) ∧ (∀ key, store.get key = .ok none) ∧
    backup ≠ place ∧ fs'.nodes.get? backup = some (.database db) ∧
    fs'.nodes.get? place = some (.database store.db)

-- The backup lies somewhere else, and nothing keeps the file from being moved there.
def Movable (fs : Files) (path place : String) : Prop :=
  ∃ backup, backup ≠ place ∧ fs.moved path (backupPath path) = .ok (place, backup)

namespace Holds

theorem connect_eq (h : Holds fs path place db) :
    connect fs ⟨path, .makes⟩ = (fs, .ok db) := by
  rw [connect, h.file]
  dsimp only
  rw [h.resolve, connectFile, if_neg (Nat.not_lt.2 h.short), h.found]
  dsimp only
  rw [h.node]
  rfl

theorem tryOpen_of_supported (h : Holds fs path place db) {db' : Database}
    (hm : db.migrate = .ok db') :
    tryOpen fs path = (fs.put path (.database db'), .ok (opened path db')) := by
  unfold tryOpen
  rw [h.target]
  dsimp only
  rw [h.connect_eq]
  dsimp only [Except.bind]
  rw [hm, h.file]
  rfl

theorem tryOpen_of_error (h : Holds fs path place db) {e : ConsoleError}
    (hm : db.migrate = .error e) : tryOpen fs path = (fs, .error e) := by
  unfold tryOpen
  rw [h.target]
  dsimp only
  rw [h.connect_eq]
  dsimp only [Except.bind]
  rw [hm]

theorem has_path (h : Holds fs path place db) : fs.has path = true := by
  simp [Files.has, Files.find, h.locate, h.node, bind, Except.bind, Except.toBool]

-- Once the file is gone, an empty database is made in its place.
theorem tryOpen_of_kept (h : Holds fs path place db) (hk : Files.Kept fs fs')
    (hgone : fs'.nodes.get? place = none) :
    tryOpen fs' path = (fs'.put path (.database fresh), .ok (opened path fresh)) := by
  have ⟨spot, hspot⟩ := h.journal
  have hconnect : connect fs' ⟨path, .makes⟩ = (fs', .ok .blank) := by
    rw [connect, h.file]
    dsimp only
    rw [hk.base, h.resolve, connectFile, if_neg (Nat.not_lt.2 h.short), hk.locate h.found]
    dsimp only
    rw [hgone, if_pos rfl, connectBlank, if_neg nofun, hk.locate hspot]
  unfold tryOpen
  rw [h.target]
  dsimp only
  rw [hconnect, h.file]
  rfl

theorem node_put (h : Holds fs path place db) (hb : fs'.base = fs.base) (node : Node) :
    (fs'.put path node).nodes.get? place = some node := by
  rw [Files.put, hb, h.resolve, Table.get?_insert, if_pos rfl]

theorem node_put_of_ne (h : Holds fs path place db) (hb : fs'.base = fs.base) (node : Node)
    (hne : backup ≠ place) : (fs'.put path node).nodes.get? backup = fs'.nodes.get? backup := by
  rw [Files.put, hb, h.resolve, Table.get?_insert, if_neg (Ne.symm hne)]

theorem openAt_of_ok (h : Holds fs path place db) (ho : tryOpen fs path = (fs', .ok store)) :
    openAt fs path = (fs', .ok store) := by
  simp [openAt, h.around, ho]

theorem openAt_of_error (h : Holds fs path place db) (ho : tryOpen fs path = (fs', .error e)) :
    openAt fs path = recover fs' path := by
  simp [openAt, h.around, ho]

theorem opens (h : Holds fs path place db) (hs : db.Supported) : Opens fs path place db := by
  have ⟨db', hm, hshows⟩ := Database.exists_migrate hs
  exact ⟨_, opened path db', h.openAt_of_ok (h.tryOpen_of_supported hm), hshows, h.node_put rfl _⟩

theorem openAt_of_not_supported (h : Holds fs path place db) (hs : ¬db.Supported) :
    openAt fs path = recover fs path := by
  have ⟨e, he⟩ := Database.exists_migrate_error hs
  exact h.openAt_of_error (h.tryOpen_of_error he)

theorem displaces (h : Holds fs path place db) (hs : ¬db.Supported) (hm : Movable fs path place) :
    Displaces fs path place db := by
  have ⟨backup, hne, hmoved⟩ := hm
  have ⟨fs', hrename, hbase, hnodes⟩ := Files.rename_of_moved hmoved h.leaf
  have hold : fs.nodes.get? place ≠ some .directory := by rw [h.node]; nofun
  have hgone : fs'.nodes.get? place = none := by rw [hnodes, if_neg (Ne.symm hne), if_pos rfl]
  have hthere : fs'.nodes.get? backup = some (.database db) := by rw [hnodes, if_pos rfl, h.node]
  have hopen := h.tryOpen_of_kept (Files.kept_of_moved hmoved hold hbase hnodes) hgone
  refine ⟨_, opened path fresh, backup, ?_, fun _ => rfl, hne, ?_, h.node_put hbase _⟩
  · rw [h.openAt_of_not_supported hs, recover, if_pos h.has_path, hrename]
    dsimp only
    rw [reopen, hopen]
    rfl
  · rw [h.node_put_of_ne hbase _ hne, hthere]

theorem refuses (h : Holds fs path place db) (hs : ¬db.Supported) (hm : ¬Movable fs path place) :
    Refuses fs path place db := by
  have ⟨e, he⟩ := Database.exists_migrate_error hs
  refine ⟨fs, ?_⟩
  rw [h.openAt_of_not_supported hs, recover, if_pos h.has_path]
  cases hmoved : fs.moved path (backupPath path) with
  | error e' =>
    rw [Files.rename_of_error hmoved]
    exact ⟨_, rfl, h.node⟩
  | ok places =>
    have ⟨old, backup⟩ := places
    have ⟨slashed, hlocate⟩ := (Files.moved_eq_ok hmoved).1
    obtain rfl : place = old := by
      rw [h.locate] at hlocate
      cases hlocate
      rfl
    obtain rfl : backup = place := by_contra fun hne => hm ⟨backup, hne, hmoved⟩
    rw [Files.rename_self hmoved h.leaf]
    dsimp only
    rw [reopen, h.tryOpen_of_error he]
    exact ⟨_, rfl, h.node⟩

end Holds

-- What is displaced is not shown, and no error tells of it.
theorem Displaces.not_kept {key text : String} (h : Displaces fs path place db)
    (hk : db.get key = .ok (some text)) :
    ¬(Opens fs path place db ∨ Refuses fs path place db) := by
  have ⟨_, store, _, hopen, hnone, _⟩ := h
  rintro (⟨_, store', hopen', hshows, _⟩ | ⟨_, e, hopen', _⟩)
  case inl =>
    obtain rfl : store = store' := by
      rw [hopen] at hopen'
      exact Except.ok.inj (Prod.ext_iff.1 hopen').2
    have hsome := (hshows key text).2 hk
    rw [hnone] at hsome
    exact nomatch hsome
  case inr =>
    rw [hopen] at hopen'
    exact nomatch (Prod.ext_iff.1 hopen').2

-- What becomes of a database that is there depends on its version and on nothing that it holds.
theorem openAt_outcome (h : Holds fs path place db) :
    (db.Supported → Opens fs path place db) ∧
    (¬db.Supported → Movable fs path place → Displaces fs path place db) ∧
    (¬db.Supported → ¬Movable fs path place → Refuses fs path place db) :=
  ⟨h.opens, h.displaces, h.refuses⟩

-- A database of a later version, with one text in it.
def later : Database :=
  ⟨some [1, 2], some ⟨.ofList [("k", "v")], true⟩⟩

def withLater : Files :=
  ⟨.ofList [("/state.db", .database later)], "/"⟩

theorem holds_later : Holds withLater "/state.db" "/state.db" later where
  around := rfl
  target := by decide +kernel
  file := rfl
  resolve := by decide +kernel
  locate := rfl
  found := rfl
  node := rfl
  leaf := by decide +kernel
  short := by decide
  journal := ⟨.entry "/state.db-journal" false, rfl⟩

theorem movable_later : Movable withLater "/state.db" "/state.db" :=
  ⟨"/state.db.bak", by decide, rfl⟩

theorem displaces_later :
    ¬later.Supported ∧ Movable withLater "/state.db" "/state.db" ∧
      Displaces withLater "/state.db" "/state.db" later :=
  ⟨by decide, movable_later, (openAt_outcome holds_later).2.1 (by decide) movable_later⟩

-- The text is lost without an error.
theorem lost_of_later :
    Holds withLater "/state.db" "/state.db" later ∧ later.get "k" = .ok (some "v") ∧
      ¬(Opens withLater "/state.db" "/state.db" later ∨
        Refuses withLater "/state.db" "/state.db" later) := by
  have hshows : later.get "k" = .ok (some "v") := rfl
  have hdisplaced := holds_later.displaces (by decide) movable_later
  exact ⟨holds_later, hshows, hdisplaced.not_kept hshows⟩

end StateDb
end QueryConsole
