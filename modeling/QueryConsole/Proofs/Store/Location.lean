import QueryConsole.Proofs.Store.Lawful
import QueryConsole.Proofs.Store.Opening

-- Where an open database lies, and the way to it.
namespace QueryConsole.StateDb

variable {fs fs₁ fs' : Files} {path name : String} {store store' : StateDb} {db : Database}
  {file : String} {access : Url.Access}

-- There is room for a database at a place, and no directory in its way.
structure Free (fs : Files) (file : String) : Prop where
  short : (file ++ journalSuffix).utf8ByteSize ≤ maxFile
  found : ∃ place slashed, fs.locate file = .ok (.entry place slashed) ∧
    fs.nodes.get? place ≠ some .directory

-- The path names a file that a database can be written to.
structure Leads (path name : String) (fs : Files) : Prop where
  target : ∃ target, Url.target path = .ok target ∧ target.file? = some name ∧
    target.access ≠ .reads
  free : Free fs (Path.resolve fs.base name)

-- The file holds all that the open database holds.
structure Lies (path name : String) (fs : Files) (store : StateDb) : Prop
    extends Leads path name fs where
  node : fs.nodes.get? (Path.resolve fs.base name) = some (.database store.db)
  file : store.file = some name
  supported : store.db.Supported

-- The directories on the way are made, and nothing else.
theorem makeParent_eq (fs : Files) (path : String) :
    (makeParent fs path).1 = ((Path.parent? path).elim fs fun parent =>
      (fs.makeDirectories parent).1) := by
  unfold makeParent
  cases Path.parent? path with
  | none => rfl
  | some parent =>
    dsimp only [Option.elim_some]
    split
    case h_1 he | h_2 he => rw [he]

theorem extends_makeParent (h : makeParent fs path = (fs', answer)) : Files.Extends fs fs' := by
  have hmade := makeParent_eq fs path
  rw [h] at hmade
  subst hmade
  cases Path.parent? path with
  | none => exact .refl fs
  | some parent => exact fs.extends_ensureWithin _

theorem snd_makeParent_of_sameShape (h : Files.SameShape fs fs') (path : String) :
    (makeParent fs' path).2 = (makeParent fs path).2 := by
  unfold makeParent
  cases Path.parent? path with
  | none => rfl
  | some parent =>
    have hmade : Files.Alike (fs.makeDirectories parent) (fs'.makeDirectories parent) :=
      h.ensureWithin (Path.upward parent)
    dsimp only
    generalize fs.makeDirectories parent = made, fs'.makeDirectories parent = made' at hmade
    obtain ⟨made, answer⟩ := made
    obtain ⟨made', answer'⟩ := made'
    obtain rfl : answer' = answer := hmade.answer
    cases answer' <;> rfl

theorem makeParent_of_kept (h : makeParent fs path = (fs₁, .ok ())) (hk : Files.Kept fs₁ fs') :
    makeParent fs' path = (fs', .ok ()) := by
  unfold makeParent at h ⊢
  cases hparent : Path.parent? path with
  | none => rfl
  | some parent =>
    rw [hparent] at h
    dsimp only at h ⊢
    split at h
    case h_1 hmade =>
      obtain rfl := (Prod.ext_iff.1 h).1
      rw [Files.makeDirectories_of_kept hmade hk]
    case h_2 => exact nomatch (Prod.ext_iff.1 h).2

theorem flush_eq_put (hf : store.file = some name) (hw : store.readOnly = false) (fs : Files) :
    store.flush fs = fs.put name (.database store.db) := by
  simp [flush, hf, hw]

namespace Leads

theorem not_directory (h : Leads path name fs) :
    fs.nodes.get? (Path.resolve fs.base name) ≠ some .directory := by
  have ⟨place, slashed, hlocate, hnode⟩ := h.free.found
  exact Files.locate_resolve hlocate ▸ hnode

theorem kept_flush (h : Leads path name fs) (hf : store.file = some name)
    (hw : store.readOnly = false) : Files.Kept fs (store.flush fs) :=
  flush_eq_put hf hw fs ▸ Files.kept_insert h.not_directory _

theorem lies_flush (h : Leads path name fs) (hf : store.file = some name)
    (hw : store.readOnly = false) (hs : store.db.Supported) :
    Lies path name (store.flush fs) store := by
  obtain ⟨place, slashed, hlocate, -⟩ := h.free.found
  have hfound := (h.kept_flush hf hw).locate hlocate
  rw [flush_eq_put hf hw] at hfound ⊢
  have hthere : (fs.put name (.database store.db)).nodes.get? (Path.resolve fs.base name) =
      some (.database store.db) := by
    rw [Files.put, Table.get?_insert, if_pos rfl]
  refine ⟨⟨h.target, h.free.short, _, _, hfound, ?_⟩, hthere, hf, hs⟩
  simp [Files.locate_resolve hlocate, hthere]

end Leads

namespace Lies

variable {texts : Table String}

theorem of_extends (h : Lies path name fs store) (he : Files.Extends fs fs') :
    Lies path name fs' store := by
  have ⟨place, slashed, hlocate, _⟩ := h.free.found
  have hlocate' := he.kept.locate hlocate
  have hnode := he.node _ _ h.node
  have hplace := Files.locate_resolve hlocate
  rw [← he.base] at hlocate' hnode hplace
  have hshort := h.free.short
  rw [← he.base] at hshort
  refine ⟨⟨h.target, hshort, place, slashed, hlocate', ?_⟩, hnode, h.file, h.supported⟩
  rw [hplace, hnode]
  simp

-- To write to the database leaves everything else where it is.
theorem sameShape_flush (h : Lies path name fs store) (hf : store'.file = some name)
    (hw : store'.readOnly = false) : Files.SameShape fs (store'.flush fs) := by
  rw [flush_eq_put hf hw]
  refine ⟨rfl, fun q => ?_⟩
  rw [Files.put, Table.get?_insert]
  split
  case isTrue hq =>
    rw [← hq, h.node]
    rfl
  case isFalse => rfl

theorem set (h : Lies path name fs store) (hs : store.Shows texts) (key text : String) :
    ∃ store', store.set key text = (store', .ok ()) ∧ store'.Shows (texts.insert key text) ∧
      Lies path name (store'.flush fs) store' ∧
      (makeParent (store'.flush fs) path).2 = (makeParent fs path).2 := by
  have hset := hs.set_eq key text
  refine ⟨_, hset, ⟨hs.opened, hs.writable, rfl⟩, ?_, ?_⟩
  · exact h.toLeads.lies_flush h.file hs.writable h.supported
  · refine snd_makeParent_of_sameShape (h.sameShape_flush ?_ ?_) path
    · exact h.file
    · exact hs.writable

theorem connect_eq (h : Lies path name fs store) {target : Url.Target}
    (hf : target.file? = some name) (ha : target.access ≠ .reads) :
    connect fs target = (fs, .ok store.db) := by
  have ⟨place, slashed, hlocate, _⟩ := h.free.found
  rw [connect, hf]
  dsimp only
  rw [connectFile, if_neg (Nat.not_lt.2 h.free.short), hlocate]
  dsimp only
  rw [Files.locate_resolve hlocate, h.node]
  dsimp only
  rw [if_neg ha]

-- The same texts are there when the database is opened again, if the way to it can be made.
theorem reopen (h : Lies path name fs store) (hs : store.Shows texts)
    (hway : makeParent fs path = (fs₁, .ok ())) :
    ∃ fs' store', openAt fs path = (fs', .ok store') ∧ store'.Shows texts ∧
      Lies path name fs' store' ∧ makeParent fs' path = (fs', .ok ()) := by
  have h := h.of_extends (extends_makeParent hway)
  have ⟨target, htarget, hfile, haccess⟩ := h.target
  have ⟨db, hmigrate, _⟩ := Database.exists_migrate h.supported
  let next : StateDb := ⟨path, some name, false, db, false⟩
  have hentries : next.db.entries = some ⟨texts, true⟩ := by
    rw [← hs.entries]
    exact Database.entries_migrate hmigrate (by rw [hs.entries]; rfl)
  have hopen : tryOpen fs₁ path = (next.flush fs₁, .ok next) := by
    unfold tryOpen
    rw [htarget]
    dsimp only
    rw [h.connect_eq hfile haccess]
    dsimp only [Except.bind]
    rw [hmigrate, hfile, decide_eq_false haccess]
  refine ⟨next.flush fs₁, next, ?_, ⟨rfl, rfl, hentries⟩,
    h.toLeads.lies_flush rfl rfl (Database.supported_migrate hmigrate),
    makeParent_of_kept hway (h.kept_flush rfl rfl)⟩
  rw [openAt, hway]
  dsimp only
  rw [hopen]

end Lies

end QueryConsole.StateDb
