import Mathlib.Data.List.Basic
import QueryConsole.Files
import QueryConsole.Proofs.Paths

namespace QueryConsole.Files

variable {fs fs' made : Files} {source target old new path : String} {node : Node}

-- All directories are still there.
structure Kept (fs fs' : Files) : Prop where
  base : fs'.base = fs.base
  directory : ∀ q, fs.nodes.get? q = some .directory → fs'.nodes.get? q = some .directory

namespace Kept

theorem trans (h : Kept fs made) (h' : Kept made fs') : Kept fs fs' :=
  ⟨h'.base.trans h.base, fun q hq => h'.directory q (h.directory q hq)⟩

theorem enter {place part q : String} (h : Kept fs fs') (hq : fs.enter place part = .ok q) :
    fs'.enter place part = .ok q := by
  unfold Files.enter at hq ⊢
  split at hq
  case isTrue hup => rw [if_pos hup, hq]
  case isFalse hup =>
    split at hq
    case isTrue => exact nomatch hq
    case isFalse hlen =>
      rw [if_neg hup, if_neg hlen]
      split at hq
      case h_1 hdir => rw [h.directory _ hdir, hq]
      case h_2 => exact nomatch hq
      case h_3 => exact nomatch hq

theorem foldlM_enter {parts : List String} {place q : String} (h : Kept fs fs')
    (hq : parts.foldlM fs.enter place = .ok q) : parts.foldlM fs'.enter place = .ok q := by
  induction parts generalizing place with
  | nil => exact hq
  | cons part parts ih =>
    rw [List.foldlM_cons] at hq ⊢
    cases he : fs.enter place part with
    | error e => exact nomatch he ▸ hq
    | ok next =>
      rw [he] at hq
      rw [h.enter he]
      exact ih hq

theorem enterAll {parts : List String} {q : String} (h : Kept fs fs')
    (hq : fs.enterAll path parts = .ok q) : fs'.enterAll path parts = .ok q := by
  rw [Files.enterAll] at hq ⊢
  rw [h.base]
  exact h.foldlM_enter hq

theorem locate {spot : Spot} (h : Kept fs fs') (hs : fs.locate path = .ok spot) :
    fs'.locate path = .ok spot := by
  unfold Files.locate at hs ⊢
  dsimp only at hs ⊢
  split at hs
  case isTrue => exact nomatch hs
  case isFalse hzero =>
    rw [if_neg hzero]
    split at hs
    case isTrue => exact nomatch hs
    case isFalse hempty =>
      rw [if_neg hempty]
      split at hs
      case isTrue => exact nomatch hs
      case isFalse hlen =>
        rw [if_neg hlen]
        split at hs
        case isTrue hdots =>
          rw [if_pos hdots]
          cases ha : fs.enterAll path (Path.parts path) with
          | error e => exact nomatch ha ▸ hs
          | ok q =>
            rw [ha] at hs
            rw [h.enterAll ha]
            exact hs
        case isFalse hdots =>
          rw [if_neg hdots]
          cases ha : fs.enterAll path (Path.parts path).dropLast with
          | error e => exact nomatch ha ▸ hs
          | ok q =>
            rw [ha] at hs
            rw [h.enterAll ha]
            exact hs

theorem find (h : Kept fs fs') (hf : fs.find path = .ok .directory) :
    fs'.find path = .ok .directory := by
  unfold Files.find at hf ⊢
  cases hl : fs.locate path with
  | error e => exact nomatch hl ▸ hf
  | ok spot =>
    rw [hl] at hf
    rw [h.locate hl]
    cases spot with
    | directory => rfl
    | entry place slashed =>
      simp only [bind, Except.bind] at hf ⊢
      split at hf
      case h_1 => exact nomatch hf
      case h_2 node hnode =>
        split at hf
        case isTrue => exact nomatch hf
        case isFalse =>
          cases hf
          rw [h.directory place hnode]
          simp [Node.isDirectory]

theorem isDirectory (h : Kept fs fs') (hd : fs.isDirectory path = true) :
    fs'.isDirectory path = true := by
  have hf : fs.find path = .ok .directory := by
    unfold Files.isDirectory at hd
    cases hf : fs.find path with
    | error e => simp [hf, Except.toOption] at hd
    | ok node => cases node <;> simp_all [Except.toOption, Node.isDirectory]
  rw [Files.isDirectory, h.find hf]
  rfl

end Kept

section

open QueryConsole.Path (Plain through)

variable {names parts : List String} {place : String} {slashed : Bool}

theorem foldlM_enter_through (h : ∀ name ∈ names, Plain name) (hp : ∀ part ∈ parts, Plain part)
    (hq : parts.foldlM fs.enter (through names) = .ok place) :
    place = through (names ++ parts) := by
  induction parts generalizing names with
  | nil =>
    cases hq
    rw [List.append_nil]
  | cons part parts ih =>
    have ⟨hpart, hparts⟩ := List.forall_mem_cons.1 hp
    rw [List.foldlM_cons] at hq
    have henter : ∀ q, fs.enter (through names) part = .ok q → q = through (names ++ [part]) := by
      intro q he
      rw [← Path.join_through h]
      unfold enter at he
      rw [if_neg hpart.ne_dots] at he
      split at he
      case isTrue => exact nomatch he
      case isFalse =>
        split at he
        case h_1 => exact (Except.ok.inj he).symm
        case h_2 | h_3 => exact nomatch he
    cases he : fs.enter (through names) part with
    | error e => exact nomatch he ▸ hq
    | ok q =>
      rw [he, henter q he] at hq
      have hnames : ∀ name ∈ names ++ [part], Plain name :=
        List.forall_mem_append.2 ⟨h, List.forall_mem_singleton.2 hpart⟩
      simpa using ih hnames hparts hq

-- A place is a name in the directory that the other parts of the path lead to.
theorem locate_eq_entry (hl : fs.locate path = .ok (.entry place slashed)) :
    Path.lastName path ≠ "" ∧ ∃ around,
      fs.enterAll path (Path.parts path).dropLast = .ok around ∧
        place = Path.join around (Path.lastName path) := by
  unfold locate at hl
  dsimp only at hl
  split at hl
  case isTrue => exact nomatch hl
  case isFalse =>
    split at hl
    case isTrue => exact nomatch hl
    case isFalse =>
      split at hl
      case isTrue => exact nomatch hl
      case isFalse =>
        split at hl
        case isTrue =>
          cases ha : fs.enterAll path (Path.parts path) with
          | error e => exact nomatch ha ▸ hl
          | ok q => exact nomatch ha ▸ hl
        case isFalse hname =>
          refine ⟨fun hempty => hname ?_, ?_⟩
          · change ((Path.lastName path).isEmpty || _ || _) = true
            rw [hempty]
            rfl
          · cases ha : fs.enterAll path (Path.parts path).dropLast with
            | error e => exact nomatch ha ▸ hl
            | ok around =>
              rw [ha] at hl
              simp only [bind, Except.bind] at hl
              split at hl
              case isTrue => exact nomatch hl
              case isFalse =>
                cases hl
                exact ⟨around, rfl, rfl⟩

theorem locate_through (h : ∀ name ∈ names, Plain name)
    (hl : fs.locate (through names) = .ok (.entry place slashed)) : place = through names := by
  have ⟨hname, around, ha, hplace⟩ := locate_eq_entry hl
  by_cases hne : names = []
  case pos =>
    subst hne
    exact absurd (by decide) hname
  case neg =>
    obtain ⟨init, last, rfl⟩ := Path.exists_concat_of_ne_nil hne
    have ⟨hinit, hlast⟩ := List.forall_mem_append.1 h
    have hplain := hlast last (List.mem_singleton_self last)
    have habsolute : Path.isAbsolute (through (init ++ [last])) = true := by
      simp [Path.isAbsolute, through]
    rw [enterAll, if_pos habsolute, Path.parts_through h, List.dropLast_concat] at ha
    have haround : around = through ([] ++ init) :=
      foldlM_enter_through (List.forall_mem_nil _) hinit ha
    rw [hplace, haround, List.nil_append, Path.join_through hinit,
      Path.lastName_through_concat hplain]

-- What lies at a place has the name of its place.
theorem locate_resolve (hl : fs.locate (Path.resolve fs.base path) = .ok (.entry place slashed)) :
    place = Path.resolve fs.base path := by
  have ⟨names, hnames, hresolve⟩ := Path.exists_resolve_eq fs.base path
  rw [hresolve] at hl ⊢
  exact locate_through hnames hl

end

theorem kept_insert {place : String} (h : fs.nodes.get? place ≠ some .directory) (node : Node) :
    Kept fs { fs with nodes := fs.nodes.insert place node } where
  base := rfl
  directory q hq := by
    have hne : place ≠ q := fun heq => h (heq ▸ hq)
    rw [Table.get?_insert, if_neg hne, hq]

theorem isDirectory_of_makeDirectory (h : fs.makeDirectory path = (fs', .ok ())) :
    fs'.isDirectory path = true := by
  unfold makeDirectory at h
  cases hl : fs.locate path with
  | error e => exact nomatch hl ▸ h
  | ok spot =>
    rw [hl] at h
    cases spot with
    | directory => exact nomatch h
    | entry place slashed =>
      dsimp only at h
      split at h
      case isTrue => exact nomatch h
      case isFalse hnone =>
        cases h
        have hfree : fs.nodes.get? place ≠ some .directory := by
          intro hd
          simp [hd] at hnone
        rw [isDirectory, Files.find, (kept_insert hfree .directory).locate hl]
        simp [bind, Except.bind, Except.toOption, Node.isDirectory]

theorem isDirectory_of_ensureDirectory (h : fs.ensureDirectory path = (fs', .ok ())) :
    fs'.isDirectory path = true := by
  unfold ensureDirectory at h
  split at h
  case h_1 =>
    split at h
    case isTrue hd =>
      cases h
      exact hd
    case isFalse => cases h
  case h_2 => exact isDirectory_of_makeDirectory h

theorem ensureDirectory_of_isDirectory (h : fs.isDirectory path = true) :
    fs.ensureDirectory path = (fs, .ok ()) := by
  have hmade : fs.makeDirectory path = (fs, .error .alreadyExists) := by
    unfold Files.isDirectory Files.find at h
    unfold makeDirectory
    cases hl : fs.locate path with
    | error e => simp [hl, bind, Except.bind, Except.toOption] at h
    | ok spot =>
      cases spot with
      | directory => rfl
      | entry place slashed =>
        have hthere : (fs.nodes.get? place).isSome = true := by
          cases hn : fs.nodes.get? place with
          | none => simp [hl, hn, bind, Except.bind, Except.toOption] at h
          | some node => rfl
        dsimp only
        rw [if_pos hthere]
  unfold ensureDirectory
  rw [hmade]
  dsimp only
  rw [if_pos h]

theorem isDirectory_of_ensureWithin {around : List String}
    (h : fs.ensureWithin (path :: around) = (fs', .ok ())) : fs'.isDirectory path = true := by
  unfold ensureWithin at h
  split at h
  case h_1 =>
    split at h
    case h_1 => exact nomatch h
    case h_2 => exact isDirectory_of_ensureDirectory h
  case h_2 => exact isDirectory_of_ensureDirectory h

-- Directories that were made need not be made again.
theorem makeDirectories_of_kept (h : fs.makeDirectories path = (made, .ok ()))
    (hk : Kept made fs') : fs'.makeDirectories path = (fs', .ok ()) := by
  unfold makeDirectories at h ⊢
  cases hu : Path.upward path with
  | nil => rfl
  | cons first around =>
    rw [hu] at h
    have hd := hk.isDirectory (isDirectory_of_ensureWithin h)
    rw [ensureWithin, ensureDirectory_of_isDirectory hd]

-- The same places are taken, and by directories in the same cases.
structure SameShape (fs fs' : Files) : Prop where
  base : fs'.base = fs.base
  taken : ∀ q, (fs'.nodes.get? q).map Node.isDirectory = (fs.nodes.get? q).map Node.isDirectory

-- In files of the same shape the same came of something.
structure Alike (made made' : Files × Except FileError Unit) : Prop where
  shape : SameShape made.1 made'.1
  answer : made'.2 = made.2

namespace SameShape

theorem enter_eq (h : SameShape fs fs') (place part : String) :
    fs'.enter place part = fs.enter place part := by
  have htaken := h.taken (Path.join place part)
  unfold enter
  cases hn : fs.nodes.get? (Path.join place part) with
  | none =>
    rw [hn, Option.map_none, Option.map_eq_none_iff] at htaken
    rw [htaken]
  | some node =>
    rw [hn, Option.map_some] at htaken
    obtain ⟨node', hn', hsame⟩ := Option.map_eq_some_iff.1 htaken
    rw [hn']
    cases node <;> cases node' <;> first | rfl | exact nomatch hsame

theorem locate_eq (h : SameShape fs fs') (path : String) : fs'.locate path = fs.locate path := by
  have henter : fs'.enter = fs.enter := funext fun place => funext (h.enter_eq place)
  have henterAll : fs'.enterAll path = fs.enterAll path := by
    funext parts
    rw [enterAll, enterAll, henter, h.base]
  rw [locate, locate, henterAll]

theorem isDirectory_eq (h : SameShape fs fs') (path : String) :
    fs'.isDirectory path = fs.isDirectory path := by
  rw [isDirectory, isDirectory, find, find, h.locate_eq]
  cases fs.locate path with
  | error e => rfl
  | ok spot =>
    cases spot with
    | directory => rfl
    | entry place slashed =>
      have htaken := h.taken place
      simp only [bind, Except.bind]
      cases hn : fs.nodes.get? place with
      | none =>
        rw [hn, Option.map_none, Option.map_eq_none_iff] at htaken
        rw [htaken]
      | some node =>
        rw [hn, Option.map_some] at htaken
        obtain ⟨node', hn', hsame⟩ := Option.map_eq_some_iff.1 htaken
        rw [hn']
        dsimp only
        rw [hsame]
        cases slashed <;> cases hd : node.isDirectory <;> simp [Except.toOption, hsame, hd]

theorem insert (h : SameShape fs fs') (place : String) (node : Node) :
    SameShape { fs with nodes := fs.nodes.insert place node }
      { fs' with nodes := fs'.nodes.insert place node } where
  base := h.base
  taken q := by
    rw [Table.get?_insert, Table.get?_insert]
    split
    case isTrue => rfl
    case isFalse => exact h.taken q

theorem makeDirectory (h : SameShape fs fs') (path : String) :
    Alike (fs.makeDirectory path) (fs'.makeDirectory path) := by
  rw [Files.makeDirectory, Files.makeDirectory, h.locate_eq]
  cases fs.locate path with
  | error e => exact ⟨h, rfl⟩
  | ok spot =>
    cases spot with
    | directory => exact ⟨h, rfl⟩
    | entry place slashed =>
      have hsome : (fs'.nodes.get? place).isSome = (fs.nodes.get? place).isSome := by
        simpa using congrArg Option.isSome (h.taken place)
      dsimp only
      rw [hsome]
      split
      case isTrue => exact ⟨h, rfl⟩
      case isFalse => exact ⟨h.insert place .directory, rfl⟩

theorem ensureDirectory (h : SameShape fs fs') (path : String) :
    Alike (fs.ensureDirectory path) (fs'.ensureDirectory path) := by
  have hmade := h.makeDirectory path
  unfold Files.ensureDirectory
  generalize fs.makeDirectory path = made, fs'.makeDirectory path = made' at hmade
  obtain ⟨made, answer⟩ := made
  obtain ⟨made', answer'⟩ := made'
  obtain ⟨hshape, hanswer⟩ := hmade
  obtain rfl : answer' = answer := hanswer
  cases answer' with
  | ok => exact ⟨hshape, rfl⟩
  | error e =>
    cases e with
    | alreadyExists => exact ⟨hshape, by dsimp only; rw [hshape.isDirectory_eq]⟩
    | _ => exact ⟨hshape, rfl⟩

theorem ensureWithin (h : SameShape fs fs') (paths : List String) :
    Alike (fs.ensureWithin paths) (fs'.ensureWithin paths) := by
  induction paths generalizing fs fs' with
  | nil => exact ⟨h, rfl⟩
  | cons path around ih =>
    have hfirst := h.ensureDirectory path
    unfold Files.ensureWithin
    generalize fs.ensureDirectory path = made, fs'.ensureDirectory path = made' at hfirst
    obtain ⟨made, answer⟩ := made
    obtain ⟨made', answer'⟩ := made'
    obtain ⟨hshape, hanswer⟩ := hfirst
    obtain rfl : answer' = answer := hanswer
    cases answer' with
    | ok => exact ⟨hshape, rfl⟩
    | error e =>
      cases e with
      | notFound =>
        have haround := ih hshape
        dsimp only at haround ⊢
        generalize made.ensureWithin around = next, made'.ensureWithin around = next' at haround
        obtain ⟨next, answer⟩ := next
        obtain ⟨next', answer'⟩ := next'
        obtain ⟨hshape', hanswer⟩ := haround
        obtain rfl : answer' = answer := hanswer
        cases answer' with
        | ok => exact hshape'.ensureDirectory path
        | error e => exact ⟨hshape', rfl⟩
      | _ => exact ⟨hshape, rfl⟩

end SameShape

-- What there was is still there.
structure Extends (fs fs' : Files) : Prop where
  base : fs'.base = fs.base
  node : ∀ q node, fs.nodes.get? q = some node → fs'.nodes.get? q = some node

namespace Extends

theorem refl (fs : Files) : Extends fs fs :=
  ⟨rfl, fun _ _ hq => hq⟩

theorem trans (h : Extends fs made) (h' : Extends made fs') : Extends fs fs' :=
  ⟨h'.base.trans h.base, fun q node hq => h'.node q node (h.node q node hq)⟩

theorem kept (h : Extends fs fs') : Kept fs fs' :=
  ⟨h.base, fun q hq => h.node q .directory hq⟩

end Extends

theorem extends_makeDirectory (fs : Files) (path : String) :
    Extends fs (fs.makeDirectory path).1 := by
  unfold makeDirectory
  split
  case h_1 | h_2 => exact .refl fs
  case h_3 place _ _ =>
    split
    case isTrue => exact .refl fs
    case isFalse hfree =>
      refine ⟨rfl, fun q node hq => ?_⟩
      have hne : place ≠ q := by
        rintro rfl
        exact hfree (by rw [hq]; rfl)
      exact (Table.get?_insert ..).trans ((if_neg hne).trans hq)

theorem extends_ensureDirectory (fs : Files) (path : String) :
    Extends fs (fs.ensureDirectory path).1 := by
  have hmade := fs.extends_makeDirectory path
  unfold ensureDirectory
  split
  case h_1 he =>
    rw [he] at hmade
    exact hmade
  case h_2 => exact hmade

theorem extends_ensureWithin (fs : Files) (paths : List String) :
    Extends fs (fs.ensureWithin paths).1 := by
  induction paths generalizing fs with
  | nil => exact .refl fs
  | cons path around ih =>
    have hfirst := fs.extends_ensureDirectory path
    unfold ensureWithin
    split
    case h_1 made he =>
      rw [he] at hfirst
      have haround := ih made
      split
      case h_1 he' | h_2 he' =>
        rw [he'] at haround
        first
        | exact hfirst.trans haround
        | exact (hfirst.trans haround).trans (extends_ensureDirectory _ path)
    case h_2 => exact hfirst

-- Nothing lies under a file, so only its own node is moved, and what was at its new place is gone.
theorem mem_renamed (hleaf : fs.isOccupied old = false) (q : String) :
    (q, node) ∈ (fs.nodes.entries.filterMap fun (place, node) =>
      if place = old then some (new, node)
      else if place.startsWith (old ++ "/") then
        some (new ++ String.ofList (place.toList.drop old.length), node)
      else if place = new then none
      else some (place, node)) ↔
    (if q = new then fs.nodes.get? old else if q = old then none else fs.nodes.get? q) =
      some node := by
  have hnone : ∀ e ∈ fs.nodes.entries, e.1.startsWith (old ++ "/") = false := by
    simpa [isOccupied] using hleaf
  rw [List.mem_filterMap]
  constructor
  · rintro ⟨⟨place, n⟩, hmem, hf⟩
    have hget := fs.nodes.mem_entries_iff.1 hmem
    simp only [hnone _ hmem, Bool.false_eq_true, if_false] at hf
    split at hf
    case isTrue hold =>
      cases hf
      rw [if_pos rfl, ← hold, hget]
    case isFalse hold =>
      split at hf
      case isTrue => exact nomatch hf
      case isFalse hnew =>
        cases hf
        rw [if_neg hnew, if_neg hold, hget]
  · intro hget
    split at hget
    case isTrue hq =>
      exact ⟨(old, node), fs.nodes.mem_entries_iff.2 hget, by simp [hq]⟩
    case isFalse hnew =>
      split at hget
      case isTrue => exact nomatch hget
      case isFalse hold =>
        have hmem := fs.nodes.mem_entries_iff.2 hget
        exact ⟨(q, node), hmem, by simp [hnew, hold, hnone _ hmem]⟩

theorem rename_of_moved (h : fs.moved source target = .ok (old, new))
    (hleaf : fs.isOccupied old = false) :
    ∃ fs', fs.rename source target = (fs', .ok ()) ∧ fs'.base = fs.base ∧
      ∀ q, fs'.nodes.get? q =
        if q = new then fs.nodes.get? old else if q = old then none else fs.nodes.get? q := by
  unfold rename
  rw [h]
  refine ⟨_, rfl, rfl, fun q => ?_⟩
  rw [Table.get?_ofList]
  refine Entries.get?_of_forall_mem_iff fun node => ?_
  rw [List.mem_reverse]
  exact mem_renamed hleaf q

theorem rename_self (h : fs.moved source target = .ok (old, old))
    (hleaf : fs.isOccupied old = false) : fs.rename source target = (fs, .ok ()) := by
  have hnone : ∀ e ∈ fs.nodes.entries, e.1.startsWith (old ++ "/") = false := by
    simpa [isOccupied] using hleaf
  have hsame : (fs.nodes.entries.filterMap fun (place, node) =>
      if place = old then some (old, node)
      else if place.startsWith (old ++ "/") then
        some (old ++ String.ofList (place.toList.drop old.length), node)
      else if place = old then none
      else some (place, node)) = fs.nodes.entries := by
    refine (List.filterMap_congr fun e he => ?_).trans List.filterMap_some
    by_cases hold : e.1 = old
    case pos => simp [← hold]
    case neg => simp [hold, hnone e he]
  unfold rename
  rw [h]
  dsimp only
  rw [hsame, Table.ofList_entries]

theorem rename_of_error {e : FileError} (h : fs.moved source target = .error e) :
    fs.rename source target = (fs, .error e) := by
  unfold rename
  rw [h]

-- What is moved lies where its path leads, and a file takes the place of a file, or of nothing.
theorem moved_eq_ok (h : fs.moved source target = .ok (old, new)) :
    (∃ slashed, fs.locate source = .ok (.entry old slashed)) ∧
      (fs.nodes.get? old = some .directory ∨ fs.nodes.get? new ≠ some .directory) := by
  unfold moved at h
  cases hs : fs.locate source with
  | error e => exact nomatch hs ▸ h
  | ok spot =>
    cases ht : fs.locate target with
    | error e => simp only [hs, ht, bind, Except.bind] at h; exact nomatch h
    | ok spot' =>
      simp only [hs, ht, bind, Except.bind] at h
      split at h
      case h_2 => exact nomatch h
      case h_1 old' slashed new' slashed' =>
        split at h
        case h_1 => exact nomatch h
        case h_2 hold hnew =>
          split at h
          case isTrue => exact nomatch h
          case isFalse => cases h; exact ⟨⟨slashed, rfl⟩, .inl hold⟩
        case h_3 => exact nomatch h
        case h_4 hold hnew => cases h; exact ⟨⟨slashed, rfl⟩, .inl hold⟩
        case h_5 =>
          split at h
          case isTrue => exact nomatch h
          case isFalse =>
            split at h
            case isTrue => exact nomatch h
            case isFalse hdir =>
              cases h
              exact ⟨⟨slashed, rfl⟩, .inr fun hnew => hdir (by rw [hnew]; rfl)⟩

-- Moving a file takes no directory away.
theorem kept_of_moved (h : fs.moved source target = .ok (old, new))
    (hold : fs.nodes.get? old ≠ some .directory) (hbase : fs'.base = fs.base)
    (hnodes : ∀ q, fs'.nodes.get? q =
      if q = new then fs.nodes.get? old else if q = old then none else fs.nodes.get? q) :
    Kept fs fs' where
  base := hbase
  directory q hq := by
    have hnew : q ≠ new := fun heq => (moved_eq_ok h).2.resolve_left hold (heq ▸ hq)
    have hne : q ≠ old := fun heq => hold (heq ▸ hq)
    rw [hnodes, if_neg hnew, if_neg hne, hq]

end QueryConsole.Files
