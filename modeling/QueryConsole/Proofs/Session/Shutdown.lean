import QueryConsole.Proofs.Session.Execution

namespace QueryConsole.Session

variable {s₀ s s' : Session} {e : Event} {effect : Effect}

-- The session `s` is what became of `s₀` some time after shutdown.
structure Frozen (s₀ s : Session) : Prop where
  inactive : s.active = false
  settling : s.settling = []
  view : s.view = { s₀.view with favorites := s.view.favorites }
  nextSeq : s.nextSeq = s₀.nextSeq
  saving : ∀ t favorites reply, (t, .saving favorites reply) ∈ s.operations →
    (t, .saving favorites reply) ∈ s₀.operations
  -- An update that waited for the store at shutdown is where other favorites come from.
  favorites : s.view.favorites = s₀.view.favorites ∨
    ∃ t reply, (t, .saving s.view.favorites reply) ∈ s₀.operations

theorem frozen_shutdown (s : Session) : s.Frozen { s with active := false, settling := [] } where
  inactive := rfl
  settling := rfl
  view := rfl
  nextSeq := rfl
  saving _ _ _ hm := hm
  favorites := .inl rfl

namespace Frozen

-- Nothing comes of a step but that operations end, or wait for something other than the store.
theorem keep (h : s₀.Frozen s) (ha : s'.active = s.active) (hs : s'.settling = s.settling)
    (hv : s'.view = s.view) (hn : s'.nextSeq = s.nextSeq)
    (hops : ∀ t favorites reply, (t, .saving favorites reply) ∈ s'.operations →
      (t, .saving favorites reply) ∈ s.operations) : s₀.Frozen s' where
  inactive := ha.trans h.inactive
  settling := hs.trans h.settling
  view := hv ▸ h.view
  nextSeq := hn.trans h.nextSeq
  saving t favorites reply hm := h.saving t favorites reply (hops t favorites reply hm)
  favorites := hv ▸ h.favorites

theorem conclude (h : s₀.Frozen s) (t : Ticket) : s₀.Frozen (s.conclude t) := by
  refine h.keep ?_ ?_ ?_ ?_ fun _ _ _ hm => (mem_conclude.1 hm).1
  all_goals simp [conclude_eq, h.inactive]

theorem close (h : s₀.Frozen s) (t : Ticket) : s₀.Frozen (s.close t) :=
  h.keep rfl rfl rfl rfl fun _ _ _ hm => (mem_close.1 hm).1

theorem save {favorites : Favorites} (h : s₀.Frozen s)
    (hm : (t, .saving favorites reply) ∈ s.operations) :
    s₀.Frozen (s.publish { s.view with favorites }) where
  inactive := h.inactive
  settling := h.settling
  view := congrArg (fun v : View => { v with favorites }) h.view
  nextSeq := h.nextSeq
  saving := h.saving
  favorites := .inr ⟨t, reply, h.saving t favorites reply hm⟩

theorem settle (h : s₀.Frozen s) : s₀.Frozen s.settle := by
  have hdue : s.due = [] := by simp [due, h.settling]
  refine h.keep ?_ ?_ ?_ ?_ fun _ _ _ hm => ?_
  case refine_5 => simpa using hm
  all_goals simp [settle_eq, hdue, h.settling]

end Frozen

theorem Transition.frozen (ht : s.Transition e s' effect) (h : s₀.Frozen s) (hw : s.WellFormed) :
    s₀.Frozen s' ∧ ∀ t seq, effect ≠ .finished t (.ok (.ran seq)) := by
  have inactive : ¬s.active = true := by simp [h.inactive]
  cases ht
  case answered result hr he =>
    refine ⟨h.keep rfl rfl rfl rfl fun _ _ _ hm => hm, ?_⟩
    rcases hr with ⟨rfl, -⟩ | rfl <;> simp
  case fetching =>
    refine ⟨h.keep rfl rfl rfl rfl fun t favorites reply hm => ?_, by simp⟩
    cases mem_enroll.1 hm
    case inl hm => exact hm
    case inr hm => cases hm
  case started t run hs =>
    refine ⟨h.keep rfl rfl rfl rfl fun t favorites reply hm => ?_, by simp⟩
    cases mem_enter hm
    case inl hm => cases hm
    case inr hcase =>
      have ⟨hm, _⟩ := hcase
      exact hm
  case runFailed t stage result hs hrun hr ht hd =>
    refine ⟨h.conclude t, ?_⟩
    rintro t' seq ⟨⟩
    exact nomatch hr
  case saved t favorites reply hs =>
    have hm := mem_operations_of_stage? hs
    refine ⟨(h.save hm).close t, ?_⟩
    rcases hw.replies t favorites reply hm with rfl | rfl <;> simp
  case failed t stage result hs hrun hr ht hd =>
    refine ⟨h.close t, ?_⟩
    rintro t' seq ⟨⟩
    exact nomatch hr
  case runDropped t stage hs hr => exact ⟨h.conclude t, by simp⟩
  case dropped t stage hs hr => exact ⟨h.close t, by simp⟩
  case ignored => exact ⟨h, by simp⟩
  case resetRefused => exact ⟨h, by simp⟩
  case shutdown =>
    exact ⟨h.keep h.inactive.symm h.settling.symm rfl rfl fun _ _ _ hm => hm, by simp⟩
  case advance ms => exact ⟨h.keep rfl rfl rfl rfl fun _ _ _ hm => hm, by simp⟩
  all_goals exact absurd ‹s.active = true› inactive

theorem Frozen.after (h : s₀.Frozen s) (hw : s.WellFormed) (es : List Event) :
    s₀.Frozen (s.after es) ∧ ∀ e t seq, (e, .finished t (.ok (.ran seq))) ∉ s.trace es := by
  induction es generalizing s with
  | nil => exact ⟨h, nofun⟩
  | cons e es ih =>
    have ⟨hf, hran⟩ := (act_transition s e).frozen h hw
    have ⟨hafter, htrace⟩ := ih hf.settle (hw.step e)
    refine ⟨hafter, fun e' t seq hm => ?_⟩
    cases List.mem_cons.1 hm
    case inl hm => exact hran t seq (congrArg Prod.snd hm).symm
    case inr hm => exact htrace e' t seq hm

theorem frozen_after_shutdown (hw : s.WellFormed) (es : List Event) :
    s.Frozen ((s.step .shutdown).1.after es) ∧
      ∀ e t seq, (e, .finished t (.ok (.ran seq))) ∉ (s.step .shutdown).1.trace es :=
  (frozen_shutdown s).settle.after (hw.step .shutdown) es

-- Without an update that waits for the store, nothing that is shown changes.
theorem view_after_shutdown (hw : s.WellFormed)
    (hs : ∀ t favorites reply, (t, .saving favorites reply) ∉ s.operations) (es : List Event) :
    ((s.step .shutdown).1.after es).view = s.view := by
  have ⟨h, _⟩ := frozen_after_shutdown hw es
  cases h.favorites
  case inl hf => rw [h.view, hf]
  case inr hcase =>
    have ⟨t, reply, hm⟩ := hcase
    exact (hs _ _ _ hm).elim

-- The exception does arise.
theorem favorites_change_after_shutdown :
    let s := (initial .default .empty 1 0).after [.addFavorite "hosts" "SHOW HOSTS;"]
    let s' := (s.step .shutdown).1.after [.storeAnswered 0 (.ok ())]
    s.view.favorites.contains "hosts" = false ∧ s'.view.favorites.contains "hosts" = true := by
  decide

end QueryConsole.Session
