import Mathlib.Data.List.Perm.Basic
import QueryConsole.Proofs.Session.Execution

-- A `Workload` is what an observer with a clock notes down about the accepted runs: which of them
-- ended, and when.
namespace QueryConsole

structure Workload where
  now : Nat
  -- The accepted runs, oldest first, each with the time at which it ended, if it did.
  runs : List (Ticket × Option Nat)

namespace Workload

def accept (w : Workload) (t : Ticket) : Workload :=
  { w with runs := w.runs ++ [(t, none)] }

def finish (w : Workload) (t : Ticket) : Workload :=
  { w with runs := w.runs.map fun r => if r = (t, none) then (t, some w.now) else r }

def notice (w : Workload) : Event → Workload
  | .drop t => w.finish t
  | .advance ms => { w with now := w.now + ms }
  | _ => w

-- Operations other than runs end as well, but under tickets that no run has.
def observe (w : Workload) (e : Event) : Effect → Workload
  | .accepted t => w.accept t
  | .finished t _ => w.finish t
  | .none => w.notice e
  | .call .. | .write .. => w

def ofTrace (now : Nat) (trace : List (Event × Effect)) : Workload :=
  trace.foldl (fun w step => w.observe step.1 step.2) ⟨now, []⟩

def underWay (w : Workload) : List Ticket :=
  (w.runs.filter (·.2 = none)).map (·.1)

def ends (w : Workload) : List Nat :=
  w.runs.filterMap (·.2)

-- The runs that are under way, or ended less than `delay` ago.
def busy (w : Workload) (delay : Nat) : Nat :=
  w.runs.countP (·.2.all (w.now < · + delay))

variable {w : Workload} {t : Ticket}

@[simp]
theorem ofTrace_concat (now : Nat) (trace : List (Event × Effect)) (step : Event × Effect) :
    ofTrace now (trace ++ [step]) = (ofTrace now trace).observe step.1 step.2 :=
  List.foldl_concat ..

theorem busy_eq (w : Workload) (delay : Nat) :
    w.busy delay = w.underWay.length + ((w.ends.map (· + delay)).filter (w.now < ·)).length := by
  have ⟨now, runs⟩ := w
  simp only [busy, underWay, ends, List.length_map]
  induction runs with
  | nil => rfl
  | cons r runs ih =>
    obtain ⟨t, _ | e⟩ := r
    case none =>
      simp only [List.countP_cons, ih]
      simp
      omega
    case some =>
      by_cases h : now < e + delay <;> simp [ih, h]
      omega

theorem underWay_accept (w : Workload) (t : Ticket) :
    (w.accept t).underWay = w.underWay ++ [t] := by
  simp [underWay, accept]

theorem ends_accept (w : Workload) (t : Ticket) : (w.accept t).ends = w.ends := by
  simp [ends, accept]

theorem underWay_finish (w : Workload) (t : Ticket) :
    (w.finish t).underWay = w.underWay.filter (· ≠ t) := by
  have ⟨now, runs⟩ := w
  simp only [underWay, finish]
  induction runs with
  | nil => rfl
  | cons r runs ih =>
    obtain ⟨t', _ | e⟩ := r <;> by_cases ht : t' = t <;> simp_all

theorem mem_underWay_iff : t ∈ w.underWay ↔ (t, none) ∈ w.runs := by
  simp [underWay]

theorem finish_of_notMem (ht : t ∉ w.underWay) : w.finish t = w := by
  have keeps (r : Ticket × Option Nat) (hr : r ∈ w.runs) :
      (if r = (t, none) then (t, some w.now) else r) = r := by
    rw [if_neg]
    rintro rfl
    exact ht (mem_underWay_iff.2 hr)
  simp only [finish, List.map_congr_left keeps, List.map_id']

-- The runs before it may have ended later than those behind it, so the end of a run can come to
-- stand anywhere among the others.
theorem ends_finish (hn : w.underWay.Nodup) (ht : t ∈ w.underWay) :
    (w.finish t).ends.Perm (w.ends ++ [w.now]) := by
  have ⟨now, runs⟩ := w
  induction runs with
  | nil => cases ht
  | cons r runs ih =>
    obtain ⟨t', _ | e⟩ := r
    case none =>
      have ⟨hnew, hn⟩ := List.nodup_cons.1 hn
      by_cases h : t' = t
      case pos =>
        subst h
        have hnew : t' ∉ (⟨now, runs⟩ : Workload).underWay := hnew
        have hf := congrArg Workload.runs (finish_of_notMem hnew)
        simp only [finish] at hf
        simpa [ends, finish, hf] using (List.perm_append_singleton now _).symm
      case neg =>
        have ht := (List.mem_cons.1 ht).resolve_left (Ne.symm h)
        simpa [ends, finish, h] using ih hn ht
    case some => simpa [ends, finish] using (ih hn ht).cons e

end Workload

namespace Session

-- The runs among the operations.
def underWay (s : Session) : List Ticket :=
  (s.operations.filter (·.2.run?.isSome)).map (·.1)

section

variable {s : Session} {t : Ticket} {stage : Stage}

theorem length_due (s : Session) :
    s.due.length + (s.settling.filter (s.now < ·)).length = s.settling.length := by
  have hlate : s.settling.filter (s.now < ·) = s.settling.filter fun time => !(time ≤ s.now) :=
    List.filter_congr fun time _ => by rw [← decide_not, decide_eq_decide, Nat.not_le]
  rw [due, hlate, ← List.length_eq_length_filter_add]

@[simp]
theorem settle_underWay (s : Session) : s.settle.underWay = s.underWay := by
  simp [underWay]

theorem underWay_sublist (s : Session) : s.underWay.Sublist s.tickets :=
  List.filter_sublist.map _

theorem mem_underWay_of_stage? (h : s.stage? t = some stage) (hr : stage.run?.isSome) :
    t ∈ s.underWay :=
  List.mem_map_of_mem (List.mem_filter.2 ⟨mem_operations_of_stage? h, hr⟩)

theorem notMem_underWay_of_stage? (hn : s.tickets.Nodup) (h : s.stage? t = some stage)
    (hr : stage.run? = none) : t ∉ s.underWay := by
  intro ht
  obtain ⟨op, hop, rfl⟩ := List.mem_map.1 ht
  have ⟨hop, hs⟩ := List.mem_filter.1 hop
  have := h.symm.trans (stage?_of_mem_operations hn hop)
  simp_all

theorem underWay_enroll_of_isSome (hr : stage.run?.isSome) :
    (s.enroll stage).underWay = s.underWay ++ [s.nextTicket] := by
  simp [underWay, enroll, List.filter_append, hr]

theorem underWay_enroll_of_eq_none (hr : stage.run? = none) :
    (s.enroll stage).underWay = s.underWay := by
  simp [underWay, enroll, List.filter_append, hr]

theorem underWay_close (s : Session) (t : Ticket) :
    (s.close t).underWay = s.underWay.filter (· ≠ t) := by
  simp [underWay, close, List.filter_map, Function.comp_def, Bool.and_comm]

theorem underWay_conclude (s : Session) (t : Ticket) :
    (s.conclude t).underWay = s.underWay.filter (· ≠ t) := by
  simp [underWay, conclude_eq, List.filter_map, Function.comp_def, Bool.and_comm]

-- A run that goes on to another stage is still under way.
theorem underWay_enter (hn : s.tickets.Nodup) (h : s.stage? t = some stage) (hr : stage.run?.isSome)
    {stage' : Stage} (hr' : stage'.run?.isSome) : (s.enter t stage').underWay = s.underWay := by
  have same (op : Ticket × Stage) (hop : op ∈ s.operations) :
      (if op.1 = t then (t, stage') else op).2.run?.isSome = op.2.run?.isSome := by
    split
    case isTrue ht =>
      have hop : s.stage? t = some op.2 := stage?_of_mem_operations hn (ht ▸ hop)
      rw [hr', Option.some.inj (hop.symm.trans h), hr]
    case isFalse => rfl
  simp only [underWay, enter, List.filter_map, List.map_map, Function.comp_def]
  rw [List.filter_congr same]
  refine List.map_congr_left fun op _ => ?_
  split <;> simp_all

end

-- What a step leaves alone that neither begins nor ends a run, and takes no time.
structure SameLoad (s s' : Session) : Prop where
  active : s'.active = s.active
  settings : s'.settings = s.settings
  now : s'.now = s.now
  settling : s'.settling = s.settling
  inFlight : s'.inFlight = s.inFlight
  loading : s'.view.loading = s.view.loading
  underWay : s'.underWay = s.underWay

section

variable {s : Session} {t : Ticket} {stage : Stage}

theorem SameLoad.trans {s₁ s₂ s₃ : Session} (h : s₁.SameLoad s₂) (h' : s₂.SameLoad s₃) :
    s₁.SameLoad s₃ where
  active := h'.active.trans h.active
  settings := h'.settings.trans h.settings
  now := h'.now.trans h.now
  settling := h'.settling.trans h.settling
  inFlight := h'.inFlight.trans h.inFlight
  loading := h'.loading.trans h.loading
  underWay := h'.underWay.trans h.underWay

theorem sameLoad_publish (s : Session) {v : View} (hv : v.loading = s.view.loading) :
    s.SameLoad (s.publish v) :=
  ⟨rfl, rfl, rfl, rfl, rfl, hv, rfl⟩

theorem sameLoad_enroll (hr : stage.run? = none) : s.SameLoad (s.enroll stage) :=
  ⟨rfl, rfl, rfl, rfl, rfl, rfl, underWay_enroll_of_eq_none hr⟩

theorem sameLoad_enter (hn : s.tickets.Nodup) (h : s.stage? t = some stage) (hr : stage.run?.isSome)
    {stage' : Stage} (hr' : stage'.run?.isSome) : s.SameLoad (s.enter t stage') :=
  ⟨rfl, rfl, rfl, rfl, rfl, rfl, underWay_enter hn h hr hr'⟩

theorem sameLoad_close (ht : t ∉ s.underWay) : s.SameLoad (s.close t) := by
  refine ⟨rfl, rfl, rfl, rfl, rfl, rfl, ?_⟩
  rw [underWay_close, List.filter_eq_self]
  exact fun t' ht' => decide_eq_true (ne_of_mem_of_not_mem ht' ht)

end

end Session

namespace Workload

open Session

-- How a session agrees with the workload noted down about it, until it is shut down.
structure Tracks (w : Workload) (s : Session) : Prop where
  active : s.active = true
  now : s.now = w.now
  underWay : s.underWay = w.underWay
  -- What is still to settle; runs that ended may be noted in another order.
  settling : (s.settling.filter (s.now < ·)).Perm
    ((w.ends.map (· + s.settings.settleDelay)).filter (s.now < ·))
  inFlight : s.inFlight = s.underWay.length + s.settling.length
  loading : s.view.loading = true ↔ 0 < s.inFlight

namespace Tracks

variable {w : Workload} {s s' : Session} {t : Ticket} {e : Event} {effect : Effect}

theorem keep (h : w.Tracks s) (hs : s.SameLoad s') : w.Tracks s' where
  active := hs.active ▸ h.active
  now := hs.now ▸ h.now
  underWay := hs.underWay ▸ h.underWay
  settling := hs.now ▸ hs.settling ▸ hs.settings ▸ h.settling
  inFlight := hs.inFlight ▸ hs.settling ▸ hs.underWay ▸ h.inFlight
  loading := hs.loading ▸ hs.inFlight ▸ h.loading

theorem accept (h : w.Tracks s) (run : Submission) :
    (w.accept s.nextTicket).Tracks
      (({ s with nextSeq := s.nextSeq + 1, inFlight := s.inFlight + 1 }.publish
        { s.view with loading := true }).enroll (.accepted run)) where
  active := h.active
  now := h.now
  underWay := by
    rw [underWay_enroll_of_isSome rfl, underWay_accept, ← h.underWay]
    rfl
  settling := ends_accept w _ ▸ h.settling
  inFlight := by
    rw [underWay_enroll_of_isSome rfl, List.length_append]
    have := h.inFlight
    show s.inFlight + 1 = s.underWay.length + 1 + s.settling.length
    omega
  loading := by simp [enroll, publish]

-- A run ends, and begins to settle.
theorem conclude (h : w.Tracks s) (hn : s.tickets.Nodup) (ht : t ∈ s.underWay) :
    (w.finish t).Tracks (s.conclude t) where
  active := by simp [conclude_eq, h.active]
  now := by simp [conclude_eq, h.now, finish]
  underWay := by rw [underWay_conclude, underWay_finish, h.underWay]
  settling := by
    have hp := ends_finish (h.underWay ▸ hn.sublist (underWay_sublist s)) (h.underWay ▸ ht)
    have hp := (hp.map (· + s.settings.settleDelay)).filter (s.now < ·)
    rw [← h.now, List.map_append, List.filter_append] at hp
    simp only [conclude_eq, h.active, if_true, List.filter_append]
    exact (h.settling.append_right _).trans hp.symm
  inFlight := by
    have hone : (s.underWay.filter (· ≠ t)).length + 1 = s.underWay.length := by
      rw [← List.length_erase_add_one ht, (hn.sublist (underWay_sublist s)).erase_eq_filter]
      simp [bne, beq_eq_decide]
    have := h.inFlight
    rw [underWay_conclude]
    simp only [conclude_eq, h.active, if_true, List.length_append, List.length_singleton]
    omega
  loading := by simpa [conclude_eq] using h.loading

-- Nothing is noted down for the end of an operation that is not a run.
theorem finish_eq (h : w.Tracks s) (ht : t ∉ s.underWay) : w.finish t = w :=
  finish_of_notMem (h.underWay ▸ ht)

theorem advance (h : w.Tracks s) (ms : Nat) :
    ({ w with now := w.now + ms } : Workload).Tracks { s with now := s.now + ms } where
  active := h.active
  now := congrArg (· + ms) h.now
  underWay := h.underWay
  settling := by
    have later (times : List Nat) : (times.filter (s.now < ·)).filter (s.now + ms < ·) =
        times.filter (s.now + ms < ·) := by
      rw [List.filter_filter]
      refine List.filter_congr fun time _ => ?_
      simp only [← Bool.decide_and, decide_eq_decide]
      omega
    have hp := h.settling.filter (s.now + ms < ·)
    rwa [later, later] at hp
  inFlight := h.inFlight
  loading := h.loading

theorem transition (h : w.Tracks s) (hw : s.WellFormed) (ht : s.Transition e s' effect)
    (he : e ≠ .shutdown) : (w.observe e effect).Tracks s' := by
  -- A run ends after a step that did nothing else to the load.
  have ends {s₁ t stage} (hs : s.stage? t = some stage) (hr : stage.run?.isSome)
      (hl : s.SameLoad s₁) (ho : s₁.operations = s.operations) :
      (w.finish t).Tracks (s₁.conclude t) := by
    refine (h.keep hl).conclude ?_ (hl.underWay ▸ mem_underWay_of_stage? hs hr)
    simpa [tickets, ho] using hw.nodup
  -- Another operation ends.
  have closes {s₁ t stage} (hs : s.stage? t = some stage) (hr : stage.run? = none)
      (hl : s.SameLoad s₁) : (w.finish t).Tracks (s₁.close t) := by
    have ht := notMem_underWay_of_stage? hw.nodup hs hr
    rw [h.finish_eq ht]
    exact h.keep (hl.trans (sameLoad_close (hl.underWay ▸ ht)))
  have same : s.SameLoad s := ⟨rfl, rfl, rfl, rfl, rfl, rfl, rfl⟩
  cases ht
  case ignored t ht hd =>
    cases e <;> cases ht <;> first | exact h | skip
    case drop =>
      have ht := stage?_eq_none_iff.1 (hd rfl)
      show (w.finish t).Tracks s
      rw [h.finish_eq fun hm => ht ((underWay_sublist s).subset hm)]
      exact h
  case resetRefused ha => exact h
  case accepted text display ha => exact h.accept _
  case answered result hr he =>
    have hnew : s.nextTicket ∉ s.underWay := fun hm =>
      Nat.lt_irrefl _ (hw.lt_nextTicket _ ((underWay_sublist s).subset hm))
    show (w.finish s.nextTicket).Tracks _
    rw [h.finish_eq hnew]
    exact h.keep ⟨rfl, rfl, rfl, rfl, rfl, rfl, rfl⟩
  case fetching => exact h.keep (sameLoad_enroll rfl)
  case saving ha hr he => exact h.keep (sameLoad_enroll rfl)
  case started t run hs => exact h.keep (sameLoad_enter hw.nodup hs rfl rfl)
  case refreshing t run responses hs ha hr =>
    exact h.keep ⟨rfl, rfl, rfl, rfl, rfl, rfl, underWay_enter hw.nodup hs rfl rfl⟩
  case ran t run responses hs ha hr => exact ends hs rfl ⟨rfl, rfl, rfl, rfl, rfl, rfl, rfl⟩ rfl
  case ranStale t run entries error hs ha => exact ends hs rfl (sameLoad_publish s rfl) rfl
  case ranRefreshed t run entries response hs ha =>
    exact ends hs rfl ((sameLoad_publish s rfl).trans (sameLoad_publish _ rfl)) rfl
  case runFailed t stage result hs hr hne ht hd => exact ends hs hr same rfl
  case fetched t response hs ha => exact closes hs rfl (sameLoad_publish s rfl)
  case saved t favorites reply hs => exact closes hs rfl (sameLoad_publish s rfl)
  case failed t stage result hs hr hne ht hd => exact closes hs hr same
  case runDropped t stage hs hr => exact ends hs hr same rfl
  case dropped t stage hs hr => exact closes hs hr same
  case reset ha => exact h.keep (sameLoad_publish s rfl)
  case shutdown => exact absurd rfl he
  case advance ms => exact h.advance ms

theorem settle (h : w.Tracks s) : w.Tracks s.settle := by
  have hdue := s.length_due
  have hin := h.inFlight
  constructor
  case active => simpa using h.active
  case now => simpa using h.now
  case underWay => simpa using h.underWay
  case settling => simpa [settle_eq] using h.settling
  case inFlight =>
    rw [settle_underWay]
    simp only [settle_eq]
    omega
  case loading =>
    have hl := h.loading
    simp only [settle_eq]
    split
    case isTrue hd => rwa [hd, Nat.sub_zero]
    case isFalse => rw [decide_eq_true_iff, Nat.sub_pos_iff_lt]

theorem step (h : w.Tracks s) (hw : s.WellFormed) (he : e ≠ .shutdown) :
    (w.observe e (s.step e).2).Tracks (s.step e).1 :=
  (h.transition hw (act_transition s e) he).settle

theorem initial (settings : SessionSettings) (favorites : Favorites) (nextId now : Nat) :
    Tracks ⟨now, []⟩ (.initial settings favorites nextId now) where
  active := rfl
  now := rfl
  underWay := rfl
  settling := .nil
  inFlight := rfl
  loading := by simp [Session.initial, View.initial]

theorem after (h : Tracks ⟨s.now, []⟩ s) (hw : s.WellFormed) {es : List Event}
    (he : .shutdown ∉ es) : (ofTrace s.now (s.trace es)).Tracks (s.after es) := by
  induction es using List.reverseRecOn with
  | nil => exact h
  | append_singleton es e ih =>
    have hes : .shutdown ∉ es := fun hm => he (List.mem_append_left _ hm)
    have hne : e ≠ .shutdown := fun hm => he (hm ▸ List.mem_append_right _ List.mem_cons_self)
    simpa using (ih hes).step (hw.after es) hne

-- Every run that settles now was counted.
theorem length_due_le (h : w.Tracks s) : s.due.length ≤ s.inFlight := by
  have := h.inFlight
  have := s.length_due
  omega

theorem inFlight_eq_busy (h : w.Tracks s) (hs : ∀ time ∈ s.settling, s.now < time) :
    s.inFlight = w.busy s.settings.settleDelay := by
  have hall : s.settling.filter (s.now < ·) = s.settling :=
    List.filter_eq_self.2 fun time ht => decide_eq_true (hs time ht)
  rw [h.inFlight, busy_eq, ← h.underWay, ← h.now, ← h.settling.length_eq, hall]

end Tracks
end Workload

namespace Session

theorem lt_of_mem_settling_after {s : Session} (h : ∀ time ∈ s.settling, s.now < time)
    (es : List Event) : ∀ time ∈ (s.after es).settling, (s.after es).now < time := by
  induction es generalizing s with
  | nil => exact h
  | cons e es ih =>
    refine ih fun time hm => ?_
    simp only [step_eq, settle_eq, List.mem_filter, decide_eq_true_eq] at hm ⊢
    exact hm.2

-- Up to shutdown, the runs in flight are those under way and those that ended less than the settle
-- delay ago, the session shows that it is loading while there are any, and whenever a run settles
-- there is one to count down.
theorem inFlight_eq_busy_after (settings : SessionSettings) (favorites : Favorites)
    (nextId now : Nat) (es : List Event) (hes : .shutdown ∉ es) :
    let s := (initial settings favorites nextId now).after es
    let w := Workload.ofTrace now ((initial settings favorites nextId now).trace es)
    s.now = w.now ∧ s.inFlight = w.busy settings.settleDelay ∧
      (s.view.loading = true ↔ 0 < w.busy settings.settleDelay) ∧
      ∀ e, ∀ k < (s.act e).1.due.length, 0 < (finishRun^[k] (s.act e).1).inFlight := by
  intro s w
  have hw := wellFormed_initial settings favorites nextId now
  have h : w.Tracks s := (Workload.Tracks.initial settings favorites nextId now).after hw hes
  have hd : s.settings = settings := settings_after _ es
  have hb : s.inFlight = w.busy settings.settleDelay :=
    hd ▸ h.inFlight_eq_busy
      (lt_of_mem_settling_after (s := initial settings favorites nextId now) nofun es)
  refine ⟨h.now, hb, hb ▸ h.loading, fun e k hk => ?_⟩
  have he : e ≠ .shutdown := by
    rintro rfl
    exact absurd hk (Nat.not_lt_zero k)
  have := (h.transition (hw.after es) (act_transition s e) he).length_due_le
  rw [iterate_finishRun]
  exact Nat.sub_pos_of_lt (Nat.lt_of_lt_of_le hk this)

-- One run is dropped before it is taken up, another fails after 100 ms and still counts at 350 ms.
theorem inFlight_of_dropped_and_failed :
    let es := [.submit "SHOW HOSTS;" none, .submit "SHOW TAGS;" (some "tags"), .drop 0, .start 1,
      .advance 100, .batchAnswered 1 (.error .shutDown), .advance 250]
    .shutdown ∉ es ∧ ((initial .default .empty 1 0).after es).inFlight = 1 ∧
      ((initial .default .empty 1 0).after es).view.loading = true := by
  intro es
  have hes : .shutdown ∉ es := by simp [es]
  have ⟨_, hb, hl, _⟩ := inFlight_eq_busy_after .default .empty 1 0 es hes
  have one : (Workload.ofTrace 0 ((initial .default .empty 1 0).trace es)).busy
      SessionSettings.default.settleDelay = 1 := by decide
  exact ⟨hes, hb.trans one, hl.2 (Nat.lt_of_lt_of_eq Nat.one_pos one.symm)⟩

end Session
end QueryConsole
