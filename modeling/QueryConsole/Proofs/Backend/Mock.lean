import QueryConsole.Backend.Mock
import QueryConsole.Proofs.Backend.Calls
import QueryConsole.Proofs.Backend.Directive
import QueryConsole.Proofs.Text.LowerCase

namespace QueryConsole

-- A directive that does not break the mock down.
def Directive.Readable (raw : String) : Prop :=
  (Directive.read? (Directive.body raw)).isSome = true

namespace Mock

variable {m : Mock}

theorem exists_rows? (m : Mock) (clause : List Char) :
    ∃ data, m.rows? clause (Text.lower clause) = some data := by
  unfold rows?
  by_cases hs : showSpaces.isPrefixOf (Text.lower clause) = true
  case pos => exact ⟨_, if_pos hs⟩
  case neg =>
    by_cases hy : yield.isPrefixOf (Text.lower clause) = true
    case pos =>
      have hall : yield.all (fun w => w.toNat < 128 ∧ w ≠ 'k' ∧ w.toNat ≠ 0) = true := by decide
      have hword (w) (hw : w ∈ yield) : w.toNat < 128 ∧ w ≠ 'k' ∧ w.toNat ≠ 0 :=
        of_decide_eq_true (List.all_eq_true.1 hall w hw)
      have ⟨rest, hrest⟩ := Text.dropBytes?_of_prefix_lower hword (by decide)
        (List.isPrefixOf_iff_prefix.1 hy)
      rw [if_neg hs, if_pos hy, hrest]
      exact ⟨_, rfl⟩
    case neg => exact ⟨_, by rw [if_neg hs, if_neg hy]⟩

theorem exists_respond (m : Mock) (statement : String) :
    ∃ r, m.respond statement = .ok r ∧ r.statement = statement := by
  unfold respond
  dsimp only
  split
  case h_1 => exact ⟨_, rfl, rfl⟩
  case h_2 =>
    split
    case h_1 => exact ⟨_, rfl, rfl⟩
    case h_2 =>
      have ⟨data, hdata⟩ := m.exists_rows? (lastClause statement).toList
      rw [hdata]
      exact ⟨_, rfl, rfl⟩

-- Only the last clause counts. The answer names the statement as it was sent.
theorem respond_of_lastClause {statement statement' : String}
    (h : lastClause statement = lastClause statement') :
    m.respond statement = (m.respond statement').map ({ · with statement }) := by
  unfold respond
  dsimp only
  rw [h]
  split
  case h_1 => rfl
  case h_2 =>
    split
    case h_1 => rfl
    case h_2 =>
      split
      case h_1 => rfl
      case h_2 => rfl

theorem exists_respondAll (m : Mock) (statements : List String) :
    ∃ rs, m.respondAll statements = .ok rs ∧ rs.map (·.statement) = statements := by
  induction statements with
  | nil => exact ⟨[], rfl, rfl⟩
  | cons statement statements ih =>
    have ⟨r, hr, hs⟩ := m.exists_respond statement
    have ⟨rs, hrs, hss⟩ := ih
    refine ⟨r :: rs, ?_, by rw [List.map_cons, hs, hss]⟩
    rw [respondAll, hr, hrs]
    rfl

theorem apply_statement (m : Mock) (raw : String) (d : Directive) :
    (m.apply raw d).2.statement = raw := by
  cases d <;> rfl

theorem apply_poisoned (m : Mock) (raw : String) (d : Directive) :
    (m.apply raw d).1.poisoned = m.poisoned := by
  cases d <;> rfl

theorem exists_applyDirective (hm : m.poisoned = false) {raw : String}
    (h : Directive.Readable raw) :
    ∃ m' r, m.applyDirective raw = (m', .ok r) ∧ m'.poisoned = false ∧ r.statement = raw := by
  have ⟨d, hd⟩ := Option.isSome_iff_exists.1 h
  refine ⟨(m.apply raw d).1, (m.apply raw d).2, ?_, ?_, apply_statement m raw d⟩
  · simp [applyDirective, hm, hd]
  · rw [apply_poisoned, hm]

theorem exists_applyAll (hm : m.poisoned = false) {directives : List String}
    (h : ∀ raw ∈ directives, Directive.Readable raw) :
    ∃ m' rs, m.applyAll directives = (m', .ok rs) ∧ m'.poisoned = false ∧
      rs.map (·.statement) = directives := by
  induction directives generalizing m with
  | nil => exact ⟨m, [], rfl, hm, rfl⟩
  | cons raw directives ih =>
    have ⟨m₁, r, hr, hm₁, hs⟩ := exists_applyDirective hm (h raw List.mem_cons_self)
    have ⟨m₂, rs, hrs, hm₂, hss⟩ := ih hm₁ fun raw hm => h raw (List.mem_cons_of_mem _ hm)
    refine ⟨m₂, r :: rs, ?_, hm₂, by rw [List.map_cons, hs, hss]⟩
    simp [applyAll, hr, hrs, Answer.map]

-- One response for each unit: for the directives, then for the statements.
theorem exists_batch (hm : m.poisoned = false) (statements : List String)
    {directives : List String} (h : ∀ raw ∈ directives, Directive.Readable raw) :
    ∃ m' rs, m.batch statements directives = (m', .ok rs) ∧ m'.poisoned = false ∧
      rs.map (·.statement) = directives ++ statements := by
  have ⟨m', first, hfirst, hm', hs⟩ := exists_applyAll hm h
  have ⟨rest, hrest, hss⟩ := m'.exists_respondAll statements
  refine ⟨m', first ++ rest, ?_, hm', by rw [List.map_append, hs, hss]⟩
  simp [batch, hfirst, hrest, Answer.map]

-- A directive that only reads parameters leaves them alone, and answering it leaves all alone.
theorem applyDirective_of_isInspection (m : Mock) {raw : String}
    (h : Script.isInspection raw = true) :
    (m.applyDirective raw).1.params = m.params ∧
      ∀ r, (m.applyDirective raw).2 = .ok r → (m.applyDirective raw).1 = m := by
  rw [applyDirective]
  split
  case isTrue => exact ⟨rfl, fun _ _ => rfl⟩
  case isFalse =>
    rw [Directive.read?, if_pos (Directive.isInspection_body h)]
    cases Text.dropBytes? ":params".utf8ByteSize (Directive.body raw) with
    | none =>
      refine ⟨rfl, fun _ h => ?_⟩
      cases h
    | some rest => exact ⟨rfl, fun _ _ => rfl⟩

theorem applyAll_of_isInspection (m : Mock) {directives : List String}
    (h : ∀ raw ∈ directives, Script.isInspection raw = true) :
    (m.applyAll directives).1.params = m.params ∧
      ∀ rs, (m.applyAll directives).2 = .ok rs → (m.applyAll directives).1 = m := by
  induction directives generalizing m with
  | nil => exact ⟨rfl, fun _ _ => rfl⟩
  | cons raw directives ih =>
    have ⟨hraw, hdirectives⟩ := List.forall_mem_cons.1 h
    have ⟨hparams, hsame⟩ := m.applyDirective_of_isInspection hraw
    rw [applyAll]
    split
    case h_1 m' r heq =>
      rw [heq] at hparams hsame
      have hm : m' = m := hsame r rfl
      have ⟨hparams', hsame'⟩ := ih m hdirectives
      subst hm
      cases ha : m'.applyAll directives with
      | mk m'' answer =>
        rw [ha] at hparams' hsame'
        refine ⟨hparams', fun rs hrs => ?_⟩
        cases answer with
        | ok rs' => exact hsame' rs' rfl
        | error e => exact nomatch hrs
        | crash => exact nomatch hrs
    case h_2 heq =>
      rw [heq] at hparams
      exact ⟨hparams, nofun⟩
    case h_3 heq =>
      rw [heq] at hparams
      exact ⟨hparams, nofun⟩

variable {split : Script.Split}

theorem isInspection_of_mem (h : split.requiresRefresh = false) :
    ∀ raw ∈ split.directives, Script.isInspection raw = true := by
  simpa [Script.Split.requiresRefresh] using h

-- A run that needs no refresh leaves the parameters as they are,
theorem params_batch (m : Mock) (h : split.requiresRefresh = false) :
    (m.batch split.statements split.directives).1.params = m.params :=
  (m.applyAll_of_isInspection (isInspection_of_mem h)).1

-- and once it is answered, all else too.
theorem eq_of_batch {m' : Mock} {rs : List Response} (h : split.requiresRefresh = false)
    (hb : m.batch split.statements split.directives = (m', .ok rs)) : m' = m := by
  have ⟨_, hsame⟩ := m.applyAll_of_isInspection (isInspection_of_mem h)
  cases ha : m.applyAll split.directives with
  | mk m'' answer =>
    rw [ha] at hsame
    cases answer with
    | ok first =>
      simp only [batch, ha] at hb
      exact (congrArg Prod.fst hb).symm.trans (hsame first rfl)
    | error e => simp [batch, ha, Answer.bind] at hb
    | crash => simp [batch, ha, Answer.bind] at hb

theorem single_inspection (hm : m.poisoned = false) :
    m.single "" [":params"] =
      (m, .ok (.success ":params" ((ResponseData.ofParams m.params).withTimeCost timeCost))) := by
  have hread : Directive.read? (Directive.body ":params") = some (.inspect []) := rfl
  simp [single, applyAll, applyDirective, hm, hread, apply, Answer.map, Text.isAllBlank]

-- Every call is taken on, and only noted down.
theorem askBatch_eq (m : Mock) (statements directives : List String) (tag : Tag) :
    Backend.askBatch m statements directives tag =
      (m.receive (.batch statements directives tag)).1.batch statements directives :=
  rfl

theorem askSingle_inspection (hm : m.poisoned = false) :
    ∃ m', Backend.askSingle m "" [":params"] = (m', .ok (.success ":params"
        ((ResponseData.ofParams m.params).withTimeCost timeCost))) ∧
      m'.poisoned = false ∧ m'.params = m.params :=
  ⟨_, single_inspection (m := (m.receive (.single "" [":params"])).1) hm, hm, rfl⟩

-- If the directives can be read, each unit of the text is answered.
theorem exists_execute (hm : m.poisoned = false) {split : Script.Split}
    (h : ∀ raw ∈ split.directives, Directive.Readable raw) :
    ∃ m' responses fetched, Backend.execute m split = (m', .ok (responses, fetched)) ∧
      m'.poisoned = false ∧
      responses.map (·.statement) = split.directives ++ split.statements := by
  have ⟨m₁, responses, hb, hm₁, hs⟩ :=
    exists_batch (m := (m.receive (.batch split.statements split.directives .consoleRun)).1) hm
      split.statements h
  have hb := (m.askBatch_eq split.statements split.directives .consoleRun).trans hb
  cases hr : split.requiresRefresh with
  | false => exact ⟨m₁, responses, none, Backend.execute_of_not_refresh hr hb, hm₁, hs⟩
  | true =>
    have ⟨m₂, hinspect, hm₂, _⟩ := askSingle_inspection hm₁
    exact ⟨m₂, responses, _, Backend.execute_of_refresh hr hb hinspect, hm₂, hs⟩

theorem single_of_ok {m' : Mock} {r : Response} (h : m.single "" [":params"] = (m', .ok r)) :
    m' = m ∧ r.localParams = some m.visibleParams := by
  cases hm : m.poisoned with
  | true => simp [single, applyAll, applyDirective, hm, Answer.bind] at h
  | false =>
    rw [single_inspection hm] at h
    cases h
    exact ⟨rfl, by simp [visibleParams, hm]; rfl⟩

end Mock
end QueryConsole
