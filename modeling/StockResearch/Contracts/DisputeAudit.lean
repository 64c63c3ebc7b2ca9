import StockResearch.Contracts.Analysis
import StockResearch.Lib.Accumulator

/-!
# Audit results and their history

A dispute is audited at most once. Audit identifiers are unique in the whole runtime,
dispute identifiers only within their task; the check of a history of results reads
neither the task.

- `AuditResult`, `AuditResult.validate`: the model and its validators.
- `validateLogicalAuditHistory`, `audit_accepted_iff`: the check, and what it accepts.
- `AuditedOnce`: each audit has one dispute, each dispute one counted audit.
- `audit_decides_iff`: when the check decides that rule.
-/

namespace StockResearch.Contracts

/-! ## The contract -/

/-- `AuditOpinion` -/
inductive AuditOpinion where
  | supportInterpretation1
  | supportInterpretation2
  | supportNeither
  | indeterminateMoreEvidencePossible
  | indeterminateNoMoreEvidence
  | humanJudgmentRequired
deriving DecidableEq

/-- `AuditExecutionResult` -/
inductive AuditExecutionResult where
  | succeeded
  | invalidOutput
  | executionFailed
  | cancelled
deriving DecidableEq

/-- `AuditRecommendedNextState` -/
inductive AuditRecommendedNextState where
  | primaryReview
  | research
  | humanDecision
  | failed
deriving DecidableEq

/-- `AuditPositionAssessmentV1` -/
structure AuditPositionAssessment where
  supportedParts : List NonEmptyString
  unsupportedParts : List NonEmptyString
deriving DecidableEq

/-- The fields of `AuditResultV1` its validators and the history read. -/
structure AuditResult where
  taskId : Identifier
  artifactId : Identifier
  auditId : Identifier
  disputeId : Identifier
  createdAt : String
  executionResult : AuditExecutionResult
  opinion : Option AuditOpinion
  confidence : Option Confidence
  interpretation1Assessment : Option AuditPositionAssessment
  interpretation2Assessment : Option AuditPositionAssessment
  schemaValid : Bool
  referencesValid : Bool
  disputeScopeValid : Bool
  logicalAuditCounted : Bool
  recommendedNextState : AuditRecommendedNextState
deriving DecidableEq

/-- The workflow destination of an opinion. -/
def AuditOpinion.nextState : AuditOpinion → AuditRecommendedNextState
  | supportInterpretation1 => .primaryReview
  | supportInterpretation2 => .primaryReview
  | supportNeither => .primaryReview
  | indeterminateMoreEvidencePossible => .research
  | indeterminateNoMoreEvidence => .humanDecision
  | humanJudgmentRequired => .humanDecision

namespace AuditResult

/-- The execution succeeded with an output that is valid in every respect. -/
def validOutput (result : AuditResult) : Bool :=
  result.executionResult = .succeeded && result.schemaValid && result.referencesValid &&
    result.disputeScopeValid

/-- The destination the decision table gives, once the opinion is there or not as it
should be. -/
def expectedNextState (result : AuditResult) : Except ValueError AuditRecommendedNextState :=
  if result.validOutput then do
    let opinion ← fetch result.opinion "a valid audit result requires an opinion and confidence"
    require (result.confidence ≠ none) "a valid audit result requires an opinion and confidence"
    require (result.interpretation1Assessment ≠ none ∧ result.interpretation2Assessment ≠ none)
      "a valid audit result requires assessments of both interpretations"
    pure opinion.nextState
  else do
    require (result.opinion = none ∧ result.confidence = none)
      "an invalid or failed execution must not contain an adopted audit opinion"
    require (result.interpretation1Assessment = none ∧ result.interpretation2Assessment = none)
      "an invalid or failed execution must not contain adopted position assessments"
    pure .failed

/-- `ensure_valid_created_at` and `validate_opinion_and_application` -/
def validate (fromisoformat : IsoReader) (result : AuditResult) : Except ValueError Unit := do
  checkTimestamp fromisoformat "created_at" (some result.createdAt)
  let expected ← result.expectedNextState
  require (result.logicalAuditCounted = result.validOutput)
    "only a schema-, reference-, and scope-valid audit result counts logically"
  require (result.recommendedNextState = expected)
    "recommended_next_state must follow the approved audit result decision table"

/-- Exactly the valid results of successful executions count. -/
theorem counted_eq {fromisoformat : IsoReader} {result : AuditResult}
    (h : result.validate fromisoformat = .ok ()) :
    result.logicalAuditCounted = result.validOutput := by
  simp only [validate, bind_eq_ok, require_eq_ok] at h
  obtain ⟨-, -, -, -, -, hcounted, -⟩ := h
  exact hcounted

end AuditResult

/-! ## The check of a history -/

/-- What `validate_logical_audit_history` remembers. -/
structure AuditState where
  auditTargets : Table Identifier Identifier
  countedDisputes : List Identifier

namespace AuditState

/-- Nothing seen yet. -/
def start : AuditState := ⟨.empty, []⟩

/-- One iteration of the loop. -/
def check (state : AuditState) (result : AuditResult) : Except ValueError AuditState := do
  let (auditTargets, existingTarget) :=
    state.auditTargets.setdefault result.auditId result.disputeId
  require (existingTarget = result.disputeId)
    "one audit_id must not reference multiple dispute IDs"
  if result.logicalAuditCounted then
    require (result.disputeId ∉ state.countedDisputes)
      "a dispute must have at most one valid logical audit"
    pure ⟨auditTargets, state.countedDisputes ++ [result.disputeId]⟩
  else pure ⟨auditTargets, state.countedDisputes⟩

end AuditState

/-- `validate_logical_audit_history` -/
def validateLogicalAuditHistory (results : List AuditResult) : Except ValueError Unit := do
  let _ ← results.foldlM AuditState.check .start
  pure ()

/-- The history passes the check. -/
def AuditAccepted (results : List AuditResult) : Prop :=
  validateLogicalAuditHistory results = .ok ()

/-! ## What the check accepts -/

/-- What the loop asks of any two results. -/
def Compatible (d e : AuditResult) : Prop :=
  (d.auditId = e.auditId → d.disputeId = e.disputeId) ∧
    ¬ (d.logicalAuditCounted ∧ e.logicalAuditCounted ∧ d.disputeId = e.disputeId)

theorem Compatible.symm {d e : AuditResult} (h : Compatible d e) : Compatible e d :=
  ⟨fun heq => (h.1 heq.symm).symm, fun ⟨he, hd, heq⟩ => h.2 ⟨hd, he, heq.symm⟩⟩

/-- What the loop remembers after some results. -/
structure AuditRemembers (past : List AuditResult) (state : AuditState) : Prop where
  targets : state.auditTargets.Holds (past.map fun d => (d.auditId, d.disputeId))
  counted : ∀ dispute, dispute ∈ state.countedDisputes ↔
    ∃ d ∈ past, d.logicalAuditCounted ∧ d.disputeId = dispute

theorem auditRemembers_start : AuditRemembers [] .start where
  targets := Table.holds_empty
  counted := by simp [AuditState.start]

namespace AuditRemembers

variable {past : List AuditResult} {state : AuditState} {e : AuditResult}

theorem target_iff (h : AuditRemembers past state) :
    (state.auditTargets.setdefault e.auditId e.disputeId).2 = e.disputeId ↔
      ∀ d ∈ past, d.auditId = e.auditId → d.disputeId = e.disputeId := by
  rw [h.targets.setdefault_eq_iff]
  simp only [List.mem_map, Prod.mk.injEq]
  constructor
  · exact fun hall d hd haudit => hall _ ⟨d, hd, haudit, rfl⟩
  · rintro hall w ⟨d, hd, haudit, rfl⟩
    exact hall d hd haudit

/-- One iteration accepts exactly the results compatible with those before. -/
theorem check_iff (h : AuditRemembers past state) :
    (∃ state', state.check e = .ok state') ↔ ∀ d ∈ past, Compatible d e := by
  have hcompatible : (∀ d ∈ past, Compatible d e) ↔
      (∀ d ∈ past, d.auditId = e.auditId → d.disputeId = e.disputeId) ∧
      (e.logicalAuditCounted → e.disputeId ∉ state.countedDisputes) := by
    rw [h.counted]
    constructor
    · intro hall
      refine ⟨fun d hd => (hall d hd).1, ?_⟩
      rintro hcounted ⟨d, hd, hdcounted, hdispute⟩
      exact (hall d hd).2 ⟨hdcounted, hcounted, hdispute⟩
    · rintro ⟨htarget, hcounted⟩ d hd
      refine ⟨htarget d hd, ?_⟩
      rintro ⟨hdcounted, hecounted, hdispute⟩
      exact hcounted hecounted ⟨d, hd, hdcounted, hdispute⟩
  rw [hcompatible, ← h.target_iff]
  simp only [AuditState.check, bind_eq_ok, require_eq_ok]
  split
  · -- a counted audit is also looked for among the disputes counted before
    rename_i hcounted
    simp only [bind_eq_ok, require_eq_ok, pure_eq_ok]
    constructor
    · rintro ⟨-, -, htarget, -, hdispute, -⟩
      exact ⟨htarget, fun _ => hdispute⟩
    · rintro ⟨htarget, hdispute⟩
      exact ⟨_, (), htarget, (), hdispute hcounted, rfl⟩
  · -- one that is not counted has its target checked only
    rename_i hcounted
    simp only [pure_eq_ok]
    constructor
    · rintro ⟨-, -, htarget, -⟩
      exact ⟨htarget, fun h => absurd h hcounted⟩
    · rintro ⟨htarget, -⟩
      exact ⟨_, (), htarget, rfl⟩

/-- One iteration keeps what is remembered up to date. -/
theorem check_remembers (h : AuditRemembers past state) {state' : AuditState}
    (hcheck : state.check e = .ok state') : AuditRemembers (past ++ [e]) state' := by
  simp only [AuditState.check, bind_eq_ok, require_eq_ok] at hcheck
  obtain ⟨-, htarget, hcheck⟩ := hcheck
  have htargets := h.targets.setdefault htarget
  split at hcheck
  · rename_i hcounted
    simp only [bind_eq_ok, require_eq_ok, pure_eq_ok] at hcheck
    obtain ⟨-, -, rfl⟩ := hcheck
    refine ⟨by simpa using htargets, fun dispute => ?_⟩
    simp only [List.mem_append, List.mem_singleton, h.counted, or_and_right, exists_or,
      exists_eq_left, hcounted, true_and]
    rw [eq_comm (a := dispute)]
  · rename_i hcounted
    obtain rfl := pure_eq_ok.mp hcheck
    refine ⟨by simpa using htargets, fun dispute => ?_⟩
    simp [h.counted, or_and_right, exists_or, hcounted]

end AuditRemembers

/-- The check accepts a history exactly when any two of its results are compatible. -/
theorem audit_accepted_iff (results : List AuditResult) :
    AuditAccepted results ↔ results.Pairwise Compatible := by
  have haccepted : AuditAccepted results ↔
      ∃ state, results.foldlM AuditState.check .start = .ok state := by
    simp only [AuditAccepted, validateLogicalAuditHistory, bind_eq_ok, pure_eq_ok, and_true]
  rw [haccepted, foldlM_accepts_iff AuditRemembers (fun past e => ∀ d ∈ past, Compatible d e)
    (fun _ _ _ h => h.check_iff) (fun _ _ _ _ h => h.check_remembers) auditRemembers_start]
  simp only [List.nil_append]
  exact forall_earlier_iff_pairwise

/-- The verdict does not depend on the order. -/
theorem audit_accepted_perm {results other : List AuditResult} (h : results.Perm other) :
    AuditAccepted other ↔ AuditAccepted results := by
  rw [audit_accepted_iff, audit_accepted_iff]
  exact (h.pairwise_iff Compatible.symm).symm

/-- A result that does not count uses up no audit: it may be left out of a history that
does not use its audit identifier for another dispute. -/
theorem audit_accepted_uncounted {results : List AuditResult} {r : AuditResult}
    (hcounted : r.logicalAuditCounted = false)
    (htarget : ∀ d ∈ results, d.auditId = r.auditId → d.disputeId = r.disputeId) :
    AuditAccepted (r :: results) ↔ AuditAccepted results := by
  rw [audit_accepted_iff, audit_accepted_iff, List.pairwise_cons]
  refine and_iff_right fun d hd => ⟨fun heq => (htarget d hd heq.symm).symm, ?_⟩
  rintro ⟨hr, -⟩
  rw [hcounted] at hr
  cases hr

/-! ## The audit-once rule -/

/-- Every audit has one dispute and every dispute at most one counted audit. Audit
identifiers are unique in the runtime, dispute identifiers within their task. -/
structure AuditedOnce (results : List AuditResult) : Prop where
  target : ∀ d ∈ results, ∀ e ∈ results, d.auditId = e.auditId →
    d.taskId = e.taskId ∧ d.disputeId = e.disputeId
  once : ∀ (i j : Nat) d e, results[i]? = some d → results[j]? = some e →
    d.logicalAuditCounted → e.logicalAuditCounted → d.taskId = e.taskId →
    d.disputeId = e.disputeId → i = j

/-- The check decides the rule on a history and all its orders, and results of failed or
invalid executions use up no audit. -/
structure AuditOnceDecided (fromisoformat : IsoReader) (results : List AuditResult) : Prop where
  exact : AuditAccepted results ↔ AuditedOnce results
  anyOrder : ∀ other, results.Perm other → (AuditAccepted other ↔ AuditAccepted results)
  unused : ∀ r : AuditResult, r.validate fromisoformat = .ok () → r.validOutput = false →
    (∀ d ∈ results, d.auditId = r.auditId → d.disputeId = r.disputeId) →
    (AuditAccepted (r :: results) ↔ AuditAccepted results)

/-- The history breaks the rule where the check looks: one audit identifier with two
dispute identifiers, or two counted audits of one dispute of one task. -/
def Conflicting (results : List AuditResult) : Prop :=
  (∃ d ∈ results, ∃ e ∈ results, d.auditId = e.auditId ∧ d.disputeId ≠ e.disputeId) ∨
    ∃ (i j : Nat) (d e : AuditResult), results[i]? = some d ∧ results[j]? = some e ∧
      i ≠ j ∧ d.logicalAuditCounted ∧ e.logicalAuditCounted ∧ d.taskId = e.taskId ∧
      d.disputeId = e.disputeId

/-- Results of two tasks share an audit identifier, for equally named disputes. -/
def SharesAudit (results : List AuditResult) : Prop :=
  ∃ d ∈ results, ∃ e ∈ results, d.auditId = e.auditId ∧ d.disputeId = e.disputeId ∧
    d.taskId ≠ e.taskId

/-- Equally named disputes of two tasks each have a counted audit. -/
def SharesDispute (results : List AuditResult) : Prop :=
  ∃ d ∈ results, ∃ e ∈ results, d.logicalAuditCounted ∧ e.logicalAuditCounted ∧
    d.disputeId = e.disputeId ∧ d.taskId ≠ e.taskId

section
variable {results : List AuditResult}

theorem accepted_iff_not_conflicting :
    AuditAccepted results ↔ ¬ Conflicting results ∧ ¬ SharesDispute results := by
  rw [audit_accepted_iff, pairwise_iff_forall_ne fun _ _ h => h.symm]
  constructor
  · intro h
    refine ⟨?_, ?_⟩
    · -- results that differ stand at different places
      rintro (⟨d, hd, e, he, haudit, hdispute⟩ | ⟨i, j, d, e, hd, he, hne, hdc, hec, -, heq⟩)
      · obtain ⟨i, hi⟩ := List.mem_iff_getElem?.mp hd
        obtain ⟨j, hj⟩ := List.mem_iff_getElem?.mp he
        have hne : i ≠ j := by
          rintro rfl
          rw [hi, Option.some.injEq] at hj
          exact hdispute (congrArg _ hj)
        exact hdispute ((h i j d e hi hj hne).1 haudit)
      · exact (h i j d e hd he hne).2 ⟨hdc, hec, heq⟩
    · rintro ⟨d, hd, e, he, hdc, hec, heq, htask⟩
      obtain ⟨i, hi⟩ := List.mem_iff_getElem?.mp hd
      obtain ⟨j, hj⟩ := List.mem_iff_getElem?.mp he
      have hne : i ≠ j := by
        rintro rfl
        rw [hi, Option.some.injEq] at hj
        exact htask (congrArg _ hj)
      exact (h i j d e hi hj hne).2 ⟨hdc, hec, heq⟩
  · -- two counted audits of one dispute conflict, or are of different tasks
    rintro ⟨hconflicting, hshares⟩ i j d e hd he hne
    have hdmem := List.mem_of_getElem? hd
    have hemem := List.mem_of_getElem? he
    refine ⟨fun haudit => ?_, ?_⟩
    · by_contra hdispute
      exact hconflicting (.inl ⟨d, hdmem, e, hemem, haudit, hdispute⟩)
    · rintro ⟨hdc, hec, heq⟩
      by_cases htask : d.taskId = e.taskId
      · exact hconflicting (.inr ⟨i, j, d, e, hd, he, hne, hdc, hec, htask, heq⟩)
      · exact hshares ⟨d, hdmem, e, hemem, hdc, hec, heq, htask⟩

theorem auditedOnce_iff_not_conflicting :
    AuditedOnce results ↔ ¬ Conflicting results ∧ ¬ SharesAudit results := by
  constructor
  · intro h
    refine ⟨?_, ?_⟩
    · rintro (⟨d, hd, e, he, haudit, hdispute⟩ | ⟨i, j, d, e, hd, he, hne, hdc, hec, htask, heq⟩)
      · exact hdispute (h.target d hd e he haudit).2
      · exact hne (h.once i j d e hd he hdc hec htask heq)
    · rintro ⟨d, hd, e, he, haudit, -, htask⟩
      exact htask (h.target d hd e he haudit).1
  · rintro ⟨hconflicting, hshares⟩
    refine ⟨fun d hd e he haudit => ?_, fun i j d e hd he hdc hec htask heq => ?_⟩
    · have hdispute : d.disputeId = e.disputeId := by
        by_contra hne
        exact hconflicting (.inl ⟨d, hd, e, he, haudit, hne⟩)
      refine ⟨?_, hdispute⟩
      by_contra htask
      exact hshares ⟨d, hd, e, he, haudit, hdispute, htask⟩
    · by_contra hne
      exact hconflicting (.inr ⟨i, j, d, e, hd, he, hne, hdc, hec, htask, heq⟩)

end

/-- **The check decides the audit-once rule** of every history that breaks it where the
check looks, and of the others exactly when sharing a dispute identifier between tasks
and sharing an audit identifier between them go together. -/
theorem audit_decides_iff (fromisoformat : IsoReader) (results : List AuditResult) :
    AuditOnceDecided fromisoformat results ↔
      (¬ Conflicting results → (SharesDispute results ↔ SharesAudit results)) := by
  have hexact : (AuditAccepted results ↔ AuditedOnce results) ↔
      (¬ Conflicting results → (SharesDispute results ↔ SharesAudit results)) := by
    rw [accepted_iff_not_conflicting, auditedOnce_iff_not_conflicting, and_congr_right_iff]
    exact imp_congr_right fun _ => not_iff_not
  rw [← hexact]
  constructor
  · exact fun h => h.exact
  · intro h
    refine ⟨h, fun _ => audit_accepted_perm, fun r hvalid hinvalid htarget => ?_⟩
    exact audit_accepted_uncounted ((AuditResult.counted_eq hvalid).trans hinvalid) htarget

/-! ## Disputes of the same name -/

/-- A counted audit of `dispute-1` of a task. -/
def auditOf (taskId auditId : Identifier) : AuditResult where
  taskId
  artifactId := ⟨"audit-result-1", by decide⟩
  auditId
  disputeId := ⟨"dispute-1", by decide⟩
  createdAt := "2026-09-28T00:00:00Z"
  executionResult := .succeeded
  opinion := some .supportNeither
  confidence := some .high
  interpretation1Assessment := some ⟨[], []⟩
  interpretation2Assessment := some ⟨[], []⟩
  schemaValid := true
  referencesValid := true
  disputeScopeValid := true
  logicalAuditCounted := true
  recommendedNextState := .primaryReview

/-- One audit of the dispute each of two tasks calls `dispute-1`. -/
def separateAudits : List AuditResult :=
  [auditOf ⟨"task-1", .refl true⟩ ⟨"audit-1", by decide⟩,
    auditOf ⟨"task-2", by decide⟩ ⟨"audit-2", by decide⟩]

/-- The second task's only audit is rejected as the first task's second one. -/
theorem separate_audits_rejected :
    (∀ r ∈ separateAudits, r.validate sampleIso = .ok ()) ∧ AuditedOnce separateAudits ∧
      ¬ AuditAccepted separateAudits := by
  refine ⟨by decide +kernel, ⟨by decide +kernel, ?_⟩, by unfold AuditAccepted; decide +kernel⟩
  intro i j d e hd he _ _ htask _
  have htasks : (separateAudits.map (·.taskId)).Nodup := by decide +kernel
  obtain ⟨hi, -⟩ := List.getElem?_eq_some_iff.mp hd
  have hlt : i < (separateAudits.map (·.taskId)).length := by rwa [List.length_map]
  refine (List.getElem?_inj hlt htasks).mp ?_
  rw [List.getElem?_map, List.getElem?_map, hd, he]
  exact congrArg some htask

end StockResearch.Contracts
