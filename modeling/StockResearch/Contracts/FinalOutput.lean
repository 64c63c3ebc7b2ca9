import StockResearch.Contracts.Analysis
import StockResearch.Contracts.Errors
import StockResearch.Contracts.Evidence
import StockResearch.Contracts.Review

/-!
# Final results

The final machine-readable result of an analysis, and the check that it belongs with
the synthesis, the primary review and the evidence set it was adopted from.

- `FinalAnalysisResult`, `FinalAnalysisResult.validate`: the model and its validators.
- `validateFinalResultConsistency`: the check across the four artifacts.
- `Closed`: the four artifacts refer to each other and to nothing in each other's place.
- `closed_iff`: what an accepted final result still lacks of that.
-/

namespace StockResearch.Contracts

/-! ## The contract -/

/-- `HumanDocumentType` -/
inductive HumanDocumentType where
  | finalReport
  | humanDecisionRequest
deriving DecidableEq

/-- `HumanDocumentLanguageOverrideV1` -/
structure HumanDocumentLanguageOverride where
  targetDocuments : List HumanDocumentType
  language : NonEmptyString
deriving DecidableEq

/-- `ensure_unique_target_documents` -/
def HumanDocumentLanguageOverride.validate (override : HumanDocumentLanguageOverride) :
    Except ValueError Unit := do
  require (override.targetDocuments ≠ []) "Tuple should have at least 1 item"
  require override.targetDocuments.Nodup "language override document targets must be unique"

/-- `HumanDocumentArtifactV1`, with the inputs of its template's provenance. -/
structure HumanDocumentArtifact where
  documentType : HumanDocumentType
  language : NonEmptyString
  generatedAt : String
  inputReferences : List ArtifactReference
deriving DecidableEq

/-- `ensure_valid_generated_at`, and the inputs the provenance must name. -/
def HumanDocumentArtifact.validate (fromisoformat : IsoReader)
    (document : HumanDocumentArtifact) : Except ValueError Unit := do
  checkTimestamp fromisoformat "generated_at" (some document.generatedAt)
  require (document.inputReferences ≠ []) "Tuple should have at least 1 item"

/-- `AuditGateDecision` -/
inductive AuditGateDecision where
  | startAudit
  | doNotAudit
  | humanDecisionRequired
deriving DecidableEq

/-- `AuditInvocationRecordV1` -/
structure AuditInvocationRecord where
  disputeId : Identifier
  decision : AuditGateDecision
  auditRequestReference : Option ArtifactReference
  auditResultReference : Option ArtifactReference
deriving DecidableEq

/-- `validate_audit_references` -/
def AuditInvocationRecord.validate (invocation : AuditInvocationRecord) :
    Except ValueError Unit := do
  require (¬ (invocation.decision = .startAudit ∧ invocation.auditRequestReference = none))
    "started audits require an audit-request reference"
  require (invocation.decision = .startAudit ∨
      invocation.auditRequestReference = none ∧ invocation.auditResultReference = none)
    "non-started audits must not claim request or result references"
  require (∀ reference ∈ invocation.auditRequestReference,
      reference.schemaId.val = "detailed-analysis.audit-request")
    "audit request reference must use the audit-request schema"
  require (∀ reference ∈ invocation.auditResultReference,
      reference.schemaId.val = "detailed-analysis.audit-result")
    "audit result reference must use the audit-result schema"

/-- The fields of `FinalAnalysisResultV1` its validators and the consistency check read. -/
structure FinalAnalysisResult where
  taskId : Identifier
  artifactId : Identifier
  createdAt : String
  taskReference : ArtifactReference
  evidenceSetReference : ArtifactReference
  evidenceSetVersion : Nat
  evidenceFrozenAt : String
  freshnessCheckedAt : String
  synthesisReference : ArtifactReference
  primaryReviewReference : ArtifactReference
  horizonResults : List SynthesizedHorizonResult
  crossHorizonSummary : CrossHorizonSummary
  entryExitContext : EntryExitReferenceContext
  unresolvedDifferenceIds : List Identifier
  auditInvocations : List AuditInvocationRecord
  humanDecisionReferences : List ArtifactReference
  humanDocumentLanguageOverride : Option HumanDocumentLanguageOverride
  humanDocuments : List HumanDocumentArtifact
deriving DecidableEq

namespace FinalAnalysisResult

/-- The language a final report must have. -/
def expectedLanguage (final : FinalAnalysisResult) : String :=
  match final.humanDocumentLanguageOverride with
  | some override => if .finalReport ∈ override.targetDocuments then override.language else "ja"
  | none => "ja"

/-- The lifecycle timestamps, in order. -/
def checkTimes (fromisoformat : IsoReader) (final : FinalAnalysisResult) :
    Except ValueError Unit := do
  let frozenAt ← parseRfc3339 fromisoformat final.evidenceFrozenAt "evidence_frozen_at"
  let freshnessAt ← parseRfc3339 fromisoformat final.freshnessCheckedAt "freshness_checked_at"
  let createdAt ← parseRfc3339 fromisoformat final.createdAt "created_at"
  require (frozenAt.instant ≤ freshnessAt.instant ∧ freshnessAt.instant ≤ createdAt.instant)
    "final result timestamps must follow the evidence lifecycle order"

/-- Exactly one final report, in the expected language. -/
def checkReport (final : FinalAnalysisResult) : Except ValueError Unit :=
  match final.humanDocuments.filter (·.documentType = .finalReport) with
  | [report] =>
    require (report.language.val = final.expectedLanguage)
      "the final report language must match the task override or Japanese default"
  | _ => .error "final analysis requires exactly one human-facing final report"

/-- `validate_final_result` -/
def validateFinalResult (fromisoformat : IsoReader) (final : FinalAnalysisResult) :
    Except ValueError Unit := do
  require (final.taskReference.schemaId.val = "detailed-analysis.detailed-analysis-task" ∧
      final.evidenceSetReference.schemaId.val = "detailed-analysis.evidence-set" ∧
      final.synthesisReference.schemaId.val = "detailed-analysis.synthesis-result" ∧
      final.primaryReviewReference.schemaId.val = "detailed-analysis.primary-review")
    "final analysis inputs must reference their exact public contract schemas"
  require (final.horizonResults.map (·.horizon) = horizonOrder)
    "final analysis requires medium_term followed by long_term"
  final.checkTimes fromisoformat
  require (∀ reference ∈ final.humanDecisionReferences,
      reference.schemaId.val = "detailed-analysis.human-decision")
    "human decisions must use the human-decision schema"
  final.checkReport

/-- `FinalAnalysisResultV1.model_validate`, on fields of the right types. -/
def validate (fromisoformat : IsoReader) (final : FinalAnalysisResult) :
    Except ValueError Unit := do
  checkTimestamp fromisoformat "created_at" (some final.createdAt)
  checkTimestamp fromisoformat "evidence_frozen_at" (some final.evidenceFrozenAt)
  checkTimestamp fromisoformat "freshness_checked_at" (some final.freshnessCheckedAt)
  require (1 ≤ final.evidenceSetVersion) "Input should be greater than or equal to 1"
  final.horizonResults.forM (·.validate)
  final.entryExitContext.validate fromisoformat
  final.auditInvocations.forM (·.validate)
  checkOptional HumanDocumentLanguageOverride.validate final.humanDocumentLanguageOverride
  require (final.humanDocuments ≠ []) "Tuple should have at least 1 item"
  final.humanDocuments.forM (·.validate fromisoformat)
  final.validateFinalResult fromisoformat

/-- The artifacts a final result refers to. -/
def references (final : FinalAnalysisResult) : List ArtifactReference :=
  [final.taskReference, final.evidenceSetReference, final.synthesisReference,
      final.primaryReviewReference] ++
    final.auditInvocations.flatMap (fun invocation =>
      invocation.auditRequestReference.toList ++ invocation.auditResultReference.toList) ++
    final.humanDecisionReferences ++ final.humanDocuments.flatMap (·.inputReferences)

end FinalAnalysisResult

/-! ## The check across artifacts -/

/-- `_raise_conflict` -/
def raiseConflict (message instancePath : String) : ValidationIssue where
  category := .semantic
  code := .artifactConflict
  message := .ofString message
  instancePath := .ofString instancePath
  context := []

/-- `_raise_missing_reference` -/
def raiseMissingReference (instancePath : String) (referenceId : Identifier) :
    ValidationIssue where
  category := .reference
  code := .referenceNotFound
  message := .ofString "final result reference does not resolve to the supplied artifact"
  instancePath := .ofString instancePath
  context := [(.ofString "reference_id", .str (.ofString referenceId))]

/-- A reference of `expected_references`. -/
def expectReference (reference : ArtifactReference) (actualId : Identifier)
    (instancePath : String) : Except ValidationIssue Unit :=
  require (reference.artifactId = actualId)
    (raiseMissingReference instancePath reference.artifactId)

/-- `sorted(missing)[0]` -/
def firstOf (missing : List Identifier) : Option Identifier :=
  missing.foldr (fun id least => some (least.elim id fun other =>
    if id.val ≤ other.val then id else other)) none

theorem firstOf_eq_none {missing : List Identifier} : firstOf missing = none ↔ missing = [] := by
  cases missing <;> simp [firstOf]

/-- Every identifier is among the known ones. -/
def expectKnown (ids known : List Identifier) (instancePath : String) :
    Except ValidationIssue Unit :=
  match firstOf (ids.filter (· ∉ known)) with
  | some missing => .error (raiseMissingReference instancePath missing)
  | none => .ok ()

theorem expectKnown_eq_ok {ids known : List Identifier} {instancePath : String} :
    expectKnown ids known instancePath = .ok () ↔ ids ⊆ known := by
  have hfilter : ids.filter (· ∉ known) = [] ↔ ids ⊆ known := by
    simp only [List.filter_eq_nil_iff, decide_eq_true_eq, not_not]
    rfl
  rw [← hfilter, ← firstOf_eq_none, expectKnown]
  cases firstOf (ids.filter (· ∉ known)) <;> simp

/-- `validate_final_result_consistency` -/
def validateFinalResultConsistency (final : FinalAnalysisResult) (synthesis : SynthesisResult)
    (review : PrimaryReview) (evidence : EvidenceSet) : Except ValidationIssue Unit := do
  require (final.taskId = synthesis.taskId ∧ final.taskId = review.taskId ∧
      final.taskId = evidence.taskId)
    (raiseConflict "final result inputs must belong to one task" "/task_id")
  expectReference final.synthesisReference synthesis.artifactId "/synthesis_reference"
  expectReference final.primaryReviewReference review.artifactId "/primary_review_reference"
  expectReference final.evidenceSetReference evidence.artifactId "/evidence_set_reference"
  expectReference review.reviewedSynthesisReference synthesis.artifactId
    "/primary_review_reference/reviewed_synthesis_reference"
  require (final.evidenceSetVersion = synthesis.evidenceSetVersion ∧
      final.evidenceSetVersion = review.evidenceSetVersion ∧
      final.evidenceSetVersion = evidence.evidenceSetVersion)
    (raiseConflict "final result inputs must use one evidence-set version" "/evidence_set_version")
  require (final.horizonResults = synthesis.horizonResults)
    (raiseConflict "final result must preserve the reviewed synthesis value" "/horizon_results")
  require (final.crossHorizonSummary = synthesis.crossHorizonSummary)
    (raiseConflict "final result must preserve the reviewed synthesis value"
      "/cross_horizon_summary")
  require (final.entryExitContext = synthesis.entryExitContext)
    (raiseConflict "final result must preserve the reviewed synthesis value" "/entry_exit_context")
  expectKnown final.unresolvedDifferenceIds (synthesis.differences.map (·.differenceId))
    "/unresolved_difference_ids"
  expectKnown final.entryExitContext.evidenceIds evidence.knownIds
    "/entry_exit_context/evidence_ids"
  require review.reviewPassed
    (raiseConflict "final result requires a passing primary review" "/primary_review_reference")

/-! ## Adopted results -/

/-- A final result the check accepts, with the artifacts it was checked against. -/
structure AdoptedResult (fromisoformat : IsoReader) where
  final : FinalAnalysisResult
  synthesis : SynthesisResult
  review : PrimaryReview
  evidence : AcceptedEvidenceSet fromisoformat
  final_valid : final.validate fromisoformat = .ok ()
  synthesis_valid : synthesis.validate fromisoformat = .ok ()
  review_valid : review.validate fromisoformat = .ok ()
  accepted : validateFinalResultConsistency final synthesis review evidence.toEvidenceSet = .ok ()

namespace AdoptedResult

variable {fromisoformat : IsoReader} (adopted : AdoptedResult fromisoformat)

/-- The artifacts the four refer to, apart from the predecessors of the evidence set and
of the review. -/
def references : List ArtifactReference :=
  adopted.final.references ++ adopted.synthesis.references ++ adopted.review.references ++
    adopted.evidence.references

/-- The schemas and identifiers of the artifacts supplied for reference. -/
def supplied : List (String × Identifier) :=
  [("detailed-analysis.evidence-set", adopted.evidence.artifactId),
    ("detailed-analysis.synthesis-result", adopted.synthesis.artifactId),
    ("detailed-analysis.primary-review", adopted.review.artifactId)]

/-- A reference to an evidence set, a synthesis or a review names the supplied one. -/
def Names (reference : ArtifactReference) : Prop :=
  ∀ p ∈ adopted.supplied, reference.schemaId.val = p.1 → reference.artifactId = p.2

/-- References to the same supplied artifact carry one digest. -/
def OneDigest : Prop :=
  ∀ p ∈ adopted.supplied, ∀ r ∈ adopted.references, ∀ s ∈ adopted.references,
    r.schemaId.val = p.1 → r.artifactId = p.2 → s.schemaId.val = p.1 → s.artifactId = p.2 →
    r.sha256 = s.sha256

/-- The final result closes over one set of artifacts. -/
structure Closed : Prop where
  task : adopted.final.taskId = adopted.synthesis.taskId ∧
    adopted.final.taskId = adopted.review.taskId ∧
    adopted.final.taskId = adopted.evidence.taskId
  version : adopted.final.evidenceSetVersion = adopted.synthesis.evidenceSetVersion ∧
    adopted.final.evidenceSetVersion = adopted.review.evidenceSetVersion ∧
    adopted.final.evidenceSetVersion = adopted.evidence.evidenceSetVersion
  names : ∀ reference ∈ adopted.references, adopted.Names reference
  digest : adopted.OneDigest
  projection : adopted.final.horizonResults = adopted.synthesis.horizonResults ∧
    adopted.final.crossHorizonSummary = adopted.synthesis.crossHorizonSummary ∧
    adopted.final.entryExitContext = adopted.synthesis.entryExitContext
  differences : ∀ id, id ∈ adopted.final.unresolvedDifferenceIds ∨
      (∃ result ∈ adopted.final.horizonResults, id ∈ result.differenceIds) →
    id ∈ adopted.synthesis.differences.map (·.differenceId)
  evidenceIds : ∀ id ∈ adopted.final.entryExitContext.evidenceIds, id ∈ adopted.evidence.knownIds

/-- The references whose target the check never looks at and whose schema is either open
or the evidence set's. -/
def unchecked : List ArtifactReference :=
  adopted.synthesis.evidenceSetReference ::
    adopted.final.humanDocuments.flatMap (·.inputReferences) ++
    adopted.review.findings.flatMap (fun finding =>
      finding.targetArtifactReference :: finding.policyReferences) ++
    adopted.evidence.references

/-- What the check leaves open: where those references point, and the digests. -/
structure Aligned : Prop where
  names : ∀ reference ∈ adopted.unchecked, adopted.Names reference
  digest : adopted.OneDigest

variable {adopted}

/-- A reference of any other schema names nothing supplied. -/
theorem names_of_schema {reference : ArtifactReference} {schema : String}
    (h : reference.schemaId.val = schema)
    (hother : schema ∉ ["detailed-analysis.evidence-set", "detailed-analysis.synthesis-result",
      "detailed-analysis.primary-review"]) : adopted.Names reference := by
  intro p hp hschema
  have hmem : p.1 ∈ adopted.supplied.map Prod.fst := List.mem_map_of_mem hp
  rw [← hschema, h] at hmem
  exact absurd hmem hother

/-- A reference to a supplied artifact, looked up under its schema. -/
theorem names_of_supplied {reference : ArtifactReference} {p : String × Identifier}
    (hp : p ∈ adopted.supplied) (hschema : reference.schemaId.val = p.1)
    (hid : reference.artifactId = p.2) : adopted.Names reference := by
  intro q hq hq'
  have hkeys : (adopted.supplied.map Prod.fst).Nodup := by
    show ["detailed-analysis.evidence-set", "detailed-analysis.synthesis-result",
      "detailed-analysis.primary-review"].Nodup
    decide
  have heq : p = q := List.inj_on_of_nodup_map hkeys hp hq (hschema.symm.trans hq')
  exact heq ▸ hid

theorem final_schemas :
    adopted.final.taskReference.schemaId.val = "detailed-analysis.detailed-analysis-task" ∧
      adopted.final.evidenceSetReference.schemaId.val = "detailed-analysis.evidence-set" ∧
      adopted.final.synthesisReference.schemaId.val = "detailed-analysis.synthesis-result" ∧
      adopted.final.primaryReviewReference.schemaId.val = "detailed-analysis.primary-review" ∧
      (∀ reference ∈ adopted.final.humanDecisionReferences,
        reference.schemaId.val = "detailed-analysis.human-decision") ∧
      ∀ invocation ∈ adopted.final.auditInvocations, invocation.validate = .ok () := by
  have h := adopted.final_valid
  simp only [FinalAnalysisResult.validate, FinalAnalysisResult.validateFinalResult, bind_eq_ok,
    require_eq_ok] at h
  obtain ⟨-, -, -, -, -, -, -, -, -, -, -, -, ⟨⟩, haudits, -, -, -, -, -, -, -, hschemas, -, -,
    -, -, -, hdecisions, -⟩ := h
  exact ⟨hschemas.1, hschemas.2.1, hschemas.2.2.1, hschemas.2.2.2, hdecisions,
    forM_eq_ok.mp haudits⟩

theorem synthesis_schemas :
    (∀ input ∈ adopted.synthesis.workerInputs,
      input.artifactReference.schemaId.val = "detailed-analysis.worker-analysis") ∧
      ∀ result ∈ adopted.synthesis.horizonResults,
        result.differenceIds ⊆ adopted.synthesis.differences.map (·.differenceId) := by
  have h := adopted.synthesis_valid
  simp only [SynthesisResult.validate, SynthesisResult.validateSynthesis, bind_eq_ok,
    require_eq_ok] at h
  obtain ⟨-, -, -, -, -, -, -, -, -, -, -, hinputs, -, -, -, -, -, -, hdifferences⟩ := h
  exact ⟨hinputs, hdifferences⟩

theorem review_schemas :
    adopted.review.reviewedSynthesisReference.schemaId.val =
        "detailed-analysis.synthesis-result" ∧
      (∀ reference ∈ adopted.review.reviewedResponseReferences,
        reference.schemaId.val = "detailed-analysis.review-response") ∧
      ∀ recheck ∈ adopted.review.reviewerRechecks,
        recheck.responseReference.schemaId.val = "detailed-analysis.review-response" := by
  have h := adopted.review_valid
  simp only [PrimaryReview.validate, PrimaryReview.validateReviewPassFlag,
    PrimaryReview.checkReferences, bind_eq_ok, require_eq_ok] at h
  obtain ⟨-, -, -, -, -, -, -, -, ⟨⟩, hrechecks, -, ⟨-, hsynthesis, -, -, hresponses⟩, -⟩ := h
  refine ⟨hsynthesis, hresponses, fun recheck hmem => ?_⟩
  have hrecheck := forM_eq_ok.mp hrechecks recheck hmem
  simp only [ReviewerRecheck.validate, bind_eq_ok, require_eq_ok] at hrecheck
  obtain ⟨-, -, hschema⟩ := hrecheck
  exact hschema

/-- What the check across the artifacts finds. -/
theorem checked :
    (adopted.final.taskId = adopted.synthesis.taskId ∧
      adopted.final.taskId = adopted.review.taskId ∧
      adopted.final.taskId = adopted.evidence.taskId) ∧
    adopted.final.synthesisReference.artifactId = adopted.synthesis.artifactId ∧
    adopted.final.primaryReviewReference.artifactId = adopted.review.artifactId ∧
    adopted.final.evidenceSetReference.artifactId = adopted.evidence.artifactId ∧
    adopted.review.reviewedSynthesisReference.artifactId = adopted.synthesis.artifactId ∧
    (adopted.final.evidenceSetVersion = adopted.synthesis.evidenceSetVersion ∧
      adopted.final.evidenceSetVersion = adopted.review.evidenceSetVersion ∧
      adopted.final.evidenceSetVersion = adopted.evidence.evidenceSetVersion) ∧
    adopted.final.horizonResults = adopted.synthesis.horizonResults ∧
    adopted.final.crossHorizonSummary = adopted.synthesis.crossHorizonSummary ∧
    adopted.final.entryExitContext = adopted.synthesis.entryExitContext ∧
    adopted.final.unresolvedDifferenceIds ⊆
      adopted.synthesis.differences.map (·.differenceId) ∧
    adopted.final.entryExitContext.evidenceIds ⊆ adopted.evidence.knownIds := by
  have h := adopted.accepted
  simp only [validateFinalResultConsistency, expectReference, bind_eq_ok, require_eq_ok] at h
  obtain ⟨-, htask, -, hsynthesis, -, hreview, -, hevidence, -, hreviewed, -, hversion, -,
    hhorizons, -, hsummary, -, hcontext, ⟨⟩, hdifferences, ⟨⟩, hids, -⟩ := h
  exact ⟨htask, hsynthesis, hreview, hevidence, hreviewed, hversion, hhorizons, hsummary,
    hcontext, expectKnown_eq_ok.mp hdifferences, expectKnown_eq_ok.mp hids⟩

/-- Every reference of the final result that is not open names what it should. -/
theorem final_names {reference : ArtifactReference}
    (h : reference ∈ adopted.final.references) :
    adopted.Names reference ∨ reference ∈ adopted.unchecked := by
  obtain ⟨htask, hevidence, hsynthesis, hreview, hdecisions, haudits⟩ :=
    adopted.final_schemas
  obtain ⟨-, hsynthesisId, hreviewId, hevidenceId, -⟩ := adopted.checked
  simp only [FinalAnalysisResult.references, List.mem_append, List.mem_cons, List.not_mem_nil,
    or_false, List.mem_flatMap, Option.mem_toList] at h
  rcases h with (((rfl | rfl | rfl | rfl) | ⟨invocation, hmem, hreference⟩) | hdecision) |
    ⟨document, hmem, hreference⟩
  · exact .inl (names_of_schema htask (by decide))
  · exact .inl (names_of_supplied (p := (_, _)) (by simp [supplied]) hevidence hevidenceId)
  · exact .inl (names_of_supplied (p := (_, _)) (by simp [supplied]) hsynthesis hsynthesisId)
  · exact .inl (names_of_supplied (p := (_, _)) (by simp [supplied]) hreview hreviewId)
  · have hvalid := haudits invocation hmem
    simp only [AuditInvocationRecord.validate, bind_eq_ok, require_eq_ok] at hvalid
    obtain ⟨-, -, -, -, -, hrequest, hresult⟩ := hvalid
    rcases hreference with hreference | hreference
    · exact .inl (names_of_schema (hrequest reference hreference) (by decide))
    · exact .inl (names_of_schema (hresult reference hreference) (by decide))
  · exact .inl (names_of_schema (hdecisions reference hdecision) (by decide))
  · refine .inr (List.mem_cons_of_mem _ (List.mem_append_left _ (List.mem_append_left _ ?_)))
    exact List.mem_flatMap.mpr ⟨document, hmem, hreference⟩

/-- So does every reference of the synthesis but the one to its evidence set. -/
theorem synthesis_names {reference : ArtifactReference}
    (h : reference ∈ adopted.synthesis.references) :
    adopted.Names reference ∨ reference ∈ adopted.unchecked := by
  rcases List.mem_cons.mp h with rfl | hinput
  · exact .inr List.mem_cons_self
  · obtain ⟨input, hmem, rfl⟩ := List.mem_map.mp hinput
    exact .inl (names_of_schema (adopted.synthesis_schemas.1 input hmem) (by decide))

theorem review_names {reference : ArtifactReference}
    (h : reference ∈ adopted.review.references) :
    adopted.Names reference ∨ reference ∈ adopted.unchecked := by
  obtain ⟨hsynthesis, hresponses, hrechecks⟩ := adopted.review_schemas
  obtain ⟨-, -, -, -, hreviewed, -⟩ := adopted.checked
  simp only [PrimaryReview.references, List.mem_append, List.mem_cons, List.mem_map] at h
  rcases h with ((rfl | hresponse) | hfinding) | ⟨recheck, hmem, rfl⟩
  · exact .inl (names_of_supplied (p := (_, _)) (by simp [supplied]) hsynthesis hreviewed)
  · exact .inl (names_of_schema (hresponses reference hresponse) (by decide))
  · exact .inr (List.mem_cons_of_mem _ (List.mem_append_left _ (List.mem_append_right _ hfinding)))
  · exact .inl (names_of_schema (hrechecks recheck hmem) (by decide))

/-- Every reference the check leaves alone either names nothing supplied or is one of the
unchecked ones. -/
theorem references_names {reference : ArtifactReference} (h : reference ∈ adopted.references) :
    adopted.Names reference ∨ reference ∈ adopted.unchecked := by
  simp only [references, List.mem_append] at h
  rcases h with ((hfinal | hsynthesis) | hreview) | hevidence
  · exact final_names hfinal
  · exact synthesis_names hsynthesis
  · exact review_names hreview
  · exact .inr (List.mem_cons_of_mem _ (List.mem_append_right _ hevidence))

theorem unchecked_subset : adopted.unchecked ⊆ adopted.references := by
  intro reference h
  simp only [unchecked, List.mem_append, List.mem_cons] at h
  simp only [references, List.mem_append]
  rcases h with ((rfl | hinput) | hfinding) | hevidence
  · exact .inl (.inl (.inr List.mem_cons_self))
  · exact .inl (.inl (.inl (List.mem_append_right _ hinput)))
  · exact .inl (.inr (List.mem_append_left _ (List.mem_append_right _ hfinding)))
  · exact .inr hevidence

/-- The differences a final result mentions are those of its synthesis. -/
theorem differences_known {id : Identifier}
    (h : id ∈ adopted.final.unresolvedDifferenceIds ∨
      ∃ result ∈ adopted.final.horizonResults, id ∈ result.differenceIds) :
    id ∈ adopted.synthesis.differences.map (·.differenceId) := by
  obtain ⟨-, -, -, -, -, -, hhorizons, -, -, hdifferences, -⟩ := adopted.checked
  rcases h with hunresolved | ⟨result, hresult, hid⟩
  · exact hdifferences hunresolved
  · rw [hhorizons] at hresult
    exact adopted.synthesis_schemas.2 result hresult hid

/-- **An accepted final result closes over one set of artifacts exactly when the
references and digests the check leaves open are aligned.** -/
theorem closed_iff (adopted : AdoptedResult fromisoformat) :
    adopted.Closed ↔ adopted.Aligned := by
  constructor
  · exact fun h => ⟨fun reference hmem => h.names reference (unchecked_subset hmem), h.digest⟩
  · intro h
    obtain ⟨htask, -, -, -, -, hversion, hhorizons, hsummary, hcontext, -, hids⟩ :=
      adopted.checked
    refine ⟨htask, hversion, fun reference hmem => ?_, h.digest,
      ⟨hhorizons, hsummary, hcontext⟩, fun id hid => differences_known hid,
      fun id hid => hids hid⟩
    rcases references_names hmem with hnames | hunchecked
    · exact hnames
    · exact h.names reference hunchecked

end AdoptedResult

/-! ## A synthesis of other evidence -/

/-- A reference to an artifact of a schema. -/
def referenceTo (schemaId : SchemaIdentifier) (artifactId : Identifier) : ArtifactReference :=
  ⟨⟨"artifact", by decide⟩, artifactId, schemaId, 1, zeroSha256, Nat.one_pos⟩

def evidenceSetSchema : SchemaIdentifier := ⟨"detailed-analysis.evidence-set", by decide +kernel⟩
def synthesisSchema : SchemaIdentifier := ⟨"detailed-analysis.synthesis-result", by decide +kernel⟩
def reviewSchema : SchemaIdentifier := ⟨"detailed-analysis.primary-review", by decide +kernel⟩
def workerSchema : SchemaIdentifier := ⟨"detailed-analysis.worker-analysis", by decide +kernel⟩
def taskSchema : SchemaIdentifier :=
  ⟨"detailed-analysis.detailed-analysis-task", by decide +kernel⟩

/-- A horizon that cannot be evaluated. -/
def sampleHorizon (horizon : AnalysisHorizon) : SynthesizedHorizonResult :=
  ⟨horizon, ⟨"summary", by decide⟩, [], [], [], [], .notEvaluable, none⟩

/-- Normalized evidence on its metadata, frozen. -/
def sampleEvidence : EvidenceSet where
  taskId := ⟨"task-1", .refl true⟩
  artifactId := ⟨"evidence-set-v1", .refl true⟩
  evidenceSetVersion := 1
  state := .frozen
  previousEvidenceSet := none
  evidenceFrozenAt := "2026-09-28T00:00:00Z"
  freshnessCheckedAt := "2026-09-29T00:00:00Z"
  analysisCompletedAt := none
  records :=
    [.sourceMetadata {
        evidenceId := ⟨"metadata-1", by decide⟩
        sourceApprovalReference := referenceTo taskSchema ⟨"approval-1", by decide⟩
        publishedAt := none
        firstAvailableAt := none
        updatedAt := none
        retrievedAt := "2026-09-28T00:00:00Z"
        applicablePeriod := {
          startDate := "2026-09-23"
          endDate := "2026-09-23"
          first := ⟨739881, by decide⟩
          last := ⟨739881, by decide⟩
          startDate_read := by decide +kernel
          endDate_read := by decide +kernel
          ordered := by decide } },
      normalizedFrom ⟨"normalized-1", by decide⟩ ⟨"metadata-1", by decide⟩]
  freshnessAssessments := [⟨⟨"price", .refl true⟩, [⟨"normalized-1", by decide⟩]⟩]
  invalidations := []

/-- A synthesis of the evidence set of the given name. -/
def sampleSynthesis (evidenceSetId : Identifier) : SynthesisResult where
  taskId := ⟨"task-1", .refl true⟩
  artifactId := ⟨"synthesis-1", by decide⟩
  createdAt := "2026-09-29T00:00:00Z"
  workerInputs :=
    [⟨.codexWorker, referenceTo workerSchema ⟨"codex-1", by decide⟩⟩,
      ⟨.claudeWorker, referenceTo workerSchema ⟨"claude-1", by decide⟩⟩]
  evidenceSetReference := referenceTo evidenceSetSchema evidenceSetId
  evidenceSetVersion := 1
  differences := []
  horizonResults := horizonOrder.map sampleHorizon
  crossHorizonSummary := ⟨[], [], ⟨"summary", by decide⟩⟩
  entryExitContext :=
    ⟨"2026-09-28T00:00:00Z", ⟨"price", by decide⟩, [], [], [], [], ⟨"volatility", by decide⟩,
      [⟨"normalized-1", by decide⟩], []⟩

/-- A passing review of the synthesis. -/
def sampleReview : PrimaryReview where
  taskId := ⟨"task-1", .refl true⟩
  artifactId := ⟨"review-1", by decide⟩
  reviewedSynthesisReference := referenceTo synthesisSchema ⟨"synthesis-1", by decide⟩
  previousReviewReference := none
  reviewedResponseReferences := []
  evidenceSetVersion := 1
  reviewRound := 1
  createdAt := "2026-09-29T00:00:00Z"
  overallStatus := .approve
  findings := []
  reviewerRechecks := []
  completionGate := ⟨true, true, true, true⟩
  reviewPassed := true

/-- The final result adopted from them. -/
def sampleFinal : FinalAnalysisResult where
  taskId := ⟨"task-1", .refl true⟩
  artifactId := ⟨"final-1", by decide⟩
  createdAt := "2026-09-29T00:00:00Z"
  taskReference := referenceTo taskSchema ⟨"task-1", .refl true⟩
  evidenceSetReference := referenceTo evidenceSetSchema ⟨"evidence-set-v1", .refl true⟩
  evidenceSetVersion := 1
  evidenceFrozenAt := "2026-09-28T00:00:00Z"
  freshnessCheckedAt := "2026-09-29T00:00:00Z"
  synthesisReference := referenceTo synthesisSchema ⟨"synthesis-1", by decide⟩
  primaryReviewReference := referenceTo reviewSchema ⟨"review-1", by decide⟩
  horizonResults := horizonOrder.map sampleHorizon
  crossHorizonSummary := ⟨[], [], ⟨"summary", by decide⟩⟩
  entryExitContext := (sampleSynthesis ⟨"evidence-set-v1", .refl true⟩).entryExitContext
  unresolvedDifferenceIds := []
  auditInvocations := []
  humanDecisionReferences := []
  humanDocumentLanguageOverride := none
  humanDocuments :=
    [⟨.finalReport, ⟨"ja", by decide⟩, "2026-09-29T00:00:00Z",
      [referenceTo synthesisSchema ⟨"synthesis-1", by decide⟩]⟩]

/-- The final result is adopted although its synthesis was drawn from another evidence
set. -/
theorem mixed_evidence_adopted :
    ∃ adopted : AdoptedResult sampleIso,
      adopted.synthesis = sampleSynthesis ⟨"evidence-set-v2", by decide⟩ ∧
      adopted.evidence.toEvidenceSet = sampleEvidence ∧ ¬ adopted.Closed := by
  let adopted : AdoptedResult sampleIso := {
    final := sampleFinal
    synthesis := sampleSynthesis ⟨"evidence-set-v2", by decide⟩
    review := sampleReview
    evidence := ⟨sampleEvidence, by decide +kernel⟩
    final_valid := by decide +kernel
    synthesis_valid := by decide +kernel
    review_valid := by decide +kernel
    accepted := eq_ok_of_isOk (by decide +kernel) }
  refine ⟨adopted, rfl, rfl, fun h => ?_⟩
  have hnames := h.names _ (AdoptedResult.unchecked_subset List.mem_cons_self)
    ("detailed-analysis.evidence-set", ⟨"evidence-set-v1", by decide⟩) List.mem_cons_self rfl
  exact absurd hnames (by decide +kernel)

end StockResearch.Contracts
