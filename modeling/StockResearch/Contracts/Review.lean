import StockResearch.Contracts.Base

/-!
# Primary reviews

The primary reviewer's findings on a synthesis, and the pass flag derived from them.

- `ReviewFinding`, `ReviewerRecheck`: one finding, and one recheck after a response.
- `PrimaryReview`, `PrimaryReview.validate`: the model and its validators.
- `PrimaryReview.references`: the artifacts a review refers to.
-/

namespace StockResearch.Contracts

/-- `FindingClassification` -/
inductive FindingClassification where
  | factualError
  | insufficientEvidence
  | schemaOrFormatError
  | policyApplicationDifference
  | logicalGap
  | futureHypothesisDifference
  | riskMaterialityDifference
  | styleOrExpression
deriving DecidableEq

/-- `FindingSeverity` -/
inductive FindingSeverity where
  | low
  | medium
  | high
  | critical
deriving DecidableEq

/-- `FindingLifecycle` -/
inductive FindingLifecycle where
  | «open»
  | responseSubmitted
  | reReviewRequired
  | resolved
  | disputed
  | humanDecisionRequired
deriving DecidableEq

/-- `ReviewOverallStatus` -/
inductive ReviewOverallStatus where
  | approve
  | approveWithChanges
  | rework
  | object
deriving DecidableEq

/-- `ReReviewDecision` -/
inductive ReReviewDecision where
  | accepted
  | partiallyAccepted
  | rejected
  | evidenceOrChangeRequired
  | findingWithdrawn
deriving DecidableEq

/-- `MaterialityImpactType` -/
inductive MaterialityImpactType where
  | horizonAssessment
  | evaluability
  | majorThesis
  | majorRisk
  | entryExitReference
  | other
deriving DecidableEq

/-- `ClassificationPendingV1`, as far as it is read. -/
structure ClassificationPending where
  candidates : List FindingClassification
deriving DecidableEq

/-- `validate_candidates` -/
def ClassificationPending.validate (pending : ClassificationPending) : Except ValueError Unit := do
  require (pending.candidates ≠ []) "Tuple should have at least 1 item"
  require pending.candidates.Nodup "classification pending candidates must be unique"

/-- `MaterialityImpactV1`, as far as it is read. -/
structure MaterialityImpact where
  impactId : Identifier
  impactType : MaterialityImpactType
  valid : Bool
deriving DecidableEq

/-- `MaterialityAssessmentV1` -/
structure MaterialityAssessment where
  impacts : List MaterialityImpact
  isMaterial : Bool
deriving DecidableEq

/-- `validate_derived_materiality` -/
def MaterialityAssessment.validate (materiality : MaterialityAssessment) :
    Except ValueError Unit := do
  require (materiality.isMaterial =
      materiality.impacts.any fun impact => impact.valid && impact.impactType ≠ .other)
    "is_material must be derived from valid approved materiality impacts"
  require (materiality.impacts.map (·.impactId)).Nodup "materiality impact IDs must be unique"

/-- The fields of `ReviewFindingV1` its validator and the review read. -/
structure ReviewFinding where
  findingId : Identifier
  targetArtifactReference : ArtifactReference
  targetClaimIds : List Identifier
  primaryClassification : Option FindingClassification
  secondaryClassifications : List FindingClassification
  classificationReason : Option NonEmptyString
  classificationPending : Option ClassificationPending
  severity : FindingSeverity
  evidenceIds : List Identifier
  policyReferences : List ArtifactReference
  materiality : MaterialityAssessment
  lifecycle : FindingLifecycle
  unresolvedRetentionReason : Option NonEmptyString
deriving DecidableEq

namespace ReviewFinding

/-- A finding is classified or waits to be. -/
def checkClassification (finding : ReviewFinding) : Except ValueError Unit := do
  require (finding.classificationPending.isSome ≠ finding.primaryClassification.isSome)
    "a finding must have either a primary classification or classification_pending"
  if finding.classificationPending.isSome then
    require (finding.secondaryClassifications = [] ∧ finding.classificationReason = none)
      "classification_pending findings must not claim finalized classifications"
    require (finding.lifecycle ∉ [.resolved, .disputed, .humanDecisionRequired])
      "classification_pending findings cannot enter a terminal or escalation lifecycle"
  else
    require (finding.classificationReason ≠ none)
      "classified findings require a classification reason"

/-- `validate_classification_and_lifecycle` -/
def validateFinding (finding : ReviewFinding) : Except ValueError Unit := do
  finding.checkClassification
  require finding.secondaryClassifications.Nodup
    "secondary finding classifications must be unique"
  require (∀ primary ∈ finding.primaryClassification, primary ∉ finding.secondaryClassifications)
    "the primary classification must not be repeated as a secondary classification"
  require finding.targetClaimIds.Nodup "target claim IDs must be unique"
  require finding.evidenceIds.Nodup "finding evidence IDs must be unique"
  require (¬ (finding.lifecycle ≠ .resolved ∧ finding.severity ∈ [.low, .medium] ∧
      finding.unresolvedRetentionReason = none))
    "retained low or medium findings require an unresolved retention reason"
  require (¬ (finding.lifecycle = .resolved ∧ finding.unresolvedRetentionReason ≠ none))
    "resolved findings must not contain an unresolved retention reason"

/-- `ReviewFindingV1.model_validate`, on fields of the right types. -/
def validate (finding : ReviewFinding) : Except ValueError Unit := do
  checkOptional ClassificationPending.validate finding.classificationPending
  finding.materiality.validate
  finding.validateFinding

/-- `finding.severity in {HIGH, CRITICAL}` -/
def major (finding : ReviewFinding) : Bool := finding.severity ∈ [.high, .critical]

/-- The finding stands in the way of passing. -/
def blocks (finding : ReviewFinding) : Bool :=
  finding.classificationPending.isSome ||
    finding.lifecycle ≠ .resolved && (finding.major || finding.materiality.isMaterial)

end ReviewFinding

/-- The fields of `ReviewerRecheckV1` its validators and the review read. -/
structure ReviewerRecheck where
  findingId : Identifier
  responseReference : ArtifactReference
  createdAt : String
  decision : ReReviewDecision
  resultingLifecycle : FindingLifecycle
deriving DecidableEq

/-- `ensure_valid_created_at` and `validate_response_reference` -/
def ReviewerRecheck.validate (fromisoformat : IsoReader) (recheck : ReviewerRecheck) :
    Except ValueError Unit := do
  checkTimestamp fromisoformat "created_at" (some recheck.createdAt)
  require (recheck.responseReference.schemaId.val = "detailed-analysis.review-response")
    "a reviewer recheck must reference a review-response artifact"

/-- The recheck confirms that its finding is resolved. -/
def ReviewerRecheck.confirms (recheck : ReviewerRecheck) : Bool :=
  recheck.resultingLifecycle = .resolved && recheck.decision ∈ [.accepted, .findingWithdrawn]

/-- `ReviewCompletionGateV1` -/
structure ReviewCompletionGate where
  structuredOutputValid : Bool
  evidenceReferencesValid : Bool
  findingProcessingComplete : Bool
  policyDeviationRecordsComplete : Bool
deriving DecidableEq

/-- All four inputs of the gate hold. -/
def ReviewCompletionGate.passes (gate : ReviewCompletionGate) : Bool :=
  gate.structuredOutputValid && gate.evidenceReferencesValid && gate.findingProcessingComplete &&
    gate.policyDeviationRecordsComplete

/-- The fields of `PrimaryReviewV1` its validators and the final result read. -/
structure PrimaryReview where
  taskId : Identifier
  artifactId : Identifier
  reviewedSynthesisReference : ArtifactReference
  previousReviewReference : Option ArtifactReference
  reviewedResponseReferences : List ArtifactReference
  evidenceSetVersion : Nat
  reviewRound : Nat
  createdAt : String
  overallStatus : ReviewOverallStatus
  findings : List ReviewFinding
  reviewerRechecks : List ReviewerRecheck
  completionGate : ReviewCompletionGate
  reviewPassed : Bool
deriving DecidableEq

namespace PrimaryReview

/-- The first round follows no review, later rounds do. -/
def checkPrevious (review : PrimaryReview) : Except ValueError Unit :=
  match review.previousReviewReference with
  | some previous => do
    require (previous.schemaId.val = "detailed-analysis.primary-review")
      "previous review must reference a primary-review artifact"
    require (review.reviewRound ≠ 1)
      "the first review round must not reference a previous review"
  | none =>
    require (review.reviewRound = 1)
      "later review rounds require a previous primary-review reference"

/-- The references of a review to the synthesis, the previous round and the responses. -/
def checkReferences (review : PrimaryReview) : Except ValueError Unit := do
  require (review.reviewedSynthesisReference.schemaId.val = "detailed-analysis.synthesis-result")
    "primary review must reference a synthesis-result artifact"
  review.checkPrevious
  require (∀ reference ∈ review.reviewedResponseReferences,
      reference.schemaId.val = "detailed-analysis.review-response")
    "reviewed responses must reference review-response artifacts"

/-- `gates_pass and status_passes and not unresolved_blocker` -/
def passes (review : PrimaryReview) : Bool :=
  review.completionGate.passes && review.overallStatus ∈ [.approve, .approveWithChanges] &&
    !review.findings.any (·.blocks)

/-- `validate_review_pass_flag` -/
def validateReviewPassFlag (review : PrimaryReview) : Except ValueError Unit := do
  review.checkReferences
  require (review.findings.map (·.findingId)).Nodup
    "finding IDs must be unique within a primary review"
  require (review.reviewerRechecks.map (·.findingId)).Nodup
    "a primary review round must not recheck the same finding more than once"
  require (∀ recheck ∈ review.reviewerRechecks, recheck.responseReference.artifactId ∈
      review.reviewedResponseReferences.map (·.artifactId))
    "each reviewer recheck must reference a response reviewed in this round"
  require (∀ finding ∈ review.findings, finding.lifecycle = .resolved ∧ finding.major →
      ∃ recheck ∈ review.reviewerRechecks, recheck.confirms ∧
        recheck.findingId = finding.findingId)
    "resolved high or critical findings require a confirming reviewer recheck"
  require (review.reviewPassed = review.passes)
    "review_passed must equal the approved completion-gate calculation"

/-- `PrimaryReviewV1.model_validate`, on fields of the right types. -/
def validate (fromisoformat : IsoReader) (review : PrimaryReview) : Except ValueError Unit := do
  require (1 ≤ review.evidenceSetVersion) "Input should be greater than or equal to 1"
  require (1 ≤ review.reviewRound) "Input should be greater than or equal to 1"
  checkTimestamp fromisoformat "created_at" (some review.createdAt)
  review.findings.forM (·.validate)
  review.reviewerRechecks.forM (·.validate fromisoformat)
  review.validateReviewPassFlag

/-- The artifacts a review refers to, apart from the review it follows. -/
def references (review : PrimaryReview) : List ArtifactReference :=
  review.reviewedSynthesisReference :: review.reviewedResponseReferences ++
    review.findings.flatMap (fun finding =>
      finding.targetArtifactReference :: finding.policyReferences) ++
    review.reviewerRechecks.map (·.responseReference)

end PrimaryReview

end StockResearch.Contracts
