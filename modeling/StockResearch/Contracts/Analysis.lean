import StockResearch.Contracts.Base

/-!
# Synthesis results

The orchestrator's synthesis of the two worker analyses: a result per horizon, the
comparison across horizons and the price context, with the differences it preserves.

- `SynthesizedHorizonResult`, `CrossHorizonSummary`, `EntryExitReferenceContext`: the
  parts a final result repeats.
- `SynthesisResult`, `SynthesisResult.validate`: the model and its validators.
-/

namespace StockResearch.Contracts

/-- `Confidence` -/
inductive Confidence where
  | low
  | medium
  | high
deriving DecidableEq

/-- `Evaluability` -/
inductive Evaluability where
  | evaluable
  | notEvaluable
deriving DecidableEq

/-- `AssessmentStatus` -/
inductive AssessmentStatus where
  | pass
  | conditional
  | investigate
  | reject
deriving DecidableEq

/-- `AnalysisHorizon` -/
inductive AnalysisHorizon where
  | mediumTerm
  | longTerm
deriving DecidableEq

/-- The two horizons, in the order every result has them. -/
def horizonOrder : List AnalysisHorizon := [.mediumTerm, .longTerm]

/-- `HorizonAssessmentV1` -/
structure HorizonAssessment where
  status : AssessmentStatus
  confidence : Confidence
  rationale : NonEmptyString
  conditionOrResearchNeeds : List NonEmptyString
deriving DecidableEq

/-- `SynthesizedHorizonResultV1` -/
structure SynthesizedHorizonResult where
  horizon : AnalysisHorizon
  summary : NonEmptyString
  agreedClaimIds : List Identifier
  differenceIds : List Identifier
  missingInformation : List NonEmptyString
  counterevidenceConditions : List NonEmptyString
  evaluability : Evaluability
  assessment : Option HorizonAssessment
deriving DecidableEq

/-- `validate_assessment_presence` -/
def SynthesizedHorizonResult.validate (result : SynthesizedHorizonResult) :
    Except ValueError Unit := do
  require (¬ (result.evaluability = .evaluable ∧ result.assessment = none))
    "evaluable synthesized horizons require an assessment"
  require (¬ (result.evaluability = .notEvaluable ∧ result.assessment ≠ none))
    "not_evaluable synthesized horizons must not contain an assessment"

/-- `CrossHorizonSummaryV1` -/
structure CrossHorizonSummary where
  agreements : List NonEmptyString
  differences : List NonEmptyString
  summary : NonEmptyString
deriving DecidableEq

/-- `EntryExitReferenceContextV1` -/
structure EntryExitReferenceContext where
  priceAsOf : String
  currentPriceContext : NonEmptyString
  entryReferenceConditions : List NonEmptyString
  technicalExitReferenceConditions : List NonEmptyString
  thesisInvalidationConditions : List NonEmptyString
  upcomingEventRisks : List NonEmptyString
  volatilityContext : NonEmptyString
  evidenceIds : List Identifier
  missingInformation : List NonEmptyString
deriving DecidableEq

/-- `ensure_valid_price_as_of`, and the evidence the context must name. -/
def EntryExitReferenceContext.validate (fromisoformat : IsoReader)
    (context : EntryExitReferenceContext) : Except ValueError Unit := do
  checkTimestamp fromisoformat "price_as_of" (some context.priceAsOf)
  require (context.evidenceIds ≠ []) "Tuple should have at least 1 item"

/-- The role of a normal worker. -/
inductive WorkerRole where
  | codexWorker
  | claudeWorker
deriving DecidableEq

/-- `WorkerAnalysisInputV1` -/
structure WorkerAnalysisInput where
  workerRole : WorkerRole
  artifactReference : ArtifactReference
deriving DecidableEq

/-- `SynthesisDifferenceV1`, as far as it is read. -/
structure SynthesisDifference where
  differenceId : Identifier
  evidenceIds : List Identifier
deriving DecidableEq

/-- The fields of `SynthesisResultV1` its validators and the final result read. -/
structure SynthesisResult where
  taskId : Identifier
  artifactId : Identifier
  createdAt : String
  workerInputs : List WorkerAnalysisInput
  evidenceSetReference : ArtifactReference
  evidenceSetVersion : Nat
  differences : List SynthesisDifference
  horizonResults : List SynthesizedHorizonResult
  crossHorizonSummary : CrossHorizonSummary
  entryExitContext : EntryExitReferenceContext
deriving DecidableEq

namespace SynthesisResult

/-- `validate_synthesis` -/
def validateSynthesis (synthesis : SynthesisResult) : Except ValueError Unit := do
  require (synthesis.workerInputs.map (·.workerRole) = [.codexWorker, .claudeWorker])
    "synthesis requires Codex then Claude worker inputs"
  require (∀ input ∈ synthesis.workerInputs,
      input.artifactReference.schemaId.val = "detailed-analysis.worker-analysis")
    "synthesis worker inputs must reference worker-analysis artifacts"
  require (synthesis.evidenceSetReference.schemaId.val = "detailed-analysis.evidence-set")
    "synthesis must reference an evidence-set artifact"
  require (synthesis.horizonResults.map (·.horizon) = horizonOrder)
    "synthesis requires medium_term followed by long_term"
  require (synthesis.differences.map (·.differenceId)).Nodup
    "synthesis difference IDs must be unique"
  require (∀ result ∈ synthesis.horizonResults,
      result.differenceIds ⊆ synthesis.differences.map (·.differenceId))
    "horizon results must reference declared synthesis differences"

/-- `SynthesisResultV1.model_validate`, on fields of the right types. -/
def validate (fromisoformat : IsoReader) (synthesis : SynthesisResult) :
    Except ValueError Unit := do
  checkTimestamp fromisoformat "created_at" (some synthesis.createdAt)
  require (1 ≤ synthesis.evidenceSetVersion) "Input should be greater than or equal to 1"
  synthesis.horizonResults.forM (·.validate)
  synthesis.entryExitContext.validate fromisoformat
  synthesis.validateSynthesis

/-- The artifacts a synthesis refers to. -/
def references (synthesis : SynthesisResult) : List ArtifactReference :=
  synthesis.evidenceSetReference :: synthesis.workerInputs.map (·.artifactReference)

end SynthesisResult

end StockResearch.Contracts
