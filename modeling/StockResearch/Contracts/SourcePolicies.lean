import StockResearch.Clock.Spelling
import StockResearch.Contracts.Base

/-!
# Source approvals and profiles

The approval of a source and the profile of its coordinator, with what their validators
found. Dates of an approval are texts in any spelling `date.fromisoformat` reads.

- `IsoDay`: such a text, and the day it names.
- `SourceApproval`, `QuantitativeSetting`, `SourceProfile`: the contracts, as far as
  anything reads them.
-/

namespace StockResearch.Contracts

/-- A text that `_validate_iso_date` accepts. -/
structure IsoDay where
  text : String
  day : Date
  text_read : Date.fromisoformat text = some day

/-- `ApprovalStatus` -/
inductive ApprovalStatus where
  | draft
  | approved
  | suspended
  | expired
  | rejected
deriving DecidableEq

/-- `KnowledgeStatus` -/
inductive KnowledgeStatus where
  | known
  | unknown
  | unsupported
  | notRetrieved
deriving DecidableEq

/-- `SourceApprovalV1` -/
structure SourceApproval where
  artifactId : Identifier
  approvalVersion : Nat
  sourceId : Identifier
  status : ApprovalStatus
  effectiveOn : Option IsoDay
  recheckDueOn : Option IsoDay
  usageEntity : NonEmptyString
  credentialScopeAlias : Option Identifier
  onlineUseAllowed : Bool
  externalAgentTransferAllowed : Bool
  approved_dates : status = .approved → effectiveOn.isSome ∧ recheckDueOn.isSome
  online_approved : onlineUseAllowed → status = .approved
  transfer_online : externalAgentTransferAllowed → onlineUseAllowed

/-- A number of a setting: an `int` or a `float`. -/
inductive SettingValue where
  | int (value : Int)
  | float (value : PyFloat)
deriving DecidableEq

/-- `value < 0` -/
def SettingValue.isNegative : SettingValue → Bool
  | int value => value < 0
  | float (.finite value) => value < 0
  | float .negInf => true
  | float _ => false

/-- `QuantitativeSettingV1` -/
structure QuantitativeSetting where
  knowledgeStatus : KnowledgeStatus
  value : Option SettingValue
  unit : Identifier
  known_value : knowledgeStatus = .known ↔ value.isSome
  nonnegative : ∀ number ∈ value, number.isNegative = false

/-- `SourceProfileV1`, its three policies taken apart. -/
structure SourceProfile where
  artifactId : Identifier
  sourceId : Identifier
  profileVersion : Nat
  sourceApprovalReference : ArtifactReference
  sourceApprovalStatus : ApprovalStatus
  enabled : Bool
  credentialScopeAlias : Option Identifier
  maxConcurrency : Nat
  minIntervalSeconds : QuantitativeSetting
  rateRequests : QuantitativeSetting
  rateWindowSeconds : QuantitativeSetting
  burst : Nat
  cacheEnabled : Bool
  batchSupportStatus : KnowledgeStatus
  maxBatchSize : QuantitativeSetting
  defaultCooldownSeconds : QuantitativeSetting
  enabled_approved : enabled → sourceApprovalStatus = .approved
  reference_schema : sourceApprovalReference.schemaId.val = "detailed-analysis.source-approval"

end StockResearch.Contracts
