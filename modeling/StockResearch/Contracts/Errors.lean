import StockResearch.Contracts.Base

/-!
# Validation errors

The categories and codes of the public error contract, and the issue a dedicated
validator raises before it becomes one.

- `ErrorCategory`, `ErrorCode`, `codesOf`: the approved catalog.
- `ValidationIssue`: what `RuleValidationError` carries.
-/

namespace StockResearch.Contracts

/-- `ErrorCategory` -/
inductive ErrorCategory where
  | schema
  | semantic
  | reference
  | stateTransition
  | policy
  | security
deriving DecidableEq

/-- `ErrorCode` -/
inductive ErrorCode where
  | invalidJson
  | unsafeYaml
  | duplicateYamlKey
  | nonJsonYamlValue
  | unknownSchema
  | unsupportedSchemaVersion
  | requiredFieldMissing
  | typeMismatch
  | unknownField
  | constraintViolation
  | artifactConflict
  | markdownMismatch
  | referenceNotFound
  | referenceTypeMismatch
  | referenceVersionMismatch
  | transitionNotAllowed
  | checkpointInvalid
  | policyNotFound
  | policyVersionMismatch
  | policyViolation
  | secretMaterialDetected
  | externalInstructionDetected
  | permissionScopeViolation
deriving DecidableEq

/-- `ERROR_CODES_BY_CATEGORY` -/
def codesOf : ErrorCategory → List ErrorCode
  | .schema =>
    [.invalidJson, .unsafeYaml, .duplicateYamlKey, .nonJsonYamlValue, .unknownSchema,
      .unsupportedSchemaVersion, .requiredFieldMissing, .typeMismatch, .unknownField,
      .constraintViolation]
  | .semantic => [.artifactConflict, .markdownMismatch]
  | .reference => [.referenceNotFound, .referenceTypeMismatch, .referenceVersionMismatch]
  | .stateTransition => [.transitionNotAllowed, .checkpointInvalid]
  | .policy => [.policyNotFound, .policyVersionMismatch, .policyViolation]
  | .security => [.secretMaterialDetected, .externalInstructionDetected, .permissionScopeViolation]

/-- `ValidationIssue`: what a `RuleValidationError` carries. Nothing checks it before it
becomes an error artifact. -/
structure ValidationIssue where
  category : ErrorCategory
  code : ErrorCode
  message : PyStr
  instancePath : PyStr
  context : List (PyStr × JsonValue)

end StockResearch.Contracts
