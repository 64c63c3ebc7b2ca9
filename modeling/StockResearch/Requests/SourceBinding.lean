import StockResearch.Contracts.SourcePolicies

/-!
# The online gate of a source

The snapshot of a source's configuration that requests are bound to, and the check that
lets them through: it compares the evaluation day with the days of the approval.

- `SourceBinding`, `SourceBinding.limits`: the code.
- `SourceBinding.inForce_of_limits`: a gate that opens found the approval in force.
-/

namespace StockResearch.Requests

open Contracts

/-- `SourceBinding`; the factory token is the module's own or it is not. -/
structure SourceBinding where
  approval : SourceApproval
  profile : SourceProfile
  approvalReference : ArtifactReference
  profileReference : ArtifactReference
  evaluationDate : Date
  hasFactoryToken : Bool

/-- What `limits` raises. -/
inductive BindingError where
  | valueError (message : String)
  | overflowError
deriving DecidableEq

/-- `float(value)`: an integer is rounded, or too large. -/
def SettingValue.toFloat (ofInt : Int → Option ℚ) : SettingValue → Except BindingError PyFloat
  | .int value => do
    let rounded ← fetch (ofInt value) .overflowError
    pure (.finite rounded)
  | .float value => pure value

/-- `_positive`; `math.isfinite` converts an integer, too. -/
def positive (ofInt : Int → Option ℚ) (setting : QuantitativeSetting) (unit : String) :
    Except BindingError ℚ := do
  let unsupported : BindingError := .valueError "unsupported_quantitative_setting"
  require (setting.knowledgeStatus = .known) unsupported
  require (setting.unit.val = unit) unsupported
  let value ← fetch setting.value unsupported
  match ← SettingValue.toFloat ofInt value with
  | .finite number => do
    require (0 < number) unsupported
    pure number
  | _ => .error unsupported

/-- The window of the gate, on days. -/
def onlineWindow (effectiveOn recheckDueOn : IsoDay) (evaluationDate : Date) : Bool :=
  effectiveOn.day ≤ evaluationDate ∧ evaluationDate < recheckDueOn.day

/-- The approval is in force on the evaluation day. -/
def onlineInForce (approval : SourceApproval) (evaluationDate : Date) : Bool :=
  match approval.effectiveOn, approval.recheckDueOn with
  | some effectiveOn, some recheckDueOn => onlineWindow effectiveOn recheckDueOn evaluationDate
  | _, _ => false

namespace SourceBinding

/-- The condition `limits` starts with. -/
def supported (binding : SourceBinding) : Bool :=
  let a := binding.approval
  let p := binding.profile
  binding.hasFactoryToken ∧ a.status = .approved ∧ a.onlineUseAllowed ∧ p.enabled ∧
    onlineInForce a binding.evaluationDate ∧ p.sourceId = a.sourceId ∧
    p.sourceApprovalStatus = a.status ∧ p.credentialScopeAlias = a.credentialScopeAlias ∧
    p.sourceApprovalReference = binding.approvalReference ∧
    binding.profileReference.artifactId = p.artifactId ∧
    binding.approvalReference.artifactId = a.artifactId ∧ p.maxConcurrency = 1 ∧ p.burst = 1 ∧
    ¬ p.cacheEnabled ∧ p.batchSupportStatus = .unsupported ∧
    p.maxBatchSize.knowledgeStatus = .unsupported ∧
    p.defaultCooldownSeconds.knowledgeStatus ≠ .known

/-- `limits`: concurrency, interval, requests, window, burst and the cooldown's status. -/
def limits (ofInt : Int → Option ℚ) (binding : SourceBinding) :
    Except BindingError (Nat × ℚ × Int × ℚ × Nat × KnowledgeStatus) := do
  require binding.supported (.valueError "unsupported_source_binding")
  let interval ← positive ofInt binding.profile.minIntervalSeconds "second"
  let window ← positive ofInt binding.profile.rateWindowSeconds "second"
  let count ← positive ofInt binding.profile.rateRequests "request"
  match binding.profile.rateRequests.value with
  | some (.int _) =>
    pure (1, interval, count.floor, window, 1, binding.profile.defaultCooldownSeconds.knowledgeStatus)
  | _ => .error (.valueError "unsupported_request_limit")

/-- A gate that opens found the approval in force. -/
theorem inForce_of_limits {ofInt : Int → Option ℚ} {binding : SourceBinding}
    {gate : Nat × ℚ × Int × ℚ × Nat × KnowledgeStatus} (h : binding.limits ofInt = .ok gate) :
    binding.approval.status = .approved ∧
      onlineInForce binding.approval binding.evaluationDate := by
  obtain ⟨⟨⟩, hsupported, -⟩ := bind_eq_ok.mp h
  rw [require_eq_ok, supported] at hsupported
  obtain ⟨-, hstatus, -, -, hforce, -⟩ := of_decide_eq_true hsupported
  exact ⟨hstatus, hforce⟩

end SourceBinding

end StockResearch.Requests
