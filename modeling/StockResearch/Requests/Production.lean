import StockResearch.Clock.DateTime

/-!
# Request state persisted before external transport

The value types of the production request runtime. A validated model is a
structure whose fields carry what its validators check, so a value that the
runtime would reject at its boundary cannot be built.

Clock readings and the instants of leases and gates are `DateTime`s. Timestamps
that the runtime stores and returns without reading them (`created_at`,
`completed_at`) stay text.
-/

namespace StockResearch.Requests

/-! ## Identifiers -/

/-- `^[A-Za-z0-9][A-Za-z0-9._:-]{0,127}$` -/
def isIdentifier (text : String) : Bool :=
  match text.toList with
  | [] => false
  | c :: rest => c.isAlphanum && decide (rest.length ≤ 127) &&
      rest.all fun c => c.isAlphanum || c == '.' || c == '_' || c == ':' || c == '-'

/-- A non-secret identifier. -/
structure Identifier where
  text : String
  valid : isIdentifier text = true
deriving DecidableEq

/-- `^[0-9a-f]{64}$` -/
def isSha256Hex (text : String) : Bool :=
  decide (text.toList.length = 64) &&
    text.toList.all fun c => c.isDigit || c == 'a' || c == 'b' || c == 'c' || c == 'd' || c == 'e'
      || c == 'f'

/-- A lower-case SHA-256 digest. -/
structure Sha256Hex where
  text : String
  valid : isSha256Hex text = true
deriving DecidableEq

/-- Text of an RFC 3339 timestamp that is stored and returned, never compared. -/
abbrev Timestamp := String

/-! ## Lifecycle states -/

/-- Durable lifecycle state of one logical external request. -/
inductive LogicalRequestState
  | queued | cancelled | succeeded | failed
deriving DecidableEq

/-- Durable lifecycle state of one controlled physical attempt. -/
inductive PhysicalAttemptState
  | reserved | started | succeeded | failed | unknown
deriving DecidableEq

/-- The states in which an attempt may still be sent or completed. -/
def PhysicalAttemptState.isActive : PhysicalAttemptState → Bool
  | .reserved | .started => true
  | .succeeded | .failed | .unknown => false

/-- Terminal outcome of exactly one logical request. -/
inductive LogicalResultOutcome
  | succeeded | failed | cancelled | unknown
deriving DecidableEq

/-! ## Requests, attempts and results -/

/-- The persisted columns of a logical request. -/
structure LogicalRequestRow where
  taskId : Identifier
  sourceId : Identifier
  operation : Identifier
  requestFingerprint : Sha256Hex
  sourceApprovalVersion : Nat
  sourceProfileVersion : Nat
  credentialScopeAlias : Option Identifier
  egressScope : Identifier
  createdAt : Timestamp
  state : LogicalRequestState := .queued
deriving DecidableEq

/-- Secret-free logical request persisted before queue processing. -/
structure ProductionLogicalRequest extends LogicalRequestRow where
  logicalRequestId : Identifier
deriving DecidableEq

/-- Secret-free physical attempt reserved under one lease generation. A new attempt
is always `reserved`, so the state is not a field. -/
structure ProductionPhysicalAttempt where
  physicalAttemptId : Identifier
  logicalRequestId : Identifier
  sequenceNumber : Nat
  leaseGeneration : Nat
  createdAt : Timestamp
deriving DecidableEq

/-- Failed and unknown outcomes carry an error code, the others do not. -/
def errorCodeMatches (outcome : LogicalResultOutcome) (errorCode : Option Identifier) : Bool :=
  match outcome with
  | .failed | .unknown => errorCode.isSome
  | .succeeded | .cancelled => errorCode.isNone

/-- Sanitized terminal result persisted without response content. -/
structure ProductionLogicalResult where
  logicalRequestId : Identifier
  outcome : LogicalResultOutcome
  completedAt : Timestamp
  errorCode : Option Identifier
  valid : errorCodeMatches outcome errorCode = true
deriving DecidableEq

/-! ## Leases and queue policies -/

/-- Timing policy of one runtime owner: at least three heartbeats per lease. -/
structure RuntimeLeasePolicy where
  leaseDurationSeconds : Nat := 30
  heartbeatIntervalSeconds : Nat := 10
  duration_ge : 3 ≤ leaseDurationSeconds := by decide
  heartbeat_ge : 1 ≤ heartbeatIntervalSeconds := by decide
  heartbeat_third : heartbeatIntervalSeconds * 3 ≤ leaseDurationSeconds := by decide

/-- Fenced ownership of the runtime, as one call returned it. -/
structure RuntimeLease where
  ownerToken : Identifier
  generation : Nat
  acquiredAt : DateTime
  heartbeatAt : DateTime
  expiresAt : DateTime
deriving DecidableEq

/-- Backpressure limits of the production queue. -/
structure QueuePolicy where
  globalLimit : Nat := 1024
  rateDomainLimit : Nat := 256
  taskRateDomainLimit : Nat := 64
  task_ge : 1 ≤ taskRateDomainLimit := by decide
  task_le_domain : taskRateDomainLimit ≤ rateDomainLimit := by decide
  domain_le_global : rateDomainLimit ≤ globalLimit := by decide

/-- One durable queue item selected by the fair scheduler. -/
structure QueueClaim where
  logicalRequestId : Identifier
  taskId : Identifier
  rateDomain : Identifier
  enqueuedAt : DateTime
deriving DecidableEq

/-! ## Gates -/

/-- Gate scopes evaluated immediately before sending. -/
inductive GateScope
  | global | egress | provider | origin | credential | operation | task | role
deriving DecidableEq

/-- The persisted and reported name of a scope. -/
def GateScope.value : GateScope → String
  | .global => "global"
  | .egress => "egress"
  | .provider => "provider"
  | .origin => "origin"
  | .credential => "credential"
  | .operation => "operation"
  | .task => "task"
  | .role => "role"

/-- Every scope, in acquisition order. -/
def GateScope.all : List GateScope :=
  [.global, .egress, .provider, .origin, .credential, .operation, .task, .role]

theorem GateScope.mem_all (s : GateScope) : s ∈ GateScope.all := by cases s <;> decide

theorem GateScope.all_nodup : GateScope.all.Nodup := by decide

/-- Concurrency and time limits of one scope. -/
structure GateLimit where
  maxConcurrency : Nat
  minIntervalSeconds : Seconds
  requestsPerWindow : Nat
  windowSeconds : Seconds
  concurrency_ge : 1 ≤ maxConcurrency
  requests_ge : 1 ≤ requestsPerWindow
  window_pos : 0 < windowSeconds.num

/-- A limit for every scope. -/
structure HierarchicalGatePolicy where
  limits : GateScope → GateLimit

/-- Non-secret aliases of every applicable gate key. -/
structure GateKeys where
  globalKey : Identifier := ⟨"global", by decide⟩
  egress : Identifier
  provider : Identifier
  origin : Identifier
  credential : Identifier
  operation : Identifier
  task : Identifier
  role : Identifier
deriving DecidableEq

/-- The key of one scope. -/
def GateKeys.key (keys : GateKeys) : GateScope → Identifier
  | .global => keys.globalKey
  | .egress => keys.egress
  | .provider => keys.provider
  | .origin => keys.origin
  | .credential => keys.credential
  | .operation => keys.operation
  | .task => keys.task
  | .role => keys.role

/-- The keys in the approved global-to-role acquisition order. -/
def GateKeys.ordered (keys : GateKeys) : List (GateScope × Identifier) :=
  GateScope.all.map fun scope => (scope, keys.key scope)

/-- Durable ownership of all gates for one physical attempt. -/
structure GateReservation where
  reservationId : Identifier
  physicalAttemptId : Identifier
  logicalRequestId : Identifier
  leaseGeneration : Nat
  acquiredAt : DateTime
deriving DecidableEq

/-! ## Admission -/

/-- Whether a cached answer would apply; caching itself is always disabled. -/
structure ProductionCachePolicy where
  applicable : Bool

/-- What the cache decided for one consumer. -/
inductive CacheDecision
  | disabled | notApplicable
deriving DecidableEq

/-- The part a consumer plays in its single flight. -/
inductive ConsumerRole
  | leader | follower
deriving DecidableEq

/-- Durable cache and single-flight outcome of one logical consumer. -/
structure AdmissionDecision where
  logicalRequestId : Identifier
  cacheDecision : CacheDecision
  singleFlightDecision : ConsumerRole
  leaderLogicalRequestId : Identifier
deriving DecidableEq

/-! ## Raw publications -/

/-- Durable state of one raw publication. -/
inductive RawPublicationState
  | staging | committed | reconciliationRequired | failed
deriving DecidableEq

/-- The persisted identity of a raw publication. -/
structure RawPublicationIntent where
  publicationId : Identifier
  taskId : Identifier
  logicalRequestId : Identifier
  physicalAttemptId : Identifier
  sourceId : Identifier
  operation : Identifier
  contentSha256 : Sha256Hex
  byteCount : Nat
  mediaType : String
  encoding : String
  rawSchemaId : Identifier
  rawSchemaVersion : Nat
  publicationGeneration : Nat
deriving DecidableEq

/-- Durable reference to an immutable raw acquisition bundle. -/
structure CommittedRawReference where
  publicationId : Identifier
  taskId : Identifier
  logicalRequestId : Identifier
  physicalAttemptId : Identifier
  relativePath : String
  contentSha256 : Sha256Hex
  byteCount : Nat
  rawSchemaId : Identifier
  rawSchemaVersion : Nat
  publicationGeneration : Nat
deriving DecidableEq

/-! ## Errors -/

/-- Why a gate refused an acquisition. -/
inductive BlockedReason
  | cooldown | concurrency | minimumInterval | rollingWindow
deriving DecidableEq

/-- The reported name of a reason. -/
def BlockedReason.value : BlockedReason → String
  | .cooldown => "cooldown"
  | .concurrency => "concurrency"
  | .minimumInterval => "minimum_interval"
  | .rollingWindow => "rolling_window"

/-- The sanitized fail-closed errors of the repository and its coordinator. -/
inductive RuntimeStorageError
  | logicalRequestPersistenceFailed
  | queueEnqueueFailed
  | queueFull
  | singleFlightStateInconsistent
  | singleFlightScopeMismatch
  | singleFlightAuditGap
  | singleFlightFollowerHasAttempt
  | singleFlightLeaderRequired
  | singleFlightConsumerNotActive
  | requestAdmissionFailed
  | requestCancellationFailed
  | inFlightCancellationRequiresTransportResult
  | logicalRequestNotCancellable
  | logicalRequestNotActive
  | logicalRequestHasActiveAttempt
  | logicalSuccessAttemptsInvalid
  | logicalUnknownAttemptMissing
  | logicalResultPersistenceFailed
  | queueSchedulerInconsistent
  | queueClaimRace
  | queueClaimFailed
  | gateAttemptGenerationMismatch
  | gateRequestNotDequeued
  | gateRequestNotActive
  | gateBlocked (scope : GateScope) (reason : BlockedReason)
  | gateAcquisitionFailed
  | invalidGateReleaseOutcome
  | successfulAttemptRequiresRawCandidate
  | staleGateReservation
  | gateStateInconsistent
  | gateReleaseFailed
  | physicalAttemptSequenceRejected
  | physicalAttemptReservationMismatch
  | physicalAttemptPersistenceFailed
  | physicalAttemptLogicalNotActive
  | physicalAttemptAlreadyUnknown
  | physicalAttemptAlreadyActive
  | physicalAttemptReservationFailed
  | physicalAttemptDiscardRejected
  | physicalAttemptDiscardFailed
  | physicalAttemptTransitionRejected
  | physicalAttemptTransitionFailed
  | rawPublicationAttemptMismatch
  | rawPublicationIntentFailed
  | rawPublicationTransitionRejected
  | rawPublicationCommitFailed
  | rawPublicationTransitionFailed
  | runtimeClockRollback
  | runtimeLeaseHeld
  | leaseReconciliationRequired
  | runtimeLeaseAcquisitionFailed
  | expiredRuntimeLeaseNotFound
  | runtimeRecoveryClockOrGenerationAnomaly
  | runtimeRecoveryAuditGap
  | runtimeRecoveryLeaseRace
  | runtimeRecoveryFailed
  | runtimeLeaseExpired
  | staleRuntimeLease
  | runtimeLeaseHeartbeatFailed
  | runtimeLeaseReleaseFailed
  | transportAttemptMismatch
  | duplicateTransportPermit
  | invalidTransportPermit
  | responseMediaTypeRejected
  | responseEncodingRejected
  | responseOriginRejected
  | responseRedirectInconsistent
  | responseOriginInconsistent
deriving DecidableEq

/-- The text of an error. -/
def RuntimeStorageError.message : RuntimeStorageError → String
  | .logicalRequestPersistenceFailed => "logical_request_persistence_failed"
  | .queueEnqueueFailed => "queue_enqueue_failed"
  | .queueFull => "queue_full"
  | .singleFlightStateInconsistent => "single_flight_state_inconsistent"
  | .singleFlightScopeMismatch => "single_flight_scope_mismatch"
  | .singleFlightAuditGap => "single_flight_audit_gap"
  | .singleFlightFollowerHasAttempt => "single_flight_follower_has_attempt"
  | .singleFlightLeaderRequired => "single_flight_leader_required"
  | .singleFlightConsumerNotActive => "single_flight_consumer_not_active"
  | .requestAdmissionFailed => "request_admission_failed"
  | .requestCancellationFailed => "request_cancellation_failed"
  | .inFlightCancellationRequiresTransportResult => "in_flight_cancellation_requires_transport_result"
  | .logicalRequestNotCancellable => "logical_request_not_cancellable"
  | .logicalRequestNotActive => "logical_request_not_active"
  | .logicalRequestHasActiveAttempt => "logical_request_has_active_attempt"
  | .logicalSuccessAttemptsInvalid => "logical_success_attempts_invalid"
  | .logicalUnknownAttemptMissing => "logical_unknown_attempt_missing"
  | .logicalResultPersistenceFailed => "logical_result_persistence_failed"
  | .queueSchedulerInconsistent => "queue_scheduler_inconsistent"
  | .queueClaimRace => "queue_claim_race"
  | .queueClaimFailed => "queue_claim_failed"
  | .gateAttemptGenerationMismatch => "gate_attempt_generation_mismatch"
  | .gateRequestNotDequeued => "gate_request_not_dequeued"
  | .gateRequestNotActive => "gate_request_not_active"
  | .gateBlocked scope reason => "gate_blocked:" ++ scope.value ++ ":" ++ reason.value
  | .gateAcquisitionFailed => "gate_acquisition_failed"
  | .invalidGateReleaseOutcome => "invalid_gate_release_outcome"
  | .successfulAttemptRequiresRawCandidate => "successful_attempt_requires_raw_candidate"
  | .staleGateReservation => "stale_gate_reservation"
  | .gateStateInconsistent => "gate_state_inconsistent"
  | .gateReleaseFailed => "gate_release_failed"
  | .physicalAttemptSequenceRejected => "physical_attempt_sequence_rejected"
  | .physicalAttemptReservationMismatch => "physical_attempt_reservation_mismatch"
  | .physicalAttemptPersistenceFailed => "physical_attempt_persistence_failed"
  | .physicalAttemptLogicalNotActive => "physical_attempt_logical_not_active"
  | .physicalAttemptAlreadyUnknown => "physical_attempt_already_unknown"
  | .physicalAttemptAlreadyActive => "physical_attempt_already_active"
  | .physicalAttemptReservationFailed => "physical_attempt_reservation_failed"
  | .physicalAttemptDiscardRejected => "physical_attempt_discard_rejected"
  | .physicalAttemptDiscardFailed => "physical_attempt_discard_failed"
  | .physicalAttemptTransitionRejected => "physical_attempt_transition_rejected"
  | .physicalAttemptTransitionFailed => "physical_attempt_transition_failed"
  | .rawPublicationAttemptMismatch => "raw_publication_attempt_mismatch"
  | .rawPublicationIntentFailed => "raw_publication_intent_failed"
  | .rawPublicationTransitionRejected => "raw_publication_transition_rejected"
  | .rawPublicationCommitFailed => "raw_publication_commit_failed"
  | .rawPublicationTransitionFailed => "raw_publication_transition_failed"
  | .runtimeClockRollback => "runtime_clock_rollback"
  | .runtimeLeaseHeld => "runtime_lease_held"
  | .leaseReconciliationRequired => "lease_reconciliation_required"
  | .runtimeLeaseAcquisitionFailed => "runtime_lease_acquisition_failed"
  | .expiredRuntimeLeaseNotFound => "expired_runtime_lease_not_found"
  | .runtimeRecoveryClockOrGenerationAnomaly => "runtime_recovery_clock_or_generation_anomaly"
  | .runtimeRecoveryAuditGap => "runtime_recovery_audit_gap"
  | .runtimeRecoveryLeaseRace => "runtime_recovery_lease_race"
  | .runtimeRecoveryFailed => "runtime_recovery_failed"
  | .runtimeLeaseExpired => "runtime_lease_expired"
  | .staleRuntimeLease => "stale_runtime_lease"
  | .runtimeLeaseHeartbeatFailed => "runtime_lease_heartbeat_failed"
  | .runtimeLeaseReleaseFailed => "runtime_lease_release_failed"
  | .transportAttemptMismatch => "transport_attempt_mismatch"
  | .duplicateTransportPermit => "duplicate_transport_permit"
  | .invalidTransportPermit => "invalid_transport_permit"
  | .responseMediaTypeRejected => "response_media_type_rejected"
  | .responseEncodingRejected => "response_encoding_rejected"
  | .responseOriginRejected => "response_origin_rejected"
  | .responseRedirectInconsistent => "response_redirect_inconsistent"
  | .responseOriginInconsistent => "response_origin_inconsistent"

/-- Exceptions that reach the code of the repository. -/
inductive Exn
  /-- `RuntimeStorageError` -/
  | storage (error : RuntimeStorageError)
  /-- `sqlite3.IntegrityError`: a key, uniqueness or reference constraint. -/
  | integrity
  /-- `OverflowError` of `datetime` and `timedelta` arithmetic. -/
  | overflow
  /-- A `BaseException` that is no `Exception`, such as `KeyboardInterrupt`, raised by a
  callable of the caller. -/
  | interrupt
deriving DecidableEq

instance : Coe RuntimeStorageError Exn := ⟨.storage⟩

end StockResearch.Requests
