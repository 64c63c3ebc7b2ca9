import StockResearch.Contracts.Base
import StockResearch.Lib.Resolution
import StockResearch.Preparation.TradingDates

/-!
# Evidence sets

The versioned manifest of evidence an analysis uses. Source metadata stands on its
own, a raw payload names its metadata, and derived records name the records they are
computed from.

- `EvidenceRecord`, `EvidenceSet`: the model and its validators.
- `Uses`, `Sourced`: the provenance relation, and that it leads to sources.
- `sourced_iff_exhausts`: of an accepted set it does exactly when striking out
  records whose inputs are struck out strikes out them all.
-/

namespace StockResearch.Contracts

open Preparation (ApplicablePeriod)

/-! ## Records -/

/-- `SourceMetadataEvidenceV1`, as far as its validators and the set's read it. -/
structure SourceMetadataEvidence where
  evidenceId : Identifier
  sourceApprovalReference : ArtifactReference
  publishedAt : Option String
  firstAvailableAt : Option String
  updatedAt : Option String
  retrievedAt : String
  applicablePeriod : ApplicablePeriod

/-- `RawEvidenceV1` -/
structure RawEvidence where
  evidenceId : Identifier
  sourceMetadataEvidenceId : Identifier
  payloadReference : ArtifactReference
  contentSha256 : Sha256Hex

/-- `DerivedEvidenceV1` -/
structure DerivedEvidence where
  evidenceId : Identifier
  inputEvidenceIds : List Identifier
  value : JsonValue
  missingReason : Option NonEmptyString

/-- `EvidenceRecordV1`: the four layers. -/
inductive EvidenceRecord where
  | sourceMetadata (evidence : SourceMetadataEvidence)
  | raw (evidence : RawEvidence)
  | normalized (evidence : DerivedEvidence) (normalizationLogicVersion : Nat)
  | calculated (evidence : DerivedEvidence) (calculationLogicVersion : Nat)

namespace EvidenceRecord

/-- `record.evidence_id` -/
def evidenceId : EvidenceRecord → Identifier
  | sourceMetadata evidence => evidence.evidenceId
  | raw evidence => evidence.evidenceId
  | normalized evidence _ => evidence.evidenceId
  | calculated evidence _ => evidence.evidenceId

/-- The records a record names as what it is made from. -/
def inputs : EvidenceRecord → List Identifier
  | sourceMetadata _ => []
  | raw evidence => [evidence.sourceMetadataEvidenceId]
  | normalized evidence _ => evidence.inputEvidenceIds
  | calculated evidence _ => evidence.inputEvidenceIds

/-- The artifacts a record refers to. -/
def references : EvidenceRecord → List ArtifactReference
  | sourceMetadata evidence => [evidence.sourceApprovalReference]
  | raw evidence => [evidence.payloadReference]
  | normalized _ _ => []
  | calculated _ _ => []

/-- `isinstance(record, DerivedEvidenceV1)` -/
def Derived : EvidenceRecord → Prop
  | sourceMetadata _ => False
  | raw _ => False
  | normalized _ _ => True
  | calculated _ _ => True

end EvidenceRecord

/-! ## Validators of the records -/

section
variable (fromisoformat : IsoReader)

/-- A moment of `ensure_source_time_order`. -/
def checkNotAfter (retrieved : Timestamp) (fieldName : String) :
    Option String → Except ValueError Unit :=
  checkOptional fun value => do
    let moment ← parseRfc3339 fromisoformat value fieldName
    require (moment.instant ≤ retrieved.instant)
      (fieldName ++ " must not be later than retrieved_at")

/-- `ensure_valid_timestamps` and `ensure_source_time_order` -/
def SourceMetadataEvidence.validate (evidence : SourceMetadataEvidence) :
    Except ValueError Unit := do
  checkTimestamp fromisoformat "published_at" evidence.publishedAt
  checkTimestamp fromisoformat "first_available_at" evidence.firstAvailableAt
  checkTimestamp fromisoformat "updated_at" evidence.updatedAt
  let retrieved ← parseRfc3339 fromisoformat evidence.retrievedAt "retrieved_at"
  checkNotAfter fromisoformat retrieved "published_at" evidence.publishedAt
  checkNotAfter fromisoformat retrieved "first_available_at" evidence.firstAvailableAt
  checkNotAfter fromisoformat retrieved "updated_at" evidence.updatedAt

/-- `ensure_payload_hash_matches` -/
def RawEvidence.validate (evidence : RawEvidence) : Except ValueError Unit :=
  require (evidence.contentSha256 = evidence.payloadReference.sha256)
    "raw evidence hash must match its payload reference"

/-- `min_length=1`, `ensure_unique_inputs` and `ensure_missingness_is_explicit` -/
def DerivedEvidence.validate (evidence : DerivedEvidence) : Except ValueError Unit := do
  require (evidence.inputEvidenceIds ≠ []) "Tuple should have at least 1 item"
  require evidence.inputEvidenceIds.Nodup "input evidence IDs must be unique"
  require (¬ (evidence.value.isNone ∧ evidence.missingReason = none))
    "missing_reason is required when value is null"
  require (evidence.value.isNone ∨ evidence.missingReason = none)
    "missing_reason must be null when value is present"

/-- The validators of a record's own layer. -/
def EvidenceRecord.validate : EvidenceRecord → Except ValueError Unit
  | .sourceMetadata evidence => evidence.validate fromisoformat
  | .raw evidence => evidence.validate
  | .normalized evidence logicVersion => do
    evidence.validate
    require (1 ≤ logicVersion) "Input should be greater than or equal to 1"
  | .calculated evidence logicVersion => do
    evidence.validate
    require (1 ≤ logicVersion) "Input should be greater than or equal to 1"

end

/-! ## The set -/

/-- `EvidenceSetState` -/
inductive EvidenceSetState where
  | frozen
  | analysisCompleted
  | invalidated
deriving DecidableEq

/-- `FreshnessAssessmentV1`, as far as the set reads it. -/
structure FreshnessAssessment where
  category : Identifier
  evidenceIds : List Identifier
deriving DecidableEq

/-- `EvidenceInvalidationV1` -/
structure EvidenceInvalidation where
  invalidationId : Identifier
  createdAt : String
  triggeringEvidenceIds : List Identifier
  affectedArtifactIds : List Identifier
deriving DecidableEq

/-- `PreviousEvidenceSetReferenceV1` -/
structure PreviousEvidenceSetReference where
  evidenceSetVersion : Nat
  artifactReference : ArtifactReference
  evidenceSetVersion_pos : 1 ≤ evidenceSetVersion

/-- The fields of `EvidenceSetV1`. -/
structure EvidenceSet where
  taskId : Identifier
  artifactId : Identifier
  evidenceSetVersion : Nat
  state : EvidenceSetState
  previousEvidenceSet : Option PreviousEvidenceSetReference
  evidenceFrozenAt : String
  freshnessCheckedAt : String
  analysisCompletedAt : Option String
  records : List EvidenceRecord
  freshnessAssessments : List FreshnessAssessment
  invalidations : List EvidenceInvalidation

namespace EvidenceSet

/-- `records_by_id.keys()` -/
def knownIds (set : EvidenceSet) : List Identifier := set.records.map (·.evidenceId)

/-- The artifacts a set refers to, apart from the set it follows. -/
def references (set : EvidenceSet) : List ArtifactReference := set.records.flatMap (·.references)

/-- `records_by_id.get(evidence_id)`, for distinct identifiers. -/
def get? (set : EvidenceSet) (evidenceId : Identifier) : Option EvidenceRecord :=
  set.records.find? (·.evidenceId = evidenceId)

/-- The provenance check of one record. -/
def checkRecord (set : EvidenceSet) : EvidenceRecord → Except ValueError Unit
  | .sourceMetadata _ => pure ()
  | .raw evidence =>
    match set.get? evidence.sourceMetadataEvidenceId with
    | some (.sourceMetadata _) => pure ()
    | _ => .error "raw evidence must reference source_metadata evidence"
  | .normalized evidence _ => checkDerived evidence
  | .calculated evidence _ => checkDerived evidence
where
  /-- The inputs exist, and none is the record itself. -/
  checkDerived (evidence : DerivedEvidence) : Except ValueError Unit := do
    require (evidence.inputEvidenceIds ⊆ set.knownIds)
      "derived evidence input references must exist in the evidence set"
    require (evidence.evidenceId ∉ evidence.inputEvidenceIds)
      "derived evidence must not reference itself"

/-- The version check. -/
def checkVersion (set : EvidenceSet) : Except ValueError Unit :=
  if set.evidenceSetVersion = 1 then
    require (set.previousEvidenceSet = none)
      "evidence set version 1 must not have a previous version"
  else
    require (set.previousEvidenceSet.map (·.evidenceSetVersion) = some (set.evidenceSetVersion - 1))
      "later evidence sets must reference the immediately preceding version"

variable (fromisoformat : IsoReader)

/-- The lifecycle timestamps, in order. -/
def checkLifecycle (set : EvidenceSet) : Except ValueError Timestamp := do
  let frozenAt ← parseRfc3339 fromisoformat set.evidenceFrozenAt "evidence_frozen_at"
  let freshnessAt ← parseRfc3339 fromisoformat set.freshnessCheckedAt "freshness_checked_at"
  require (frozenAt.instant ≤ freshnessAt.instant)
    "freshness_checked_at must not precede evidence_frozen_at"
  checkCompletion set freshnessAt
  pure frozenAt
where
  /-- The analysis is completed no earlier than its evidence was found fresh. -/
  checkCompletion (set : EvidenceSet) (freshnessAt : Timestamp) : Except ValueError Unit :=
    checkOptional (fun value => do
      let completedAt ← parseRfc3339 fromisoformat value "analysis_completed_at"
      require (freshnessAt.instant ≤ completedAt.instant)
        "analysis_completed_at must not precede freshness_checked_at") set.analysisCompletedAt

/-- What the state says about the other fields. -/
def checkState (set : EvidenceSet) : Except ValueError Unit := do
  require (¬ (set.state = .frozen ∧ set.analysisCompletedAt ≠ none))
    "a frozen evidence set must not have analysis_completed_at"
  require (¬ (set.state = .analysisCompleted ∧ set.analysisCompletedAt = none))
    "analysis_completed state requires analysis_completed_at"
  require (¬ (set.state = .invalidated ∧ set.invalidations = []))
    "invalidated state requires at least one invalidation"

/-- The checks of `validate_evidence_set` on an invalidation. -/
def checkInvalidation (set : EvidenceSet) (frozenAt : Timestamp)
    (invalidation : EvidenceInvalidation) : Except ValueError Unit := do
  require (invalidation.triggeringEvidenceIds ⊆ set.knownIds)
    "invalidations must reference evidence in this set"
  let createdAt ← parseRfc3339 fromisoformat invalidation.createdAt "created_at"
  require (frozenAt.instant ≤ createdAt.instant)
    "invalidation must not precede evidence_frozen_at"

/-- `validate_evidence_set` -/
def validateEvidenceSet (set : EvidenceSet) : Except ValueError Unit := do
  require set.knownIds.Nodup "evidence IDs must be unique within a task evidence set"
  set.records.forM set.checkRecord
  set.checkVersion
  let frozenAt ← set.checkLifecycle fromisoformat
  set.checkState
  set.freshnessAssessments.forM fun assessment =>
    require (assessment.evidenceIds ⊆ set.knownIds)
      "freshness assessments must reference evidence in this set"
  set.invalidations.forM (set.checkInvalidation fromisoformat frozenAt)

/-- `ensure_unique_evidence_ids` -/
def checkAssessment (assessment : FreshnessAssessment) : Except ValueError Unit :=
  require assessment.evidenceIds.Nodup "freshness evidence IDs must be unique"

/-- The validators of `EvidenceInvalidationV1`. -/
def checkInvalidationFields (invalidation : EvidenceInvalidation) : Except ValueError Unit := do
  let _ ← parseRfc3339 fromisoformat invalidation.createdAt "created_at"
  require (invalidation.triggeringEvidenceIds ≠ []) "Tuple should have at least 1 item"
  require invalidation.triggeringEvidenceIds.Nodup "invalidation identifiers must be unique"
  require (invalidation.affectedArtifactIds ≠ []) "Tuple should have at least 1 item"
  require invalidation.affectedArtifactIds.Nodup "invalidation identifiers must be unique"

/-- `EvidenceSetV1.model_validate`, on fields of the right types: the fields first, then
the set as a whole. -/
def validate (set : EvidenceSet) : Except ValueError Unit := do
  require (1 ≤ set.evidenceSetVersion) "Input should be greater than or equal to 1"
  checkTimestamp fromisoformat "evidence_frozen_at" (some set.evidenceFrozenAt)
  checkTimestamp fromisoformat "freshness_checked_at" (some set.freshnessCheckedAt)
  checkTimestamp fromisoformat "analysis_completed_at" set.analysisCompletedAt
  require (set.records ≠ []) "Tuple should have at least 1 item"
  set.records.forM (·.validate fromisoformat)
  require (set.freshnessAssessments ≠ []) "Tuple should have at least 1 item"
  set.freshnessAssessments.forM checkAssessment
  set.invalidations.forM (checkInvalidationFields fromisoformat)
  set.validateEvidenceSet fromisoformat

end EvidenceSet

/-- An `EvidenceSetV1` value: fields its validators accept. -/
structure AcceptedEvidenceSet (fromisoformat : IsoReader) extends EvidenceSet where
  accepted : toEvidenceSet.validate fromisoformat = .ok ()

/-! ## Provenance -/

namespace EvidenceSet

/-- Record `r` uses record `s`. -/
def Uses (set : EvidenceSet) (r s : EvidenceRecord) : Prop :=
  Resolution.Uses (·.evidenceId) (·.inputs) set.records r s

/-- Striking out every record whose inputs are all struck out, round after round,
strikes out all of them. -/
def Exhausts (set : EvidenceSet) : Prop :=
  Resolution.Exhausts (·.evidenceId) (·.inputs) set.records

instance (set : EvidenceSet) : Decidable set.Exhausts :=
  inferInstanceAs (Decidable (Resolution.Exhausts ..))

/-- Provenance leads to sources: no record is made from itself, and following inputs
from a derived record, whichever are followed, comes to a raw or metadata record. -/
structure Sourced (set : EvidenceSet) : Prop where
  acyclic : ∀ r, ¬ Relation.TransGen set.Uses r r
  terminates : ∀ trail : Nat → EvidenceRecord, trail 0 ∈ set.records →
    (∀ n, (trail n).Derived → set.Uses (trail n) (trail (n + 1))) →
    ∃ n, trail n ∈ set.records ∧ ¬ (trail n).Derived ∧ ∀ m < n, (trail m).Derived
  reaches : ∀ r ∈ set.records, r.Derived →
    ∃ s ∈ set.records, ¬ s.Derived ∧ Relation.TransGen set.Uses r s

/-- A trail stays in the set as long as it goes on. -/
theorem trail_mem {set : EvidenceSet} {trail : Nat → EvidenceRecord}
    (hstart : trail 0 ∈ set.records)
    (htrail : ∀ n, (trail n).Derived → set.Uses (trail n) (trail (n + 1))) {n : Nat}
    (hderived : ∀ m < n, (trail m).Derived) : trail n ∈ set.records := by
  cases n with
  | zero => exact hstart
  | succ n => exact (htrail n (hderived n (Nat.lt_succ_self n))).2.1

end EvidenceSet

namespace AcceptedEvidenceSet

variable {fromisoformat : IsoReader}

theorem checked (set : AcceptedEvidenceSet fromisoformat) :
    set.validateEvidenceSet fromisoformat = .ok () := by
  have h := set.accepted
  simp only [EvidenceSet.validate, bind_eq_ok] at h
  obtain ⟨-, -, -, -, -, -, -, -, -, -, -, -, -, -, -, -, -, -, h⟩ := h
  exact h

/-- The fields of every record passed their own validators. -/
theorem records_valid (set : AcceptedEvidenceSet fromisoformat) :
    ∀ r ∈ set.records, r.validate fromisoformat = .ok () := by
  have h := set.accepted
  simp only [EvidenceSet.validate, bind_eq_ok] at h
  obtain ⟨-, -, -, -, -, -, -, -, -, -, ⟨⟩, h, -⟩ := h
  exact forM_eq_ok.mp h

/-- Evidence identifiers name one record each. -/
theorem eq_of_evidenceId (set : AcceptedEvidenceSet fromisoformat) :
    ∀ r ∈ set.records, ∀ s ∈ set.records, r.evidenceId = s.evidenceId → r = s := by
  have h := set.checked
  simp only [EvidenceSet.validateEvidenceSet, bind_eq_ok, require_eq_ok] at h
  obtain ⟨-, hnodup, -⟩ := h
  exact fun r hr s hs heq => List.inj_on_of_nodup_map hnodup hr hs heq

theorem record_checked (set : AcceptedEvidenceSet fromisoformat) :
    ∀ r ∈ set.records, set.checkRecord r = .ok () := by
  have h := set.checked
  simp only [EvidenceSet.validateEvidenceSet, bind_eq_ok] at h
  obtain ⟨-, -, ⟨⟩, h, -⟩ := h
  exact forM_eq_ok.mp h

/-- What `checkRecord` finds: every input is a record of the set. -/
theorem inputs_exist (set : AcceptedEvidenceSet fromisoformat) :
    ∀ r ∈ set.records, ∀ i ∈ r.inputs, ∃ s ∈ set.records, s.evidenceId = i := by
  intro r hr i hi
  have hcheck := set.record_checked r hr
  have derived : ∀ evidence : DerivedEvidence, EvidenceSet.checkRecord.checkDerived
      set.toEvidenceSet evidence = .ok () → i ∈ evidence.inputEvidenceIds →
      ∃ s ∈ set.records, s.evidenceId = i := by
    intro evidence h hmem
    simp only [EvidenceSet.checkRecord.checkDerived, bind_eq_ok, require_eq_ok] at h
    obtain ⟨-, hsubset, -⟩ := h
    exact List.mem_map.mp (hsubset hmem)
  cases r with
  | sourceMetadata evidence => exact absurd hi List.not_mem_nil
  | raw evidence =>
    obtain rfl := List.mem_singleton.mp hi
    simp only [EvidenceSet.checkRecord] at hcheck
    split at hcheck
    · rename_i source hget
      have hfind : set.records.find? (·.evidenceId = evidence.sourceMetadataEvidenceId) =
        some (.sourceMetadata source) := hget
      have hname := List.find?_some hfind
      exact ⟨_, List.mem_of_find?_eq_some hfind, of_decide_eq_true hname⟩
    · cases hcheck
  | normalized evidence version => exact derived evidence hcheck hi
  | calculated evidence version => exact derived evidence hcheck hi

/-- A derived record uses some record of the set. -/
theorem exists_uses (set : AcceptedEvidenceSet fromisoformat) {r : EvidenceRecord}
    (hr : r ∈ set.records) (hderived : r.Derived) : ∃ s, set.Uses r s := by
  have hinputs : r.inputs ≠ [] := by
    have hvalid := set.records_valid r hr
    cases r with
    | sourceMetadata evidence => exact hderived.elim
    | raw evidence => exact hderived.elim
    | normalized evidence version | calculated evidence version =>
      simp only [EvidenceRecord.validate, DerivedEvidence.validate, bind_eq_ok,
        require_eq_ok] at hvalid
      obtain ⟨-, ⟨-, hne, -⟩, -⟩ := hvalid
      exact hne
  obtain ⟨i, hi⟩ := List.exists_mem_of_ne_nil _ hinputs
  obtain ⟨s, hs, rfl⟩ := set.inputs_exist r hr i hi
  exact ⟨s, hr, hs, hi⟩

theorem exhausts_iff (set : AcceptedEvidenceSet fromisoformat) :
    set.Exhausts ↔ WellFounded fun s r => set.Uses r s :=
  Resolution.exhausts_iff_wellFounded set.eq_of_evidenceId set.inputs_exist

/-- Without an endless walk, a derived record comes from a record that is not. -/
theorem exists_source (set : AcceptedEvidenceSet fromisoformat)
    (h : WellFounded fun s r => set.Uses r s) (r : EvidenceRecord) :
    r ∈ set.records → r.Derived →
      ∃ s ∈ set.records, ¬ s.Derived ∧ Relation.TransGen set.Uses r s := by
  induction r using h.induction with
  | _ r ih =>
    intro hr hderived
    obtain ⟨s, hs⟩ := set.exists_uses hr hderived
    by_cases hsource : s.Derived
    · obtain ⟨t, ht, hnot, hreach⟩ := ih s hs hs.2.1 hsource
      exact ⟨t, ht, hnot, .head hs hreach⟩
    · exact ⟨s, hs.2.1, hsource, .single hs⟩

theorem sourced_iff_wellFounded (set : AcceptedEvidenceSet fromisoformat) :
    set.Sourced ↔ WellFounded fun s r => set.Uses r s := by
  constructor
  · intro h
    exact Resolution.wellFounded_iff_acyclic.mpr h.acyclic
  · intro h
    refine ⟨Resolution.wellFounded_iff_acyclic.mp h, ?_, set.exists_source h⟩
    intro trail hstart htrail
    obtain ⟨n, hsource, hderived⟩ := Resolution.walk_ends h htrail
    exact ⟨n, EvidenceSet.trail_mem hstart htrail hderived, hsource, hderived⟩

/-- **Provenance leads to sources exactly when the records can be struck out.** The
validator looks for missing inputs and for records that name themselves, so a circle
of two passes it. -/
theorem sourced_iff_exhausts (set : AcceptedEvidenceSet fromisoformat) :
    set.Sourced ↔ set.Exhausts :=
  set.sourced_iff_wellFounded.trans set.exhausts_iff.symm

end AcceptedEvidenceSet

/-! ## A circle of two records -/

/-- A normalized record made from one other record. -/
def normalizedFrom (evidenceId input : Identifier) : EvidenceRecord :=
  .normalized ⟨evidenceId, [input], .int 1, none⟩ 1

/-- Two normalized records, each made from the other. -/
def circularEvidence : EvidenceSet where
  taskId := ⟨"task-1", .refl true⟩
  artifactId := ⟨"evidence-set-v1", by decide⟩
  evidenceSetVersion := 1
  state := .frozen
  previousEvidenceSet := none
  evidenceFrozenAt := "2026-09-28T00:00:00Z"
  freshnessCheckedAt := "2026-09-29T00:00:00Z"
  analysisCompletedAt := none
  records := [normalizedFrom ⟨"first", by decide⟩ ⟨"second", by decide⟩,
    normalizedFrom ⟨"second", by decide⟩ ⟨"first", by decide⟩]
  freshnessAssessments := [⟨⟨"price", by decide⟩, [⟨"first", by decide⟩]⟩]
  invalidations := []

/-- The validators accept a set none of whose records has a source. -/
theorem circular_evidence_accepted :
    ∃ set : AcceptedEvidenceSet sampleIso, set.toEvidenceSet = circularEvidence ∧
      ¬ set.Sourced := by
  let set : AcceptedEvidenceSet sampleIso := ⟨circularEvidence, by decide +kernel⟩
  refine ⟨set, rfl, fun h => ?_⟩
  have hexhausts := set.exhausts_iff.mpr (set.sourced_iff_wellFounded.mp h)
  exact absurd hexhausts (by decide +kernel)

end StockResearch.Contracts
