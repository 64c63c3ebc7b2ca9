import StockResearch.Requests.RawPublication
import StockResearch.Sources.Protocol

/-!
# Publication of a parsed source value

A source response is parsed from its staged bytes on the way to publication, or, if its
publication was committed before, from the bytes at hand once the committed bundle has been
checked. The parsed values are kept in memory while the publisher works on the disk.

- `SourceCall`, `Memory`: the arguments, and what the closure of the validator holds.
- `SourceCall.publishVia`: `publish`, with a validator that has a memory.
- `SourceCall.run`: `publish_source_candidate`.
- `SourceCall.publishVia_projects`: on the disk it is the publication of the raw bundle.
-/

namespace StockResearch.Sources

open Requests

variable {sha256 : List UInt8 → Sha256Hex} {α : Type}

/-! ## The arguments -/

/-- `SourceAdapter`: a parser of one source. None is an exception of the parser. -/
structure SourceAdapter (sha256 : List UInt8 → Sha256Hex) (α : Type) where
  sourceId : String
  parse : BoundedSourceResponse (fun body => (sha256 body).text) → Option α

/-- One call of `publish_source_candidate`: its arguments. -/
structure SourceCall (sha256 : List UInt8 → Sha256Hex) (α : Type) where
  candidate : TemporaryRawCandidate
  intent : RawPublicationIntent
  lease : RuntimeLease
  startedAt : DateTime
  committedAt : DateTime
  adapter : SourceAdapter sha256 α

/-- What the call holds in memory: the responses the parser was called with, and `parsed`. -/
structure Memory (sha256 : List UInt8 → Sha256Hex) (α : Type) where
  calls : List (BoundedSourceResponse (fun body => (sha256 body).text))
  parsed : List α

/-- Nothing was parsed. -/
def Memory.empty : Memory sha256 α := ⟨[], []⟩

/-- What `publish_source_candidate` raises. -/
inductive SourceError where
  /-- `ValueError("source_adapter_intent_mismatch")` -/
  | adapterIntentMismatch
  /-- Raised by the publisher or by the validator. -/
  | publish (error : PublishError)
  /-- `RuntimeError("source_candidate_validation_count_invalid")` -/
  | validationCountInvalid
deriving DecidableEq

/-- `BoundedSourceResponse.from_candidate`; none is its `ValidationError`. -/
def fromCandidate (sha256 : List UInt8 → Sha256Hex) (candidate : TemporaryRawCandidate) :
    Option (BoundedSourceResponse (fun body => (sha256 body).text)) :=
  if h : (1 ≤ candidate.mediaType.length ∧ candidate.mediaType.length ≤ 128) ∧
      (1 ≤ candidate.encoding.length ∧ candidate.encoding.length ≤ 64) ∧
      (sha256 candidate.body).text = candidate.sha256 then
    some {
      physicalAttemptId := candidate.physicalAttemptId
      body := candidate.body
      mediaType := candidate.mediaType
      encoding := candidate.encoding
      mediaType_ge := h.1.1
      mediaType_le := h.1.2
      encoding_ge := h.2.1.1
      encoding_le := h.2.1.2
      digest := candidate.sha256
      exactHash := h.2.2 }
  else none

theorem fromCandidate_eq_some {candidate : TemporaryRawCandidate}
    {response : BoundedSourceResponse (fun body => (sha256 body).text)}
    (h : fromCandidate sha256 candidate = some response) :
    response.body = candidate.body ∧ response.mediaType = candidate.mediaType ∧
      response.encoding = candidate.encoding ∧
      (sha256 candidate.body).text = candidate.sha256 := by
  unfold fromCandidate at h
  split at h
  · rename_i hvalid
    cases h
    exact ⟨rfl, rfl, rfl, hvalid.2.2⟩
  · cases h

namespace SourceCall

variable (call : SourceCall sha256 α)

/-! ## The validator -/

/-- The response of staged bytes. -/
def response (body : List UInt8) :
    Option (BoundedSourceResponse (fun body => (sha256 body).text)) :=
  fromCandidate sha256 { call.candidate with body := body }

/-- The closure `validate`. -/
def validate (body : List UInt8) :
    Proc PublishPoint PublishError (Disk × Memory sha256 α) Unit := do
  Proc.beside (checkStep .sourceValidator)
  match call.response body with
  | none => Proc.raise .validation
  | some response => do
    Proc.modify fun s => (s.1, { s.2 with calls := s.2.calls ++ [response] })
    match call.adapter.parse response with
    | none => Proc.raise .source
    | some value => Proc.modify fun s => (s.1, { s.2 with parsed := s.2.parsed ++ [value] })

/-- What `validate` raises. -/
def rejects (body : List UInt8) : Option PublishError :=
  match call.response body with
  | none => some .validation
  | some response =>
    match call.adapter.parse response with
    | none => some .source
    | some _ => none

/-- The arguments of the publisher, with the validator as it looks from the disk. -/
def publication : Publication where
  candidate := call.candidate
  intent := call.intent
  lease := call.lease
  startedAt := call.startedAt
  committedAt := call.committedAt
  sourceValidator := call.rejects

/-! ## The publisher, with a memory -/

/-- The `try` of `publish`, up to the bytes that are read back. -/
def fillStaging : Proc PublishPoint PublishError Disk (List UInt8) := do
  writeExact (stagingPath call.intent) .body (.bytes call.candidate.body)
  writeExact (stagingPath call.intent) .request (.request (requestMetadata call.intent))
  writeExact (stagingPath call.intent) .response (.response (responseMetadata call.intent))
  writeExact (stagingPath call.intent) .receipt (.receipt (receiptOf call.intent))
  Proc.read .readBack fun disk =>
    match (disk.staging.get? (stagingPath call.intent)).bind (·.body) with
    | some (.synced (.bytes body)) => .ok body
    | _ => .error .os

/-- The `try` of `publish`, from the check of the staged bundle on. -/
def moveStaging : Proc PublishPoint PublishError Disk Unit := do
  Proc.read .verifyStaged fun disk =>
    match disk.staging.get? (stagingPath call.intent) with
    | some bundle => verifyStagedBundle sha256 bundle call.intent
    | none => .error .os
  checkStep .syncStaging
  checkStep .makeDestinationParent
  renameBundle .rename call.intent

/-- The body of the `try`. -/
def stageVia : Proc PublishPoint PublishError (Disk × Memory sha256 α) Unit := do
  let body ← Proc.beside call.fillStaging
  call.validate body
  Proc.beside call.moveStaging

/-- The two `try` statements around the staging directory. -/
def exposeVia : Proc PublishPoint PublishError (Disk × Memory sha256 α) Unit := do
  Proc.onRaise
    (Proc.tryExcept call.stageVia fun e => Proc.beside (call.publication.recordFailure e))
    (Proc.beside call.publication.discardStaging)
  Proc.tryExcept (Proc.beside (checkStep .syncDestination)) fun e =>
    Proc.beside (call.publication.requireReconciliation e)

/-- Before the staging directory is filled. -/
def openStaging : Proc PublishPoint PublishError Disk Unit := do
  transactionStep .begin (beginRawPublication call.intent call.lease call.startedAt)
  checkStep .makeTaskRoot
  Proc.read .checkPaths fun disk =>
    require (disk.staging.get? (stagingPath call.intent) = none ∧
      disk.acquisitions.get? (destination call.intent) = none)
      (.runtime "raw_publication_path_exists")
  makeStaging .makeStaging (stagingPath call.intent)

/-- Once the bundle is exposed. -/
def commitReference : Proc PublishPoint PublishError Disk CommittedRawReference := do
  let ref ← Proc.ofExcept (reference call.intent (relativePath call.intent))
  Proc.tryExcept (transactionStep .commit (commitRawPublication ref call.lease call.committedAt))
    call.publication.requireReconciliation
  pure ref

/-- A publication with no row yet. -/
def publishNewVia :
    Proc PublishPoint PublishError (Disk × Memory sha256 α) CommittedRawReference := do
  Proc.beside call.openStaging
  call.exposeVia
  Proc.beside call.commitReference

/-- The checks of `publish`, and the row it finds. -/
def lookUpRow : Proc PublishPoint PublishError Disk (Option RawPublicationRow) := do
  Proc.ofExcept (require (call.candidate.AgreesWith call.intent)
    (.runtime "raw_candidate_intent_mismatch"))
  checkStep .validateRunsRoot
  Proc.read .lookUpRecord fun disk => .ok (disk.db.publications.get? call.intent.publicationId)

/-- `publish`, called with `validate`. -/
def publishVia :
    Proc PublishPoint PublishError (Disk × Memory sha256 α) CommittedRawReference := do
  let existing ← Proc.beside call.lookUpRow
  match existing with
  | some row => Proc.beside (call.publication.replay sha256 row)
  | none => call.publishNewVia

/-! ## On the disk -/

/-- The step of `publish` that calls the validator. -/
def validatorStep (body : List UInt8) : Proc PublishPoint PublishError Disk Unit :=
  Proc.read .sourceValidator fun _ =>
    match call.rejects body with
    | some error => .error error
    | none => .ok ()

theorem validatorStep_eq (body : List UInt8) : call.validatorStep body = (do
    checkStep .sourceValidator
    match call.rejects body with
    | some error => Proc.raise error
    | none => pure ()) := by
  funext ev disk
  cases hev : ev .sourceValidator with
  -- a check in front of the step does not change what the step may do
  | proceeds =>
    have hcheck : (checkStep .sourceValidator : Proc PublishPoint PublishError Disk Unit) ev disk =
        (.ok (), disk) := Proc.read_of_ok hev rfl
    rw [Proc.bind_of_ok hcheck]
    unfold validatorStep Proc.read Proc.action
    rw [hev]
    cases call.rejects body <;> rfl
  | raises e applied =>
    have hcheck : (checkStep .sourceValidator : Proc PublishPoint PublishError Disk Unit) ev disk =
        (.raised e, disk) := by
      unfold checkStep Proc.read Proc.action
      rw [hev]
    rw [Proc.bind_of_raised hcheck]
    unfold validatorStep Proc.read Proc.action
    rw [hev]
  | crashes =>
    have hcheck : (checkStep .sourceValidator : Proc PublishPoint PublishError Disk Unit) ev disk =
        (.crashed, disk) := by
      unfold checkStep Proc.read Proc.action
      rw [hev]
    rw [Proc.bind_of_crashed hcheck]
    unfold validatorStep Proc.read Proc.action
    rw [hev]

theorem validate_projects (body : List UInt8) :
    Proc.Projects (call.validate body) (call.validatorStep body) := by
  rw [validatorStep_eq]
  refine .bind .beside fun _ => ?_
  unfold rejects
  cases call.response body with
  | none => exact .raise
  | some response =>
    rintro ev ⟨disk, memory⟩
    dsimp only
    cases call.adapter.parse response with
    | none => rfl
    | some value => rfl

theorem stage_eq : call.publication.stage sha256 = (do
    let body ← call.fillStaging
    call.validatorStep body
    call.moveStaging) := by
  simp only [fillStaging, Proc.bind_assoc]
  rfl

theorem expose_projects : Proc.Projects call.exposeVia (call.publication.expose sha256) := by
  refine .bind (.onRaise (.tryExcept ?_ fun _ => .beside) .beside) fun _ =>
    .tryExcept .beside fun _ => .beside
  rw [stage_eq]
  exact .bind .beside fun body => .bind (call.validate_projects body) fun _ => .beside

theorem publishNew_eq : call.publication.publishNew sha256 = (do
    call.openStaging
    call.publication.expose sha256
    call.commitReference) := by
  simp only [openStaging, Proc.bind_assoc]
  rfl

theorem publish_eq : call.publication.publish sha256 = (do
    let existing ← call.lookUpRow
    match existing with
    | some row => call.publication.replay sha256 row
    | none => call.publication.publishNew sha256) := by
  simp only [lookUpRow, Proc.bind_assoc]
  rfl

/-- **On the disk, the publisher with a memory is the publisher.** -/
theorem publishVia_projects :
    Proc.Projects call.publishVia (call.publication.publish sha256) := by
  rw [publish_eq]
  refine .bind .beside fun existing => ?_
  cases existing with
  | some row => exact .beside
  | none =>
    show Proc.Projects call.publishNewVia (call.publication.publishNew sha256)
    rw [publishNew_eq]
    exact .bind .beside fun _ => .bind call.expose_projects fun _ => .beside

/-! ## `publish_source_candidate` -/

/-- The publication, and the validation of a replay. -/
def publishParsed :
    Proc PublishPoint PublishError (Disk × Memory sha256 α) CommittedRawReference := do
  let reference ← call.publishVia
  let parsed ← Proc.memory fun s => s.2.parsed
  if parsed.isEmpty then call.validate call.candidate.body
  pure reference

/-- `publish_source_candidate`, on a disk. -/
def run (ev : PublishPoint → StockResearch.Event PublishError) (disk : Disk) :
    Outcome SourceError (PublishedSourceResult α) × Disk × Memory sha256 α :=
  if call.adapter.sourceId ≠ call.intent.sourceId.text then
    (.raised .adapterIntentMismatch, disk, .empty)
  else
    match call.publishParsed ev (disk, .empty) with
    | (.ok reference, disk, memory) =>
      match memory.parsed with
      | [value] => (.ok ⟨reference, value⟩, disk, memory)
      | _ => (.raised .validationCountInvalid, disk, memory)
    | (.raised e, disk, memory) => (.raised (.publish e), disk, memory)
    | (.crashed, disk, memory) => (.crashed, disk, memory)

end SourceCall

end StockResearch.Sources
