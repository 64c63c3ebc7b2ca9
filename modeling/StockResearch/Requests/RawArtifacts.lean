import StockResearch.Lib.Crash
import StockResearch.Requests.Transport

/-!
# Publication of raw acquisition bundles

A raw response is published as a directory of four files. Its publication row, its
staging directory and its destination directory are three pieces of durable state,
written one after the other; every write is one step of `publish` or `reconcile`, at
which the process may raise or stop.

- `Bundle`, `Disk`: the files of a directory, and the durable state. Parent
  directories are not part of it: the code only ever creates the missing ones.
- `PublishPoint`, `ReconcilePoint`: the steps.
- `publish`, `reconcile`: the two methods of `RawArtifactPublisher`.
-/

namespace StockResearch.Requests

/-! ## Bundles -/

/-- The files of a bundle. -/
inductive BundleFile where
  | body
  | request
  | response
  | receipt
deriving DecidableEq

/-- `request.json` -/
structure RequestMetadata where
  logicalRequestId : Identifier
  operation : Identifier
  physicalAttemptId : Identifier
  publicationGeneration : Nat
  publicationId : Identifier
  sourceId : Identifier
  taskId : Identifier
deriving DecidableEq

/-- `response.json` -/
structure ResponseMetadata where
  byteCount : Nat
  encoding : String
  mediaType : String
  rawSchemaId : Identifier
  rawSchemaVersion : Nat
deriving DecidableEq

/-- `receipt.json` -/
structure Receipt where
  bodySha256 : Sha256Hex
  byteCount : Nat
deriving DecidableEq

/-- The contents of a file: bytes, or the value a JSON text stands for. -/
inductive Content where
  | bytes (body : List UInt8)
  | request (metadata : RequestMetadata)
  | response (metadata : ResponseMetadata)
  | receipt (receipt : Receipt)
deriving DecidableEq

/-- A file whose contents are on disk, or one that was created and never synced: a stop
may have left anything in it. -/
inductive StoredFile where
  | torn
  | synced (content : Content)
deriving DecidableEq

/-- A bundle directory. -/
structure Bundle where
  body : Option StoredFile
  request : Option StoredFile
  response : Option StoredFile
  receipt : Option StoredFile
deriving DecidableEq

namespace Bundle

/-- A directory just made. -/
def empty : Bundle := ⟨none, none, none, none⟩

def get (bundle : Bundle) : BundleFile → Option StoredFile
  | .body => bundle.body
  | .request => bundle.request
  | .response => bundle.response
  | .receipt => bundle.receipt

def set (bundle : Bundle) (file : BundleFile) (stored : Option StoredFile) : Bundle :=
  match file with
  | .body => { bundle with body := stored }
  | .request => { bundle with request := stored }
  | .response => { bundle with response := stored }
  | .receipt => { bundle with receipt := stored }

/-- The four files, as they are listed. -/
def files : List BundleFile := [.body, .request, .response, .receipt]

end Bundle

def requestMetadata (intent : RawPublicationIntent) : RequestMetadata :=
  ⟨intent.logicalRequestId, intent.operation, intent.physicalAttemptId,
    intent.publicationGeneration, intent.publicationId, intent.sourceId, intent.taskId⟩

def responseMetadata (intent : RawPublicationIntent) : ResponseMetadata :=
  ⟨intent.byteCount, intent.encoding, intent.mediaType, intent.rawSchemaId, intent.rawSchemaVersion⟩

def receiptOf (intent : RawPublicationIntent) : Receipt := ⟨intent.contentSha256, intent.byteCount⟩

/-- The bundle holds exactly the four files that match the intent. -/
def Bundle.Matches (sha256 : List UInt8 → Sha256Hex) (bundle : Bundle)
    (intent : RawPublicationIntent) : Prop :=
  (∃ body, bundle.body = some (.synced (.bytes body)) ∧ body.length = intent.byteCount ∧
      sha256 body = intent.contentSha256) ∧
    bundle.request = some (.synced (.request (requestMetadata intent))) ∧
    bundle.response = some (.synced (.response (responseMetadata intent))) ∧
    bundle.receipt = some (.synced (.receipt (receiptOf intent)))

/-! ## Durable state -/

/-- The database, the staging directories by task and attempt, and the destination
directories by task and relative path. -/
structure Disk where
  db : Database
  staging : Table (Identifier × Identifier) Bundle
  acquisitions : Table (Identifier × String) Bundle

/-- `{runs}/{task_id}/.staging/acquisitions/{physical_attempt_id}` -/
def stagingPath (intent : RawPublicationIntent) : Identifier × Identifier :=
  (intent.taskId, intent.physicalAttemptId)

/-- `acquisitions/{logical_request_id}/{physical_attempt_id}` -/
def relativePath (intent : RawPublicationIntent) : String :=
  String.ofList (['/'].intercalate ["acquisitions".toList, intent.logicalRequestId.text.toList,
    intent.physicalAttemptId.text.toList])

/-- `{runs}/{task_id}/{relative_path}` -/
def destination (intent : RawPublicationIntent) : Identifier × String :=
  (intent.taskId, relativePath intent)

/-! ## Errors -/

/-- What the publisher raises. -/
inductive PublishError where
  /-- `RuntimeStorageError` of the publisher itself. -/
  | runtime (code : String)
  /-- Raised by a repository call. -/
  | repository (error : Exn)
  /-- `OSError` -/
  | os
  /-- `ValidationError` of a model. -/
  | validation
  /-- Raised by the source validator. -/
  | source
  /-- A `BaseException` that is no `Exception`. -/
  | interrupt
deriving DecidableEq

/-- `except Exception` takes it. -/
def PublishError.isException : PublishError → Bool
  | .interrupt => false
  | _ => true

/-- `suppress(RuntimeStorageError)` takes it. -/
def PublishError.isRuntimeStorageError : PublishError → Bool
  | .runtime _ => true
  | .repository (.storage _) => true
  | _ => false

/-! ## Steps -/

/-- The steps of `publish`. -/
inductive PublishPoint where
  | validateRunsRoot
  | lookUpRecord
  | verifyReplay
  | begin
  | makeTaskRoot
  | checkPaths
  | makeStaging
  | create (file : BundleFile)
  | write (file : BundleFile)
  | readBack
  | sourceValidator
  | verifyStaged
  | syncStaging
  | makeDestinationParent
  | rename
  | syncDestination
  | fail
  | isStaging
  | listStaging
  | unlink (file : BundleFile)
  | removeStaging
  | commit
  | markRequired
deriving DecidableEq

/-- The steps of `reconcile`, by publication. -/
inductive ReconcilePoint where
  | validateRunsRoot
  | listOpen
  | inspect (publicationId : Identifier)
  | verify (publicationId : Identifier)
  | commit (publicationId : Identifier)
  | listStaging (publicationId : Identifier)
  | unlink (publicationId : Identifier) (file : BundleFile)
  | removeStaging (publicationId : Identifier)
  | fail (publicationId : Identifier)
  | listCommitted
  | verifyCommitted (publicationId : Identifier)
deriving DecidableEq

variable {π : Type}

/-- A step that can only raise: a permission check, an `fsync` of a directory, the
creation of missing parents. -/
def checkStep (point : π) : Proc π PublishError Disk Unit := Proc.read point fun _ => .ok ()

/-- A transaction of the repository. Its acknowledgement can be lost: it may raise and
still be committed. -/
def transactionStep {α : Type} (point : π) (call : Database → Except Exn α × Database) :
    Proc π PublishError Disk α :=
  Proc.step point fun disk =>
    match call disk.db with
    | (.ok a, db) => .ok (a, { disk with db := db })
    | (.error e, _) => .error (.repository e)

/-- `mkdir` of the staging directory. -/
def makeStaging (point : π) (path : Identifier × Identifier) : Proc π PublishError Disk Unit :=
  Proc.action point fun disk =>
    match disk.staging.get? path with
    | some _ => .error .os
    | none => .ok ((), { disk with staging := disk.staging.insert path .empty })

/-- Change one file of the staging directory. -/
def setFile (point : π) (path : Identifier × Identifier) (file : BundleFile)
    (stored : Option StoredFile) : Proc π PublishError Disk Unit :=
  Proc.action point fun disk =>
    match disk.staging.get? path with
    | some _ => .ok ((), { disk with
        staging := disk.staging.modify path fun bundle => bundle.set file stored })
    | none => .error .os

/-- `_write_exact`: a file exists from its creation on, and holds its contents once
they are synced. The directory was just made, so no file is there to be excluded. -/
def writeExact (path : Identifier × Identifier) (file : BundleFile) (content : Content) :
    Proc PublishPoint PublishError Disk Unit := do
  setFile (.create file) path file (some .torn)
  setFile (.write file) path file (some (.synced content))

/-- The files of a staging directory; without one there is nothing to list. -/
def listFiles (disk : Disk) (path : Identifier × Identifier) : List BundleFile :=
  match disk.staging.get? path with
  | some bundle => Bundle.files.filter fun file => (bundle.get file).isSome
  | none => []

/-- `_remove_bundle` -/
def removeBundle (list : π) (unlink : BundleFile → π) (rmdir : π)
    (path : Identifier × Identifier) : Proc π PublishError Disk Unit := do
  let files ← Proc.read list fun disk => .ok (listFiles disk path)
  files.forM fun file => setFile (unlink file) path file none
  Proc.action rmdir fun disk => .ok ((), { disk with
    staging := disk.staging.deleteWhere fun key _ => decide (key = path) })

/-- `os.rename(staging, destination)`; a destination that exists is not replaced. -/
def renameBundle (point : π) (intent : RawPublicationIntent) : Proc π PublishError Disk Unit :=
  Proc.action point fun disk =>
    match disk.staging.get? (stagingPath intent), disk.acquisitions.get? (destination intent) with
    | some bundle, none => .ok ((), { disk with
        staging := disk.staging.deleteWhere fun key _ => decide (key = stagingPath intent)
        acquisitions := disk.acquisitions.insert (destination intent) bundle })
    | _, _ => .error .os

/-! ## Verification -/

/-- `_verify_staged_bundle` -/
def verifyStagedBundle (sha256 : List UInt8 → Sha256Hex) (bundle : Bundle)
    (intent : RawPublicationIntent) : Except PublishError Unit :=
  match bundle.body, bundle.request, bundle.response, bundle.receipt with
  | some (.synced (.bytes body)), some (.synced request), some (.synced response),
      some (.synced receipt) =>
    require (body.length = intent.byteCount ∧ sha256 body = intent.contentSha256 ∧
        request = .request (requestMetadata intent) ∧
        response = .response (responseMetadata intent) ∧ receipt = .receipt (receiptOf intent))
      (.runtime "raw_staging_verification_failed")
  -- a file is missing, or holds no JSON
  | _, _, _, _ => .error .os

theorem verifyStagedBundle_eq_ok {sha256 : List UInt8 → Sha256Hex} {bundle : Bundle}
    {intent : RawPublicationIntent} :
    verifyStagedBundle sha256 bundle intent = .ok () ↔ bundle.Matches sha256 intent := by
  constructor
  · intro h
    unfold verifyStagedBundle at h
    split at h
    · rename_i body request response receipt hbody hrequest hresponse hreceipt
      obtain ⟨hlength, hsha, rfl, rfl, rfl⟩ := require_eq_ok.mp h
      exact ⟨⟨body, hbody, hlength, hsha⟩, hrequest, hresponse, hreceipt⟩
    · cases h
  · rintro ⟨⟨body, hbody, hlength, hsha⟩, hrequest, hresponse, hreceipt⟩
    unfold verifyStagedBundle
    rw [hbody, hrequest, hresponse, hreceipt]
    exact require_eq_ok.mpr ⟨hlength, hsha, rfl, rfl, rfl⟩

/-- `[A-Za-z0-9_-]+` -/
def isPathSegment (segment : List Char) : Bool :=
  !segment.isEmpty && segment.all fun c => c.isAlphanum || c == '_' || c == '-'

/-- `^acquisitions/[A-Za-z0-9_-]+/[A-Za-z0-9_-]+$` -/
def isReferencePath (path : String) : Bool :=
  match path.toList.splitOn '/' with
  | [root, logical, physical] =>
    root == "acquisitions".toList && isPathSegment logical && isPathSegment physical
  | _ => false

/-- `_reference`; the model `CommittedRawReference` checks the path. -/
def reference (intent : RawPublicationIntent) (path : String) :
    Except PublishError CommittedRawReference :=
  if isReferencePath path then
    .ok { publicationId := intent.publicationId, taskId := intent.taskId
          logicalRequestId := intent.logicalRequestId
          physicalAttemptId := intent.physicalAttemptId, relativePath := path
          contentSha256 := intent.contentSha256, byteCount := intent.byteCount
          rawSchemaId := intent.rawSchemaId, rawSchemaVersion := intent.rawSchemaVersion
          publicationGeneration := intent.publicationGeneration }
  else .error .validation

/-- `_verify_committed_reference`, for the path of the reference. -/
def verifyCommitted (sha256 : List UInt8 → Sha256Hex) (disk : Disk) (intent : RawPublicationIntent)
    (path : String) : Except PublishError Unit :=
  match (disk.acquisitions.get? (intent.taskId, path)).map fun bundle =>
      verifyStagedBundle sha256 bundle intent with
  | some (.ok ()) => .ok ()
  | _ => .error (.runtime "raw_committed_artifact_invalid")

theorem verifyCommitted_eq_ok {sha256 : List UInt8 → Sha256Hex} {disk : Disk}
    {intent : RawPublicationIntent} {path : String} :
    verifyCommitted sha256 disk intent path = .ok () ↔
      ∃ bundle, disk.acquisitions.get? (intent.taskId, path) = some bundle ∧
        bundle.Matches sha256 intent := by
  unfold verifyCommitted
  cases hget : disk.acquisitions.get? (intent.taskId, path) with
  | none => simp
  | some bundle =>
    simp only [Option.map_some, Option.some.injEq, exists_eq_left', ← verifyStagedBundle_eq_ok]
    split <;> simp_all

/-! ## `publish` -/

/-- The candidate is the response the intent describes. -/
def TemporaryRawCandidate.AgreesWith (candidate : TemporaryRawCandidate)
    (intent : RawPublicationIntent) : Prop :=
  candidate.physicalAttemptId = intent.physicalAttemptId ∧
    candidate.sha256 = intent.contentSha256.text ∧ candidate.body.length = intent.byteCount ∧
    candidate.mediaType = intent.mediaType ∧ candidate.encoding = intent.encoding

instance (candidate : TemporaryRawCandidate) (intent : RawPublicationIntent) :
    Decidable (candidate.AgreesWith intent) :=
  inferInstanceAs (Decidable (_ ∧ _))

section

variable (sha256 : List UInt8 → Sha256Hex)

/-- One call of `publish`: its arguments. The validator raises an error or returns. -/
structure Publication where
  candidate : TemporaryRawCandidate
  intent : RawPublicationIntent
  lease : RuntimeLease
  startedAt : DateTime
  committedAt : DateTime
  sourceValidator : List UInt8 → Option PublishError

namespace Publication

variable (p : Publication)

/-- The body of the `try` up to the rename. -/
def stage : Proc PublishPoint PublishError Disk Unit := do
  writeExact (stagingPath p.intent) .body (.bytes p.candidate.body)
  writeExact (stagingPath p.intent) .request (.request (requestMetadata p.intent))
  writeExact (stagingPath p.intent) .response (.response (responseMetadata p.intent))
  writeExact (stagingPath p.intent) .receipt (.receipt (receiptOf p.intent))
  let body ← Proc.read .readBack fun disk =>
    match (disk.staging.get? (stagingPath p.intent)).bind (·.body) with
    | some (.synced (.bytes body)) => .ok body
    | _ => .error .os
  Proc.read .sourceValidator fun _ =>
    match p.sourceValidator body with
    | some error => .error error
    | none => .ok ()
  Proc.read .verifyStaged fun disk =>
    match disk.staging.get? (stagingPath p.intent) with
    | some bundle => verifyStagedBundle sha256 bundle p.intent
    | none => .error .os
  checkStep .syncStaging
  checkStep .makeDestinationParent
  renameBundle .rename p.intent

/-- The handler before the rename: the publication is recorded as failed. -/
def recordFailure (error : PublishError) : Proc PublishPoint PublishError Disk Unit :=
  if error.isException then do
    transactionStep .fail (failRawPublication p.intent.publicationId p.lease p.committedAt)
    Proc.raise error
  else Proc.raise error

/-- The `finally` clause, as long as nothing was renamed. -/
def discardStaging : Proc PublishPoint PublishError Disk Unit := do
  let present ← Proc.read .isStaging fun disk =>
    .ok (disk.staging.get? (stagingPath p.intent)).isSome
  if present then
    removeBundle .listStaging .unlink .removeStaging (stagingPath p.intent)
  else pure ()

/-- `_mark_reconciliation_required` -/
def markRequired : Proc PublishPoint PublishError Disk Unit :=
  Proc.tryExcept
    (transactionStep .markRequired
      (markRawPublicationReconciliationRequired p.intent.publicationId p.lease p.committedAt))
    fun error => if error.isRuntimeStorageError then pure () else Proc.raise error

/-- The handler after the rename, and of the commit. -/
def requireReconciliation (error : PublishError) : Proc PublishPoint PublishError Disk Unit :=
  if error.isException then do
    p.markRequired
    Proc.raise (.runtime "raw_publication_reconciliation_required")
  else Proc.raise error

/-- Staging, validation and exposure of the bundle: one `try` of the source, whose
handler and `finally` clause depend on whether the rename was reached. -/
def expose : Proc PublishPoint PublishError Disk Unit := do
  Proc.onRaise (Proc.tryExcept (p.stage sha256) p.recordFailure) p.discardStaging
  Proc.tryExcept (checkStep .syncDestination) p.requireReconciliation

/-- A publication with no row yet. -/
def publishNew : Proc PublishPoint PublishError Disk CommittedRawReference := do
  transactionStep .begin (beginRawPublication p.intent p.lease p.startedAt)
  checkStep .makeTaskRoot
  Proc.read .checkPaths fun disk =>
    require (disk.staging.get? (stagingPath p.intent) = none ∧
      disk.acquisitions.get? (destination p.intent) = none) (.runtime "raw_publication_path_exists")
  makeStaging .makeStaging (stagingPath p.intent)
  p.expose sha256
  let ref ← Proc.ofExcept (reference p.intent (relativePath p.intent))
  Proc.tryExcept (transactionStep .commit (commitRawPublication ref p.lease p.committedAt))
    p.requireReconciliation
  pure ref

/-- A publication that has a row. -/
def replay (row : RawPublicationRow) : Proc PublishPoint PublishError Disk CommittedRawReference := do
  Proc.ofExcept (require (row.intent = p.intent) (.runtime "raw_publication_replay_mismatch"))
  let path ← Proc.ofExcept (fetch (if row.state = .committed then row.relativePath else none)
    (.runtime "raw_publication_reconciliation_required"))
  let ref ← Proc.ofExcept (reference row.intent path)
  Proc.read .verifyReplay fun disk => verifyCommitted sha256 disk row.intent ref.relativePath
  pure ref

/-- `publish` -/
def publish : Proc PublishPoint PublishError Disk CommittedRawReference := do
  Proc.ofExcept (require (p.candidate.AgreesWith p.intent)
    (.runtime "raw_candidate_intent_mismatch"))
  checkStep .validateRunsRoot
  let existing ← Proc.read .lookUpRecord fun disk =>
    .ok (disk.db.publications.get? p.intent.publicationId)
  match existing with
  | some row => p.replay sha256 row
  | none => p.publishNew sha256

end Publication

/-! ## `reconcile` -/

/-- `raw_publications_for_reconciliation` -/
def openRecords (db : Database) : List RawPublicationRow :=
  (orderBy (fun a b => decide (a.1.text ≤ b.1.text))
    (db.publications.select fun _ row => row.state.isOpen)).map Prod.snd

/-- `committed_raw_records` -/
def committedRecords (db : Database) : List RawPublicationRow :=
  (orderBy (fun a b => decide (a.1.text ≤ b.1.text))
    (db.publications.select fun _ row => row.state = .committed)).map Prod.snd

/-- One round of the repair loop. -/
def reconcileRecord (lease : RuntimeLease) (now : DateTime) (row : RawPublicationRow) :
    Proc ReconcilePoint PublishError Disk (Option CommittedRawReference) := do
  let id := row.intent.publicationId
  let (staged, exposed) ← Proc.read (.inspect id) fun disk =>
    .ok ((disk.staging.get? (stagingPath row.intent)).isSome,
      (disk.acquisitions.get? (destination row.intent)).isSome)
  match staged, exposed with
  | false, true => do
    let ref ← Proc.ofExcept (reference row.intent (relativePath row.intent))
    Proc.read (.verify id) fun disk => verifyCommitted sha256 disk row.intent ref.relativePath
    transactionStep (.commit id) (commitRawPublication ref lease now)
    pure (some ref)
  | true, false => do
    removeBundle (.listStaging id) (.unlink id) (.removeStaging id) (stagingPath row.intent)
    transactionStep (.fail id) (failRawPublication id lease now)
    pure none
  | false, false => do
    transactionStep (.fail id) (failRawPublication id lease now)
    pure none
  | true, true => Proc.raise (.runtime "raw_publication_reconciliation_conflict")

/-- The repair loop. -/
def reconcileRecords (lease : RuntimeLease) (now : DateTime) :
    List RawPublicationRow → Proc ReconcilePoint PublishError Disk (List CommittedRawReference)
  | [] => pure []
  | row :: rest => do
    let repaired ← reconcileRecord sha256 lease now row
    let others ← reconcileRecords lease now rest
    pure (repaired.toList ++ others)

/-- One round of the integrity check. -/
def verifyRecord (row : RawPublicationRow) : Proc ReconcilePoint PublishError Disk Unit := do
  let path ← Proc.ofExcept (fetch row.relativePath (.runtime "raw_committed_artifact_invalid"))
  let ref ← Proc.ofExcept (reference row.intent path)
  Proc.read (.verifyCommitted row.intent.publicationId) fun disk =>
    verifyCommitted sha256 disk row.intent ref.relativePath

/-- `reconcile` -/
def reconcile (lease : RuntimeLease) (now : DateTime) :
    Proc ReconcilePoint PublishError Disk (List CommittedRawReference) := do
  checkStep .validateRunsRoot
  let records ← Proc.read .listOpen fun disk => .ok (openRecords disk.db)
  let repaired ← reconcileRecords sha256 lease now records
  let committed ← Proc.read .listCommitted fun disk => .ok (committedRecords disk.db)
  committed.forM (verifyRecord sha256)
  pure repaired

end

end StockResearch.Requests
