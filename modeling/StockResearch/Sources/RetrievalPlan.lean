import StockResearch.Lib.Related
import StockResearch.Requests.SchedulerFairness
import StockResearch.Sources.DocumentList
import StockResearch.Sources.RequestIdentity

/-!
# From a list of filings to retrievals

Every filing of a list becomes one decision, and every filing that is selected one intent,
which a transport renders. The parser of the list, the plan and the target each check the
provider's fields for themselves: sequence numbers differ in a plan but need not in a list,
and a colon is a character of an identifier but none of a path.

- `planEdinetRetrievals`: the code.
- `Planned`: what a plan is to be.
- `Plannable`: where the provider's fields are unambiguous.
- `accepted_list_planned_iff`: every accepted list is planned exactly where they are.
-/

namespace StockResearch.Sources

open Requests
open Contracts (PyStr PyValue)
open Contracts.PyStr (ofString)

/-! ## Intents -/

/-- What a plan raises. -/
inductive PlanError
  | valueError (message : String)
  | validationError
deriving DecidableEq

/-- `SourceParameter(name=..., value=...)` -/
def sourceParameter? (name : Identifier) (value : String) : Option SourceParameter :=
  if h : 1 ≤ value.length ∧ value.length ≤ 512 then some ⟨name, value, h.1, h.2⟩ else none

/-- `CredentialFreeSourceIntent(...)`, of a retrieval. -/
def retrievalIntent? (resourceKey : String) (parameters : List SourceParameter) :
    Option CredentialFreeSourceIntent :=
  if h : isIdentifier resourceKey = true ∧ (parameters.map (·.name.text)).Pairwise (· < ·) then
    some {
      sourceId := ⟨"edinet", .refl true⟩
      operation := ⟨"document-retrieval", by decide⟩
      origin := ⟨"api.edinet-fsa.go.jp", .refl true⟩
      resourceKey := ⟨resourceKey, h.1⟩
      parameters
      canonical := h.2 }
  else none

/-- `EdinetDocumentRetrievalAdapter.build_intent` -/
def buildRetrievalIntent (operation : String) (parameters : List SourceParameter) :
    Except PlanError CredentialFreeSourceIntent := do
  require (operation = "document-retrieval") (.valueError "unsupported_edinet_operation")
  let invalid : PlanError := .valueError "invalid_edinet_document_retrieval_parameters"
  let valueOf (name : String) := (parameters.find? (·.name.text = name)).map (·.value)
  require (parameters.map (·.name.text) = ["document_id", "type"] ∧ valueOf "type" = some "1")
    invalid
  fetch ((valueOf "document_id").bind (retrievalIntent? · parameters)) invalid

/-! ## Decisions -/

/-- `_RetrievalOutcome` -/
inductive RetrievalOutcome
  | selected
  | skipped
deriving DecidableEq

/-- `_RetrievalReason` -/
inductive RetrievalReason
  | selected
  | withdrawn
  | xbrlUnavailable
deriving DecidableEq

/-- `require_intent_only_for_selected_document` -/
def IntentOnlyForSelected (documentId : Identifier) (reason : RetrievalReason)
    (intent : Option CredentialFreeSourceIntent) : RetrievalOutcome → Prop
  | .selected => reason = .selected ∧ intent.map (·.resourceKey) = some documentId
  | .skipped => reason ≠ .selected ∧ intent = none

instance (documentId : Identifier) (reason : RetrievalReason)
    (intent : Option CredentialFreeSourceIntent) (outcome : RetrievalOutcome) :
    Decidable (IntentOnlyForSelected documentId reason intent outcome) :=
  match outcome with
  | .selected => inferInstanceAs (Decidable (_ ∧ _))
  | .skipped => inferInstanceAs (Decidable (_ ∧ _))

/-- `EdinetRetrievalDecision` -/
structure EdinetRetrievalDecision where
  sequenceNumber : Int
  documentId : Identifier
  documentType : EdinetDocumentType
  parentDocumentId : Option Identifier
  outcome : RetrievalOutcome
  reason : RetrievalReason
  retrievalIntent : Option CredentialFreeSourceIntent
  consistent : IntentOnlyForSelected documentId reason retrievalIntent outcome

/-- The outcome, the reason and the intent of a filing. -/
def retrievalOf (document : EdinetDocument) : Except PlanError
    (RetrievalOutcome × RetrievalReason × Option CredentialFreeSourceIntent) :=
  if document.withdrawn then .ok (.skipped, .withdrawn, none)
  else if ¬ document.xbrlAvailable then .ok (.skipped, .xbrlUnavailable, none)
  else do
    let id ← fetch (sourceParameter? ⟨"document_id", by decide⟩ document.documentId.text)
      .validationError
    let type ← fetch (sourceParameter? ⟨"type", .refl true⟩ "1") .validationError
    let intent ← buildRetrievalIntent "document-retrieval" [id, type]
    pure (.selected, .selected, some intent)

/-- The body of the loop of `plan_edinet_retrievals`. -/
def decideRetrieval (document : EdinetDocument) : Except PlanError EdinetRetrievalDecision := do
  let (outcome, reason, intent) ← retrievalOf document
  if consistent : IntentOnlyForSelected document.documentId reason intent outcome then
    pure {
      sequenceNumber := document.sequenceNumber
      documentId := document.documentId
      documentType := document.documentType
      parentDocumentId := document.parentDocumentId
      outcome
      reason
      retrievalIntent := intent
      consistent }
  else .error .validationError

/-! ## Plans -/

/-- `require_unique_provider_order` -/
def UniqueProviderOrder (decisions : List EdinetRetrievalDecision) : Prop :=
  let numbers := decisions.map (·.sequenceNumber)
  (numbers = numbers.insertionSort (· ≤ ·) ∧ numbers.Nodup) ∧
    (decisions.map (·.documentId)).Nodup

instance (decisions : List EdinetRetrievalDecision) : Decidable (UniqueProviderOrder decisions) :=
  inferInstanceAs (Decidable ((_ ∧ _) ∧ _))

/-- `EdinetRetrievalPlan` -/
structure EdinetRetrievalPlan where
  sourceRawReference : CommittedRawReference
  requestedDate : PyStr
  decisions : List EdinetRetrievalDecision
  unique : UniqueProviderOrder decisions

/-- `plan_edinet_retrievals` -/
def planEdinetRetrievals (published : PublishedSourceResult EdinetDocumentList) :
    Except PlanError EdinetRetrievalPlan := do
  require (published.reference.rawSchemaId.text = "edinet-document-list-raw" ∧
    published.reference.rawSchemaVersion = 1) (.valueError "invalid_edinet_list_raw_reference")
  let documents := orderBy (fun a b => decide (a.sequenceNumber ≤ b.sequenceNumber))
    published.value.documents
  let decisions ← documents.mapM decideRetrieval
  if unique : UniqueProviderOrder decisions then
    pure ⟨published.reference, published.value.requestedDate, decisions, unique⟩
  else .error .validationError

/-! ## The law -/

/-- A result whose filing is in force and has its data. -/
def RawDocument.Retrievable (raw : RawDocument) : Prop :=
  raw.withdrawalStatus ≠ ofString "1" ∧ raw.xbrlFlag = true

/-- The decision of a result. -/
structure DecidedBy (raw : RawDocument) (decision : EdinetRetrievalDecision) : Prop where
  number : decision.sequenceNumber = raw.seqNumber
  id : decision.documentId = raw.docID
  selected : decision.outcome = .selected ↔ raw.Retrievable

/-- The path of a document. -/
def documentPath (id : Identifier) : String := "/api/v2/documents/" ++ id.text

/-- A plan with one decision for each result of an approved type, in the provider's order,
whose selected filings have a target each that is theirs alone. -/
structure Planned (raw : RawDocumentList) (plan : EdinetRetrievalPlan) : Prop where
  decided : ∃ results, results.Perm raw.approved ∧ List.Forall₂ DecidedBy results plan.decisions
  ordered : plan.decisions.Pairwise (·.sequenceNumber < ·.sequenceNumber)
  rendered : ∀ decision ∈ plan.decisions, decision.outcome = .selected →
    ∃ intent target, decision.retrievalIntent = some intent ∧
      renderEdinetHttpTarget intent = .ok target ∧ target.path = documentPath decision.documentId
  distinct : ∀ d ∈ plan.decisions, ∀ e ∈ plan.decisions, d.documentId ≠ e.documentId →
    ∀ i j, d.retrievalIntent = some i → e.retrievalIntent = some j →
      ∀ t u, renderEdinetHttpTarget i = .ok t → renderEdinetHttpTarget j = .ok u → t ≠ u

/-- A body is read as a list or rejected with the error of the adapter, and every list it
is read as can be planned completely. -/
structure AcceptedListPlanned {sha256 : List UInt8 → String} (lib : DocumentListLibrary)
    (response : BoundedSourceResponse sha256) : Prop where
  errors : ∀ error, parseDocumentList lib response = .error error → error = .invalid
  planned : ∀ raw list, readDocumentList lib response.body = .ok raw →
    parseDocumentList lib response = .ok list →
    ∀ reference : CommittedRawReference,
      reference.rawSchemaId.text = "edinet-document-list-raw" → reference.rawSchemaVersion = 1 →
      ∃ plan, planEdinetRetrievals ⟨reference, list⟩ = .ok plan ∧ Planned raw plan

/-- The sequence numbers of the approved results differ, and no filing to retrieve has a
colon in its id. -/
structure Plannable (raw : RawDocumentList) : Prop where
  numbers : (raw.approved.map (·.seqNumber)).Nodup
  ids : ∀ result ∈ raw.approved, result.Retrievable → ':' ∉ result.docID.text.toList

/-! ## Filings that are kept -/

/-- What is kept of a result. -/
structure KeptAs (raw : RawDocument) (document : EdinetDocument) : Prop where
  number : document.sequenceNumber = raw.seqNumber
  id : document.documentId = raw.docID
  retrievable : document.withdrawn = false ∧ document.xbrlAvailable = true ↔ raw.Retrievable

theorem toDocument_keptAs {lib : DocumentListLibrary} {raw : RawDocument}
    {document : EdinetDocument} (h : toDocument lib raw = .ok document) :
    KeptAs raw document := by
  simp only [toDocument, bind_eq_ok, require_eq_ok, fetch_eq_ok, pure_eq_ok,
    exists_and_left] at h
  obtain ⟨hstatus, -, -, -, -, -, -, -, -, -, -, -, -, -, -, -, -, -, rfl⟩ := h
  refine ⟨rfl, rfl, ?_⟩
  have hother : ofString "0" ≠ ofString "1" := by decide
  rcases hstatus with h0 | h1
  · simp [RawDocument.Retrievable, h0, hother]
  · simp [RawDocument.Retrievable, h1, hother.symm]

/-- The `try` statement of the adapter raises its own error, and returns what its body does. -/
theorem mapError_invalid {α : Type} (x : Except DocumentListError α) :
    (∀ error, x.mapError (fun _ => DocumentListError.invalid) = .error error → error = .invalid) ∧
      ∀ value, x.mapError (fun _ => DocumentListError.invalid) = .ok value → x = .ok value := by
  cases x with
  | error error => exact ⟨fun _ h => (Except.error.inj h).symm, (fun _ h => nomatch h)⟩
  | ok value => exact ⟨(fun _ h => nomatch h), fun _ h => congrArg Except.ok (Except.ok.inj h)⟩

/-- The filings of a list are those of the approved results, in their order. -/
theorem parseDocumentList_eq_ok {sha256 : List UInt8 → String} {lib : DocumentListLibrary}
    {response : BoundedSourceResponse sha256} {raw : RawDocumentList} {list : EdinetDocumentList}
    (hraw : readDocumentList lib response.body = .ok raw)
    (hlist : parseDocumentList lib response = .ok list) :
    List.Forall₂ KeptAs raw.approved list.documents := by
  simp only [parseDocumentList, hraw, bind_eq_ok, require_eq_ok, exists_and_left] at hlist
  obtain ⟨-, -, hselect⟩ := hlist
  have hselected : selectDocuments lib raw = .ok list := (mapError_invalid _).2 list hselect
  simp only [selectDocuments, bind_eq_ok, require_eq_ok, exists_and_left] at hselected
  obtain ⟨documents, hdocuments, -, -, hselected⟩ := hselected
  split at hselected
  · cases hselected
    exact (mapM_eq_ok.mp hdocuments).imp fun _ _ => toDocument_keptAs
  · cases hselected

/-! ## Decisions -/

theorem identifier_length {id : Identifier} : 1 ≤ id.text.length ∧ id.text.length ≤ 128 := by
  have hvalid := id.valid
  unfold isIdentifier at hvalid
  rw [← String.length_toList]
  split at hvalid
  · cases hvalid
  · rename_i c rest heq
    simp only [Bool.and_eq_true, decide_eq_true_eq] at hvalid
    rw [heq, List.length_cons]
    omega

/-- The intent that retrieves a document. -/
def retrieval (id : Identifier) : CredentialFreeSourceIntent where
  sourceId := ⟨"edinet", .refl true⟩
  operation := ⟨"document-retrieval", by decide⟩
  origin := ⟨"api.edinet-fsa.go.jp", .refl true⟩
  resourceKey := id
  parameters := [⟨⟨"document_id", by decide⟩, id.text, identifier_length.1,
      identifier_length.2.trans (by decide)⟩,
    ⟨⟨"type", .refl true⟩, "1", by decide, by decide⟩]
  canonical := List.pairwise_pair.mpr (show "document_id" < "type" by decide)

/-- What is decided of a filing. -/
structure DecisionFor (document : EdinetDocument) (decision : EdinetRetrievalDecision) : Prop where
  number : decision.sequenceNumber = document.sequenceNumber
  id : decision.documentId = document.documentId
  selected : decision.outcome = .selected ↔
    document.withdrawn = false ∧ document.xbrlAvailable = true
  intent : decision.outcome = .selected →
    decision.retrievalIntent = some (retrieval decision.documentId)

theorem retrievalIntent?_retrieval (id : Identifier) :
    retrievalIntent? id.text (retrieval id).parameters = some (retrieval id) :=
  dif_pos ⟨id.valid, (retrieval id).canonical⟩

theorem buildRetrievalIntent_retrieval (id : Identifier) :
    buildRetrievalIntent "document-retrieval" (retrieval id).parameters = .ok (retrieval id) := by
  have hintent := retrievalIntent?_retrieval id
  simp only [buildRetrievalIntent, bind_eq_ok, require_eq_ok, fetch_eq_ok, exists_and_left,
    Option.bind_eq_some_iff]
  exact ⟨trivial, ⟨rfl, by simp [retrieval]⟩, (), (), id.text, by simp [retrieval], hintent⟩

theorem retrievalOf_selected {document : EdinetDocument} (hwithdrawn : document.withdrawn = false)
    (hxbrl : document.xbrlAvailable = true) :
    retrievalOf document = .ok (.selected, .selected, some (retrieval document.documentId)) := by
  have hid : sourceParameter? ⟨"document_id", by decide⟩ document.documentId.text =
      some ⟨⟨"document_id", by decide⟩, document.documentId.text, identifier_length.1,
        identifier_length.2.trans (by decide)⟩ :=
    dif_pos ⟨identifier_length.1, identifier_length.2.trans (by decide)⟩
  have htype : sourceParameter? ⟨"type", .refl true⟩ "1" =
      some ⟨⟨"type", .refl true⟩, "1", by decide, by decide⟩ := dif_pos (by decide)
  rw [retrievalOf, if_neg (by simp [hwithdrawn]), if_neg (by simp [hxbrl])]
  simp only [hid, htype, bind_eq_ok, fetch_eq_ok, Option.some.injEq, exists_eq_left']
  exact ⟨_, buildRetrievalIntent_retrieval document.documentId, rfl⟩

/-- A consistent outcome is decided. -/
theorem decideRetrieval_eq {document : EdinetDocument} {outcome : RetrievalOutcome}
    {reason : RetrievalReason} {intent : Option CredentialFreeSourceIntent}
    (h : retrievalOf document = .ok (outcome, reason, intent))
    (hconsistent : IntentOnlyForSelected document.documentId reason intent outcome) :
    decideRetrieval document = .ok ⟨document.sequenceNumber, document.documentId,
      document.documentType, document.parentDocumentId, outcome, reason, intent, hconsistent⟩ := by
  unfold decideRetrieval
  rw [h]
  exact dif_pos hconsistent

/-- No filing of a list is beyond a decision. -/
theorem decideRetrieval_ok (document : EdinetDocument) :
    ∃ decision, decideRetrieval document = .ok decision ∧ DecisionFor document decision := by
  cases hwithdrawn : document.withdrawn with
  | true =>
    have hskipped : retrievalOf document = .ok (.skipped, .withdrawn, none) := if_pos hwithdrawn
    refine ⟨_, decideRetrieval_eq hskipped ⟨nofun, rfl⟩, rfl, rfl, ?_, nofun⟩
    simp [hwithdrawn]
  | false =>
    cases hxbrl : document.xbrlAvailable with
    | true =>
      refine ⟨_, decideRetrieval_eq (retrievalOf_selected hwithdrawn hxbrl) ⟨rfl, rfl⟩, rfl, rfl,
        ?_, fun _ => rfl⟩
      simp [hwithdrawn, hxbrl]
    | false =>
      have hskipped : retrievalOf document = .ok (.skipped, .xbrlUnavailable, none) := by
        rw [retrievalOf, if_neg (by simp [hwithdrawn]), if_pos (by simp [hxbrl])]
      refine ⟨_, decideRetrieval_eq hskipped ⟨nofun, rfl⟩, rfl, rfl, ?_, nofun⟩
      simp [hxbrl]

/-! ## Targets -/

/-- A character of an identifier is one of a path, but for the colon. -/
theorem isPathChar_iff {id : Identifier} {c : Char} (hc : c ∈ id.text.toList) :
    (c.isAlphanum || c == '.' || c == '/' || c == '_' || c == '-') = true ↔ c ≠ ':' := by
  have hchar : (c.isAlphanum || c == '.' || c == '_' || c == ':' || c == '-') = true := by
    have hvalid := id.valid
    unfold isIdentifier at hvalid
    cases hlist : id.text.toList with
    | nil => simp [hlist] at hc
    | cons first rest =>
      simp only [hlist, Bool.and_eq_true] at hvalid
      rw [hlist] at hc
      rcases List.mem_cons.mp hc with rfl | hrest
      · simp [hvalid.1.1]
      · exact List.all_eq_true.mp hvalid.2 c hrest
  constructor
  · rintro hpath rfl
    exact absurd hpath (by decide)
  · intro hcolon
    simp only [Bool.or_eq_true, beq_iff_eq] at hchar ⊢
    tauto

theorem isHttpsPath_iff {path : String} {c : Char} {rest : List Char}
    (h : path.toList = '/' :: c :: rest) : isHttpsPath path = true ↔
      (c :: rest).length ≤ 1023 ∧ ∀ x ∈ c :: rest,
        (x.isAlphanum || x == '.' || x == '/' || x == '_' || x == '-') = true := by
  unfold isHttpsPath
  rw [h]
  simp only [decide_eq_true_eq, List.all_eq_true]

/-- The path of a document is one of HTTPS exactly where its id has no colon. -/
theorem isHttpsPath_documentPath {id : Identifier} :
    isHttpsPath (documentPath id) = true ↔ ':' ∉ id.text.toList := by
  have hpath : (documentPath id).toList =
      '/' :: 'a' :: ("pi/v2/documents/".toList ++ id.text.toList) :=
    String.toList_append
  have hfixed : "pi/v2/documents/".toList =
      ['p', 'i', '/', 'v', '2', '/', 'd', 'o', 'c', 'u', 'm', 'e', 'n', 't', 's', '/'] := rfl
  have hstart : ∀ c ∈ 'a' :: "pi/v2/documents/".toList,
      (c.isAlphanum || c == '.' || c == '/' || c == '_' || c == '-') = true := by
    rw [hfixed, ← List.all_eq_true]
    rfl
  -- the longest id leaves the path short enough
  have hlength : ('a' :: ("pi/v2/documents/".toList ++ id.text.toList)).length ≤ 1023 := by
    have hid : id.text.toList.length ≤ 128 := by
      rw [String.length_toList]
      exact identifier_length.2
    have hlength : "pi/v2/documents/".toList.length = 16 := by rw [hfixed]; rfl
    rw [List.length_cons, List.length_append, hlength]
    omega
  rw [isHttpsPath_iff hpath, ← List.cons_append]
  constructor
  · -- a colon is no character of a path
    rintro ⟨-, hchars⟩ hcolon
    have hpathChar := hchars ':' (List.mem_append_right _ hcolon)
    exact absurd hpathChar (by decide)
  · -- every other character of an id is
    intro hcolon
    refine ⟨hlength, fun c hc => ?_⟩
    rcases List.mem_append.mp hc with hc | hc
    · exact hstart c hc
    · refine (isPathChar_iff hc).mpr ?_
      rintro rfl
      exact hcolon hc

/-- So it is exactly there that its retrieval has a target. -/
theorem renderEdinetHttpTarget_retrieval {id : Identifier} {target : HttpTarget} :
    renderEdinetHttpTarget (retrieval id) = .ok target ↔ ':' ∉ id.text.toList ∧
      target = ⟨⟨"api.edinet-fsa.go.jp", .refl true⟩, documentPath id, [("type", "1")]⟩ := by
  have hlist : ¬ ((retrieval id).operation.text = "document-list" ∧
      (retrieval id).resourceKey.text = "api-v2-documents" ∧
      (retrieval id).names = ["date", "type"] ∧ (retrieval id).value "type" = some "2") :=
    fun h => absurd h.1 (show "document-retrieval" ≠ "document-list" by decide)
  have hretrieval : (retrieval id).operation.text = "document-retrieval" ∧
      some (retrieval id).resourceKey.text = (retrieval id).value "document_id" ∧
      (retrieval id).names = ["document_id", "type"] ∧
      (retrieval id).value "type" = some "1" :=
    ⟨rfl, by simp [CredentialFreeSourceIntent.value, retrieval], rfl,
      by simp [CredentialFreeSourceIntent.value, retrieval]⟩
  have hpath : "/api/v2/documents/" ++ (retrieval id).resourceKey.text = documentPath id := rfl
  unfold renderEdinetHttpTarget
  simp only [bind_eq_ok, require_eq_ok, exists_and_left]
  rw [if_neg hlist, if_pos hretrieval]
  simp only [hpath, bind_eq_ok, require_eq_ok, pure_eq_ok, isHttpsPath_documentPath,
    exists_and_left, exists_const]
  constructor
  · rintro ⟨-, hcolon, rfl⟩
    exact ⟨hcolon, rfl⟩
  · rintro ⟨hcolon, rfl⟩
    exact ⟨⟨rfl, rfl⟩, hcolon, rfl⟩

/-! ## Plans -/

theorem uniqueProviderOrder_iff {decisions : List EdinetRetrievalDecision} :
    UniqueProviderOrder decisions ↔
      decisions.Pairwise (·.sequenceNumber < ·.sequenceNumber) ∧
        (decisions.map (·.documentId)).Nodup := by
  unfold UniqueProviderOrder
  refine and_congr_left fun _ => ?_
  rw [← List.pairwise_map (f := fun d : EdinetRetrievalDecision => d.sequenceNumber)]
  generalize decisions.map (·.sequenceNumber) = numbers
  constructor
  · rintro ⟨hsorted, hnodup⟩
    have hle : numbers.Pairwise (· ≤ ·) := by
      rw [hsorted]
      exact List.pairwise_insertionSort (· ≤ ·) numbers
    exact (hle.and hnodup).imp fun h => lt_of_le_of_ne h.1 h.2
  · intro hlt
    refine ⟨?_, hlt.imp ne_of_lt⟩
    exact ((hlt.imp le_of_lt).insertionSort_eq).symm

/-- A plan is made of the decisions of the sorted filings, if they can be planned. -/
theorem planEdinetRetrievals_eq_ok {reference : CommittedRawReference} {list : EdinetDocumentList}
    {plan : EdinetRetrievalPlan} (h : planEdinetRetrievals ⟨reference, list⟩ = .ok plan) :
    ∃ documents, documents.Perm list.documents ∧
      List.Forall₂ DecisionFor documents plan.decisions := by
  simp only [planEdinetRetrievals, bind_eq_ok, require_eq_ok, exists_and_left] at h
  obtain ⟨-, -, decisions, hdecisions, h⟩ := h
  split at h
  · cases h
    refine ⟨_, List.perm_insertionSort _ _, (mapM_eq_ok.mp hdecisions).imp ?_⟩
    intro document decision hdecision
    obtain ⟨decision', hok, hfor⟩ := decideRetrieval_ok document
    cases hdecision.symm.trans hok
    exact hfor
  · cases h

/-- Filings whose sequence numbers differ can be planned. -/
theorem planEdinetRetrievals_ok {reference : CommittedRawReference} {list : EdinetDocumentList}
    (hschema : reference.rawSchemaId.text = "edinet-document-list-raw")
    (hversion : reference.rawSchemaVersion = 1)
    (hnumbers : (list.documents.map (·.sequenceNumber)).Nodup) :
    ∃ plan, planEdinetRetrievals ⟨reference, list⟩ = .ok plan := by
  let documents := orderBy (fun a b : EdinetDocument =>
    decide (a.sequenceNumber ≤ b.sequenceNumber)) list.documents
  have hperm : documents.Perm list.documents := List.perm_insertionSort _ _
  obtain ⟨decisions, hdecisions⟩ : ∃ decisions, List.Forall₂
      (fun document decision => decideRetrieval document = .ok decision ∧
        DecisionFor document decision) documents decisions := by
    refine ⟨documents.map fun document => (decideRetrieval_ok document).choose, ?_⟩
    rw [List.forall₂_map_right_iff, List.forall₂_same]
    exact fun document _ => (decideRetrieval_ok document).choose_spec
  have hmap : documents.mapM decideRetrieval = .ok decisions :=
    mapM_eq_ok.mpr (hdecisions.imp fun _ _ h => h.1)
  have hfor : List.Forall₂ DecisionFor documents decisions := hdecisions.imp fun _ _ h => h.2
  -- sorted and without repetition, the numbers are strictly increasing
  have hunique : UniqueProviderOrder decisions := by
    rw [uniqueProviderOrder_iff]
    constructor
    · rw [← List.pairwise_map (f := fun d : EdinetRetrievalDecision => d.sequenceNumber),
        map_eq_map_of_forall₂ (fun _ _ h => h.number) hfor, List.pairwise_map]
      have hle : documents.Pairwise fun a b =>
          decide (a.sequenceNumber ≤ b.sequenceNumber) = true :=
        pairwise_orderBy _ _ (fun a b => by simpa only [decide_eq_true_eq] using le_total _ _)
          (fun a b c => by simpa only [decide_eq_true_eq] using le_trans)
      have hne : documents.Pairwise fun a b => a.sequenceNumber ≠ b.sequenceNumber :=
        List.pairwise_map.mp ((hperm.map _).nodup_iff.mpr hnumbers)
      exact (hle.and hne).imp fun h => lt_of_le_of_ne (of_decide_eq_true h.1) h.2
    · rw [map_eq_map_of_forall₂ (fun _ _ h => h.id) hfor]
      exact (hperm.map _).nodup_iff.mpr list.distinct
  refine ⟨⟨reference, list.requestedDate, decisions, hunique⟩, ?_⟩
  simp only [planEdinetRetrievals, bind_eq_ok, require_eq_ok, exists_and_left]
  exact ⟨⟨hschema, hversion⟩, (), decisions, hmap, dif_pos hunique⟩

/-! ## Where lists are planned -/

theorem KeptAs.decidedBy {raw : RawDocument} {document : EdinetDocument}
    {decision : EdinetRetrievalDecision} (hkept : KeptAs raw document)
    (hfor : DecisionFor document decision) : DecidedBy raw decision where
  number := hfor.number.trans hkept.number
  id := hfor.id.trans hkept.id
  selected := hfor.selected.trans hkept.retrievable

/-- The decisions of a plan are those of the approved results. -/
theorem decided_of_parsed {raw : RawDocumentList} {list : EdinetDocumentList}
    {reference : CommittedRawReference} {plan : EdinetRetrievalPlan}
    (hkept : List.Forall₂ KeptAs raw.approved list.documents)
    (hplan : planEdinetRetrievals ⟨reference, list⟩ = .ok plan) :
    (∃ results, results.Perm raw.approved ∧ List.Forall₂ DecidedBy results plan.decisions) ∧
      ∀ decision ∈ plan.decisions, decision.outcome = .selected →
        decision.retrievalIntent = some (retrieval decision.documentId) := by
  obtain ⟨documents, hperm, hfor⟩ := planEdinetRetrievals_eq_ok hplan
  constructor
  · obtain ⟨results, hresults, hkept'⟩ :
        Relation.Comp List.Perm (List.Forall₂ KeptAs) raw.approved documents := by
      rw [← List.forall₂_comp_perm_eq_perm_comp_forall₂]
      exact ⟨list.documents, hkept, hperm.symm⟩
    exact ⟨results, hresults.symm, forall₂_comp (fun _ _ _ h h' => h.decidedBy h') hkept' hfor⟩
  · intro decision hmem hselected
    obtain ⟨document, -, h⟩ := exists_left_of_mem hfor hmem
    exact h.intent hselected

/-- A plan of unambiguous fields is what a plan is to be. -/
theorem Plannable.planned {raw : RawDocumentList} {plan : EdinetRetrievalPlan}
    (h : Plannable raw)
    (hdecided : ∃ results, results.Perm raw.approved ∧
      List.Forall₂ DecidedBy results plan.decisions)
    (hintent : ∀ decision ∈ plan.decisions, decision.outcome = .selected →
      decision.retrievalIntent = some (retrieval decision.documentId)) : Planned raw plan where
  decided := hdecided
  ordered := (uniqueProviderOrder_iff.mp plan.unique).1
  rendered := by
    intro decision hmem hselected
    obtain ⟨results, hperm, hresults⟩ := hdecided
    obtain ⟨result, hresult, hby⟩ := exists_left_of_mem hresults hmem
    have hcolon := h.ids result (hperm.mem_iff.mp hresult) (hby.selected.mp hselected)
    rw [← hby.id] at hcolon
    exact ⟨_, _, hintent decision hmem hselected,
      renderEdinetHttpTarget_retrieval.mpr ⟨hcolon, rfl⟩, rfl⟩
  distinct := by
    intro d hd e he hne i j hi hj t u ht hu heq
    -- only a selected filing has an intent
    have hselected : ∀ {d : EdinetRetrievalDecision} {i : CredentialFreeSourceIntent},
        d.retrievalIntent = some i → d.outcome = .selected := by
      intro d i hi
      have hconsistent := d.consistent
      cases houtcome : d.outcome with
      | selected => rfl
      | skipped =>
        rw [houtcome] at hconsistent
        cases hi.symm.trans hconsistent.2
    cases hi.symm.trans (hintent d hd (hselected hi))
    cases hj.symm.trans (hintent e he (hselected hj))
    obtain ⟨-, rfl⟩ := renderEdinetHttpTarget_retrieval.mp ht
    obtain ⟨-, rfl⟩ := renderEdinetHttpTarget_retrieval.mp hu
    have hpath : documentPath d.documentId = documentPath e.documentId :=
      congrArg HttpTarget.path heq
    exact hne (identifier_eq ((String.append_right_inj _).mp hpath) rfl)

/-- The fields of what can be planned are unambiguous. -/
theorem Planned.plannable {raw : RawDocumentList} {plan : EdinetRetrievalPlan}
    (h : Planned raw plan)
    (hintent : ∀ decision ∈ plan.decisions, decision.outcome = .selected →
      decision.retrievalIntent = some (retrieval decision.documentId)) : Plannable raw := by
  obtain ⟨results, hperm, hresults⟩ := h.decided
  refine ⟨?_, fun result hmem hretrievable => ?_⟩
  · rw [← (hperm.map _).nodup_iff,
      ← map_eq_map_of_forall₂ (fun _ _ h => h.number) hresults]
    exact List.pairwise_map.mpr (h.ordered.imp ne_of_lt)
  · obtain ⟨decision, hdecision, hby⟩ :=
      exists_left_of_mem hresults.flip (hperm.mem_iff.mpr hmem)
    have hselected := hby.selected.mpr hretrievable
    obtain ⟨intent, target, hsome, hrender, -⟩ := h.rendered decision hdecision hselected
    cases hsome.symm.trans (hintent decision hdecision hselected)
    rw [← hby.id]
    exact (renderEdinetHttpTarget_retrieval.mp hrender).1

/-- A reference of a list that was published. -/
def listReference : CommittedRawReference where
  publicationId := ⟨"p1", by decide⟩
  taskId := ⟨"t1", by decide⟩
  logicalRequestId := ⟨"l1", .refl true⟩
  physicalAttemptId := ⟨"a1", .refl true⟩
  relativePath := "raw/p1"
  contentSha256 := ⟨String.ofList (List.replicate 64 '0'), by decide +kernel⟩
  byteCount := 1
  rawSchemaId := ⟨"edinet-document-list-raw", by decide⟩
  rawSchemaVersion := 1
  publicationGeneration := 1

/-- **Accepted lists.** A body that is read is planned completely exactly where the
provider's fields are unambiguous. -/
theorem accepted_list_planned_iff {sha256 : List UInt8 → String} (lib : DocumentListLibrary)
    (response : BoundedSourceResponse sha256) :
    AcceptedListPlanned lib response ↔ ∀ raw list,
      readDocumentList lib response.body = .ok raw →
      parseDocumentList lib response = .ok list → Plannable raw := by
  constructor
  · intro h raw list hraw hlist
    obtain ⟨plan, hplan, hplanned⟩ := h.planned raw list hraw hlist listReference rfl rfl
    exact hplanned.plannable (decided_of_parsed (parseDocumentList_eq_ok hraw hlist) hplan).2
  · intro h
    refine ⟨fun error herror => ?_, fun raw list hraw hlist reference hschema hversion => ?_⟩
    · simp only [parseDocumentList, bind_eq_error, require_eq_error] at herror
      obtain ⟨-, rfl⟩ | ⟨-, -, herror⟩ := herror
      · rfl
      · exact (mapError_invalid _).1 error herror
    · have hkept := parseDocumentList_eq_ok hraw hlist
      have hplannable := h raw list hraw hlist
      have hnumbers : (list.documents.map (·.sequenceNumber)).Nodup := by
        rw [map_eq_map_of_forall₂ (fun _ _ h => h.number) hkept]
        exact hplannable.numbers
      obtain ⟨plan, hplan⟩ := planEdinetRetrievals_ok hschema hversion hnumbers
      obtain ⟨hdecided, hintent⟩ := decided_of_parsed hkept hplan
      exact ⟨plan, hplan, hplannable.planned hdecided hintent⟩

/-! ## Two filings of one number -/

namespace SampleList

/-- An object, by its names. -/
def object (entries : List (String × PyValue)) : PyValue :=
  .dict (entries.map fun entry => (.str (ofString entry.1), entry.2))

/-- A text of an object. -/
def text (value : String) : PyValue := .str (ofString value)

/-- The call of the hook for the object with some names. -/
def mapping (names : List String) : Contracts.HookCall PyStr := .mapping (names.map ofString)

/-- The names of a filing. -/
def filingNames : List String :=
  ["seqNumber", "docID", "edinetCode", "secCode", "filerName", "docTypeCode", "periodStart",
    "periodEnd", "submitDateTime", "docDescription", "parentDocID", "withdrawalStatus",
    "xbrlFlag"]

/-- Two filings. -/
def firstId : Identifier := ⟨"S100AAA1", by decide⟩
def secondId : Identifier := ⟨"S100AAA2", by decide⟩

/-- An annual report with the sequence number one. -/
def filing (id : Identifier) : PyValue :=
  object [("seqNumber", .int 1), ("docID", text id.text), ("edinetCode", .none),
    ("secCode", .none), ("filerName", text "Sample"), ("docTypeCode", text "120"),
    ("periodStart", .none), ("periodEnd", .none), ("submitDateTime", text "2024-01-04 09:00"),
    ("docDescription", text "Report"), ("parentDocID", .none), ("withdrawalStatus", text "0"),
    ("xbrlFlag", text "1")]

/-- The metadata of a list of two. -/
def metadata : PyValue :=
  object [("parameter", object [("date", text "2024-01-04"), ("type", text "2")]),
    ("resultset", object [("count", .int 2)]), ("processDateTime", text "2024-01-04 13:01"),
    ("status", text "200"), ("message", text "OK")]

/-- The list of two filings. -/
def listValue : PyValue :=
  object [("metadata", metadata), ("results", .list [filing firstId, filing secondId])]

/-- What `json.loads` does on the text of the list. -/
def listRun : Contracts.LibraryRun PyValue.str where
  calls := [mapping ["date", "type"], mapping ["count"],
    mapping ["parameter", "resultset", "processDateTime", "status", "message"],
    mapping filingNames, mapping filingNames, mapping ["metadata", "results"]]
  error := none
  value := listValue
  complete := by
    rintro - p hp entries hentries
    simp only [listValue, metadata, filing, object, text, List.map_cons, List.map_nil,
      PyValue.within, PyValue.entriesWithin, PyValue.itemsWithin, List.mem_append, List.mem_cons,
      List.not_mem_nil, or_false, List.append_nil] at hp
    have hmapping : ∀ names, mapping names ∈ [mapping ["date", "type"], mapping ["count"],
        mapping ["parameter", "resultset", "processDateTime", "status", "message"],
        mapping filingNames, mapping filingNames, mapping ["metadata", "results"]] →
        entries.map Prod.fst = names.map (fun name => PyValue.str (ofString name)) →
        ∃ keys, Contracts.HookCall.mapping keys ∈ [mapping ["date", "type"], mapping ["count"],
          mapping ["parameter", "resultset", "processDateTime", "status", "message"],
          mapping filingNames, mapping filingNames, mapping ["metadata", "results"]] ∧
          keys.map PyValue.str = entries.map Prod.fst := by
      intro names hmem heq
      exact ⟨_, hmem, by rw [heq, List.map_map]; rfl⟩
    repeat' first | subst hp | rcases hp with hp | hp
    all_goals cases hentries
    · exact hmapping ["metadata", "results"] (by simp) rfl
    · exact hmapping ["parameter", "resultset", "processDateTime", "status", "message"]
        (by simp) rfl
    · exact hmapping ["date", "type"] (by simp) rfl
    · exact hmapping ["count"] (by simp) rfl
    · exact hmapping filingNames (by simp) rfl
    · exact hmapping filingNames (by simp) rfl

/-- The text of a filing. -/
def filingText (id : String) : String :=
  "\x7b\"seqNumber\":1,\"docID\":\"" ++ id ++ "\",\"edinetCode\":null,\"secCode\":null," ++
  "\"filerName\":\"Sample\",\"docTypeCode\":\"120\",\"periodStart\":null,\"periodEnd\":null," ++
  "\"submitDateTime\":\"2024-01-04 09:00\",\"docDescription\":\"Report\"," ++
  "\"parentDocID\":null,\"withdrawalStatus\":\"0\",\"xbrlFlag\":\"1\"\x7d"

/-- The text of the list. -/
def listText : String :=
  "\x7b\"metadata\":\x7b\"parameter\":\x7b\"date\":\"2024-01-04\",\"type\":\"2\"\x7d," ++
  "\"resultset\":\x7b\"count\":2\x7d,\"processDateTime\":\"2024-01-04 13:01\"," ++
  "\"status\":\"200\",\"message\":\"OK\"\x7d,\"results\":[" ++
  filingText "S100AAA1" ++ "," ++ filingText "S100AAA2" ++ "]\x7d"

/-- The library on the text of the list. -/
def library : DocumentListLibrary where
  lower value := value
  decode body := if body = listText.toUTF8.toList then some (ofString listText) else none
  jsonLoads value :=
    if value = ofString listText then listRun else .raising .jsonDecodeError
  isIsoDate value := value = ofString "2024-01-04"
  isMinute value := value = ofString "2024-01-04 13:01" ∨ value = ofString "2024-01-04 09:00"

end SampleList

namespace SampleList

theorem ofString_inj {a b : String} : ofString a = ofString b ↔ a = b := by
  constructor
  · intro h
    have hdecode := congrArg Contracts.PyStr.decode? h
    simpa using hdecode
  · exact congrArg ofString

theorem field_object (entries : List (String × PyValue)) (name : String) :
    field (object entries) name = (entries.find? (·.1 = name)).map (·.2) := by
  have hfind : (entries.map fun entry => ((.str (ofString entry.1) : PyValue), entry.2)).find?
      (fun entry => entry.1.keyEq (.str (ofString name))) =
        (entries.find? (·.1 = name)).map fun entry => (.str (ofString entry.1), entry.2) := by
    rw [List.find?_map]
    simp [Function.comp_def, PyValue.keyEq, ofString_inj]
  simp only [field, object, hfind, Option.map_map]
  rfl

theorem identifier?_ofString (id : Identifier) :
    identifier? (.str (ofString id.text)) = some id := by
  have hid : isIdentifier id.text = true := id.valid
  simp [identifier?, hid]

/-- The filing as it is read. -/
def rawFiling (id : Identifier) : RawDocument where
  seqNumber := 1
  docID := id
  edinetCode := none
  secCode := none
  filerName := some (ofString "Sample")
  docTypeCode := some (ofString "120")
  periodStart := none
  periodEnd := none
  submitDateTime := some (ofString "2024-01-04 09:00")
  docDescription := some (ofString "Report")
  parentDocID := none
  withdrawalStatus := ofString "0"
  xbrlFlag := true
  seqNumber_ge := by decide

theorem validate_filing (id : Identifier) :
    RawDocument.validate (filing id) = some (rawFiling id) := by
  simp [RawDocument.validate, filing, field_object, strictInt?, identifier?_ofString, optional?,
    text, strictStr?, flag?, rawFiling]

/-- The list as it is read. -/
def rawList : RawDocumentList where
  metadata := ⟨ofString "2024-01-04", 2, ofString "2024-01-04 13:01", ofString "200",
    ofString "OK"⟩
  results := [rawFiling firstId, rawFiling secondId]
  count_eq := rfl
  distinct := by simp [rawFiling, firstId, secondId]

theorem validate_listValue : RawDocumentList.validate listValue = some rawList := by
  have hmetadata : RawMetadata.validate metadata = some rawList.metadata := by
    simp [RawMetadata.validate, metadata, field_object, text, strictStr?, strictInt?, rawList]
  have hresults : results? (.list [filing firstId, filing secondId]) = some rawList.results := by
    simp [results?, validate_filing, rawList]
  have hfields : RawDocumentList.validate listValue = (do
      let metadata ← RawMetadata.validate metadata
      let results ← results? (.list [filing firstId, filing secondId])
      if h : metadata.count = results.length ∧ (results.map (·.docID)).Nodup then
        some ⟨metadata, results, h.1, h.2⟩
      else none) := by
    simp [RawDocumentList.validate, listValue, field_object]
  have hvalid : rawList.metadata.count = rawList.results.length ∧
      (rawList.results.map (·.docID)).Nodup := ⟨rawList.count_eq, rawList.distinct⟩
  rw [hfields, hmetadata, hresults]
  simp only [Option.bind_eq_bind, Option.bind_some]
  exact dif_pos hvalid

/-- The response with the list. -/
def response : BoundedSourceResponse (fun _ => String.ofList (List.replicate 64 '0')) where
  physicalAttemptId := ⟨"a1", .refl true⟩
  body := listText.toUTF8.toList
  mediaType := "application/json"
  encoding := "utf-8"
  mediaType_ge := Sample.mediaType_ge
  mediaType_le := Sample.mediaType_le
  encoding_ge := Sample.encoding_ge
  encoding_le := Sample.encoding_le
  digest := String.ofList (List.replicate 64 '0')
  exactHash := rfl

theorem readDocumentList_response : readDocumentList library response.body = .ok rawList := by
  have hdecode : library.decode response.body = some (ofString listText) := by
    simp [library, response]
  have hrun : library.jsonLoads (ofString listText) = listRun := by simp [library]
  have hcalls : listRun.calls.forM documentListHook = .ok ⟨⟩ := by
    have hnames : ∀ names : List String, names.Nodup →
        documentListHook (mapping names) = .ok () := by
      intro names hnodup
      exact require_eq_ok.mpr (hnodup.map fun _ _ => ofString_inj.mp)
    rw [forM_eq_ok]
    intro call hcall
    simp only [listRun, List.mem_cons, List.not_mem_nil, or_false] at hcall
    rcases hcall with rfl | rfl | rfl | rfl | rfl | rfl
    all_goals exact hnames _ (by decide)
  have hload : loadDocumentList library (ofString listText) = .ok listValue := by
    simp only [loadDocumentList, hrun, bind_eq_ok]
    exact ⟨(), hcalls, rfl⟩
  simp only [readDocumentList, bind_eq_ok, fetch_eq_ok]
  exact ⟨_, hdecode, listValue, hload, validate_listValue⟩

theorem ofValue?_annualReport :
    EdinetDocumentType.ofValue? (ofString "120") = some .annualReport := by
  simp [EdinetDocumentType.ofValue?, EdinetDocumentType.value]

theorem approved_rawList : rawList.approved = [rawFiling firstId, rawFiling secondId] := by
  simp [RawDocumentList.approved, RawDocument.isApproved, rawList, rawFiling,
    ofValue?_annualReport]

theorem toDocument_rawFiling (id : Identifier) : ∃ document,
    toDocument library (rawFiling id) = .ok document ∧ document.documentId = id := by
  have htype := ofValue?_annualReport
  have hname : boundedText? 512 (ofString "Sample") = some "Sample" := by
    have hlength : 1 ≤ "Sample".length ∧ "Sample".length ≤ 512 := by decide
    simpa [boundedText?] using hlength
  have hdescription : boundedText? 1024 (ofString "Report") = some "Report" := by
    have hlength : 1 ≤ "Report".length ∧ "Report".length ≤ 1024 := by decide
    simpa [boundedText?] using hlength
  simp [toDocument, rawFiling, fetch, require, htype, hname, hdescription, library, bind,
    Except.bind, pure, Except.pure]

theorem parse_response : ∃ list, parseDocumentList library response = .ok list := by
  obtain ⟨first, hfirst, hfirstId⟩ := toDocument_rawFiling firstId
  obtain ⟨second, hsecond, hsecondId⟩ := toDocument_rawFiling secondId
  have hdocuments : rawList.approved.mapM (toDocument library) = .ok [first, second] := by
    rw [approved_rawList, mapM_eq_ok]
    exact .cons hfirst (.cons hsecond .nil)
  have hdistinct : (([first, second] : List EdinetDocument).map (·.documentId)).Nodup := by
    simp [hfirstId, hsecondId, firstId, secondId]
  have hselect : ∃ list, selectDocuments library rawList = .ok list := by
    simp only [selectDocuments, bind_eq_ok, require_eq_ok, exists_and_left]
    exact ⟨_, _, hdocuments, by simp [library, rawList], (), dif_pos hdistinct⟩
  obtain ⟨list, hlist⟩ := hselect
  refine ⟨list, ?_⟩
  simp only [parseDocumentList, readDocumentList_response, bind_eq_ok, require_eq_ok]
  refine ⟨(), ⟨rfl, rfl⟩, ?_⟩
  exact congrArg (Except.mapError _) hlist

end SampleList

open SampleList in
/-- Both filings are number one: the list is accepted, and there is no plan of it. -/
theorem accepted_list_unplanned :
    (∃ list, parseDocumentList library response = .ok list ∧
      ∀ plan, planEdinetRetrievals ⟨listReference, list⟩ ≠ .ok plan) ∧
    ¬ AcceptedListPlanned library response := by
  obtain ⟨list, hlist⟩ := parse_response
  have hunplanned : ∀ plan, planEdinetRetrievals ⟨listReference, list⟩ ≠ .ok plan := by
    intro plan hplan
    obtain ⟨⟨results, hperm, hresults⟩, -⟩ :=
      decided_of_parsed (parseDocumentList_eq_ok readDocumentList_response hlist) hplan
    have hnumbers := (uniqueProviderOrder_iff.mp plan.unique).1
    have hnodup : (rawList.approved.map (·.seqNumber)).Nodup := by
      rw [← (hperm.map _).nodup_iff, ← map_eq_map_of_forall₂ (fun _ _ h => h.number) hresults]
      exact List.pairwise_map.mpr (hnumbers.imp ne_of_lt)
    rw [approved_rawList] at hnodup
    simp [rawFiling] at hnodup
  refine ⟨⟨list, hlist, hunplanned⟩, fun h => ?_⟩
  obtain ⟨plan, hplan, -⟩ :=
    h.planned rawList list readDocumentList_response hlist listReference rfl rfl
  exact hunplanned plan hplan

end StockResearch.Sources
