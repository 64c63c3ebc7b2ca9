import StockResearch.Contracts.Parsing
import StockResearch.Sources.Protocol

/-!
# The list of the filings of a day

EDINET answers a request for a day with one JSON object. The adapter validates what it
consumes of it, tolerates what it does not know, and keeps the filings of the approved
types. Whatever is wrong with the bytes leaves it as one error.

- `RawDocumentList`: what the provider sent, as far as it is read.
- `EdinetDocumentList`: the filings that are kept.
- `parseDocumentList`: the code.
-/

namespace StockResearch.Sources

open Requests
open Contracts (PyStr PyValue LibraryRun LibraryError HookCall)
open Contracts.PyStr (ofString)

/-! ## The library -/

/-- What is used of the language: `str.lower`, `bytes.decode` of UTF-8, `json.loads`, and
whether `date.fromisoformat` and `datetime.strptime` return on a text. -/
structure DocumentListLibrary where
  lower : String → String
  decode : List UInt8 → Option PyStr
  jsonLoads : PyStr → LibraryRun PyValue.str
  isIsoDate : PyStr → Bool
  isMinute : PyStr → Bool

/-- What is raised while a list is read; every one of them is a `ValueError`. -/
inductive DocumentListError
  | invalid
  | unicodeDecodeError
  | library (error : LibraryError)
  | validationError
  | valueError (message : String)
deriving DecidableEq

/-! ## The provider's object -/

/-- The value of a key, if the value is an object with it. -/
def field (value : PyValue) (name : String) : Option PyValue :=
  match value with
  | .dict entries => (entries.find? fun entry => entry.1.keyEq (.str (ofString name))).map (·.2)
  | _ => none

/-- `int`, strictly. -/
def strictInt? : PyValue → Option Int
  | .int value => some value
  | _ => none

/-- `str`, strictly. -/
def strictStr? : PyValue → Option PyStr
  | .str value => some value
  | _ => none

/-- `Identifier` -/
def identifier? : PyValue → Option Identifier
  | .str value => do
    let text ← value.decode?
    if h : isIdentifier text = true then some ⟨text, h⟩ else none
  | _ => none

/-- A field that may be null. -/
def optional? {α : Type} (read : PyValue → Option α) : PyValue → Option (Option α)
  | .none => some none
  | value => (read value).map some

/-- `Literal["0", "1"]`, as whether it is the second. -/
def flag? (value : PyValue) : Option Bool := do
  let text ← strictStr? value
  if text = ofString "1" then some true
  else if text = ofString "0" then some false
  else none

/-- `_RawDocument` -/
structure RawDocument where
  seqNumber : Int
  docID : Identifier
  edinetCode : Option Identifier
  secCode : Option Identifier
  filerName : Option PyStr
  docTypeCode : Option PyStr
  periodStart : Option PyStr
  periodEnd : Option PyStr
  submitDateTime : Option PyStr
  docDescription : Option PyStr
  parentDocID : Option Identifier
  withdrawalStatus : PyStr
  xbrlFlag : Bool
  seqNumber_ge : 1 ≤ seqNumber

/-- `_RawDocument.model_validate` -/
def RawDocument.validate (value : PyValue) : Option RawDocument := do
  let seqNumber ← (field value "seqNumber").bind strictInt?
  let docID ← (field value "docID").bind identifier?
  let edinetCode ← (field value "edinetCode").bind (optional? identifier?)
  let secCode ← (field value "secCode").bind (optional? identifier?)
  let filerName ← (field value "filerName").bind (optional? strictStr?)
  let docTypeCode ← (field value "docTypeCode").bind (optional? strictStr?)
  let periodStart ← (field value "periodStart").bind (optional? strictStr?)
  let periodEnd ← (field value "periodEnd").bind (optional? strictStr?)
  let submitDateTime ← (field value "submitDateTime").bind (optional? strictStr?)
  let docDescription ← (field value "docDescription").bind (optional? strictStr?)
  let parentDocID ← (field value "parentDocID").bind (optional? identifier?)
  let withdrawalStatus ← (field value "withdrawalStatus").bind strictStr?
  let xbrlFlag ← (field value "xbrlFlag").bind flag?
  if seqNumber_ge : 1 ≤ seqNumber then
    some { seqNumber, docID, edinetCode, secCode, filerName, docTypeCode, periodStart, periodEnd,
           submitDateTime, docDescription, parentDocID, withdrawalStatus, xbrlFlag, seqNumber_ge }
  else none

/-- `_RawMetadata`, with the date of its parameter and the count of its result set. -/
structure RawMetadata where
  date : PyStr
  count : Int
  processDateTime : PyStr
  status : PyStr
  message : PyStr

/-- `_RawMetadata.model_validate` -/
def RawMetadata.validate (value : PyValue) : Option RawMetadata := do
  let parameter ← field value "parameter"
  let date ← (field parameter "date").bind strictStr?
  let type ← (field parameter "type").bind strictStr?
  let count ← ((field value "resultset").bind (field · "count")).bind strictInt?
  let processDateTime ← (field value "processDateTime").bind strictStr?
  let status ← (field value "status").bind strictStr?
  let message ← (field value "message").bind strictStr?
  if type = ofString "2" ∧ 0 ≤ count then
    some { date, count, processDateTime, status, message }
  else none

/-- `_RawDocumentList` -/
structure RawDocumentList where
  metadata : RawMetadata
  results : List RawDocument
  count_eq : metadata.count = results.length
  distinct : (results.map (·.docID)).Nodup

/-- The results of an array; a `list` is read as a `tuple`. -/
def results? : PyValue → Option (List RawDocument)
  | .list items => items.mapM RawDocument.validate
  | _ => none

/-- `_RawDocumentList.model_validate` -/
def RawDocumentList.validate (value : PyValue) : Option RawDocumentList := do
  let metadata ← (field value "metadata").bind RawMetadata.validate
  let results ← (field value "results").bind results?
  if h : metadata.count = results.length ∧ (results.map (·.docID)).Nodup then
    some ⟨metadata, results, h.1, h.2⟩
  else none

/-! ## The filings that are kept -/

/-- `EdinetDocumentType` -/
inductive EdinetDocumentType
  | annualReport
  | amendedAnnualReport
  | quarterlyReport
  | amendedQuarterlyReport
  | semiannualReport
  | amendedSemiannualReport
deriving DecidableEq

/-- The value of a type. -/
def EdinetDocumentType.value : EdinetDocumentType → String
  | annualReport => "120"
  | amendedAnnualReport => "130"
  | quarterlyReport => "140"
  | amendedQuarterlyReport => "150"
  | semiannualReport => "160"
  | amendedSemiannualReport => "170"

/-- `EdinetDocumentType(value)`, if it is one. -/
def EdinetDocumentType.ofValue? (value : PyStr) : Option EdinetDocumentType :=
  [annualReport, amendedAnnualReport, quarterlyReport, amendedQuarterlyReport, semiannualReport,
    amendedSemiannualReport].find? fun type => ofString type.value = value

/-- `EdinetDocument` -/
structure EdinetDocument where
  sequenceNumber : Int
  documentId : Identifier
  edinetCode : Option Identifier
  securityCode : Option Identifier
  filerName : String
  documentType : EdinetDocumentType
  periodStart : Option PyStr
  periodEnd : Option PyStr
  submittedAt : PyStr
  description : String
  parentDocumentId : Option Identifier
  /-- `withdrawal_status == "1"` -/
  withdrawn : Bool
  xbrlAvailable : Bool

/-- `StringConstraints(min_length=1, max_length=...)` -/
def boundedText? (maxLength : Nat) (value : PyStr) : Option String := do
  let text ← value.decode?
  if 1 ≤ text.length ∧ text.length ≤ maxLength then some text else none

variable (lib : DocumentListLibrary)

/-- `_to_document`, with the validators of `EdinetDocument`. -/
def toDocument (raw : RawDocument) : Except DocumentListError EdinetDocument := do
  require (raw.withdrawalStatus = ofString "0" ∨ raw.withdrawalStatus = ofString "1")
    (.valueError "edinet_supported_withdrawal_status_unknown")
  let missing : DocumentListError := .valueError "edinet_supported_filing_metadata_missing"
  let filerName ← fetch raw.filerName missing
  let docTypeCode ← fetch raw.docTypeCode missing
  let submittedAt ← fetch raw.submitDateTime missing
  let docDescription ← fetch raw.docDescription missing
  let documentType ← fetch (EdinetDocumentType.ofValue? docTypeCode)
    (.valueError "is not a valid EdinetDocumentType")
  let filerName ← fetch (boundedText? 512 filerName) .validationError
  let description ← fetch (boundedText? 1024 docDescription) .validationError
  require (raw.periodStart.all lib.isIsoDate ∧ raw.periodEnd.all lib.isIsoDate ∧
    lib.isMinute submittedAt) .validationError
  pure { sequenceNumber := raw.seqNumber
         documentId := raw.docID
         edinetCode := raw.edinetCode
         securityCode := raw.secCode
         filerName
         documentType
         periodStart := raw.periodStart
         periodEnd := raw.periodEnd
         submittedAt
         description
         parentDocumentId := raw.parentDocID
         withdrawn := raw.withdrawalStatus ≠ ofString "0"
         xbrlAvailable := raw.xbrlFlag }

/-- `EdinetDocumentList` -/
structure EdinetDocumentList where
  requestedDate : PyStr
  processedAt : PyStr
  providerStatus : PyStr
  providerMessage : PyStr
  providerResultCount : Int
  documents : List EdinetDocument
  distinct : (documents.map (·.documentId)).Nodup

/-- `item.docTypeCode is not None and item.docTypeCode in EdinetDocumentType` -/
def RawDocument.isApproved (raw : RawDocument) : Bool :=
  (raw.docTypeCode.bind EdinetDocumentType.ofValue?).isSome

/-- The results of an approved type. -/
def RawDocumentList.approved (raw : RawDocumentList) : List RawDocument :=
  raw.results.filter (·.isApproved)

/-- The filings of a provider's list that are kept. -/
def selectDocuments (raw : RawDocumentList) : Except DocumentListError EdinetDocumentList := do
  let documents ← raw.approved.mapM (toDocument lib)
  require (lib.isIsoDate raw.metadata.date ∧ lib.isMinute raw.metadata.processDateTime)
    .validationError
  if distinct : (documents.map (·.documentId)).Nodup then
    pure { requestedDate := raw.metadata.date
           processedAt := raw.metadata.processDateTime
           providerStatus := raw.metadata.status
           providerMessage := raw.metadata.message
           providerResultCount := raw.metadata.count
           documents
           distinct }
  else .error .validationError

/-! ## The bytes -/

/-- `_unique_json_object` and `_reject_json_constant` -/
def documentListHook : HookCall PyStr → Except DocumentListError Unit
  | .mapping keys => require keys.Nodup .invalid
  | .constant _ => .error .invalid

/-- `json.loads`, with the hooks. -/
def loadDocumentList (text : PyStr) : Except DocumentListError PyValue := do
  (lib.jsonLoads text).calls.forM documentListHook
  match (lib.jsonLoads text).error with
  | some error => .error (.library error)
  | none => pure (lib.jsonLoads text).value

variable {sha256 : List UInt8 → String}

/-- The provider's list in a body. -/
def readDocumentList (body : List UInt8) : Except DocumentListError RawDocumentList := do
  let text ← fetch (lib.decode body) .unicodeDecodeError
  let value ← loadDocumentList lib text
  fetch (RawDocumentList.validate value) .validationError

/-- `EdinetDocumentListAdapter.parse` -/
def parseDocumentList (response : BoundedSourceResponse sha256) :
    Except DocumentListError EdinetDocumentList := do
  require (response.mediaType = "application/json" ∧ lib.lower response.encoding = "utf-8")
    .invalid
  let selected : Except DocumentListError EdinetDocumentList := do
    let raw ← readDocumentList lib response.body
    selectDocuments lib raw
  -- whatever the `try` statement raises is a `ValueError`, and becomes the adapter's own
  selected.mapError fun _ => .invalid

end StockResearch.Sources
