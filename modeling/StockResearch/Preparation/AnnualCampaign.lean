import Mathlib.Logic.Function.Basic
import StockResearch.Lib.Run
import StockResearch.Lib.Table

/-!
# The annual campaign

A campaign may send four requests, whatever becomes of the processes that send them. Its
budget is a directory: making it starts the campaign, a file in it spends a slot, and a file
that exists is never created again. An interrupted campaign may be continued, once, from the
one state that was approved.

- `CampaignStep`: the steps of the processes that run over one runtime directory, as far as
  another process can tell them apart. Syncing changes nothing that another process sees.
- `Campaigns.next`: a step, with a log of the files created and the sends permitted.
-/

namespace StockResearch.Preparation.Campaign

/-! ## Records -/

/-- A value in a record of a campaign. -/
inductive RecordValue
  | text (value : String)
  | number (value : Int)
  | texts (entries : List (String × String))
deriving DecidableEq

abbrev CampaignRecord := List (String × RecordValue)

/-- What is used of the language: `json.dumps` with the keys sorted, and SHA-256. -/
structure CampaignLibrary where
  dump : CampaignRecord → List UInt8
  sha256 : List UInt8 → String

/-- `CAMPAIGN_ID` -/
def campaignId : String := "edinet-prior-annual-20260927"

/-- `PRIOR_STATE_HASHES` -/
def priorStateHashes : List (String × String) :=
  [("started.json", "d87c84ea991ee07affc56522a81c225fe7f42951493b06c7571e51205bcc4c92"),
    ("slot-0.json", "655ae380d1b540a87fbdecd028a9235ae506723339383465cdb824c04ff92d12")]

def startedRecord (approvalHash taskId startedAt : String) : CampaignRecord :=
  [("campaign_id", .text campaignId), ("approval_sha256", .text approvalHash),
    ("task_id", .text taskId), ("started_at", .text startedAt), ("max_sends", .number 4)]

def continuationRecord (approvalHash taskId startedAt : String) : CampaignRecord :=
  [("approval_sha256", .text approvalHash), ("task_id", .text taskId),
    ("started_at", .text startedAt), ("remaining_sends", .number 3),
    ("inherited_slot_hashes", .texts priorStateHashes)]

def slotRecord (target : String) (sequence : Int) (startedAt attemptId approvalHash : String) :
    CampaignRecord :=
  [("target", .text target), ("sequence", .number sequence), ("started_at", .text startedAt),
    ("physical_attempt_id", .text attemptId), ("approval_sha256", .text approvalHash)]

/-- `expected`, the slots in their order. -/
def expected : List (String × Int) := [("2024", 0), ("2024", 1), ("2023", 0), ("2023", 1)]

/-! ## Processes -/

/-- An `AnnualCampaign` object. -/
structure AnnualCampaign where
  approvalHash : String
  sent : Nat
  version : Nat
deriving DecidableEq

/-- What a file that is being written is for: it starts a campaign, continues one, or spends a
slot. -/
inductive Purpose
  | started
  | continuation
  | slot (index : Nat) (target : String) (sequence : Int)
deriving DecidableEq

def Purpose.file : Purpose → String
  | started => "started.json"
  | continuation => "continuation.json"
  | slot index _ _ => "slot-" ++ toString index ++ ".json"

/-- Where a process is: before its campaign, after it made the directory, comparing the files
of a campaign that it wants to continue, between two calls of its campaign, in a
`_durable_write` with the bytes that are still missing, or at its end. -/
inductive Process
  | waiting
  | making (campaign : AnnualCampaign) (record : CampaignRecord)
  | checking (remaining : List (String × String)) (campaign : AnnualCampaign)
    (record : CampaignRecord)
  | holding (campaign : AnnualCampaign)
  | writing (purpose : Purpose) (campaign : AnnualCampaign) (remaining : List UInt8)
  | ended
deriving DecidableEq

/-- What a run of the processes leaves behind. -/
inductive CampaignEvent
  | created (process : Nat) (file : String)
  | permitted (process : Nat) (index : Nat) (slot : String × Int)
deriving DecidableEq

/-- The campaign directory with its files, unless there is none, the processes, and the log. -/
structure Campaigns where
  directory : Option (Table String (List UInt8))
  processes : Nat → Process
  log : List CampaignEvent

/-- A runtime directory in which no process runs yet. -/
def Campaigns.initial (directory : Option (Table String (List UInt8))) : Campaigns :=
  ⟨directory, fun _ => .waiting, []⟩

/-! ## Steps -/

/-- The next step of a process. -/
inductive CampaignStep
  | construct (process : Nat) (approvalHash taskId startedAt : String)
  | continuePrior (process : Nat) (approvalHash taskId startedAt : String)
  /-- The next file is compared, or the record of the campaign is created. -/
  | proceeds (process : Nat)
  | beforeSend (process : Nat) (target : String) (sequence : Int) (startedAt attemptId : String)
  /-- Some more bytes get into the file. -/
  | writes (process : Nat) (count : Nat)
  /-- The file is written and synced, and the call returns. -/
  | returns (process : Nat)
  /-- A step raises, and with it the call. -/
  | raises (process : Nat)
  | crashes (process : Nat)
deriving DecidableEq

namespace Campaigns

/-- The process goes to another place. -/
def goto (s : Campaigns) (process : Nat) (place : Process) : Campaigns :=
  { s with processes := Function.update s.processes process place }

/-- Where a process is after the call that it was in raised. -/
def afterRaise : Process → Process
  | .writing (.slot ..) campaign _ => .holding campaign
  | .holding campaign => .holding campaign
  | .waiting => .waiting
  | _ => .ended

/-- `path.open("x")`, in a process that is going to write `text`; `place` is where it is when
the file exists. -/
def openExclusive (s : Campaigns) (process : Nat) (purpose : Purpose) (campaign : AnnualCampaign)
    (text : List UInt8) (place : Process) : Campaigns :=
  match s.directory with
  | none => s.goto process place
  | some files =>
    if files.get? purpose.file = none then
      { s.goto process (.writing purpose campaign text) with
        directory := some (files.insert purpose.file [])
        log := s.log ++ [.created process purpose.file] }
    else s.goto process place

/-- `__init__` up to the marker: the directory is made. -/
def construct (s : Campaigns) (process : Nat) (approvalHash taskId startedAt : String) :
    Campaigns :=
  match s.directory with
  | some _ => s.goto process .ended
  | none =>
    { s.goto process (.making ⟨approvalHash, 0, 3⟩ (startedRecord approvalHash taskId startedAt))
      with directory := some .empty }

/-- `continue_prior` up to the comparison: the names of the files are read. -/
def continuePrior (s : Campaigns) (process : Nat) (approvalHash taskId startedAt : String) :
    Campaigns :=
  match s.directory with
  | none => s.goto process .ended
  | some files =>
    if (∀ row ∈ files.rows, row.1 ∈ priorStateHashes.map (·.1)) ∧
        ∀ prior ∈ priorStateHashes, prior.1 ∈ files.rows.map (·.1) then
      s.goto process (.checking priorStateHashes ⟨approvalHash, 1, 4⟩
        (continuationRecord approvalHash taskId startedAt))
    else s.goto process .ended

/-- A file of the state that is continued is compared with its hash. -/
def compare (lib : CampaignLibrary) (s : Campaigns) (process : Nat) (name hash : String)
    (remaining : List (String × String)) (campaign : AnnualCampaign) (record : CampaignRecord) :
    Campaigns :=
  if ((s.directory.bind (·.get? name)).map lib.sha256) = some hash then
    s.goto process (.checking remaining campaign record)
  else s.goto process .ended

/-- `before_send` up to the slot file. -/
def beforeSend (lib : CampaignLibrary) (s : Campaigns) (process : Nat) (campaign : AnnualCampaign)
    (target : String) (sequence : Int) (startedAt attemptId : String) : Campaigns :=
  if expected[campaign.sent]? ≠ some (target, sequence) then s
  else
    s.openExclusive process (.slot campaign.sent target sequence) campaign
      (lib.dump (slotRecord target sequence startedAt attemptId campaign.approvalHash))
      (.holding campaign)

/-- More bytes of a file are written. -/
def writes (s : Campaigns) (process : Nat) (purpose : Purpose) (campaign : AnnualCampaign)
    (remaining : List UInt8) (count : Nat) : Campaigns :=
  { s.goto process (.writing purpose campaign (remaining.drop count)) with
    directory := s.directory.map (·.modify purpose.file (· ++ remaining.take count)) }

/-- A file is written, and the call returns. -/
def returns (s : Campaigns) (process : Nat) (purpose : Purpose) (campaign : AnnualCampaign) :
    Campaigns :=
  match purpose with
  | .started | .continuation => s.goto process (.holding campaign)
  | .slot index target sequence =>
    { s.goto process (.holding { campaign with sent := campaign.sent + 1 }) with
      log := s.log ++ [.permitted process index (target, sequence)] }

/-- A step; one that its process cannot make changes nothing. -/
def next (lib : CampaignLibrary) (step : CampaignStep) (s : Campaigns) : Campaigns :=
  match step with
  | .construct process approvalHash taskId startedAt =>
    if s.processes process = .waiting then s.construct process approvalHash taskId startedAt else s
  | .continuePrior process approvalHash taskId startedAt =>
    if s.processes process = .waiting then s.continuePrior process approvalHash taskId startedAt
    else s
  | .proceeds process =>
    match s.processes process with
    | .making campaign record =>
      s.openExclusive process .started campaign (lib.dump record) .ended
    | .checking [] campaign record =>
      s.openExclusive process .continuation campaign (lib.dump record) .ended
    | .checking ((name, hash) :: remaining) campaign record =>
      s.compare lib process name hash remaining campaign record
    | _ => s
  | .beforeSend process target sequence startedAt attemptId =>
    match s.processes process with
    | .holding campaign => s.beforeSend lib process campaign target sequence startedAt attemptId
    | _ => s
  | .writes process count =>
    match s.processes process with
    | .writing purpose campaign remaining => s.writes process purpose campaign remaining count
    | _ => s
  | .returns process =>
    match s.processes process with
    | .writing purpose campaign [] => s.returns process purpose campaign
    | _ => s
  | .raises process => s.goto process (afterRaise (s.processes process))
  | .crashes process => s.goto process .ended

end Campaigns

end StockResearch.Preparation.Campaign
