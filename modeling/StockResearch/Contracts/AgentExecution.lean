import StockResearch.Contracts.Base
import StockResearch.Lib.Accumulator

/-!
# Agent executions and their history

One run of an agent and its place in a logical session: the contract of a run, and the
check of a whole history of runs.

- `AgentExecution`, `AgentExecution.validate`: the model and its validators.
- `validateAgentExecutionHistory`: the check of a history.
- `Fits`, `history_accepted_iff`: what it asks of each run.
- `Sound`, `Proper`: sound lineage, and what of it the check leaves out.
- `history_decides_iff`: the check decides soundness unless a history it lets through
  has a run that resumes itself or another session, or a session that changes its
  task or role.
-/

namespace StockResearch.Contracts

/-! ## The contract -/

/-- `AgentRole` -/
inductive AgentRole where
  | orchestrator
  | codexWorker
  | claudeWorker
  | primaryReviewer
  | antigravityAuditor
deriving DecidableEq

/-- `AgentProcessState` -/
inductive AgentProcessState where
  | queued
  | running
  | cancelling
  | succeeded
  | failed
  | cancelled
  | unknown
deriving DecidableEq

/-- `SessionMode` -/
inductive SessionMode where
  | new
  | resume
  | nativeFork
  | reconstructedFork
deriving DecidableEq

/-- `UsageAvailability` -/
inductive UsageAvailability where
  | retrieved
  | unknown
  | unsupported
  | notRetrieved
deriving DecidableEq

/-- `UsageOrigin` -/
inductive UsageOrigin where
  | providerReported
  | derived
  | notAvailable
deriving DecidableEq

/-- `int | float` -/
inductive UsageValue where
  | int (value : Int)
  | float (value : PyFloat)
deriving DecidableEq

/-- `value < 0` -/
def UsageValue.negative : UsageValue → Bool
  | int value => value < 0
  | float (.finite value) => value < 0
  | float .negInf => true
  | float _ => false

/-- `LogicalSessionSettingsV1`, as far as it is read. -/
structure LogicalSessionSettings where
  provider : Identifier
  role : AgentRole
  webResearchPolicyReference : ArtifactReference
  settingsSha256 : Sha256Hex
deriving DecidableEq

/-- `validate_policy_references` -/
def LogicalSessionSettings.validate (settings : LogicalSessionSettings) :
    Except ValueError Unit :=
  require (settings.webResearchPolicyReference.schemaId.val =
      "detailed-analysis.web-research-policy")
    "web research policy must use the web-research-policy schema"

/-- `AgentUsageMetricV1` -/
structure AgentUsageMetric where
  metric : Identifier
  availability : UsageAvailability
  origin : UsageOrigin
  meaningConfirmed : Bool
  value : Option UsageValue
deriving DecidableEq

/-- `validate_usage` -/
def AgentUsageMetric.validate (usage : AgentUsageMetric) : Except ValueError Unit := do
  if usage.availability = .retrieved then
    require (usage.value ≠ none) "retrieved Agent usage requires a value"
    require (usage.origin ≠ .notAvailable)
      "retrieved Agent usage requires a reported or derived origin"
  else
    require (usage.value = none) "unavailable Agent usage must have a null value"
    require (usage.origin = .notAvailable)
      "unavailable Agent usage must use the not_available origin"
  require (usage.meaningConfirmed ∨ usage.value = none)
    "meaning-unconfirmed Agent usage must not contain a numeric value"
  require (¬ usage.value.any (·.negative)) "Agent usage values must not be negative"

/-- `AgentExecutionErrorV1`, as far as it is read. -/
structure AgentExecutionError where
  errorClass : Identifier
  message : NonEmptyString
deriving DecidableEq

/-- The fields of `AgentExecutionV1`. -/
structure AgentExecution where
  taskId : Identifier
  logicalSessionId : Identifier
  providerSessionId : Option NonEmptyString
  agentRunId : Identifier
  parentAgentRunId : Option Identifier
  parentLogicalSessionId : Option Identifier
  role : AgentRole
  sessionMode : SessionMode
  settings : LogicalSessionSettings
  processState : AgentProcessState
  queuedAt : String
  startedAt : Option String
  endedAt : Option String
  inputReferences : List ArtifactReference
  outputReference : Option ArtifactReference
  error : Option AgentExecutionError
  usage : List AgentUsageMetric
  activeRun : Bool
deriving DecidableEq

namespace AgentExecution

/-- What the session mode says about the parent. -/
def checkSessionMode (execution : AgentExecution) : Except ValueError Unit :=
  match execution.sessionMode with
  | .new =>
    require (execution.parentAgentRunId = none ∧ execution.parentLogicalSessionId = none)
      "new sessions must not reference a parent run or logical session"
  | .resume =>
    require (execution.parentAgentRunId ≠ none ∧ execution.parentLogicalSessionId = none)
      "resume requires a parent run in the same logical session"
  | .nativeFork | .reconstructedFork =>
    require (execution.parentAgentRunId ≠ none ∧ execution.parentLogicalSessionId ≠ none)
      "fork modes require parent run and logical-session IDs"

/-- The order of the process timestamps. -/
def checkTimes (fromisoformat : IsoReader) (execution : AgentExecution) :
    Except ValueError Unit := do
  let queuedAt ← parseRfc3339 fromisoformat execution.queuedAt "queued_at"
  let startedAt ← execution.startedAt.mapM (parseRfc3339 fromisoformat · "started_at")
  let endedAt ← execution.endedAt.mapM (parseRfc3339 fromisoformat · "ended_at")
  require (∀ started ∈ startedAt, queuedAt.instant ≤ started.instant)
    "Agent execution cannot start before it is queued"
  require (∀ ended ∈ endedAt, ∃ started ∈ startedAt, started.instant ≤ ended.instant)
    "Agent execution cannot end before it starts"

/-- `process_state in {SUCCEEDED, FAILED, CANCELLED}` -/
def terminal (execution : AgentExecution) : Bool :=
  execution.processState ∈ [.succeeded, .failed, .cancelled]

/-- What the process state says about the end, the output and the error. -/
def checkProcessState (execution : AgentExecution) : Except ValueError Unit := do
  require (execution.activeRun ≠ execution.terminal)
    "active_run must be true exactly for non-terminal process states"
  require (¬ (execution.terminal ∧ execution.endedAt = none))
    "terminal Agent executions require ended_at"
  require (execution.terminal ∨ execution.endedAt = none)
    "non-terminal Agent executions must not contain ended_at"
  if execution.processState = .succeeded then
    require (execution.outputReference ≠ none ∧ execution.error = none)
      "succeeded Agent executions require output and no error"
  else
    require (execution.outputReference = none)
      "only succeeded Agent executions may contain an adopted output"
  require (¬ (execution.processState = .failed ∧ execution.error = none))
    "failed Agent executions require a structured error"
  require (execution.processState = .failed ∨ execution.error = none)
    "only failed Agent executions may contain a structured error"

/-- `validate_execution`, after the validators of the fields. -/
def validate (fromisoformat : IsoReader) (execution : AgentExecution) :
    Except ValueError Unit := do
  execution.settings.validate
  checkTimestamp fromisoformat "queued_at" (some execution.queuedAt)
  checkTimestamp fromisoformat "started_at" execution.startedAt
  checkTimestamp fromisoformat "ended_at" execution.endedAt
  require (execution.inputReferences ≠ []) "Tuple should have at least 1 item"
  execution.usage.forM (·.validate)
  require (execution.settings.role = execution.role)
    "Agent execution role must match immutable logical-session settings"
  execution.checkSessionMode
  execution.checkTimes fromisoformat
  execution.checkProcessState
  require (execution.usage.map (·.metric)).Nodup "Agent usage metrics must be unique within a run"

/-- The provider session of a run, within its provider. -/
def providerSession (execution : AgentExecution) : Option (Identifier × NonEmptyString) :=
  execution.providerSessionId.map (execution.settings.provider, ·)

end AgentExecution

/-! ## The check of a history -/

/-- What `validate_agent_execution_history` remembers. -/
structure HistoryState where
  activeSessions : List Identifier
  settingsBySession : Table Identifier Sha256Hex
  roleByProviderSession : Table (Identifier × NonEmptyString) AgentRole
  runIds : List Identifier

namespace HistoryState

/-- Nothing seen yet. -/
def start : HistoryState := ⟨[], .empty, .empty, []⟩

/-- At most one active run per logical session. -/
def enterSession (state : HistoryState) (execution : AgentExecution) :
    Except ValueError (List Identifier) :=
  if execution.activeRun then do
    require (execution.logicalSessionId ∉ state.activeSessions)
      "a logical session can have at most one active run"
    pure (state.activeSessions ++ [execution.logicalSessionId])
  else pure state.activeSessions

/-- One role per provider session. -/
def enterProvider (state : HistoryState) (execution : AgentExecution) :
    Except ValueError (Table (Identifier × NonEmptyString) AgentRole) :=
  match execution.providerSession with
  | some key => do
    let (roles, existing) := state.roleByProviderSession.setdefault key execution.role
    require (existing = execution.role) "a provider session must not be resumed across roles"
    pure roles
  | none => pure state.roleByProviderSession

/-- One iteration of the loop. The run is recorded before its parent is looked up. -/
def check (state : HistoryState) (execution : AgentExecution) :
    Except ValueError HistoryState := do
  require (execution.agentRunId ∉ state.runIds) "agent_run_id must be unique in execution history"
  let runIds := state.runIds ++ [execution.agentRunId]
  let (settingsBySession, settingsHash) :=
    state.settingsBySession.setdefault execution.logicalSessionId execution.settings.settingsSha256
  require (settingsHash = execution.settings.settingsSha256)
    "logical-session settings must not change across resume runs"
  let activeSessions ← state.enterSession execution
  let roleByProviderSession ← state.enterProvider execution
  require (¬ (execution.sessionMode = .resume ∧ ∀ parent ∈ execution.parentAgentRunId,
      parent ∉ runIds))
    "a resume run must follow its parent run in history"
  pure ⟨activeSessions, settingsBySession, roleByProviderSession, runIds⟩

end HistoryState

/-- `validate_agent_execution_history` -/
def validateAgentExecutionHistory (executions : List AgentExecution) : Except ValueError Unit := do
  let _ ← executions.foldlM HistoryState.check .start
  pure ()

/-- The history passes the check. -/
def Accepted (history : List AgentExecution) : Prop :=
  validateAgentExecutionHistory history = .ok ()

/-! ## What the check asks of a run -/

/-- What the loop asks of a run, given the runs before it. -/
structure Fits (past : List AgentExecution) (e : AgentExecution) : Prop where
  fresh : ∀ d ∈ past, d.agentRunId ≠ e.agentRunId
  settings : ∀ d ∈ past, d.logicalSessionId = e.logicalSessionId →
    d.settings.settingsSha256 = e.settings.settingsSha256
  idle : e.activeRun → ∀ d ∈ past, d.activeRun → d.logicalSessionId ≠ e.logicalSessionId
  role : ∀ key, e.providerSession = some key → ∀ d ∈ past, d.providerSession = some key →
    d.role = e.role
  follows : e.sessionMode = .resume → ∃ d ∈ past ++ [e], e.parentAgentRunId = some d.agentRunId

/-- What the loop remembers after some runs. -/
structure Remembers (past : List AgentExecution) (state : HistoryState) : Prop where
  runIds : state.runIds = past.map (·.agentRunId)
  settings : state.settingsBySession.Holds
    (past.map fun d => (d.logicalSessionId, d.settings.settingsSha256))
  active : ∀ session, session ∈ state.activeSessions ↔
    ∃ d ∈ past, d.activeRun ∧ d.logicalSessionId = session
  roles : state.roleByProviderSession.Holds
    (past.filterMap fun d => d.providerSession.map (·, d.role))

theorem remembers_start : Remembers [] .start where
  runIds := rfl
  settings := Table.holds_empty
  active := by simp [HistoryState.start]
  roles := Table.holds_empty

namespace Remembers

variable {past : List AgentExecution} {state : HistoryState} {e : AgentExecution}

theorem enterSession_iff (h : Remembers past state) :
    (∃ sessions, state.enterSession e = .ok sessions) ↔
      (e.activeRun → ∀ d ∈ past, d.activeRun → d.logicalSessionId ≠ e.logicalSessionId) := by
  unfold HistoryState.enterSession
  split
  · rename_i hactive
    simp only [bind_eq_ok, require_eq_ok, pure_eq_ok, exists_and_left, exists_eq', and_true,
      exists_const, h.active]
    simp [hactive]
  · rename_i hidle
    exact ⟨fun _ hactive => absurd hactive hidle, fun _ => ⟨_, rfl⟩⟩

/-- The sessions with an active run, after the run. -/
theorem enterSession_active (h : Remembers past state) {sessions : List Identifier}
    (hs : state.enterSession e = .ok sessions) (session : Identifier) :
    session ∈ sessions ↔ ∃ d ∈ past ++ [e], d.activeRun ∧ d.logicalSessionId = session := by
  unfold HistoryState.enterSession at hs
  split at hs
  · rename_i hactive
    simp only [bind_eq_ok, require_eq_ok, pure_eq_ok] at hs
    obtain ⟨-, -, rfl⟩ := hs
    simp only [List.mem_append, List.mem_singleton, h.active, or_and_right, exists_or,
      exists_eq_left, hactive, true_and]
    rw [eq_comm (a := session)]
  · rename_i hidle
    obtain rfl := pure_eq_ok.mp hs
    simp [h.active, or_and_right, exists_or, hidle]

theorem enterProvider_iff (h : Remembers past state) :
    (∃ roles, state.enterProvider e = .ok roles) ↔
      ∀ key, e.providerSession = some key → ∀ d ∈ past, d.providerSession = some key →
        d.role = e.role := by
  unfold HistoryState.enterProvider
  cases hkey : e.providerSession with
  | none => simp [pure_eq_ok]
  | some key =>
    simp only [bind_eq_ok, require_eq_ok, pure_eq_ok, exists_and_left, exists_eq', and_true,
      exists_const, h.roles.setdefault_eq_iff, Option.some.injEq, forall_eq']
    simp only [List.mem_filterMap, Option.map_eq_some_iff, Prod.mk.injEq]
    constructor
    · intro hall d hd hdkey
      exact hall d.role ⟨d, hd, key, hdkey, rfl, rfl⟩
    · rintro hall w ⟨d, hd, key', hdkey, rfl, rfl⟩
      exact hall d hd hdkey

theorem enterProvider_roles (h : Remembers past state)
    {roles : Table (Identifier × NonEmptyString) AgentRole}
    (hr : state.enterProvider e = .ok roles) :
    roles.Holds ((past ++ [e]).filterMap fun d => d.providerSession.map (·, d.role)) := by
  unfold HistoryState.enterProvider at hr
  rw [List.filterMap_append]
  cases hkey : e.providerSession with
  | none =>
    rw [hkey] at hr
    obtain rfl := pure_eq_ok.mp hr
    simpa [hkey] using h.roles
  | some key =>
    rw [hkey] at hr
    simp only [bind_eq_ok, require_eq_ok, pure_eq_ok] at hr
    obtain ⟨-, hrole, rfl⟩ := hr
    simpa [hkey] using h.roles.setdefault hrole

theorem follows_iff (h : Remembers past state) :
    (¬ (e.sessionMode = .resume ∧ ∀ parent ∈ e.parentAgentRunId,
        parent ∉ state.runIds ++ [e.agentRunId])) ↔
      (e.sessionMode = .resume → ∃ d ∈ past ++ [e], e.parentAgentRunId = some d.agentRunId) := by
  have hids : state.runIds ++ [e.agentRunId] = (past ++ [e]).map (·.agentRunId) := by
    rw [h.runIds, List.map_append]
    rfl
  rw [hids, not_and]
  refine imp_congr_right fun _ => ?_
  simp only [not_forall, not_not, List.mem_map, Option.mem_def]
  constructor
  · rintro ⟨parent, hparent, d, hd, rfl⟩
    exact ⟨d, hd, hparent⟩
  · rintro ⟨d, hd, hparent⟩
    exact ⟨_, hparent, d, hd, rfl⟩

theorem settings_iff (h : Remembers past state) :
    (state.settingsBySession.setdefault e.logicalSessionId e.settings.settingsSha256).2 =
        e.settings.settingsSha256 ↔
      ∀ d ∈ past, d.logicalSessionId = e.logicalSessionId →
        d.settings.settingsSha256 = e.settings.settingsSha256 := by
  rw [h.settings.setdefault_eq_iff]
  simp only [List.mem_map, Prod.mk.injEq]
  constructor
  · exact fun hall d hd hsession => hall _ ⟨d, hd, hsession, rfl⟩
  · rintro hall w ⟨d, hd, hsession, rfl⟩
    exact hall d hd hsession

/-- One iteration accepts exactly the runs that fit. -/
theorem check_iff (h : Remembers past state) :
    (∃ state', state.check e = .ok state') ↔ Fits past e := by
  simp only [HistoryState.check, bind_eq_ok, require_eq_ok, pure_eq_ok]
  constructor
  · rintro ⟨-, ⟨⟩, hfresh, ⟨⟩, hsettings, sessions, hsessions, roles, hroles, ⟨⟩, hfollows, -⟩
    refine ⟨?_, h.settings_iff.mp hsettings, h.enterSession_iff.mp ⟨sessions, hsessions⟩,
      h.enterProvider_iff.mp ⟨roles, hroles⟩, h.follows_iff.mp hfollows⟩
    intro d hd heq
    rw [h.runIds] at hfresh
    exact hfresh (heq ▸ List.mem_map_of_mem hd)
  · intro hfits
    obtain ⟨sessions, hsessions⟩ := h.enterSession_iff.mpr hfits.idle
    obtain ⟨roles, hroles⟩ := h.enterProvider_iff.mpr hfits.role
    have hfresh : e.agentRunId ∉ state.runIds := by
      rw [h.runIds]
      rintro hmem
      obtain ⟨d, hd, heq⟩ := List.mem_map.mp hmem
      exact hfits.fresh d hd heq
    exact ⟨_, (), hfresh, (), h.settings_iff.mpr hfits.settings, sessions, hsessions, roles,
      hroles, (), h.follows_iff.mpr hfits.follows, rfl⟩

/-- One iteration keeps what is remembered up to date. -/
theorem check_remembers (h : Remembers past state) {state' : HistoryState}
    (hcheck : state.check e = .ok state') : Remembers (past ++ [e]) state' := by
  simp only [HistoryState.check, bind_eq_ok, require_eq_ok, pure_eq_ok] at hcheck
  obtain ⟨⟨⟩, -, ⟨⟩, hsettings, sessions, hsessions, roles, hroles, ⟨⟩, -, rfl⟩ := hcheck
  refine ⟨?_, ?_, h.enterSession_active hsessions, h.enterProvider_roles hroles⟩
  · simp [h.runIds]
  · simpa using h.settings.setdefault hsettings

end Remembers

/-- The check accepts a history exactly when every run fits the runs before it. -/
theorem history_accepted_iff (history : List AgentExecution) :
    Accepted history ↔ ∀ (i : Nat) e, history[i]? = some e → Fits (history.take i) e := by
  have haccepted : Accepted history ↔
      ∃ state, history.foldlM HistoryState.check .start = .ok state := by
    simp only [Accepted, validateAgentExecutionHistory, bind_eq_ok, pure_eq_ok, and_true]
  rw [haccepted, foldlM_accepts_iff Remembers Fits (fun _ _ _ h => h.check_iff)
    (fun _ _ _ _ h => h.check_remembers) remembers_start]
  simp only [List.nil_append]

/-! ## Sound lineage -/

/-- Run `i` of the history resumes run `j`. -/
def Resumes (history : List AgentExecution) (i j : Nat) : Prop :=
  ∃ e d, history[i]? = some e ∧ history[j]? = some d ∧ e.sessionMode = .resume ∧
    e.parentAgentRunId = some d.agentRunId

/-- A history with sound session lineage. -/
structure Sound (history : List AgentExecution) : Prop where
  distinct : (history.map (·.agentRunId)).Nodup
  parent : ∀ (i : Nat) e, history[i]? = some e → e.sessionMode = .resume →
    ∃ j d, j < i ∧ history[j]? = some d ∧ e.parentAgentRunId = some d.agentRunId ∧
      d.logicalSessionId = e.logicalSessionId
  descending : ∀ i j, Resumes history i j → j < i
  rooted : ∀ (i : Nat) e, history[i]? = some e → e.sessionMode = .resume →
    ∃ j d, Relation.TransGen (Resumes history) i j ∧ history[j]? = some d ∧
      d.sessionMode ≠ .resume ∧ d.logicalSessionId = e.logicalSessionId
  session : ∀ d ∈ history, ∀ e ∈ history, d.logicalSessionId = e.logicalSessionId →
    d.taskId = e.taskId ∧ d.role = e.role ∧
      d.settings.settingsSha256 = e.settings.settingsSha256
  active : ∀ (i j : Nat) d e, history[i]? = some d → history[j]? = some e → d.activeRun →
    e.activeRun → d.logicalSessionId = e.logicalSessionId → i = j
  provider : ∀ d ∈ history, ∀ e ∈ history, ∀ key, d.providerSession = some key →
    e.providerSession = some key → d.role = e.role

/-- The rules the loop checks, run by run. -/
def Checked (history : List AgentExecution) : Prop :=
  ∀ (i : Nat) e, history[i]? = some e → Fits (history.take i) e

/-- The rules of a sound history that the loop leaves out. -/
structure Proper (history : List AgentExecution) : Prop where
  notSelf : ∀ e ∈ history, e.sessionMode = .resume → e.parentAgentRunId ≠ some e.agentRunId
  sameSession : ∀ e ∈ history, e.sessionMode = .resume → ∀ d ∈ history,
    e.parentAgentRunId = some d.agentRunId → d.logicalSessionId = e.logicalSessionId
  sameTask : ∀ d ∈ history, ∀ e ∈ history, d.logicalSessionId = e.logicalSessionId →
    d.taskId = e.taskId ∧ d.role = e.role

section
variable {history : List AgentExecution}

theorem Checked.distinct (h : Checked history) : (history.map (·.agentRunId)).Nodup := by
  rw [List.nodup_iff_getElem?_ne_getElem?]
  intro i j hij hj heq
  rw [List.length_map] at hj
  have he : history[j]? = some history[j] := List.getElem?_eq_getElem hj
  have hi : i < history.length := Nat.lt_trans hij hj
  have hd : history[i]? = some history[i] := List.getElem?_eq_getElem hi
  rw [List.getElem?_map, List.getElem?_map, he, hd] at heq
  exact (h j _ he).fresh _ (mem_take_iff.mpr ⟨i, hij, hd⟩) (Option.some.inj heq)

/-- A run is found at one place by its identifier. -/
theorem eq_of_agentRunId (h : (history.map (·.agentRunId)).Nodup) {i j : Nat}
    {d e : AgentExecution} (hd : history[i]? = some d) (he : history[j]? = some e)
    (heq : d.agentRunId = e.agentRunId) : i = j := by
  obtain ⟨hi, rfl⟩ := List.getElem?_eq_some_iff.mp hd
  have hlt : i < (history.map (·.agentRunId)).length := by rwa [List.length_map]
  refine (List.getElem?_inj hlt h).mp ?_
  rw [List.getElem?_map, List.getElem?_map, hd, he]
  exact congrArg some heq

/-- The parent a sound history has for a resumed run. -/
theorem Checked.parent (h : Checked history) (hproper : Proper history) {i : Nat}
    {e : AgentExecution} (he : history[i]? = some e) (hresume : e.sessionMode = .resume) :
    ∃ j d, j < i ∧ history[j]? = some d ∧ e.parentAgentRunId = some d.agentRunId ∧
      d.logicalSessionId = e.logicalSessionId := by
  have hmem := List.mem_of_getElem? he
  obtain ⟨d, hd, hparent⟩ := (h i e he).follows hresume
  rcases List.mem_append.mp hd with hpast | hself
  · obtain ⟨j, hlt, hj⟩ := mem_take_iff.mp hpast
    exact ⟨j, d, hlt, hj, hparent,
      hproper.sameSession e hmem hresume d (List.mem_of_getElem? hj) hparent⟩
  · obtain rfl := List.mem_singleton.mp hself
    exact absurd hparent (hproper.notSelf d hmem hresume)

/-- Following parents comes to a run that resumes nothing, in the same session. -/
theorem Checked.rooted (h : Checked history) (hproper : Proper history) (i : Nat) :
    ∀ e, history[i]? = some e → e.sessionMode = .resume →
      ∃ j d, Relation.TransGen (Resumes history) i j ∧ history[j]? = some d ∧
        d.sessionMode ≠ .resume ∧ d.logicalSessionId = e.logicalSessionId := by
  induction i using Nat.strong_induction_on with
  | _ i ih =>
    intro e he hresume
    obtain ⟨j, d, hlt, hj, hparent, hsession⟩ := h.parent hproper he hresume
    have hstep : Resumes history i j := ⟨e, d, he, hj, hresume, hparent⟩
    by_cases hmode : d.sessionMode = .resume
    · obtain ⟨k, r, hreach, hk, hroot, hsame⟩ := ih j hlt d hj hmode
      exact ⟨k, r, .head hstep hreach, hk, hroot, hsame.trans hsession⟩
    · exact ⟨j, d, .single hstep, hj, hmode, hsession⟩

/-- A history is sound exactly when it keeps the rules the loop checks and those it
leaves out. -/
theorem sound_iff : Sound history ↔ Checked history ∧ Proper history := by
  constructor
  · intro h
    refine ⟨fun i e he => ?_, ?_, ?_, ?_⟩
    · have hmem := List.mem_of_getElem? he
      refine ⟨?_, ?_, ?_, ?_, ?_⟩
      · intro d hd heq
        obtain ⟨j, hlt, hj⟩ := mem_take_iff.mp hd
        exact Nat.ne_of_lt hlt (eq_of_agentRunId h.distinct hj he heq)
      · exact fun d hd hsession => (h.session d (List.mem_of_mem_take hd) e hmem hsession).2.2
      · intro hactive d hd hdactive hsession
        obtain ⟨j, hlt, hj⟩ := mem_take_iff.mp hd
        exact Nat.ne_of_lt hlt (h.active j i d e hj he hdactive hactive hsession)
      · exact fun key hkey d hd hdkey =>
          h.provider d (List.mem_of_mem_take hd) e hmem key hdkey hkey
      · intro hresume
        obtain ⟨j, d, hlt, hj, hparent, -⟩ := h.parent i e he hresume
        exact ⟨d, List.mem_append_left _ (mem_take_iff.mpr ⟨j, hlt, hj⟩), hparent⟩
    · -- a run does not resume itself: its parent stands before it
      intro e he hresume hself
      obtain ⟨i, hi⟩ := List.mem_iff_getElem?.mp he
      exact Nat.lt_irrefl i (h.descending i i ⟨e, e, hi, hi, hresume, hself⟩)
    · -- the parent is the run with that id, of the same session
      intro e he hresume d hd hparent
      obtain ⟨i, hi⟩ := List.mem_iff_getElem?.mp he
      obtain ⟨j, hj⟩ := List.mem_iff_getElem?.mp hd
      obtain ⟨k, p, -, hk, hp, hsession⟩ := h.parent i e hi hresume
      have heq : d.agentRunId = p.agentRunId := Option.some.inj (hparent.symm.trans hp)
      obtain rfl := eq_of_agentRunId h.distinct hj hk heq
      rw [hj, Option.some.injEq] at hk
      exact hk ▸ hsession
    · intro d hd e he hsession
      exact ⟨(h.session d hd e he hsession).1, (h.session d hd e he hsession).2.1⟩
  · rintro ⟨h, hproper⟩
    refine ⟨h.distinct, fun i e he => h.parent hproper he, ?_, h.rooted hproper, ?_, ?_, ?_⟩
    · -- conversely, the ids are distinct, so the parent is the one the loop found
      rintro i j ⟨e, d, he, hd, hresume, hparent⟩
      obtain ⟨k, p, hlt, hk, hp, -⟩ := h.parent hproper he hresume
      have heq : d.agentRunId = p.agentRunId := Option.some.inj (hparent.symm.trans hp)
      exact (eq_of_agentRunId h.distinct hd hk heq) ▸ hlt
    · -- what the loop compares with earlier runs holds of every pair
      intro d hd e he hsession
      have hsettings := forall_mem_of_earlier
        (R := fun d e => d.logicalSessionId = e.logicalSessionId →
          d.settings.settingsSha256 = e.settings.settingsSha256)
        (fun _ _ => rfl) (fun _ _ hR heq => (hR heq.symm).symm)
        (fun i e he d hd => (h i e he).settings d hd) d hd e he hsession
      obtain ⟨htask, hrole⟩ := hproper.sameTask d hd e he hsession
      exact ⟨htask, hrole, hsettings⟩
    · intro i j d e hd he hdactive heactive hsession
      by_contra hne
      exact forall_pair_of_earlier
        (R := fun d e => ¬ (d.activeRun ∧ e.activeRun ∧ d.logicalSessionId = e.logicalSessionId))
        (fun _ _ hR hswap => hR ⟨hswap.2.1, hswap.1, hswap.2.2.symm⟩)
        (fun i e he d hd hboth => (h i e he).idle hboth.2.1 d hd hboth.1 hboth.2.2)
        hd he hne ⟨hdactive, heactive, hsession⟩
    · intro d hd e he key hdkey hekey
      exact forall_mem_of_earlier
        (R := fun d e => ∀ key, d.providerSession = some key → e.providerSession = some key →
          d.role = e.role)
        (fun _ _ _ _ => rfl) (fun _ _ hR key hd he => (hR key he hd).symm)
        (fun i e he d hd key hdkey hekey => (h i e he).role key hekey d hd hdkey)
        d hd e he key hdkey hekey

end

/-- **The check decides soundness of every history that breaks one of its own rules or
keeps the ones it leaves out**, and of no other. -/
theorem history_decides_iff (history : List AgentExecution) :
    (Accepted history ↔ Sound history) ↔ (Checked history → Proper history) := by
  rw [history_accepted_iff, sound_iff]
  exact ⟨fun h hchecked => (h.mp hchecked).2, fun h => ⟨fun hc => ⟨hc, h hc⟩, And.left⟩⟩

/-! ## A run that resumes itself -/

/-- A running agent whose parent is itself. -/
def selfResumed : AgentExecution where
  taskId := ⟨"task-1", by decide⟩
  logicalSessionId := ⟨"session-1", by decide⟩
  providerSessionId := none
  agentRunId := ⟨"run-1", by decide⟩
  parentAgentRunId := some ⟨"run-1", by decide⟩
  parentLogicalSessionId := none
  role := .orchestrator
  sessionMode := .resume
  settings := {
    provider := ⟨"codex", by decide⟩
    role := .orchestrator
    webResearchPolicyReference :=
      ⟨⟨"policy", by decide⟩, ⟨"policy-1", by decide⟩,
        ⟨"detailed-analysis.web-research-policy", by decide +kernel⟩, 1, zeroSha256, le_refl 1⟩
    settingsSha256 := zeroSha256 }
  processState := .running
  queuedAt := "2026-09-28T00:00:00Z"
  startedAt := some "2026-09-29T00:00:00Z"
  endedAt := none
  inputReferences :=
    [⟨⟨"task", by decide⟩, ⟨"task-1", by decide⟩,
      ⟨"detailed-analysis.task", by decide +kernel⟩, 1, zeroSha256, le_refl 1⟩]
  outputReference := none
  error := none
  usage := []
  activeRun := true

/-- Recording the run before its parent is looked up makes it its own parent. -/
theorem self_resumed_history_accepted :
    selfResumed.validate sampleIso = .ok () ∧ Accepted [selfResumed] ∧ ¬ Sound [selfResumed] := by
  refine ⟨by decide +kernel, by unfold Accepted; decide +kernel, fun h => ?_⟩
  exact Nat.lt_irrefl 0 (h.descending 0 0 ⟨selfResumed, selfResumed, rfl, rfl, rfl, rfl⟩)

end StockResearch.Contracts
