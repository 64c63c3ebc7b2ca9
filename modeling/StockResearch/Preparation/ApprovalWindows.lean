import StockResearch.Requests.SourceBinding

/-!
# Approval windows

Four consumers ask whether an approval is in force on a day. The online gate compares
days; the offline ones compare texts, and the price acceptance still counts the recheck
day in.

- `sourceUsable`, `localPolicyAvailable`, `acquisitionApprovalAvailable`, `approvalValid`:
  the offline tests.
- `WindowsAgree`: the consumers agree about a day.
- `windows_agree_iff`: they do unless the day is the recheck day, or lies between a bound
  and the place its spelling sorts to.
- `WindowsAgree.tests`: what the tests of the consumers come to then.
-/

namespace StockResearch.Preparation

open Contracts Requests

/-! ## The code -/

/-- A half-open window of texts. -/
def textWindow (effectiveOn recheckDueOn : IsoDay) (day : String) : Bool :=
  effectiveOn.text ≤ day ∧ day < recheckDueOn.text

/-- Both bounds are there, and the text lies in the window. -/
def textInForce (approval : SourceApproval) (day : String) : Bool :=
  match approval.effectiveOn, approval.recheckDueOn with
  | some effectiveOn, some recheckDueOn => textWindow effectiveOn recheckDueOn day
  | _, _ => false

/-- The window of the reuse of price and FX data. -/
def reuseInForce (approval : SourceApproval) (day : String) : Bool := textInForce approval day

/-- The window of the local policy of filings. -/
def localPolicyInForce (approval : SourceApproval) (today : String) : Bool :=
  textInForce approval today

/-- The window of an acquired filing's approval. -/
def acquisitionInForce (previous : SourceApproval) (acquiredDay : String) : Bool :=
  textInForce previous acquiredDay

/-- The window of the price acceptance: a chain that ends at the recheck day. -/
def acceptanceInForce (approval : SourceApproval) (today acquired : String) : Bool :=
  match approval.effectiveOn, approval.recheckDueOn with
  | some effectiveOn, some recheckDueOn =>
    effectiveOn.text ≤ acquired ∧ acquired ≤ today ∧ today ≤ recheckDueOn.text
  | _, _ => false

/-- `usable`, in `_source_reasons` -/
def sourceUsable (approval : SourceApproval) (enabled : Bool) (day : String) : Bool :=
  approval.status = .approved ∧ approval.onlineUseAllowed ∧ enabled ∧ reuseInForce approval day

/-- The local policy of `evaluate_financial`. -/
def localPolicyAvailable (approval : SourceApproval) (today : String) : Bool :=
  approval.status = .approved ∧ localPolicyInForce approval today

/-- The acquisition approval of `evaluate_financial`. -/
def acquisitionApprovalAvailable (previous : SourceApproval) (acquiredDay : String) : Bool :=
  previous.status = .approved ∧ acquisitionInForce previous acquiredDay

/-- `_approval_valid`, of a read approval. -/
def approvalValid (approval : SourceApproval) (source : String) (version : Nat)
    (today acquired : String) : Bool :=
  approval.sourceId.val = source ∧ approval.approvalVersion = version ∧
    approval.status = .approved ∧ approval.onlineUseAllowed ∧
    approval.usageEntity.val = "private_individual_internal_analysis" ∧
    acceptanceInForce approval today acquired

/-! ## Agreement -/

/-- The consumers agree on whether an approval is in force on a day. -/
structure WindowsAgree (approval : SourceApproval) (day : Date) : Prop where
  reuse : reuseInForce approval day.isoformat = onlineInForce approval day
  localPolicy : localPolicyInForce approval day.isoformat = onlineInForce approval day
  acquisition : acquisitionInForce approval day.isoformat = onlineInForce approval day
  acceptance :
    acceptanceInForce approval day.isoformat day.isoformat = onlineInForce approval day

/-- Where a bound sorts among printed days. -/
def sortDayOf (bound : IsoDay) : Nat := Date.sortDay bound.text bound.day

/-- The window holds the same day whether its bounds stand for their days or for the
places they sort to. -/
def SortsAsDays (effectiveOn recheckDueOn : IsoDay) (day : Date) : Prop :=
  (effectiveOn.day ≤ day ∧ day < recheckDueOn.day) ↔
    (sortDayOf effectiveOn ≤ day.ordinal ∧ day.ordinal < sortDayOf recheckDueOn)

/-- The recheck day, spelled as it prints, of a window that has begun by then. -/
def IsRecheckDay (effectiveOn recheckDueOn : IsoDay) (day : Date) : Prop :=
  sortDayOf effectiveOn ≤ day.ordinal ∧ day.isoformat = recheckDueOn.text

/-- Text windows are windows of the places the bounds sort to. -/
theorem textWindow_isoformat {effectiveOn recheckDueOn : IsoDay} {day : Date} :
    textWindow effectiveOn recheckDueOn day.isoformat ↔
      sortDayOf effectiveOn ≤ day.ordinal ∧ day.ordinal < sortDayOf recheckDueOn := by
  simp only [textWindow, decide_eq_true_eq, Date.le_isoformat_iff effectiveOn.text_read,
    Date.isoformat_lt_iff_sortDay recheckDueOn.text_read]
  rfl

/-- A window with bounds spelled as they print sorts as its days do. -/
theorem SortsAsDays.of_canonical {effectiveOn recheckDueOn : IsoDay}
    (heffective : Date.Canonical effectiveOn.text effectiveOn.day)
    (hrecheck : Date.Canonical recheckDueOn.text recheckDueOn.day) (day : Date) :
    SortsAsDays effectiveOn recheckDueOn day := by
  unfold SortsAsDays sortDayOf Date.sortDay
  rw [if_pos heffective, if_pos hrecheck]
  exact Iff.rfl

/-- The acceptance adds the recheck day to the window of the others. -/
theorem acceptance_window {effectiveOn recheckDueOn : IsoDay} {day : Date} :
    (effectiveOn.text ≤ day.isoformat ∧ day.isoformat ≤ day.isoformat ∧
      day.isoformat ≤ recheckDueOn.text) ↔
      textWindow effectiveOn recheckDueOn day.isoformat ∨
        IsRecheckDay effectiveOn recheckDueOn day := by
  rw [textWindow_isoformat, Date.le_isoformat_iff effectiveOn.text_read,
    Date.isoformat_le_iff_sortDay recheckDueOn.text_read, IsRecheckDay]
  constructor
  · rintro ⟨hstart, -, hlt | heq⟩
    · exact .inl ⟨hstart, hlt⟩
    · exact .inr ⟨hstart, heq⟩
  · rintro (⟨hstart, hlt⟩ | ⟨hstart, heq⟩)
    · exact ⟨hstart, le_refl _, .inl hlt⟩
    · exact ⟨hstart, le_refl _, .inr heq⟩

/-- The recheck day is outside the half-open window. -/
theorem IsRecheckDay.not_window {effectiveOn recheckDueOn : IsoDay} {day : Date}
    (h : IsRecheckDay effectiveOn recheckDueOn day) :
    ¬ textWindow effectiveOn recheckDueOn day.isoformat := by
  intro hwindow
  have hlt : day.isoformat < recheckDueOn.text := (of_decide_eq_true hwindow).2
  rw [h.2] at hlt
  exact lt_irrefl _ hlt

/-- **The consumers agree** about an approval on a day exactly when, with both bounds
given, its window sorts as its days do and the day is not its recheck day. -/
theorem windows_agree_iff (approval : SourceApproval) (day : Date) :
    WindowsAgree approval day ↔ ∀ effectiveOn ∈ approval.effectiveOn,
      ∀ recheckDueOn ∈ approval.recheckDueOn,
        SortsAsDays effectiveOn recheckDueOn day ∧ ¬ IsRecheckDay effectiveOn recheckDueOn day := by
  cases heffective : approval.effectiveOn with
  -- without a bound no consumer takes the approval
  | none =>
    have hnone : ∀ text, textInForce approval text = false := by simp [textInForce, heffective]
    refine ⟨fun _ => nofun, fun _ => ⟨?_, ?_, ?_, ?_⟩⟩ <;>
      simp [reuseInForce, localPolicyInForce, acquisitionInForce, acceptanceInForce, hnone,
        onlineInForce, heffective]
  | some effectiveOn =>
    cases hrecheck : approval.recheckDueOn with
    | none =>
      have hnone : ∀ text, textInForce approval text = false := by
        simp [textInForce, heffective, hrecheck]
      refine ⟨fun _ => nofun, fun _ => ⟨?_, ?_, ?_, ?_⟩⟩ <;>
        simp [reuseInForce, localPolicyInForce, acquisitionInForce, acceptanceInForce, hnone,
          onlineInForce, heffective, hrecheck]
    | some recheckDueOn =>
      have htext : textInForce approval day.isoformat =
          textWindow effectiveOn recheckDueOn day.isoformat := by
        simp only [textInForce, heffective, hrecheck]
      have honline : onlineInForce approval day = true ↔
          effectiveOn.day ≤ day ∧ day < recheckDueOn.day := by
        simp only [onlineInForce, heffective, hrecheck, onlineWindow, decide_eq_true_eq]
      -- only the acceptance takes the recheck day
      have hacceptance : acceptanceInForce approval day.isoformat day.isoformat = true ↔
          textWindow effectiveOn recheckDueOn day.isoformat ∨
            IsRecheckDay effectiveOn recheckDueOn day := by
        simp only [acceptanceInForce, heffective, hrecheck, decide_eq_true_eq]
        exact acceptance_window
      -- texts and days agree where the bounds sort as days
      have hsorts : textWindow effectiveOn recheckDueOn day.isoformat = onlineInForce approval day ↔
          SortsAsDays effectiveOn recheckDueOn day := by
        rw [Bool.eq_iff_iff, textWindow_isoformat, honline]
        exact iff_comm
      simp only [Option.mem_def, Option.some.injEq, forall_eq']
      constructor
      · intro h
        have hreuse := h.reuse
        rw [reuseInForce, htext] at hreuse
        refine ⟨hsorts.mp hreuse, fun hday => hday.not_window ?_⟩
        rw [hreuse, ← h.acceptance]
        exact hacceptance.mpr (.inr hday)
      · rintro ⟨hsame, hday⟩
        have hwindow := hsorts.mpr hsame
        refine ⟨htext.trans hwindow, htext.trans hwindow, htext.trans hwindow, ?_⟩
        rw [← hwindow, Bool.eq_iff_iff, hacceptance]
        exact or_iff_left hday

/-- Where the windows agree, the tests of the consumers are the window of the online gate and
the other fields that each of them looks at. -/
theorem WindowsAgree.tests {approval : SourceApproval} {day : Date} (h : WindowsAgree approval day)
    (enabled : Bool) (source : String) (version : Nat) :
    (sourceUsable approval enabled day.isoformat = true ↔ approval.status = .approved ∧
      approval.onlineUseAllowed ∧ enabled ∧ onlineInForce approval day) ∧
    (localPolicyAvailable approval day.isoformat = true ↔
      approval.status = .approved ∧ onlineInForce approval day) ∧
    (acquisitionApprovalAvailable approval day.isoformat = true ↔
      approval.status = .approved ∧ onlineInForce approval day) ∧
    (approvalValid approval source version day.isoformat day.isoformat = true ↔
      approval.sourceId.val = source ∧ approval.approvalVersion = version ∧
      approval.status = .approved ∧ approval.onlineUseAllowed ∧
      approval.usageEntity.val = "private_individual_internal_analysis" ∧
      onlineInForce approval day) := by
  simp only [sourceUsable, localPolicyAvailable, acquisitionApprovalAvailable, approvalValid,
    decide_eq_true_eq, h.reuse, h.localPolicy, h.acquisition, h.acceptance, and_self]

/-! ## The recheck day -/

theorem sampleDay_inRange : 739884 < 3652059 := by decide

/-- The third approval of `yfinance`, with its dates. -/
def sampleApproval : SourceApproval where
  artifactId := ⟨"yfinance-approval", by decide⟩
  approvalVersion := 3
  sourceId := ⟨"yfinance", by decide⟩
  status := .approved
  effectiveOn := some ⟨"2026-09-26", ⟨739884, sampleDay_inRange⟩, by decide +kernel⟩
  recheckDueOn := some ⟨"2026-12-25", ⟨739974, by decide⟩, by decide +kernel⟩
  usageEntity := ⟨"private_individual_internal_analysis", by decide⟩
  credentialScopeAlias := none
  onlineUseAllowed := true
  externalAgentTransferAllowed := false
  approved_dates _ := ⟨rfl, rfl⟩
  online_approved _ := rfl
  transfer_online := nofun

/-- On its recheck day the price acceptance takes an approval that the run layer and the
online gate treat as expired. -/
theorem recheck_day_accepted :
    ∃ day : Date, day.isoformat = "2026-12-25" ∧
      approvalValid sampleApproval "yfinance" 3 day.isoformat day.isoformat = true ∧
      sourceUsable sampleApproval true day.isoformat = false ∧
      onlineInForce sampleApproval day = false ∧ ¬ WindowsAgree sampleApproval day := by
  let day : Date := ⟨739974, by decide⟩
  have haccepted : acceptanceInForce sampleApproval day.isoformat day.isoformat = true := by
    decide +kernel
  have hexpired : onlineInForce sampleApproval day = false := by decide +kernel
  refine ⟨day, by decide +kernel, by decide +kernel, by decide +kernel, hexpired, fun h => ?_⟩
  have hagree := h.acceptance
  rw [haccepted, hexpired] at hagree
  cases hagree

end StockResearch.Preparation
