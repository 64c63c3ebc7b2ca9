import StockResearch.Lib.Related
import StockResearch.Preparation.AcceptanceSoundness
import StockResearch.Preparation.PriceFxRun
import StockResearch.Preparation.RequirementsSoundness

/-!
# Readiness of price and FX runs

Whether a run is ready is decided by reasons and missing days that three loops collect. What
they collect is stated here of the days themselves.

- `ReuseApproved`, `HasClose`, `RetrievedAfter`, `HasRate`: what a run needs.
- `PricesAccepted`, `Ready`: all of it.
- `readRun_eq_ok`, `evaluateLayers_eq_ok`: what was read, and what the loops found.
- `price_fx_readiness_exact`: a run is ready exactly when it has what it needs, and a day is
  converted exactly when both its values are accepted.
-/

namespace StockResearch.Preparation

open Contracts

/-! ## Dictionaries of days -/

section

variable {α β : Type} {f : String → Except RunError α} {value : α → Option β}
  {days : List String} {found : List α}

/-- What stands beside a day is what the loop found for it. -/
theorem mem_zip_mapM (h : days.mapM f = .ok found) {day : String} {a : α} :
    (day, a) ∈ days.zip found ↔ day ∈ days ∧ f day = .ok a := by
  have hfound : List.Forall₂ (fun day a => f day = .ok a) days found := mapM_eq_ok.mp h
  clear h
  induction hfound with
  | nil => simp
  | cons hhead _ ih =>
    rw [List.zip_cons_cons, List.mem_cons, Prod.mk.injEq, List.mem_cons]
    constructor
    · rintro (⟨rfl, rfl⟩ | hmem)
      · exact ⟨.inl rfl, hhead⟩
      · obtain ⟨hday, ha⟩ := ih.mp hmem
        exact ⟨.inr hday, ha⟩
    · rintro ⟨rfl | hday, ha⟩
      · rw [hhead] at ha
        exact .inl ⟨rfl, (Except.ok.inj ha).symm⟩
      · exact .inr (ih.mpr ⟨hday, ha⟩)

/-- A loop that returned has found something for each day. -/
theorem exists_of_mapM (h : days.mapM f = .ok found) {day : String} (hday : day ∈ days) :
    ∃ a ∈ found, f day = .ok a := by
  obtain ⟨a, ha, hfound⟩ := exists_right_of_mem (mapM_eq_ok.mp h) hday
  exact ⟨a, ha, hfound⟩

/-- The value under a day is the one that was found for it. -/
theorem foundOn_eq (h : days.mapM f = .ok found) {day : String} {a : α} (hday : day ∈ days)
    (ha : f day = .ok a) : foundOn value days found day = value a := by
  unfold foundOn
  have hmem : (day, a) ∈ days.zip found := (mem_zip_mapM h).mpr ⟨hday, ha⟩
  cases hfind : (days.zip found).find? fun entry => entry.1 = day with
  | none =>
    have hnone := List.find?_eq_none.mp hfind _ hmem
    simp at hnone
  | some entry =>
    obtain ⟨day', a'⟩ := entry
    have hsame : day' = day := by simpa using List.find?_some hfind
    have hentry := ((mem_zip_mapM h).mp (List.mem_of_find?_eq_some hfind)).2
    rw [hsame, ha] at hentry
    rw [Option.bind_some, Except.ok.inj hentry]

/-- No day is missing when each has a value. -/
theorem missingOf_eq_nil (h : days.mapM f = .ok found) :
    missingOf value days found = [] ↔ ∀ day ∈ days, foundOn value days found day ≠ none := by
  unfold missingOf
  rw [List.map_eq_nil_iff, List.filter_eq_nil_iff]
  constructor
  · intro hall day hday
    obtain ⟨a, -, ha⟩ := exists_of_mapM h hday
    rw [foundOn_eq h hday ha]
    simpa using hall (day, a) ((mem_zip_mapM h).mpr ⟨hday, ha⟩)
  · rintro hall ⟨day, a⟩ hmem
    obtain ⟨hday, ha⟩ := (mem_zip_mapM h).mp hmem
    have hvalue := hall day hday
    rw [foundOn_eq h hday ha] at hvalue
    simpa using hvalue

end

/-- The row of a day is one of the rows. -/
theorem rowOn_eq_some {Row : Type} {on : Row → String} {rows : List Row} {day : String} {row : Row}
    (h : rowOn on rows day = some row) : row ∈ rows ∧ on row = day := by
  refine ⟨List.mem_reverse.mp (List.mem_of_find?_eq_some h), ?_⟩
  simpa using List.find?_some h

variable {Bytes : Type} [DecidableEq Bytes] {readers : RunReaders Bytes} {files : Bundle Bytes}
  {input : RunInput}

/-! ## Sources -/

/-- The coordinator of a source is enabled, where it has one. -/
def ProfileEnabled (readers : RunReaders Bytes) (files : Bundle Bytes) (source : String) : Prop :=
  ∃ body profile, files.get? ("sources/" ++ source ++ "/profile.yaml") = some body ∧
    readers.sourceProfile body = some profile ∧ profile.enabled = true ∧
    profile.sourceApprovalStatus = .approved

/-- The reuse of a source is approved on the Tokyo day of the check. -/
structure ReuseApproved (readers : RunReaders Bytes) (files : Bundle Bytes) (checked : Timestamp)
    (source : String) (version : Nat) : Prop where
  approval : ∃ body approval day,
    files.get? ("sources/" ++ source ++ "/approval.yaml") = some body ∧
    readers.sourceApproval body = some approval ∧ approval.sourceId.val = source ∧
    approval.approvalVersion = version ∧ tokyoDay readers.tokyo checked = .ok day ∧
    approval.status = .approved ∧ approval.onlineUseAllowed = true ∧
    reuseInForce approval day.isoformat = true
  profile : source ≠ "yfinance" → ProfileEnabled readers files source

/-- What `enabled` says. -/
theorem sourceEnabled_eq_ok {source : String} {version : Nat} {approvalBytes : Bytes}
    {approval : SourceApproval} {enabled : Bool}
    (h : sourceEnabled readers files source version approvalBytes approval = .ok enabled) :
    enabled = true ↔ (source ≠ "yfinance" → ProfileEnabled readers files source) := by
  unfold sourceEnabled at h
  split at h
  · rename_i hsource
    obtain ⟨_, -, h⟩ := bind_eq_ok.mp h
    obtain ⟨_, -, h⟩ := bind_eq_ok.mp h
    rw [← pure_eq_ok.mp h]
    exact iff_of_true rfl fun hne => absurd hsource hne
  · rename_i hsource
    obtain ⟨body, hbody, h⟩ := bind_eq_ok.mp h
    obtain ⟨profile, hprofile, h⟩ := bind_eq_ok.mp h
    obtain ⟨_, -, h⟩ := bind_eq_ok.mp h
    rw [← pure_eq_ok.mp h, decide_eq_true_iff]
    have hread := fetch_eq_ok.mp hbody
    have hparsed := fetch_eq_ok.mp hprofile
    constructor
    · intro henabled _
      exact ⟨body, profile, hread, hparsed, henabled⟩
    · intro henabled
      obtain ⟨body', profile', hread', hparsed', henabled⟩ := henabled hsource
      rw [hread] at hread'
      cases hread'
      rw [hparsed] at hparsed'
      cases hparsed'
      exact henabled

/-- A source has no reason when its reuse is approved. -/
theorem sourceReasons_eq_nil {checked : Timestamp} {source : String} {version : Nat}
    {reasons : List String}
    (h : sourceReasons readers files checked source version = .ok reasons) :
    reasons = [] ↔ ReuseApproved readers files checked source version := by
  obtain ⟨body, hbody, h⟩ := bind_eq_ok.mp h
  obtain ⟨approval, happroval, h⟩ := bind_eq_ok.mp h
  obtain ⟨_, hbound, h⟩ := bind_eq_ok.mp h
  obtain ⟨enabled, henabled, h⟩ := bind_eq_ok.mp h
  obtain ⟨day, hday, h⟩ := bind_eq_ok.mp h
  have hread := fetch_eq_ok.mp hbody
  have hparsed := fetch_eq_ok.mp happroval
  obtain ⟨hsource, hversion⟩ := require_eq_ok.mp hbound
  rw [← pure_eq_ok.mp h, reasonIf_eq_nil, not_not, sourceUsable, decide_eq_true_iff]
  constructor
  · rintro ⟨hstatus, honline, hprofile, hforce⟩
    exact ⟨⟨body, approval, day, hread, hparsed, hsource, hversion, hday, hstatus, honline, hforce⟩,
      (sourceEnabled_eq_ok henabled).mp hprofile⟩
  · rintro ⟨⟨body', approval', day', hread', hparsed', -, -, hday', hstatus, honline, hforce⟩,
      hprofile⟩
    rw [hread] at hread'
    cases hread'
    rw [hparsed] at hparsed'
    cases hparsed'
    rw [hday] at hday'
    cases hday'
    exact ⟨hstatus, honline, (sourceEnabled_eq_ok henabled).mpr hprofile, hforce⟩

/-! ## Days -/

/-- A text is a day as it prints, and is read as this day. -/
def IsDay (text : String) : Prop :=
  ∃ day : Date, day.isoformat = text ∧ Date.fromisoformat text = some day

/-- `datetime.fromisoformat` reads a day as its midnight. -/
def ReadsDays (readers : Readers Bytes) : Prop :=
  ∀ day : Date, Date.fromisoformat day.isoformat = some day →
    readers.fromisoformat day.isoformat = some (day.midnight, none)

/-- The session of a day was over at an instant: at half past three, from the first day of the
profile on, and by the midnight after it before that. -/
def SessionOver (tokyo : Tokyo) (instant : Int) (day : Date) : Prop :=
  if profileEffectiveOn ≤ day then tokyo.combine day sessionClose ≤ instant
  else ∃ next, day.add? 1 = some next ∧ tokyo.combine next 0 ≤ instant

/-- The prices were retrieved when the session of a day was over. -/
def RetrievedAfter (tokyo : Tokyo) (retrieved : Timestamp) (text : String) : Prop :=
  ∃ day : Date, day.isoformat = text ∧ SessionOver tokyo retrieved.instant day

/-- A day has a positive close. -/
def HasClose (input : RunInput) (text : String) (close : ℚ) : Prop :=
  ∃ row, rowOn (·.on) input.prices text = some row ∧ row.close = some close ∧ 0 < close

/-- A day has a rate: that of a confirmed candle, over by the check and in the period. -/
def HasRate (readers : Readers Bytes) (input : RunInput) (text : String) (rate : ℚ) : Prop :=
  ∃ row stop, rowOn (·.on) input.fxRows text = some row ∧ row.close = rate ∧
    row.confirmed = true ∧ timestamp readers row.intervalEnd = .ok stop ∧
    stop.instant ≤ input.checked.instant ∧ input.fxMetadata.contains text

omit [DecidableEq Bytes] in
/-- The midnight of a day falls on it. -/
theorem ofDateTime_midnight (day : Date) : Date.ofDateTime day.midnight = day :=
  Date.ext_ordinal (Nat.mul_div_cancel _ (by decide))

omit [DecidableEq Bytes] in
/-- The end that is computed of a day. -/
theorem closedAt_le_iff {readers : Readers Bytes} (hreads : ReadsDays readers) {text : String}
    (htext : IsDay text) {closed : Int} (h : closedAt readers text = .ok closed)
    {retrieved : Timestamp} :
    closed ≤ retrieved.instant ↔ RetrievedAfter readers.tokyo retrieved text := by
  obtain ⟨day, rfl, hread⟩ := htext
  have hover : RetrievedAfter readers.tokyo retrieved day.isoformat ↔
      SessionOver readers.tokyo retrieved.instant day := by
    constructor
    · rintro ⟨other, hother, hover⟩
      rwa [Date.isoformat_injective hother] at hover
    · intro hover
      exact ⟨day, rfl, hover⟩
  rw [hover]
  unfold SessionOver
  unfold closedAt at h
  split at h
  · -- from the day of the rule on, the session ends at its closing time
    rename_i heffective
    rw [Date.isoformat_le_iff] at heffective
    obtain ⟨on, hon, h⟩ := bind_eq_ok.mp h
    obtain ⟨_, -, h⟩ := bind_eq_ok.mp h
    rw [parseDate, hread] at hon
    rw [if_pos heffective, ← pure_eq_ok.mp h, ← Except.ok.inj hon]
  · -- before it, the next midnight is taken
    rename_i heffective
    rw [Date.isoformat_le_iff] at heffective
    obtain ⟨read, hwall, h⟩ := bind_eq_ok.mp h
    rw [fetch_eq_ok, hreads day hread] at hwall
    cases hwall
    obtain ⟨next, hnext, h⟩ := bind_eq_ok.mp h
    rw [fetch_eq_ok, ofDateTime_midnight] at hnext
    rw [if_neg heffective, ← pure_eq_ok.mp h, hnext]
    simp

omit [DecidableEq Bytes] in
/-- A day has one close. -/
theorem HasClose.unique {text : String} {close other : ℚ} (h : HasClose input text close)
    (hother : HasClose input text other) : other = close := by
  obtain ⟨row, hrow, hclose, -⟩ := h
  obtain ⟨row', hrow', hclose', -⟩ := hother
  rw [hrow] at hrow'
  cases hrow'
  rw [hclose] at hclose'
  exact (Option.some.inj hclose').symm

omit [DecidableEq Bytes] in
/-- What is found for a day without a positive close. -/
theorem missing_eq {text : String} {later : Prop} (hno : ∀ close, ¬ HasClose input text close) :
    (∀ close, PriceDay.missing.close? = some close ↔ HasClose input text close ∧ later) ∧
      (PriceDay.missing = .early ↔ ∃ close, HasClose input text close ∧ ¬ later) := by
  refine ⟨fun close => ⟨fun heq => ?_, fun hclose => absurd hclose.1 (hno close)⟩,
    ⟨fun heq => ?_, ?_⟩⟩
  · cases heq
  · cases heq
  · rintro ⟨close, hclose, -⟩
    exact absurd hclose (hno close)

omit [DecidableEq Bytes] in
/-- What is found for the price of a day. -/
theorem priceDay_eq_ok {readers : Readers Bytes} (hreads : ReadsDays readers) {text : String}
    (htext : IsDay text) {found : PriceDay}
    (h : priceDay readers input.prices input.retrieved text = .ok found) :
    (∀ close, found.close? = some close ↔
        HasClose input text close ∧ RetrievedAfter readers.tokyo input.retrieved text) ∧
      (found = .early ↔ ∃ close, HasClose input text close ∧
        ¬ RetrievedAfter readers.tokyo input.retrieved text) := by
  unfold priceDay at h
  split at h
  · rename_i close hclose
    obtain ⟨row, hrow, hrowClose⟩ := Option.bind_eq_some_iff.mp hclose
    split at h
    · -- a close that is not positive counts as missing
      rename_i hnonpos
      rw [← pure_eq_ok.mp h]
      refine missing_eq ?_
      rintro other ⟨row', hrow', hother, hpos⟩
      rw [hrow] at hrow'
      cases hrow'
      rw [hrowClose] at hother
      cases hother
      exact absurd hnonpos (not_le.mpr hpos)
    · rename_i hpos
      have hhas : HasClose input text close := ⟨row, hrow, hrowClose, not_le.mp hpos⟩
      obtain ⟨closed, hclosed, h⟩ := bind_eq_ok.mp h
      have hlater : closed ≤ input.retrieved.instant ↔ _ := closedAt_le_iff hreads htext hclosed
      split at h
      · -- retrieved before the session was over
        rename_i hearly
        rw [← not_le, hlater] at hearly
        rw [← pure_eq_ok.mp h]
        refine ⟨fun other => ⟨fun heq => ?_, fun hother => absurd hother.2 hearly⟩,
          ⟨fun _ => ⟨close, hhas, hearly⟩, fun _ => rfl⟩⟩
        cases heq
      · -- a close that can be used
        rename_i hover
        rw [not_lt, hlater] at hover
        rw [← pure_eq_ok.mp h]
        refine ⟨fun other => ⟨fun heq => ?_, fun hother => ?_⟩, ⟨fun heq => ?_, ?_⟩⟩
        · cases heq
          exact ⟨hhas, hover⟩
        · rw [hhas.unique hother.1]
          rfl
        · cases heq
        · rintro ⟨_, -, hearly⟩
          exact absurd hover hearly
  · -- no row, or a row without a close
    rename_i hnone
    rw [← pure_eq_ok.mp h]
    refine missing_eq ?_
    rintro close ⟨row, hrow, hclose, -⟩
    rw [hrow, Option.bind_some, hclose] at hnone
    cases hnone

omit [DecidableEq Bytes] in
/-- What is found for the rate of a day. -/
theorem fxDay_eq_ok {readers : Readers Bytes} {text : String} {found : Option ℚ}
    (h : fxDay readers input.fxMetadata input.fxRows input.checked text = .ok found) (rate : ℚ) :
    found = some rate ↔ HasRate readers input text rate := by
  unfold fxDay at h
  split at h
  · rename_i row hrow
    unfold candleRate at h
    split at h
    · -- confirmed: the rate counts if its day is over
      rename_i hconfirmed
      obtain ⟨stop, hstop, h⟩ := bind_eq_ok.mp h
      rw [← pure_eq_ok.mp h, Option.ite_none_right_eq_some, Option.some.injEq]
      constructor
      · rintro ⟨⟨hover, hperiod⟩, hclose⟩
        exact ⟨row, stop, hrow, hclose, hconfirmed, hstop, hover, hperiod⟩
      · rintro ⟨row', stop', hrow', hclose, -, hstop', hover, hperiod⟩
        rw [hrow] at hrow'
        cases hrow'
        rw [hstop] at hstop'
        cases hstop'
        exact ⟨⟨hover, hperiod⟩, hclose⟩
    · -- not confirmed
      rename_i hconfirmed
      rw [← pure_eq_ok.mp h]
      refine ⟨fun heq => ?_, ?_⟩
      · cases heq
      · rintro ⟨row', _, hrow', -, hconfirmed', -⟩
        rw [hrow] at hrow'
        cases hrow'
        exact absurd hconfirmed' hconfirmed
  · -- no row
    rename_i hnone
    rw [← pure_eq_ok.mp h]
    refine ⟨fun heq => ?_, ?_⟩
    · cases heq
    · rintro ⟨row, _, hrow, -⟩
      rw [hnone] at hrow
      cases hrow

/-! ## What is read -/

/-- What a run read, where its readiness comes from. -/
structure ReadFrom (readers : RunReaders Bytes) (files : Bundle Bytes) (input : RunInput) :
    Prop where
  checked : timestamp readers.toReaders input.control.checkedAt = .ok input.checked
  requirements : resolveRequirements readers.toReaders (files.subset "requirements-input/").get?
    input.control.checkedAt = .ok input.requirements
  policy : allSourceReasons readers files input.checked = .ok input.policy
  conditions : ∃ price completed index, priceInputs readers files = .ok (price, input.sourceTask) ∧
    evaluateAcceptance readers.toPriceReaders price input.control.checkedAt (some completed) =
      .ok index ∧ input.conditions = index.conditions
  fx : validateDukascopyFx readers.toFxReaders (files.subset "fx-input/") = .ok ()
  fxRows : readModel readers.fxSeries (files.subset "fx-input/") "normalized.json" =
    .ok input.fxRows

theorem readRun_eq_ok (h : readRun readers files = .ok input) : ReadFrom readers files input := by
  obtain ⟨task, -, h⟩ := bind_eq_ok.mp h
  obtain ⟨control, -, h⟩ := bind_eq_ok.mp h
  obtain ⟨checked, hchecked, h⟩ := bind_eq_ok.mp h
  obtain ⟨accepted, -, h⟩ := bind_eq_ok.mp h
  obtain ⟨⟨⟩, -, h⟩ := bind_eq_ok.mp h
  obtain ⟨evaluationPolicy, -, h⟩ := bind_eq_ok.mp h
  obtain ⟨⟨⟩, -, h⟩ := bind_eq_ok.mp h
  obtain ⟨effective, -, h⟩ := bind_eq_ok.mp h
  obtain ⟨⟨⟩, -, h⟩ := bind_eq_ok.mp h
  obtain ⟨requirements, hrequirements, h⟩ := bind_eq_ok.mp h
  obtain ⟨policy, hpolicy, h⟩ := bind_eq_ok.mp h
  obtain ⟨⟨price, sourceTask⟩, hprice, h⟩ := bind_eq_ok.mp h
  obtain ⟨⟨⟩, -, h⟩ := bind_eq_ok.mp h
  obtain ⟨sourceAccepted, -, h⟩ := bind_eq_ok.mp h
  obtain ⟨⟨⟩, -, h⟩ := bind_eq_ok.mp h
  obtain ⟨prices, -, h⟩ := bind_eq_ok.mp h
  obtain ⟨retrieved, -, h⟩ := bind_eq_ok.mp h
  obtain ⟨completed, -, h⟩ := bind_eq_ok.mp h
  obtain ⟨index, hindex, h⟩ := bind_eq_ok.mp h
  obtain ⟨⟨⟩, -, h⟩ := bind_eq_ok.mp h
  obtain ⟨⟨⟩, hfx, h⟩ := bind_eq_ok.mp h
  obtain ⟨fxMetadata, -, h⟩ := bind_eq_ok.mp h
  obtain ⟨⟨⟩, -, h⟩ := bind_eq_ok.mp h
  obtain ⟨fxRows, hfxRows, h⟩ := bind_eq_ok.mp h
  cases h
  exact ⟨hchecked, hrequirements, hpolicy, ⟨price, completed, index, hprice, hindex, rfl⟩, hfx,
    hfxRows⟩

/-- No source has a reason when the reuse of each is approved. -/
theorem ReadFrom.approvals (h : ReadFrom readers files input) :
    (input.policy.jpx = [] ↔ ReuseApproved readers files input.checked "jpx" 1) ∧
      (input.policy.yfinance = [] ↔ ReuseApproved readers files input.checked "yfinance" 3) ∧
      (input.policy.dukascopy = [] ↔ ReuseApproved readers files input.checked "dukascopy" 1) := by
  obtain ⟨jpx, hjpx, hpolicy⟩ := bind_eq_ok.mp h.policy
  obtain ⟨yfinance, hyfinance, hpolicy⟩ := bind_eq_ok.mp hpolicy
  obtain ⟨dukascopy, hdukascopy, hpolicy⟩ := bind_eq_ok.mp hpolicy
  rw [← pure_eq_ok.mp hpolicy]
  exact ⟨sourceReasons_eq_nil hjpx, sourceReasons_eq_nil hyfinance,
    sourceReasons_eq_nil hdukascopy⟩

/-- Some values, or a default that is some. -/
theorem orElse_ne_nil {values fallback : List String} (h : fallback ≠ []) :
    orElse values fallback ≠ [] := by
  unfold orElse
  split
  · exact h
  · assumption

/-- A condition that fails gives a reason. -/
theorem condition_reasons {conditionId : String} {passed : Bool} {reasons paths : List String}
    (h : reasons ≠ []) : (condition conditionId passed reasons paths).passed = true ∨
      (condition conditionId passed reasons paths).reasons ≠ [] := by
  cases passed with
  | true => exact .inl rfl
  | false => exact .inr h

/-- Every condition of an acceptance that fails gives a reason. -/
theorem acceptanceConditions_reasons (found : Findings) :
    ∀ c ∈ acceptanceConditions found, c.passed = true ∨ c.reasons ≠ [] := by
  intro c hc
  simp only [acceptanceConditions, List.mem_cons, List.not_mem_nil, or_false] at hc
  rcases hc with rfl | rfl | rfl | rfl | rfl | rfl | rfl | rfl | rfl
  · exact condition_reasons (List.cons_ne_nil _ _)
  · exact condition_reasons (List.cons_ne_nil _ _)
  · exact condition_reasons (List.cons_ne_nil _ _)
  · exact condition_reasons (List.cons_ne_nil _ _)
  · exact condition_reasons (orElse_ne_nil (List.cons_ne_nil _ _))
  · exact condition_reasons (List.cons_ne_nil _ _)
  · exact condition_reasons (List.cons_ne_nil _ _)
  · exact .inl rfl
  · exact condition_reasons (orElse_ne_nil (List.cons_ne_nil _ _))

/-- The conditions give no reason when all pass. -/
theorem ReadFrom.conditions_eq_nil (h : ReadFrom readers files input) :
    (input.conditions.filter (¬ ·.passed)).flatMap (·.reasons) = [] ↔
      ∀ c ∈ input.conditions, c.passed = true := by
  obtain ⟨price, completed, index, -, hindex, hconditions⟩ := h.conditions
  obtain ⟨_, _, _, _, found, hfrom⟩ := evaluateAcceptance_eq_ok hindex
  rw [hconditions, hfrom.conditions, List.flatMap_eq_nil_iff]
  constructor
  · intro hall c hc
    rcases acceptanceConditions_reasons found c hc with hpassed | hreasons
    · exact hpassed
    · by_contra hfailed
      exact hreasons (hall c (List.mem_filter.mpr ⟨hc, by simpa using hfailed⟩))
  · intro hall c hc
    obtain ⟨hmem, hfailed⟩ := List.mem_filter.mp hc
    have hpassed := hall c hmem
    simp [hpassed] at hfailed

/-- What the days of a run are. -/
structure RequiredDays (requirements : RunRequirements) : Prop where
  resolved : requirements.status = .resolved ↔ requirements.reasons = []
  isDay : ∀ day ∈ requirements.priceDates, IsDay day
  nodup : requirements.priceDates.Nodup
  fxDates : requirements.fxDates =
    requirements.priceDates.filter fun day => day ∈ requirements.fxDates

omit [DecidableEq Bytes] in
/-- The days of a calendar are days, each once. -/
theorem TradingDates.days_isDay (calendar : TradingDates) :
    calendar.dates.Nodup ∧ ∀ day ∈ calendar.dates, IsDay day := by
  rw [calendar.dates_eq]
  refine ⟨?_, ?_⟩
  · have hdays : calendar.days.Nodup := by
      refine calendar.ascending.imp ?_
      rintro a b hlt rfl
      exact absurd hlt (Nat.lt_irrefl _)
    exact hdays.map fun a b h => Date.isoformat_injective h
  · intro day hday
    obtain ⟨on, hon, rfl⟩ := List.mem_map.mp hday
    exact ⟨on, rfl, calendar.days_read on hon⟩

omit [DecidableEq Bytes] in
theorem resolveRequirements_days {readers : Readers Bytes} {bundle : Files Bytes}
    {checkedAt : String} {requirements : RunRequirements}
    (h : resolveRequirements readers bundle checkedAt = .ok requirements) :
    RequiredDays requirements := by
  obtain ⟨calendar, checked, today, -, h⟩ := resolveRequirements_reads h
  obtain ⟨cutoff, -, h⟩ := bind_eq_ok.mp h
  obtain ⟨exclusive, -, h⟩ := bind_eq_ok.mp h
  obtain ⟨start, -, h⟩ := bind_eq_ok.mp h
  obtain ⟨utc, -, h⟩ := bind_eq_ok.mp h
  obtain ⟨utcCompleted, -, h⟩ := bind_eq_ok.mp h
  obtain ⟨priceEnd, -, h⟩ := bind_eq_ok.mp h
  rw [← pure_eq_ok.mp h]
  -- the required days are some of the calendar's
  have hsublist : ∀ last, (requiredPriceDates calendar start last).Sublist calendar.dates := by
    intro last
    cases last with
    | none => exact List.nil_sublist _
    | some last => exact List.filter_sublist
  refine ⟨?_, fun day hday => ?_, ?_, ?_⟩
  · show (if _ then RequirementsStatus.resolved else .pending) = .resolved ↔ _
    split
    · rename_i hreasons
      exact iff_of_true rfl hreasons
    · rename_i hreasons
      refine iff_of_false ?_ hreasons
      intro heq
      cases heq
  · exact calendar.days_isDay.2 day ((hsublist _).subset hday)
  · exact calendar.days_isDay.1.sublist (hsublist _)
  · refine List.filter_congr fun day hday => ?_
    simp only [List.mem_filter, hday, true_and]
    simp

/-! ## What the loops find -/

/-- The prices of a run are accepted, whatever days they are of: a day whose price was
retrieved too early spoils them all, a day without one does not. -/
structure PricesAccepted (readers : RunReaders Bytes) (files : Bundle Bytes) (input : RunInput) :
    Prop where
  resolved : input.requirements.status = .resolved
  jpx : ReuseApproved readers files input.checked "jpx" 1
  yfinance : ReuseApproved readers files input.checked "yfinance" 3
  conditions : ∀ c ∈ input.conditions, c.passed = true
  retrieved : ∀ day ∈ input.requirements.priceDates, ∀ close, HasClose input day close →
    RetrievedAfter readers.tokyo input.retrieved day

/-- A run has all it needs. -/
structure RunReady (readers : RunReaders Bytes) (files : Bundle Bytes) (input : RunInput) : Prop
    extends PricesAccepted readers files input where
  prices : ∀ day ∈ input.requirements.priceDates, ∃ close, HasClose input day close
  dukascopy : ReuseApproved readers files input.checked "dukascopy" 1
  fxDates : input.requirements.fxDates ≠ []
  rates : ∀ day ∈ input.requirements.fxDates, ∃ rate, HasRate readers.toReaders input day rate

/-- The close of a day in dollars: its prices and its rates are accepted, it has both, and the
value is their quotient in the arithmetic of the run. -/
structure UsdClose (readers : RunReaders Bytes) (files : Bundle Bytes) (input : RunInput)
    (day : String) (value : ℚ) : Prop where
  accepted : PricesAccepted readers files input
  dukascopy : ReuseApproved readers files input.checked "dukascopy" 1
  required : day ∈ input.requirements.fxDates
  quotient : ∃ close rate, HasClose input day close ∧ HasRate readers.toReaders input day rate ∧
    0 < rate ∧ rounded28 (close / rate) = .ok value

omit [DecidableEq Bytes] in
/-- No reason is left not to convert a day. -/
theorem conversionReasons_eq_nil {requirements : RunRequirements} {policy : SourceReasons}
    {priceReasons : List String} {price fx : Option ℚ} {day : String} :
    conversionReasons requirements policy priceReasons price fx day = [] ↔
      price ≠ none ∧ day ∈ requirements.fxDates ∧ fx ≠ none ∧ priceReasons = [] ∧
        policy.dukascopy = [] := by
  unfold conversionReasons
  simp only [List.append_eq_nil_iff, reasonIf_eq_nil, not_not, not_and]
  tauto

omit [DecidableEq Bytes] in
/-- A row of the conversion. -/
theorem conversionRow_eq_ok {requirements : RunRequirements} {policy : SourceReasons}
    {priceReasons : List String} {price fx : Option ℚ} {day : String} {row : RunConversionRow}
    (h : conversionRow requirements policy priceReasons price fx day = .ok row) :
    row.on = day ∧ ∀ value, row.closeUsd = some value ↔
      day ∈ requirements.fxDates ∧ priceReasons = [] ∧ policy.dukascopy = [] ∧
        ∃ close rate, price = some close ∧ fx = some rate ∧ rate ≠ 0 ∧
          rounded28 (close / rate) = .ok value := by
  obtain ⟨converted, hconverted, hrow⟩ := bind_eq_ok.mp h
  clear h
  obtain rfl := pure_eq_ok.mp hrow
  refine ⟨rfl, fun value => ?_⟩
  show converted = some value ↔ _
  unfold convertedOf at hconverted
  split at hconverted
  · rename_i close rate
    split at hconverted
    · -- nothing speaks against the conversion, so the quotient is rounded
      rename_i hnil
      obtain ⟨-, hday, -, hprices, hpolicy⟩ := conversionReasons_eq_nil.mp hnil
      cases hdivide : dividePrice close rate with
      | error e =>
        rw [hdivide] at hconverted
        cases hconverted
      | ok quotient =>
        rw [hdivide] at hconverted
        cases hconverted
        obtain ⟨⟨⟩, hzero, hround⟩ := bind_eq_ok.mp hdivide
        constructor
        · intro heq
          cases heq
          exact ⟨hday, hprices, hpolicy, close, rate, rfl, rfl, require_eq_ok.mp hzero, hround⟩
        · rintro ⟨-, -, -, close', rate', hclose, hrate, -, hround'⟩
          cases hclose
          cases hrate
          rw [hround] at hround'
          rw [Except.ok.inj hround']
    · -- some reason speaks against it
      rename_i hsome
      rw [← pure_eq_ok.mp hconverted]
      constructor
      · intro heq
        cases heq
      · rintro ⟨hday, hprices, hpolicy, -⟩
        refine absurd (conversionReasons_eq_nil.mpr ?_) hsome
        exact ⟨Option.some_ne_none _, hday, Option.some_ne_none _, hprices, hpolicy⟩
  · -- a price or a rate is missing
    rename_i hnone
    rw [← pure_eq_ok.mp hconverted]
    constructor
    · intro heq
      cases heq
    · rintro ⟨-, -, -, close, rate, hclose, hrate, -⟩
      exact absurd hrate (hnone close rate hclose)

omit [DecidableEq Bytes] in
/-- A day is converted when no reason is left not to. -/
theorem conversionRow_ne_none {requirements : RunRequirements} {policy : SourceReasons}
    {priceReasons : List String} {price fx : Option ℚ} {day : String} {row : RunConversionRow}
    (h : conversionRow requirements policy priceReasons price fx day = .ok row)
    (hreasons : conversionReasons requirements policy priceReasons price fx day = []) :
    row.closeUsd ≠ none := by
  obtain ⟨hprice, -, hfx, -, -⟩ := conversionReasons_eq_nil.mp hreasons
  obtain ⟨close, rfl⟩ := Option.ne_none_iff_exists'.mp hprice
  obtain ⟨rate, rfl⟩ := Option.ne_none_iff_exists'.mp hfx
  obtain ⟨converted, hconverted, hrow⟩ := bind_eq_ok.mp h
  rw [← pure_eq_ok.mp hrow]
  show converted ≠ none
  rw [hreasons, convertedOf, if_pos rfl] at hconverted
  cases hdivide : dividePrice close rate with
  | error e =>
    rw [hdivide] at hconverted
    cases hconverted
  | ok quotient =>
    rw [hdivide] at hconverted
    cases hconverted
    exact Option.some_ne_none _

/-- The rate of a day is positive. -/
theorem ReadFrom.rate_pos (h : ReadFrom readers files input) {day : String} {rate : ℚ}
    (hrate : HasRate readers.toReaders input day rate) : 0 < rate := by
  obtain ⟨row, stop, hrow, rfl, -⟩ := hrate
  exact fxSeries_positive h.fx h.fxRows row (rowOn_eq_some hrow).1

/-- What the loops of a run find. -/
structure LayersFrom (readers : RunReaders Bytes) (files : Bundle Bytes) (input : RunInput)
    (layers : RunLayers) : Prop where
  priceReasons : layers.priceReasons = [] ↔ PricesAccepted readers files input
  fxReasons : layers.fxReasons = [] ↔ input.requirements.status = .resolved ∧
    ReuseApproved readers files input.checked "dukascopy" 1 ∧ input.requirements.fxDates ≠ []
  missingPrice : layers.missingPrice = [] ↔ ∀ day ∈ input.requirements.priceDates,
    ∃ close, HasClose input day close ∧ RetrievedAfter readers.tokyo input.retrieved day
  missingFx : layers.missingFx = [] ↔ ∀ day ∈ input.requirements.fxDates,
    ∃ rate, HasRate readers.toReaders input day rate
  days : layers.rows.map (·.on) = input.requirements.priceDates
  closeUsd : ∀ row ∈ layers.rows, ∀ value,
    row.closeUsd = some value ↔ UsdClose readers files input row.on value
  converted : RunReady readers files input → ∀ row ∈ layers.rows,
    row.on ∈ input.requirements.fxDates → row.closeUsd ≠ none

omit [DecidableEq Bytes] in
/-- The price under a required day. -/
theorem foundOn_price (hreads : ReadsDays readers.toReaders) {found : List PriceDay}
    (hdays : ∀ day ∈ input.requirements.priceDates, IsDay day)
    (h : input.requirements.priceDates.mapM
      (priceDay readers.toReaders input.prices input.retrieved) = .ok found)
    {day : String} (hday : day ∈ input.requirements.priceDates) (close : ℚ) :
    foundOn PriceDay.close? input.requirements.priceDates found day = some close ↔
      HasClose input day close ∧ RetrievedAfter readers.tokyo input.retrieved day := by
  obtain ⟨price, -, hprice⟩ := exists_of_mapM h hday
  rw [foundOn_eq h hday hprice]
  exact (priceDay_eq_ok hreads (hdays day hday) hprice).1 close

omit [DecidableEq Bytes] in
/-- The rate under a required day. -/
theorem foundOn_rate {found : List (Option ℚ)}
    (h : input.requirements.fxDates.mapM
      (fxDay readers.toReaders input.fxMetadata input.fxRows input.checked) = .ok found)
    {day : String} (hday : day ∈ input.requirements.fxDates) (rate : ℚ) :
    foundOn id input.requirements.fxDates found day = some rate ↔
      HasRate readers.toReaders input day rate := by
  obtain ⟨price, -, hprice⟩ := exists_of_mapM h hday
  rw [foundOn_eq h hday hprice]
  exact fxDay_eq_ok hprice rate

/-- The reasons against the prices. -/
theorem priceReasonsOf_eq_nil (hread : ReadFrom readers files input)
    (hreads : ReadsDays readers.toReaders) {found : List PriceDay}
    (h : input.requirements.priceDates.mapM
      (priceDay readers.toReaders input.prices input.retrieved) = .ok found) :
    priceReasonsOf input found = [] ↔ PricesAccepted readers files input := by
  have hdays := resolveRequirements_days hread.requirements
  obtain ⟨hjpx, hyfinance, -⟩ := hread.approvals
  -- no close was retrieved before its session was over
  have hearly : (found.filter (· = .early)).map
      (fun _ => "price_retrieved_before_session_completion") = [] ↔
      ∀ day ∈ input.requirements.priceDates, ∀ close, HasClose input day close →
        RetrievedAfter readers.tokyo input.retrieved day := by
    rw [List.map_eq_nil_iff, List.filter_eq_nil_iff]
    constructor
    · intro hnone day hday close hclose
      obtain ⟨price, hmem, hprice⟩ := exists_of_mapM h hday
      by_contra hlate
      refine hnone price hmem (decide_eq_true ?_)
      exact (priceDay_eq_ok hreads (hdays.isDay day hday) hprice).2.mpr ⟨close, hclose, hlate⟩
    · intro hall price hmem hprice
      obtain ⟨day, hday, hfound⟩ := exists_left_of_mem (mapM_eq_ok.mp h) hmem
      obtain ⟨close, hclose, hlate⟩ :=
        (priceDay_eq_ok hreads (hdays.isDay day hday) hfound).2.mp (of_decide_eq_true hprice)
      exact hlate (hall day hday close hclose)
  unfold priceReasonsOf
  rw [List.append_eq_nil_iff, List.append_eq_nil_iff, List.append_eq_nil_iff,
    List.append_eq_nil_iff, ← hdays.resolved, hjpx, hyfinance, hread.conditions_eq_nil, hearly]
  constructor
  · rintro ⟨⟨⟨⟨hresolved, hjpx⟩, hyfinance⟩, hconditions⟩, hretrieved⟩
    exact ⟨hresolved, hjpx, hyfinance, hconditions, hretrieved⟩
  · intro haccepted
    exact ⟨⟨⟨⟨haccepted.resolved, haccepted.jpx⟩, haccepted.yfinance⟩, haccepted.conditions⟩,
      haccepted.retrieved⟩

theorem evaluateLayers_eq_ok (hread : ReadFrom readers files input)
    (hreads : ReadsDays readers.toReaders) {layers : RunLayers}
    (h : evaluateLayers readers.toReaders input = .ok layers) :
    LayersFrom readers files input layers := by
  have hdays := resolveRequirements_days hread.requirements
  obtain ⟨-, -, hdukascopy⟩ := hread.approvals
  obtain ⟨prices, hprices, h⟩ := bind_eq_ok.mp h
  obtain ⟨rates, hrates, h⟩ := bind_eq_ok.mp h
  obtain ⟨availablePrices, -, h⟩ := bind_eq_ok.mp h
  obtain ⟨availableFx, -, h⟩ := bind_eq_ok.mp h
  obtain ⟨rows, hrows, h⟩ := bind_eq_ok.mp h
  rw [← pure_eq_ok.mp h]
  have hreasons := priceReasonsOf_eq_nil hread hreads hprices
  -- every row of the conversion is of a required day
  have hrow : ∀ row ∈ rows, ∃ day ∈ input.requirements.priceDates,
      conversionRow input.requirements input.policy (priceReasonsOf input prices)
        (foundOn PriceDay.close? input.requirements.priceDates prices day)
        (foundOn id input.requirements.fxDates rates day) day = .ok row := by
    intro row hmem
    exact exists_left_of_mem (mapM_eq_ok.mp hrows) hmem
  refine ⟨hreasons, ?_, ?_, ?_, ?_, ?_, ?_⟩
  · -- the reasons against the rates
    show fxReasonsOf input = [] ↔ _
    unfold fxReasonsOf
    rw [List.append_eq_nil_iff, List.append_eq_nil_iff, ← hdays.resolved, hdukascopy,
      reasonIf_eq_nil, and_assoc]
  · -- no price is missing
    show missingOf PriceDay.close? input.requirements.priceDates prices = [] ↔ _
    rw [missingOf_eq_nil hprices]
    refine forall₂_congr fun day hday => ?_
    rw [Option.ne_none_iff_exists']
    exact exists_congr (foundOn_price hreads hdays.isDay hprices hday)
  · -- no rate is missing
    show missingOf id input.requirements.fxDates rates = [] ↔ _
    rw [missingOf_eq_nil hrates]
    refine forall₂_congr fun day hday => ?_
    rw [Option.ne_none_iff_exists']
    exact exists_congr (foundOn_rate hrates hday)
  · refine (map_eq_map_of_forall₂ (f := id) ?_ (mapM_eq_ok.mp hrows)).trans (List.map_id _)
    intro day row hday
    exact (conversionRow_eq_ok hday).1
  · -- a row has a value exactly when its day has a price and a rate
    intro row hmem value
    obtain ⟨day, hday, hconverted⟩ := hrow row hmem
    obtain ⟨rfl, hvalue⟩ := conversionRow_eq_ok hconverted
    rw [hvalue, hreasons, hdukascopy]
    constructor
    · rintro ⟨hrequired, haccepted, happroved, close, rate, hclose, hrate, -, hround⟩
      have hhas := (foundOn_rate hrates hrequired rate).mp hrate
      exact ⟨haccepted, happroved, hrequired, close, rate,
        ((foundOn_price hreads hdays.isDay hprices hday close).mp hclose).1, hhas,
        hread.rate_pos hhas, hround⟩
    · rintro ⟨haccepted, happroved, hrequired, close, rate, hclose, hrate, hpos, hround⟩
      refine ⟨hrequired, haccepted, happroved, close, rate, ?_, ?_, ne_of_gt hpos, hround⟩
      · exact (foundOn_price hreads hdays.isDay hprices hday close).mpr
          ⟨hclose, haccepted.retrieved _ hday close hclose⟩
      · exact (foundOn_rate hrates hrequired rate).mpr hrate
  · -- when all is ready, every required day has a value
    intro hready row hmem hrequired
    obtain ⟨day, hday, hconverted⟩ := hrow row hmem
    obtain ⟨rfl, -⟩ := conversionRow_eq_ok hconverted
    refine conversionRow_ne_none hconverted (conversionReasons_eq_nil.mpr ?_)
    obtain ⟨close, hclose⟩ := hready.prices _ hday
    obtain ⟨rate, hrate⟩ := hready.rates _ hrequired
    refine ⟨?_, hrequired, ?_, hreasons.mpr hready.toPricesAccepted,
      hdukascopy.mpr hready.dukascopy⟩
    · rw [(foundOn_price hreads hdays.isDay hprices hday close).mpr
        ⟨hclose, hready.retrieved _ hday close hclose⟩]
      exact Option.some_ne_none _
    · rw [(foundOn_rate hrates hrequired rate).mpr hrate]
      exact Option.some_ne_none _

/-! ## Readiness -/

omit [DecidableEq Bytes] in
/-- A layer is ready without reasons and missing days. -/
theorem layer_ready_iff {reasons missing available : List String} :
    (layer reasons missing available).status = .readyWithLimitations ↔
      reasons = [] ∧ missing = [] := by
  unfold layer
  show (if _ then RunStatus.pending else .readyWithLimitations) = .readyWithLimitations ↔ _
  split
  · rename_i hsome
    refine iff_of_false (fun heq => by cases heq) ?_
    rintro ⟨hreasons, hmissing⟩
    exact hsome.elim (absurd hreasons) (absurd hmissing)
  · rename_i hnone
    rw [not_or, not_not, not_not] at hnone
    exact iff_of_true rfl hnone

omit [DecidableEq Bytes] in
/-- In a run that has what it needs, the days that are converted are those with a rate. -/
theorem LayersFrom.convertedDays {layers : RunLayers} (h : LayersFrom readers files input layers)
    (hdays : RequiredDays input.requirements) (hready : RunReady readers files input) :
    layers.convertedDays = input.requirements.fxDates := by
  have hsame : layers.rows.filter (fun row => row.closeUsd ≠ none) =
      layers.rows.filter fun row => row.on ∈ input.requirements.fxDates := by
    refine List.filter_congr fun row hrow => ?_
    rw [decide_eq_decide]
    constructor
    · intro hconverted
      obtain ⟨value, hvalue⟩ := Option.ne_none_iff_exists'.mp hconverted
      exact ((h.closeUsd row hrow value).mp hvalue).required
    · exact h.converted hready row hrow
  calc layers.convertedDays
      = (layers.rows.filter fun row => row.on ∈ input.requirements.fxDates).map (·.on) :=
        congrArg (List.map RunConversionRow.on) hsame
    _ = (layers.rows.map (·.on)).filter fun day => day ∈ input.requirements.fxDates := by
        rw [List.filter_map]
        rfl
    _ = input.requirements.fxDates := by
        rw [h.days]
        exact hdays.fxDates.symm

omit [DecidableEq Bytes] in
/-- The status of a run. -/
theorem LayersFrom.status {layers : RunLayers} (h : LayersFrom readers files input layers)
    (hdays : RequiredDays input.requirements) {retained : Bundle Bytes} :
    (manifestOf readers input layers retained).status = .readyWithLimitations ↔
      RunReady readers files input := by
  -- the three layers: prices, rates, conversion
  have hstatus : (manifestOf readers input layers retained).status = .readyWithLimitations ↔
      (layers.priceReasons = [] ∧ layers.missingPrice = []) ∧
        (layers.fxReasons = [] ∧ layers.missingFx = []) ∧
        (layers.priceReasons ++ layers.fxReasons = [] ∧
          input.requirements.fxDates.filter (· ∉ layers.convertedDays) = []) := by
    rw [← layer_ready_iff, ← layer_ready_iff, ← layer_ready_iff]
    show (if _ then RunStatus.readyWithLimitations else .pending) = .readyWithLimitations ↔ _
    simp only [List.all_cons, List.all_nil, Bool.and_true, Bool.and_eq_true, decide_eq_true_eq]
    split
    · rename_i hall
      exact iff_of_true rfl hall
    · rename_i hall
      exact iff_of_false (fun heq => by cases heq) hall
  rw [hstatus, h.priceReasons, h.fxReasons, h.missingPrice, h.missingFx]
  constructor
  · rintro ⟨⟨haccepted, hprices⟩, ⟨⟨-, hdukascopy, hfxDates⟩, hrates⟩, -⟩
    refine ⟨haccepted, fun day hday => ?_, hdukascopy, hfxDates, hrates⟩
    obtain ⟨close, hclose, -⟩ := hprices day hday
    exact ⟨close, hclose⟩
  · intro hready
    refine ⟨⟨hready.toPricesAccepted, fun day hday => ?_⟩,
      ⟨⟨hready.resolved, hready.dukascopy, hready.fxDates⟩, hready.rates⟩, ?_, ?_⟩
    · obtain ⟨close, hclose⟩ := hready.prices day hday
      exact ⟨close, hclose, hready.retrieved day hday close hclose⟩
    · rw [List.append_eq_nil_iff, h.priceReasons, h.fxReasons]
      exact ⟨hready.toPricesAccepted, hready.resolved, hready.dukascopy, hready.fxDates⟩
    · rw [h.convertedDays hdays hready, List.filter_eq_nil_iff]
      intro day hday
      simpa using hday

/-- **Readiness of a run is exact.** The days it needs are those of its calendar, each with one
row. It is ready exactly when the requirements are resolved, the reuse of the three sources is
approved, the nine conditions of the prices pass, every day has a positive close retrieved when
its session was over, and some day, and each that has elapsed, a confirmed rate. A day is
converted exactly when the prices and the rates are accepted and it has both; the rate is never
zero. In a ready run these are the days that have elapsed. -/
theorem price_fx_readiness_exact {manifest : PriceFxPreparationManifest} {conversion : Bytes}
    (hreads : ReadsDays readers.toReaders)
    (h : evaluateRun readers files = .ok (manifest, conversion)) :
    ∃ input rows, readRun readers files = .ok input ∧ conversion = readers.rowsText rows ∧
      manifest.requirements = input.requirements ∧
      rows.map (·.on) = input.requirements.priceDates ∧
      (manifest.status = .readyWithLimitations ↔ RunReady readers files input) ∧
      (∀ row ∈ rows, ∀ value, row.closeUsd = some value ↔
        UsdClose readers files input row.on value) ∧
      (RunReady readers files input →
        (∀ row ∈ rows, row.closeUsd ≠ none ↔ row.on ∈ input.requirements.fxDates) ∧
          manifest.convertedCount = input.requirements.fxDates.length) := by
  obtain ⟨input, hinput, h⟩ := bind_eq_ok.mp h
  obtain ⟨layers, hlayers, h⟩ := bind_eq_ok.mp h
  obtain ⟨⟨⟩, -, h⟩ := bind_eq_ok.mp h
  have hmanifest := Prod.mk.inj (pure_eq_ok.mp h)
  have hread := readRun_eq_ok hinput
  have hdays := resolveRequirements_days hread.requirements
  have hfrom := evaluateLayers_eq_ok hread hreads hlayers
  refine ⟨input, layers.rows, hinput, hmanifest.2.symm, ?_, hfrom.days, ?_, hfrom.closeUsd,
    fun hready => ⟨fun row hrow => ⟨fun hsome => ?_, hfrom.converted hready row hrow⟩, ?_⟩⟩
  · rw [← hmanifest.1]
    rfl
  · rw [← hmanifest.1]
    exact hfrom.status hdays
  · obtain ⟨value, hvalue⟩ := Option.ne_none_iff_exists'.mp hsome
    exact ((hfrom.closeUsd row hrow value).mp hvalue).required
  · rw [← hmanifest.1]
    exact congrArg List.length (hfrom.convertedDays hdays hready)

/-! ## A run -/

namespace SampleRun

/-- The days of the sample's other period, spelled as they print. -/
def period : ApplicablePeriod :=
  { basicPeriod with
    startDate := "2023-09-26"
    startDate_read := by decide +kernel }

/-- One row of prices, on 2026-09-24. -/
def prices : NormalizedPrices :=
  { oneRow with requestedPeriod := period }

/-- The bodies of two approvals, which are their digests. -/
def jpxApproval : String := String.ofList (List.replicate 64 '1')
def dukascopyApproval : String := String.ofList (List.replicate 64 '2')

theorem jpxApproval_isSha256Hex : isSha256Hex jpxApproval = true := by decide +kernel

theorem dukascopyApproval_isSha256Hex : isSha256Hex dukascopyApproval = true := by decide +kernel

/-- The files of the run; each is its own digest. -/
def runFiles : Bundle String where
  rows := (["task.json", "control.json", "evaluation-policy.yaml",
    "requirements-input/calendar.json", "requirements-input/calendar-metadata.json",
    "requirements-input/research-note.md", "sources/yfinance/approval.yaml",
    "sources/jpx/profile.yaml", "sources/dukascopy/profile.yaml",
    "sources/yfinance/native-policy.json", "acquisition-approvals/approvals/jpx.yaml",
    "acquisition-approvals/approvals/yfinance.yaml", "price-input/index.json",
    "price-input/task.json", "price-input/normalized.json", "price-input/jpx-metadata.json",
    "price-input/history-metadata.json", "price-input/prices.csv", "price-input/jpx.xlsx",
    "fx-input/index.json", "fx-input/metadata.json", "fx-input/normalized.json",
    "fx-input/raw/2026.bin"].map fun name => (name, name)) ++
    [("requirements-input/market-profile.yaml", profileSha256),
      ("sources/jpx/approval.yaml", jpxApproval),
      ("sources/dukascopy/approval.yaml", dukascopyApproval),
      ("fx-input/approval.yaml", fxApprovalSha256), ("fx-input/profile.yaml", fxProfileSha256)]
  nodup := by decide +kernel

/-- The index of the preparation. -/
def preparationIndex : MarketPreparationIndex :=
  { sampleIndex with
    files := ["task.json", "normalized.json", "jpx-metadata.json", "history-metadata.json",
      "prices.csv", "jpx.xlsx"].map fun name => ⟨name, name, "", "price-input/" ++ name⟩
    normalizedEvidence := {
      inputEvidenceIds := ["jpx.xlsx", "jpx-metadata.json", "prices.csv", "history-metadata.json"]
      value := .null
      contentSha256 := "price-input/normalized.json"
      dataVersion := "price-input/prices.csv" } }

theorem approvalSchema : isSchemaIdentifier "detailed-analysis.source-approval" = true := by
  decide +kernel

theorem source_approval_ne : "source_approval" ≠ "" := by decide

theorem first_version : 1 ≤ 1 := Nat.le_refl 1

theorem known_none : KnowledgeStatus.unknown = .known ↔ (none : Option SettingValue).isSome := by
  decide

theorem nonnegative_none : ∀ number ∈ (none : Option SettingValue), number.isNegative = false := by
  intro number h
  cases h

/-- A setting that is not known. -/
def unknownSetting : QuantitativeSetting where
  knowledgeStatus := .unknown
  value := none
  unit := ⟨"second", .refl true⟩
  known_value := known_none
  nonnegative := nonnegative_none

theorem approved_self (_ : true = true) : ApprovalStatus.approved = .approved := rfl

/-- The profile of a source's coordinator, of an approval. -/
def profile (source : Identifier) (sha256 : Sha256Hex) : SourceProfile where
  artifactId := ⟨"source-profile", .refl true⟩
  sourceId := source
  profileVersion := 1
  sourceApprovalReference := {
    artifactType := ⟨_, source_approval_ne⟩
    artifactId := sampleApproval.artifactId
    schemaId := ⟨_, approvalSchema⟩
    schemaVersion := 1
    sha256
    schemaVersion_pos := first_version }
  sourceApprovalStatus := .approved
  enabled := true
  credentialScopeAlias := none
  maxConcurrency := 1
  minIntervalSeconds := unknownSetting
  rateRequests := unknownSetting
  rateWindowSeconds := unknownSetting
  burst := 1
  cacheEnabled := false
  batchSupportStatus := .unknown
  maxBatchSize := unknownSetting
  defaultCooldownSeconds := unknownSetting
  enabled_approved := approved_self
  reference_schema := rfl

/-- The candle of 2026-09-24. -/
def candle : DailyRow where
  on := "2026-09-24"
  timestamp := 1790208000000
  intervalEnd := "2026-09-25T00:00:00+00:00"
  close := 150
  confirmed := true

/-- The rates of 2026. -/
def fxMetadata : FxMetadata where
  periodStart := "2026-09-24"
  periodEnd := "2026-09-25"
  requestedAt := "2026-09-28T00:00:00+00:00"
  receipts := [⟨2026, dukascopyBase ++ "?from=" ++ toString (yearMillis 2026),
    "2026-09-28T00:00:00+00:00", "dukascopy-fx-daily-raw", 1, 1, "fx-input/raw/2026.bin"⟩]

/-- `datetime.fromisoformat`, of days and of the timestamps of the sample. -/
def iso : IsoReader := fun text =>
  ((Date.fromisoformat text).map fun day => (day.midnight, none)).or
    (if text = "2026-09-25T00:00:00+00:00" then some (basicPeriod.last.midnight, some 0)
    else holeReaders.fromisoformat text)

/-- The libraries on those files. -/
def runReaders : RunReaders String where
  toPriceReaders :=
    { holeReaders with
      fromisoformat := iso
      marketProfile := fun _ => some ⟨2, true⟩
      tradingDates := fun _ => some ⟨"2023-01-01", "2026-12-31", ["2026-09-24", "2026-09-28"]⟩
      calendarMetadata := fun _ => some ⟨"2026-09-28T00:00:00+00:00",
        "requirements-input/calendar.json", "requirements-input/research-note.md"⟩
      normalizedPrices := fun _ => some prices
      marketIndex := fun _ => some preparationIndex
      jpxProvenance := fun _ => some ⟨"2026-09-28T00:00:00+00:00", "price-input/jpx.xlsx"⟩
      sourceApproval := fun body =>
        if body = "acquisition-approvals/approvals/jpx.yaml" ∨ body = jpxApproval then
          some (quarterApproval ⟨"jpx", .refl true⟩ 1)
        else if body = dukascopyApproval then
          some (quarterApproval ⟨"dukascopy", .refl true⟩ 1)
        else some (quarterApproval ⟨"yfinance", .refl true⟩ 3) }
  size _ := 1
  fxMetadata _ := some fxMetadata
  fxSeries _ := some [candle]
  fxIndex _ := some ⟨[("metadata.json", "fx-input/metadata.json"),
    ("normalized.json", "fx-input/normalized.json"), ("approval.yaml", fxApprovalSha256),
    ("profile.yaml", fxProfileSha256), ("raw/2026.bin", "fx-input/raw/2026.bin")], []⟩
  candles _ := some ⟨1790208000000, .finite 1, .finite 150, [0], [some 0]⟩
  bridgeUrls _ _ _ := some [dukascopyBase ++ "?from=" ++ toString (yearMillis 2026)]
  bridgeDecode _ _ := some [⟨1790208000000, .finite 150⟩]
  runControl _ := some ⟨"2026-09-28T00:00:00+00:00", ⟨"run-1", .refl true⟩, []⟩
  evaluationPolicy _ := some ⟨1, "2026-09-28T00:00:00+00:00"⟩
  sourceProfile body :=
    if body = "sources/jpx/profile.yaml" then
      some (profile ⟨"jpx", .refl true⟩ ⟨jpxApproval, jpxApproval_isSha256Hex⟩)
    else some (profile ⟨"dukascopy", .refl true⟩ ⟨dukascopyApproval, dukascopyApproval_isSha256Hex⟩)
  acceptanceIndex _ := none
  manifest _ := none
  rowsText rows := String.intercalate "," (rows.map (·.on))
  nativeReusePolicy := "sources/yfinance/native-policy.json"

/-- `datetime.fromisoformat` of the sample reads days as their midnights. -/
theorem reads_days : ReadsDays runReaders.toReaders := by
  intro day hday
  have hiso : runReaders.fromisoformat = iso := rfl
  rw [hiso, iso, hday, Option.map_some, Option.some_or]

theorem run_evaluated : ∃ manifest conversion,
    evaluateRun runReaders runFiles = .ok (manifest, conversion) ∧
      manifest.status = .readyWithLimitations := by
  have hstatus : (evaluateRun runReaders runFiles).map (fun result => result.1.status) =
      .ok .readyWithLimitations := by
    decide +kernel
  cases h : evaluateRun runReaders runFiles with
  | error e =>
    rw [h] at hstatus
    cases hstatus
  | ok result =>
    obtain ⟨manifest, conversion⟩ := result
    rw [h] at hstatus
    exact ⟨manifest, conversion, rfl, Except.ok.inj hstatus⟩

/-- A run with one day has all it needs. -/
theorem run_ready : ∃ input, readRun runReaders runFiles = .ok input ∧
    RunReady runReaders runFiles input := by
  obtain ⟨manifest, conversion, h, hstatus⟩ := run_evaluated
  obtain ⟨input, rows, hinput, -, -, -, hready, -⟩ := price_fx_readiness_exact reads_days h
  exact ⟨input, hinput, hready.mp hstatus⟩

end SampleRun

end StockResearch.Preparation
