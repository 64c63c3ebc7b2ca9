import StockResearch.Preparation.PriceAcceptance

/-!
# What accepted prices are

An accepted receipt says, of the prices it was made from: they are those of the task's
security, cover every session of a period of three years that is over, and are sound
numbers. The period is decided by texts; read as days it may be another one when a bound
is not spelled `YYYY-MM-DD`.

- `AcceptanceReads`: what an evaluation reads.
- `PriceSound`: what is promised of it.
- `PeriodAgrees`: no session lies on different sides of a bound as text and as day.
- `accepted_prices_sound_iff`: accepted prices are sound exactly when the period is read.
-/

namespace StockResearch.Preparation

open Contracts

variable {Bytes : Type} {readers : PriceReaders Bytes}

/-! ## Specifications of the parts -/

/-- A JSON value equals a text only if it is that text. -/
theorem jsonEqual_text {value : JsonValue} {text : String} :
    jsonEqual scalarEq value (jsonText text) ↔ value = jsonText text := by
  unfold jsonText
  cases value with
  | float number => cases number <;> simp [jsonEqual, scalarEq, scalarNumber]
  | _ => simp [jsonEqual, scalarEq, scalarNumber]

/-- A record of a line: its day, its cells, and its row and issues. -/
structure RecordOf (readers : PriceReaders Bytes) (header fields : List String)
    (record : PriceRecord) : Prop where
  day : ∃ stamp, timestamp readers.toReaders (fields.headD "") = .ok stamp ∧
    tokyoDay readers.tokyo stamp = .ok record.on
  cells : record.cells = cellsOf header fields
  row : (record.row, record.issues) =
    normalizePriceRow readers.decimal record.on.isoformat record.cells

theorem readRecord_eq_ok {header fields : List String} {record : PriceRecord}
    (h : readRecord readers header fields = .ok record) :
    RecordOf readers header fields record := by
  obtain ⟨⟨⟩, -, h⟩ := bind_eq_ok.mp h
  obtain ⟨stamp, hstamp, h⟩ := bind_eq_ok.mp h
  obtain ⟨wall, hwall, h⟩ := bind_eq_ok.mp h
  cases h
  refine ⟨⟨stamp, hstamp, ?_⟩, rfl, rfl⟩
  exact bind_eq_ok.mpr ⟨wall, hwall, rfl⟩

/-- The text of a record's row is that of its day. -/
theorem RecordOf.row_on {header fields : List String} {record : PriceRecord}
    (h : RecordOf readers header fields record) : record.row.on = record.on.isoformat := by
  have hrow := congrArg (·.1.on) h.row
  exact hrow

/-- A record without issues has sound cells. -/
theorem RecordOf.sound {header fields : List String} {record : PriceRecord}
    (h : RecordOf readers header fields record) (hissues : record.issues = []) :
    SoundCells readers.decimal record.cells record.row := by
  have hrow : record.row = (normalizePriceRow readers.decimal record.on.isoformat record.cells).1 :=
    congrArg Prod.fst h.row
  have hempty : (normalizePriceRow readers.decimal record.on.isoformat record.cells).2 = [] :=
    (congrArg Prod.snd h.row).symm.trans hissues
  rw [hrow]
  exact normalizePriceRow_issues_eq_nil.mp hempty

/-- The records are those of the lines under the header, and their rows the normalized
ones. -/
theorem csvQuality_eq_ok {body : Bytes} {normalized : NormalizedPrices}
    {records : List PriceRecord} (h : csvQuality readers body normalized = .ok records) :
    (∃ header lines, readers.csv body = (header :: lines, none) ∧
      List.Forall₂ (RecordOf readers header) lines records) ∧
    records.map (·.row) = normalized.rows := by
  obtain ⟨⟨⟩, -, h⟩ := bind_eq_ok.mp h
  obtain ⟨⟨⟩, hheader, h⟩ := bind_eq_ok.mp h
  obtain ⟨read, hread, h⟩ := bind_eq_ok.mp h
  obtain ⟨⟨⟩, hraised, h⟩ := bind_eq_ok.mp h
  obtain ⟨⟨⟩, hrows, h⟩ := bind_eq_ok.mp h
  cases h
  have herror : (readers.csv body).2 = none := by
    cases herror : (readers.csv body).2 with
    | none => rfl
    | some error =>
      rw [herror] at hraised
      cases hraised
  refine ⟨?_, require_eq_ok.mp hrows⟩
  cases hlines : (readers.csv body).1 with
  | nil =>
    rw [hlines, require_eq_ok] at hheader
    exact absurd (hheader.2.1 (List.mem_cons_self (a := "Open"))) List.not_mem_nil
  | cons header lines =>
    rw [hlines] at hread
    exact ⟨header, lines, Prod.ext hlines herror,
      (mapM_eq_ok.mp hread).imp fun _ _ => readRecord_eq_ok⟩

/-- All that the conditions ask of the findings. -/
structure Findings.Passed (f : Findings) : Prop where
  identity : f.identity
  sourceValid : f.sourceValid
  currencyValid : f.currencyValid
  argumentsValid : f.argumentsValid
  threeYears : f.threeYears
  covers : f.covers
  dateValid : f.dateValid
  nonempty : f.days ≠ []
  missing : f.missing = []
  unexpected : f.unexpected = []
  numericIssues : f.numericIssues = []
  conflictReasons : f.conflictReasons = []

/-- A status other than pending is given for findings that pass every condition. -/
theorem acceptanceStatus_passed {f : Findings} {limitations : List String}
    {status : AcceptanceStatus}
    (h : acceptanceStatus (acceptanceConditions f) limitations = .ok status)
    (hstatus : status ≠ .pending) : f.Passed := by
  obtain ⟨⟨⟩, -, h⟩ := bind_eq_ok.mp h
  split at h
  · cases h
    exact absurd rfl hstatus
  · rename_i hall
    rw [not_not] at hall
    simp only [acceptanceConditions, condition, List.all_cons, List.all_nil, Bool.and_true,
      Bool.and_eq_true, decide_eq_true_eq] at hall
    obtain ⟨hidentity, hsource, ⟨hne, hyears, hcovers, hmissing⟩, ⟨hdates, -, -, hunexpected⟩,
      ⟨-, hnumeric⟩, hcurrency, harguments, -, hconflict, -⟩ := hall
    exact ⟨hidentity, hsource, hcurrency, harguments, hyears, hcovers, hdates, hne, hmissing,
      hunexpected, hnumeric, hconflict⟩

/-- A verification is of the code that was asked for. -/
theorem verifyJpxSecurity_requestedCode {snapshot : JpxCurrentList} {code : String}
    {verification : JpxSecurityVerification}
    (h : verifyJpxSecurity snapshot code = .ok verification) :
    verification.requestedCode = code ∧ ∀ issue ∈ verification.issue, issue ∈ snapshot.issues := by
  obtain ⟨⟨⟩, -, h⟩ := bind_eq_ok.mp h
  split at h
  · cases h
    exact ⟨rfl, nofun⟩
  · rename_i found hfound
    cases h
    refine ⟨rfl, fun issue hissue => ?_⟩
    cases hissue
    exact List.mem_of_mem_filter (hfound ▸ List.mem_singleton_self found)
  · cases h

/-! ## What an evaluation reads -/

/-- What an evaluation at an instant reads from the files. -/
structure AcceptanceReads (readers : PriceReaders Bytes) (files : Bundle Bytes)
    (checkedAt : String) (today : Date) (input : PreparedPrices Bytes) (calendar : TradingDates)
    (records : List PriceRecord) : Prop where
  now : ∃ now, timestamp readers.toReaders checkedAt = .ok now ∧
    tokyoDay readers.tokyo now = .ok today ∧
    readPrepared readers (files.subset "preparation/") now = .ok input ∧
    readBoundCalendar readers files now = .ok calendar
  records : csvQuality readers input.table input.normalized = .ok records

/-- What was read from the preparation. -/
structure PreparedFrom (readers : PriceReaders Bytes) (prepared : Bundle Bytes)
    (input : PreparedPrices Bytes) : Prop where
  valid : validateMarketPreparation readers prepared = .ok ()
  original : readModel readers.marketIndex prepared "index.json" = .ok input.original
  task : readModel readers.task prepared "task.json" = .ok input.task
  normalized : readModel readers.normalizedPrices prepared "normalized.json" = .ok input.normalized

theorem readPrepared_eq_ok {prepared : Bundle Bytes} {now : Timestamp}
    {input : PreparedPrices Bytes} (h : readPrepared readers prepared now = .ok input) :
    PreparedFrom readers prepared input := by
  obtain ⟨⟨⟩, hvalid, h⟩ := bind_eq_ok.mp h
  obtain ⟨original, horiginal, h⟩ := bind_eq_ok.mp h
  obtain ⟨task, htask, h⟩ := bind_eq_ok.mp h
  obtain ⟨normalized, hnormalized, h⟩ := bind_eq_ok.mp h
  obtain ⟨provenance, -, h⟩ := bind_eq_ok.mp h
  obtain ⟨metadata, -, h⟩ := bind_eq_ok.mp h
  obtain ⟨table, -, h⟩ := bind_eq_ok.mp h
  obtain ⟨⟨⟩, -, h⟩ := bind_eq_ok.mp h
  obtain ⟨retrieved, -, h⟩ := bind_eq_ok.mp h
  obtain ⟨preparedAt, -, h⟩ := bind_eq_ok.mp h
  obtain ⟨provenanceAt, -, h⟩ := bind_eq_ok.mp h
  obtain ⟨⟨⟩, -, h⟩ := bind_eq_ok.mp h
  cases h
  exact ⟨hvalid, horiginal, htask, hnormalized⟩

/-- The task's own security, verified in the snapshot the preparation retains. -/
theorem PreparedFrom.verified {prepared : Bundle Bytes} {input : PreparedPrices Bytes}
    (h : PreparedFrom readers prepared input) :
    ∃ snapshot, readModel readers.currentList prepared "jpx.xlsx" = .ok snapshot ∧
      verifyJpxSecurity snapshot input.task.securityCode = .ok input.original.jpxVerification := by
  obtain ⟨index, task, snapshot, hindex, htask, hsnapshot, hverify⟩ :=
    validateMarketPreparation_eq_ok h.valid
  rw [h.original] at hindex
  rw [h.task] at htask
  cases hindex
  cases htask
  exact ⟨snapshot, hsnapshot, hverify⟩

/-- The findings of an evaluation that returned, with what they were made from. -/
structure EvaluatedFrom (readers : PriceReaders Bytes) (files : Bundle Bytes) (checkedAt : String)
    (completedThrough : Option Date) (index : PriceAcceptanceIndex) (today : Date)
    (input : PreparedPrices Bytes) (calendar : TradingDates) (records : List PriceRecord)
    (found : Findings) : Prop where
  reads : AcceptanceReads readers files checkedAt today input calendar records
  finished : ∃ stop, input.normalized.requestedPeriod.last.add? 1 = some stop ∧
    checkFinished today input.normalized.requestedPeriod.last stop completedThrough = .ok () ∧
    ∃ threeYears approvalsValid conflicts hasConflict,
      reachesBack records input.normalized.requestedPeriod.first stop = .ok threeYears ∧
      found = findingsOf input calendar records input.normalized.requestedPeriod.first stop
        threeYears approvalsValid conflicts hasConflict files.names
  conditions : index.conditions = acceptanceConditions found
  status : acceptanceStatus (acceptanceConditions found) limitations = .ok index.status

theorem evaluateAcceptance_eq_ok {files : Bundle Bytes} {checkedAt : String}
    {completedThrough : Option Date} {index : PriceAcceptanceIndex}
    (h : evaluateAcceptance readers files checkedAt completedThrough = .ok index) :
    ∃ today input calendar records found,
      EvaluatedFrom readers files checkedAt completedThrough index today input calendar records
        found := by
  obtain ⟨now, hnow, h⟩ := bind_eq_ok.mp h
  obtain ⟨today, htoday, h⟩ := bind_eq_ok.mp h
  obtain ⟨input, hinput, h⟩ := bind_eq_ok.mp h
  obtain ⟨stop, hstop, h⟩ := bind_eq_ok.mp h
  obtain ⟨⟨⟩, hfinished, h⟩ := bind_eq_ok.mp h
  obtain ⟨⟨⟩, -, h⟩ := bind_eq_ok.mp h
  obtain ⟨records, hrecords, h⟩ := bind_eq_ok.mp h
  obtain ⟨calendar, hcalendar, h⟩ := bind_eq_ok.mp h
  obtain ⟨jpxValid, -, h⟩ := bind_eq_ok.mp h
  obtain ⟨yfinanceValid, -, h⟩ := bind_eq_ok.mp h
  obtain ⟨conflicts, -, h⟩ := bind_eq_ok.mp h
  obtain ⟨threeYears, hyears, h⟩ := bind_eq_ok.mp h
  obtain ⟨references, -, h⟩ := bind_eq_ok.mp h
  obtain ⟨status, hstatus, h⟩ := bind_eq_ok.mp h
  cases h
  exact ⟨today, input, calendar, records, _,
    ⟨⟨now, hnow, htoday, hinput, hcalendar⟩, hrecords⟩,
    ⟨stop, fetch_eq_ok.mp hstop, hfinished, threeYears, _, conflicts, _, hyears, rfl⟩, rfl,
    hstatus⟩

/-! ## The promise -/

/-- What an accepted receipt promises about the prices it was made from. -/
structure PriceSound (readers : PriceReaders Bytes) (files : Bundle Bytes) (today : Date)
    (input : PreparedPrices Bytes) (calendar : TradingDates) (records : List PriceRecord) :
    Prop where
  finished : input.normalized.requestedPeriod.last < today
  threeYears : ∃ stop start, input.normalized.requestedPeriod.last.add? 1 = some stop ∧
    threeYearStart stop = some start ∧ input.normalized.requestedPeriod.first ≤ start
  covers : calendar.period.first ≤ input.normalized.requestedPeriod.first ∧
    input.normalized.requestedPeriod.last ≤ calendar.period.last
  nonempty : records ≠ []
  increasing : (records.map (·.on)).Pairwise (· < ·)
  sessions : ∀ day, day ∈ records.map (·.on) ↔ day ∈ calendar.days ∧
    input.normalized.requestedPeriod.first ≤ day ∧ day ≤ input.normalized.requestedPeriod.last
  table : ∃ header lines, readers.csv input.table = (header :: lines, none) ∧
    List.Forall₂ (RecordOf readers header) lines records
  rows : records.map (·.row) = input.normalized.rows
  cells : ∀ record ∈ records, SoundCells readers.decimal record.cells record.row
  currency : input.normalized.currency = some "JPY" ∧
    metadataGet input.metadata "currency" = jsonText "JPY"
  symbol : metadataGet input.metadata "symbol" = jsonText (input.task.securityCode ++ ".T") ∧
    metadataGet input.metadata "response_symbol" = jsonText (input.task.securityCode ++ ".T")
  listing : ∃ snapshot,
    readModel readers.currentList (files.subset "preparation/") "jpx.xlsx" = .ok snapshot ∧
      ∃ issue ∈ snapshot.issues, issue.code = input.task.securityCode ∧
        issue.eligibility = .eligible ∧ issue.securityClass = .ordinaryCommonEquity

/-- The period is read as its days are: the calendar's reaches both its ends as texts
exactly when it does as days, and a session lies in it as a text exactly when it does as a
day. -/
structure PeriodAgrees (period : ApplicablePeriod) (calendar : TradingDates) : Prop where
  covers : (calendar.period.startDate ≤ period.startDate ∧
      period.endDate ≤ calendar.period.endDate) ↔
    (calendar.period.first ≤ period.first ∧ period.last ≤ calendar.period.last)
  sessions : ∀ day ∈ calendar.days,
    (period.startDate ≤ day.isoformat ∧ day.isoformat ≤ period.endDate) ↔
      (period.first ≤ day ∧ day ≤ period.last)

/-- Prices that were accepted, as their receipt is replayed. -/
structure AcceptedPrices (readers : PriceReaders Bytes) where
  files : Bundle Bytes
  checkedAt : String
  index : PriceAcceptanceIndex
  evaluated : evaluateAcceptance readers files checkedAt none = .ok index
  notPending : index.status ≠ .pending

namespace AcceptedPrices

/-- The promise, of all that the evaluation reads. -/
def Sound (accepted : AcceptedPrices readers) : Prop :=
  ∀ today input calendar records,
    AcceptanceReads readers accepted.files accepted.checkedAt today input calendar records →
      PriceSound readers accepted.files today input calendar records

/-- The period it reads is read as its days are. -/
def PeriodAgrees (accepted : AcceptedPrices readers) : Prop :=
  ∀ today input calendar records,
    AcceptanceReads readers accepted.files accepted.checkedAt today input calendar records →
      Preparation.PeriodAgrees input.normalized.requestedPeriod calendar

end AcceptedPrices

/-- An evaluation reads one thing. -/
theorem AcceptanceReads.unique {files : Bundle Bytes} {checkedAt : String} {today today' : Date}
    {input input' : PreparedPrices Bytes} {calendar calendar' : TradingDates}
    {records records' : List PriceRecord}
    (h : AcceptanceReads readers files checkedAt today input calendar records)
    (h' : AcceptanceReads readers files checkedAt today' input' calendar' records') :
    today = today' ∧ input = input' ∧ calendar = calendar' ∧ records = records' := by
  obtain ⟨now, hnow, htoday, hinput, hcalendar⟩ := h.now
  obtain ⟨now', hnow', htoday', hinput', hcalendar'⟩ := h'.now
  have hrecords := h.records
  have hrecords' := h'.records
  rw [hnow] at hnow'
  cases hnow'
  rw [htoday] at htoday'
  rw [hinput] at hinput'
  rw [hcalendar] at hcalendar'
  cases htoday'
  cases hinput'
  cases hcalendar'
  rw [hrecords] at hrecords'
  cases hrecords'
  exact ⟨rfl, rfl, rfl, rfl⟩

section

variable {files : Bundle Bytes} {checkedAt : String} {index : PriceAcceptanceIndex} {today : Date}
  {input : PreparedPrices Bytes} {calendar : TradingDates} {records : List PriceRecord}
  {found : Findings}

/-- Every record has its line. -/
theorem exists_line {header : List String} {lines : List (List String)}
    (h : List.Forall₂ (RecordOf readers header) lines records) {record : PriceRecord}
    (hrecord : record ∈ records) : ∃ fields, RecordOf readers header fields record := by
  induction h with
  | nil => cases hrecord
  | cons hof _ ih =>
    rcases List.mem_cons.mp hrecord with rfl | hrecord
    · exact ⟨_, hof⟩
    · exact ih hrecord

/-- The days of the rows are the texts of the records' days. -/
theorem map_row_on {header : List String} {lines : List (List String)}
    (h : List.Forall₂ (RecordOf readers header) lines records) :
    records.map (·.row.on) = (records.map (·.on)).map Date.isoformat := by
  rw [List.map_map]
  refine List.map_congr_left fun record hrecord => ?_
  obtain ⟨fields, hof⟩ := exists_line h hrecord
  exact hof.row_on

/-- A day of the table is a session inside the period as texts compare, and each such
session has its row. -/
theorem mem_days_iff (h : EvaluatedFrom readers files checkedAt none index today input calendar
      records found) (hpassed : found.Passed) (day : Date) :
    day ∈ records.map (·.on) ↔ day ∈ calendar.days ∧
      input.normalized.requestedPeriod.startDate ≤ day.isoformat ∧
        day.isoformat ≤ input.normalized.requestedPeriod.endDate := by
  obtain ⟨stop, -, -, threeYears, approvalsValid, conflicts, hasConflict, -, rfl⟩ := h.finished
  obtain ⟨⟨header, lines, -, hlines⟩, -⟩ := csvQuality_eq_ok h.reads.records
  have hdays := map_row_on hlines
  have hobserved : ∀ text : String, text ∈ records.map (·.row.on) ↔
      ∃ d ∈ records.map (·.on), d.isoformat = text := by
    intro text
    rw [hdays, List.mem_map]
  have hexpected : ∀ text : String,
      text ∈ expectedDays calendar input.normalized.requestedPeriod ↔
        (∃ d ∈ calendar.days, d.isoformat = text) ∧
          input.normalized.requestedPeriod.startDate ≤ text ∧
          text ≤ input.normalized.requestedPeriod.endDate := by
    intro text
    rw [expectedDays, List.mem_filter, calendar.dates_eq, List.mem_map, decide_eq_true_eq]
  have hmissing := hpassed.missing
  have hunexpected := hpassed.unexpected
  simp only [findingsOf] at hmissing hunexpected
  constructor
  · -- a day that is observed and not expected would be listed
    intro hmem
    have htext : day.isoformat ∈ records.map (·.row.on) := (hobserved _).mpr ⟨day, hmem, rfl⟩
    have hin : day.isoformat ∈ expectedDays calendar input.normalized.requestedPeriod := by
      by_contra hout
      have hsorted : day.isoformat ∈ sortedSet ((records.map (·.row.on)).filter
          (· ∉ expectedDays calendar input.normalized.requestedPeriod)) := by
        rw [sortedSet, List.mem_insertionSort, List.mem_dedup, List.mem_filter]
        exact ⟨htext, decide_eq_true hout⟩
      rw [hunexpected] at hsorted
      exact absurd hsorted List.not_mem_nil
    obtain ⟨⟨d, hd, heq⟩, hbounds⟩ := (hexpected _).mp hin
    rw [Date.isoformat_injective heq] at hd
    exact ⟨hd, hbounds⟩
  · -- a day that is expected and not observed as well
    rintro ⟨hmem, hbounds⟩
    have hin := (hexpected day.isoformat).mpr ⟨⟨day, hmem, rfl⟩, hbounds⟩
    have hobs : day.isoformat ∈ records.map (·.row.on) := by
      by_contra hout
      have hfilter : day.isoformat ∈ (expectedDays calendar
          input.normalized.requestedPeriod).filter (· ∉ records.map (·.row.on)) :=
        List.mem_filter.mpr ⟨hin, decide_eq_true hout⟩
      rw [hmissing] at hfilter
      exact absurd hfilter List.not_mem_nil
    obtain ⟨d, hd, heq⟩ := (hobserved _).mp hobs
    rwa [Date.isoformat_injective heq] at hd

/-- What an accepted evaluation promises whatever its period is spelled like. -/
theorem EvaluatedFrom.sound (h : EvaluatedFrom readers files checkedAt none index today input
      calendar records found) (hpassed : found.Passed)
    (hread : PeriodAgrees input.normalized.requestedPeriod calendar) :
    PriceSound readers files today input calendar records := by
  have hmem := mem_days_iff h hpassed
  obtain ⟨now, -, -, hinput, -⟩ := h.reads.now
  obtain ⟨snapshot, hsnapshot, hverify⟩ := (readPrepared_eq_ok hinput).verified
  obtain ⟨⟨header, lines, htable, hlines⟩, hrows⟩ := csvQuality_eq_ok h.reads.records
  obtain ⟨stop, hstop, hfinished, threeYears, approvalsValid, conflicts, hasConflict, hyears, rfl⟩ :=
    h.finished
  obtain ⟨hidentity, -, hcurrency, -, hback, hcovers, hdates, hne, -, -, hnumeric, -⟩ := hpassed
  simp only [findingsOf] at hidentity hcurrency hback hcovers hdates hne hnumeric
  have hrecords : records ≠ [] := by
    rintro rfl
    exact hne rfl
  constructor
  · -- the period has ended before today
    have hle := require_eq_ok.mp hfinished
    rw [Date.isoformat_le_iff, Date.le_def] at hle
    rw [Date.lt_def]
    have hnext := Date.add?_eq_some_iff.mp hstop
    omega
  · have hempty : records.isEmpty = false := by simpa using hrecords
    rw [reachesBack, hempty, hback] at hyears
    obtain ⟨start, hstart, hle⟩ := bind_eq_ok.mp hyears
    exact ⟨stop, start, hstop, fetch_eq_ok.mp hstart, of_decide_eq_true (pure_eq_ok.mp hle)⟩
  · -- it lies in the calendar, as days: this is what the spelling decides
    exact hread.covers.mp (of_decide_eq_true hcovers)
  · exact hrecords
  · obtain ⟨-, hsorted, -, -⟩ := of_decide_eq_true hdates
    have hpairwise := pairwise_of_eq_sortedSet hsorted
    rw [map_row_on hlines, List.pairwise_map] at hpairwise
    exact hpairwise.imp Date.isoformat_lt_iff.mp
  · intro day
    rw [hmem]
    exact and_congr_right fun hday => hread.sessions day hday
  · exact ⟨header, lines, htable, hlines⟩
  · exact hrows
  · intro record hrecord
    obtain ⟨fields, hof⟩ := exists_line hlines hrecord
    exact hof.sound (List.flatMap_eq_nil_iff.mp hnumeric record hrecord)
  · obtain ⟨hmeta, hnormalized, -, -⟩ := of_decide_eq_true hcurrency
    exact ⟨hnormalized, jsonEqual_text.mp hmeta⟩
  · simp only [identityOf, Bool.and_eq_true] at hidentity
    obtain ⟨⟨⟨-, hsymbol⟩, hresponse⟩, -⟩ := hidentity
    exact ⟨jsonEqual_text.mp hsymbol, jsonEqual_text.mp hresponse⟩
  · -- the symbol is that of the approved issue
    simp only [identityOf, Bool.and_eq_true, hasSymbol] at hidentity
    obtain ⟨⟨⟨hmap, -⟩, -⟩, -⟩ := hidentity
    split at hmap
    · rename_i intent hintent
      obtain ⟨issue, hissue, hmappable, hsymbol⟩ := mapToDaily_eq_ok hintent
      obtain ⟨hcode, hin⟩ := verifyJpxSecurity_requestedCode hverify
      obtain ⟨-, hrequested, -, -, hclass, heligible⟩ := of_decide_eq_true hmappable
      exact ⟨snapshot, hsnapshot, issue, hin issue hissue, hrequested.symm.trans hcode, heligible,
        hclass⟩
    · cases hmap

/-- Bounds spelled `YYYY-MM-DD` are read as their days are. -/
theorem PeriodAgrees.of_canonical {period : ApplicablePeriod} {calendar : TradingDates}
    (hperiod : period.Canonical) (hcalendar : calendar.period.Canonical) :
    PeriodAgrees period calendar := by
  obtain ⟨hfirst, hlast⟩ := hperiod
  obtain ⟨hfirst', hlast'⟩ := hcalendar
  refine ⟨?_, fun day _ => ?_⟩
  · rw [← hfirst, ← hfirst', ← hlast, ← hlast', Date.isoformat_le_iff, Date.isoformat_le_iff]
  · rw [← hfirst, ← hlast, Date.isoformat_le_iff, Date.isoformat_le_iff]

/-- Sound prices have a period that is read as its days are. -/
theorem EvaluatedFrom.agrees (h : EvaluatedFrom readers files checkedAt none index today input
      calendar records found) (hpassed : found.Passed)
    (hsound : PriceSound readers files today input calendar records) :
    PeriodAgrees input.normalized.requestedPeriod calendar := by
  obtain ⟨_, -, -, _, _, _, _, -, hfound⟩ := h.finished
  have hcovers := hpassed.covers
  rw [hfound] at hcovers
  refine ⟨iff_of_true (of_decide_eq_true hcovers) hsound.covers, fun day hday => ?_⟩
  have htexts := mem_days_iff h hpassed day
  have hdays := hsound.sessions day
  rw [htexts] at hdays
  exact ⟨fun hbounds => (hdays.mp ⟨hday, hbounds⟩).2, fun hbounds => (hdays.mpr ⟨hday, hbounds⟩).2⟩

end

/-- **Accepted prices are sound** exactly when the requested period and the calendar's are
read as their days are. -/
theorem accepted_prices_sound_iff (accepted : AcceptedPrices readers) :
    accepted.Sound ↔ accepted.PeriodAgrees := by
  obtain ⟨today, input, calendar, records, found, hfrom⟩ :=
    evaluateAcceptance_eq_ok accepted.evaluated
  have hpassed := acceptanceStatus_passed hfrom.status accepted.notPending
  constructor
  · intro hsound today' input' calendar' records' hreads
    obtain ⟨rfl, rfl, rfl, rfl⟩ := hfrom.reads.unique hreads
    exact hfrom.agrees hpassed (hsound _ _ _ _ hreads)
  · intro hagrees today' input' calendar' records' hreads
    obtain ⟨rfl, rfl, rfl, rfl⟩ := hfrom.reads.unique hreads
    exact hfrom.sound hpassed (hagrees _ _ _ _ hreads)

/-! ## A period with a hole -/

/-- 2023-09-26 to 2026-09-25, its start in the basic spelling. -/
def basicPeriod : ApplicablePeriod where
  startDate := "20230926"
  endDate := "2026-09-25"
  first := ⟨738788, by decide⟩
  last := ⟨739883, by decide⟩
  startDate_read := by decide +kernel
  endDate_read := by decide +kernel
  ordered := by decide

/-- One row of prices, on 2026-09-24. -/
def oneRow : NormalizedPrices where
  currency := some "JPY"
  sourceTimezone := some "Asia/Tokyo"
  requestedPeriod := basicPeriod
  threeYearRequest := true
  tradingDayCoverage := .unconfirmed
  rows := [⟨"2026-09-24", some 100, some 100, some 100, some 100, some 100, some 0, some 0, some 0⟩]
  issues := []

/-- The listing of the sample's security. -/
def sampleIssue : JpxListedIssue :=
  ⟨"2026-09-01", "7203", [], .domestic, .ordinaryCommonEquity, .eligible, some .prime⟩

/-- The files of the acceptance; each is its own digest. -/
def holeFiles : Bundle String where
  rows := ["preparation/index.json", "preparation/task.json", "preparation/normalized.json",
    "preparation/jpx-metadata.json", "preparation/history-metadata.json",
    "preparation/prices.csv", "preparation/jpx.xlsx", "calendar.json", "calendar-metadata.json",
    "research-note.md", "approvals/jpx.yaml", "approvals/yfinance.yaml"].map fun name =>
      (name, name)
  nodup := by decide +kernel

/-- The index of the preparation. -/
def sampleIndex : MarketPreparationIndex where
  taskId := "task-1"
  preparedAt := "2026-09-28T00:00:00+00:00"
  jpxVerification := ⟨"7203", "2026-09-01", .verifiedEligible, some sampleIssue⟩
  providerIdentityVerified := true
  priceQualityPassed := false
  issues := []
  files := ["task.json", "normalized.json", "jpx-metadata.json", "history-metadata.json",
    "prices.csv", "jpx.xlsx"].map fun name => ⟨name, name, "", "preparation/" ++ name⟩
  normalizedEvidence := {
    inputEvidenceIds := ["jpx.xlsx", "jpx-metadata.json", "prices.csv", "history-metadata.json"]
    value := .null
    contentSha256 := "preparation/normalized.json"
    dataVersion := "preparation/prices.csv" }

/-- An approval in force in the last quarter of 2026. -/
def quarterApproval (source : Identifier) (version : Nat) : SourceApproval :=
  { sampleApproval with sourceId := source, approvalVersion := version }

/-- The libraries on those files: the calendar has a session on 2023-10-02, and the table
one row, on the later session of 2026-09-24. -/
def holeReaders : PriceReaders String where
  sha256 body := body
  fromisoformat text :=
    if text = "2026-09-24 00:00:00+09:00" then
      some ((Date.midnight ⟨739882, by decide⟩), some (9 * hourMicros))
    else sampleIso text
  tokyo := .standard
  marketProfile _ := none
  tradingDates _ := some ⟨"2023-01-01", "2026-12-31", ["2023-10-02", "2026-09-24"]⟩
  calendarMetadata _ := some ⟨"2026-09-28T00:00:00+00:00", "calendar.json", "research-note.md"⟩
  decimal text := if text = "100" then some (.finite 100) else if text = "0" then some (.finite 0)
    else none
  csv _ := ([["Date", "Open", "High", "Low", "Close", "Adj Close", "Volume", "Dividends",
      "Stock Splits"],
    ["2026-09-24 00:00:00+09:00", "100", "100", "100", "100", "100", "0", "0", "0"]], none)
  json _ := some (.dict (((expectedMetadata (expectedArguments ⟨738788, by decide⟩
      ⟨739884, sampleDay_inRange⟩)) ++ [("retrieved_at", jsonText "2026-09-28T00:00:00+00:00"),
    ("symbol", jsonText "7203.T"), ("response_symbol", jsonText "7203.T"),
    ("instrument_type", jsonText "EQUITY"), ("currency", jsonText "JPY"),
    ("exchange_timezone", jsonText "Asia/Tokyo")]).map fun entry => (.ofString entry.1, entry.2)))
  dump _ := .null
  currentList _ := some ⟨"2026-09-01", [sampleIssue]⟩
  marketIndex _ := some sampleIndex
  task _ := some ⟨"task-1", "2026-09-28T00:00:00+00:00", "7203", 1, []⟩
  normalizedPrices _ := some oneRow
  jpxProvenance _ := some ⟨"2026-09-28T00:00:00+00:00", "preparation/jpx.xlsx"⟩
  calendarProvenance _ := none
  sourceApproval body :=
    if body = "approvals/jpx.yaml" then some (quarterApproval ⟨"jpx", by decide⟩ 1)
    else some (quarterApproval ⟨"yfinance", .refl true⟩ 3)
  knownConflict _ := none

/-- What the evaluation reads from them. -/
theorem hole_reads {today : Date} {input : PreparedPrices String} {calendar : TradingDates}
    {records : List PriceRecord}
    (h : AcceptanceReads holeReaders holeFiles "2026-09-28T00:00:00+00:00" today input calendar
      records) :
    input.normalized.requestedPeriod = basicPeriod ∧
      calendar.days = [⟨738794, by decide⟩, ⟨739882, by decide⟩] := by
  obtain ⟨now, hnow, -, hinput, hcalendar⟩ := h.now
  constructor
  · have hread := readModel_eq_ok.mp (readPrepared_eq_ok hinput).normalized
    obtain ⟨body, -, hrow⟩ := Option.bind_eq_some_iff.mp hread
    rw [← Option.some.inj hrow]
    rfl
  · have hdays : (timestamp holeReaders.toReaders "2026-09-28T00:00:00+00:00" >>=
        readBoundCalendar holeReaders holeFiles).map (·.days) =
        .ok [⟨738794, by decide⟩, ⟨739882, by decide⟩] := by
      decide +kernel
    rw [hnow] at hdays
    change (readBoundCalendar holeReaders holeFiles now).map (·.days) = _ at hdays
    rw [hcalendar] at hdays
    exact Except.ok.inj hdays

/-- Prices without the session of 2023-10-02 are accepted for a period from 2023-09-26:
the text `20230926` sorts after every day of its year. -/
theorem hole_accepted :
    ∃ accepted : AcceptedPrices holeReaders, accepted.files = holeFiles ∧
      accepted.checkedAt = "2026-09-28T00:00:00+00:00" ∧ ¬ accepted.Sound := by
  have hstatus : (evaluateAcceptance holeReaders holeFiles "2026-09-28T00:00:00+00:00"
      none).map (·.status) = .ok .acceptedWithLimitations := by
    decide +kernel
  cases hindex : evaluateAcceptance holeReaders holeFiles "2026-09-28T00:00:00+00:00" none with
  | error e =>
    rw [hindex] at hstatus
    cases hstatus
  | ok index =>
    rw [hindex] at hstatus
    have haccepted : index.status = .acceptedWithLimitations := Except.ok.inj hstatus
    have hpending : index.status ≠ .pending := by
      rw [haccepted]
      decide
    refine ⟨⟨holeFiles, _, index, hindex, hpending⟩, rfl, rfl, fun hsound => ?_⟩
    obtain ⟨today, input, calendar, records, found, hfrom⟩ := evaluateAcceptance_eq_ok hindex
    obtain ⟨hperiod, hdays⟩ := hole_reads hfrom.reads
    have hsessions := (hsound _ _ _ _ hfrom.reads).sessions ⟨738794, by decide⟩
    rw [mem_days_iff hfrom (acceptanceStatus_passed hfrom.status hpending), hperiod, hdays]
      at hsessions
    obtain ⟨-, hstart, -⟩ := hsessions.mpr (by decide)
    revert hstart
    decide +kernel

end StockResearch.Preparation
