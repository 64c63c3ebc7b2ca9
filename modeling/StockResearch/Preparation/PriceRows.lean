import Mathlib.Algebra.Order.Ring.Rat
import StockResearch.Preparation.RunRequirements

/-!
# Daily price rows

One row of a price table: the numbers its cells read as, and the issues found with them.
`Decimal` is a library; a finite number of it is the fraction it denotes.

- `number`, `normalizePriceRow`: the code.
- `SoundCells`: what a row without issues is.
- `normalizePriceRow_issues_eq_nil`: a row has no issue exactly when its cells are sound.
-/

namespace StockResearch.Preparation

/-- A `Decimal`. -/
inductive PyDecimal where
  | finite (value : ℚ)
  | nan
  | infinite
deriving DecidableEq

/-- `FIELDS` -/
inductive PriceField where
  | openPrice
  | high
  | low
  | close
  | adjustedClose
  | volume
  | dividends
  | stockSplits
deriving DecidableEq

/-- The name of a field. -/
def PriceField.name : PriceField → String
  | .openPrice => "open"
  | .high => "high"
  | .low => "low"
  | .close => "close"
  | .adjustedClose => "adjusted_close"
  | .volume => "volume"
  | .dividends => "dividends"
  | .stockSplits => "stock_splits"

/-- `field in FIELDS[:5]` -/
def PriceField.isPrice : PriceField → Bool
  | .openPrice | .high | .low | .close | .adjustedClose => true
  | .volume | .dividends | .stockSplits => false

/-- `COLUMNS` -/
def columns : List String :=
  ["Open", "High", "Low", "Close", "Adj Close", "Volume", "Dividends", "Stock Splits"]

/-- `PriceQualityIssue` -/
structure PriceQualityIssue where
  code : String
  on : Option String := none
  field : Option String := none
deriving DecidableEq

/-- `DailyPrice` -/
structure DailyPrice where
  on : String
  openPrice : Option ℚ
  high : Option ℚ
  low : Option ℚ
  close : Option ℚ
  adjustedClose : Option ℚ
  volume : Option ℚ
  dividends : Option ℚ
  stockSplits : Option ℚ
deriving DecidableEq

/-- The cells of a row, in the order of `COLUMNS`; an empty cell is none. -/
structure Cells where
  openPrice : Option String
  high : Option String
  low : Option String
  close : Option String
  adjustedClose : Option String
  volume : Option String
  dividends : Option String
  stockSplits : Option String

/-! ## The code -/

/-- The last two checks of `_number`. -/
def signIssues (value : ℚ) (on : String) (field : PriceField) : List PriceQualityIssue :=
  (if value < 0 ∨ field.isPrice ∧ value = 0 then [⟨"invalid_sign", some on, some field.name⟩]
    else []) ++
  (if field = .volume ∧ ¬ value.isInt then [⟨"fractional_volume", some on, some field.name⟩]
    else [])

/-- `_number`, of a cell: the number, and the issues it appends. -/
def number (decimal : String → Option PyDecimal) (value : Option String) (on : String)
    (field : PriceField) : Option ℚ × List PriceQualityIssue :=
  let issue (code : String) : List PriceQualityIssue := [⟨code, some on, some field.name⟩]
  match value with
  | none => (none, issue "missing_value")
  | some text =>
    match decimal text with
    | none => (none, issue "invalid_number")
    | some .nan => (none, issue "missing_value")
    | some .infinite => (none, issue "nonfinite_value")
    | some (.finite value) => (some value, signIssues value on field)

/-- `value is not None and not low <= value <= high` -/
def outside (low high : ℚ) : Option ℚ → Bool
  | some value => ¬ (low ≤ value ∧ value ≤ high)
  | none => false

/-- The condition of `ohlc_conflict`. -/
def ohlcConflict (row : DailyPrice) : Bool :=
  match row.low, row.high with
  | some low, some high => high < low || outside low high row.openPrice || outside low high row.close
  | _, _ => false

/-- `normalize_price_row`: the row, and the issues it appends. -/
def normalizePriceRow (decimal : String → Option PyDecimal) (on : String) (cells : Cells) :
    DailyPrice × List PriceQualityIssue :=
  let openPrice := number decimal cells.openPrice on .openPrice
  let high := number decimal cells.high on .high
  let low := number decimal cells.low on .low
  let close := number decimal cells.close on .close
  let adjustedClose := number decimal cells.adjustedClose on .adjustedClose
  let volume := number decimal cells.volume on .volume
  let dividends := number decimal cells.dividends on .dividends
  let stockSplits := number decimal cells.stockSplits on .stockSplits
  let row : DailyPrice := ⟨on, openPrice.1, high.1, low.1, close.1, adjustedClose.1, volume.1,
    dividends.1, stockSplits.1⟩
  (row, openPrice.2 ++ high.2 ++ low.2 ++ close.2 ++ adjustedClose.2 ++ volume.2 ++ dividends.2 ++
    stockSplits.2 ++ if ohlcConflict row then [⟨"ohlc_conflict", some on, none⟩] else [])

/-! ## A row without issues -/

/-- The text of a cell is a finite number, and the value read from it. -/
def ReadsAs (decimal : String → Option PyDecimal) (cell : Option String) (value : Option ℚ)
    (number : ℚ) : Prop :=
  ∃ text, cell = some text ∧ decimal text = some (.finite number) ∧ value = some number

/-- A row whose cells are all numbers, its prices positive and in order, its volume a
whole number and nothing negative. -/
structure SoundCells (decimal : String → Option PyDecimal) (cells : Cells) (row : DailyPrice) :
    Prop where
  numbers : ∃ openPrice high low close adjustedClose volume dividends stockSplits,
    ReadsAs decimal cells.openPrice row.openPrice openPrice ∧ ReadsAs decimal cells.high row.high high ∧
    ReadsAs decimal cells.low row.low low ∧ ReadsAs decimal cells.close row.close close ∧
    ReadsAs decimal cells.adjustedClose row.adjustedClose adjustedClose ∧
    ReadsAs decimal cells.volume row.volume volume ∧
    ReadsAs decimal cells.dividends row.dividends dividends ∧
    ReadsAs decimal cells.stockSplits row.stockSplits stockSplits ∧
    0 < openPrice ∧ 0 < high ∧ 0 < low ∧ 0 < close ∧ 0 < adjustedClose ∧
    0 ≤ volume ∧ volume.isInt ∧ 0 ≤ dividends ∧ 0 ≤ stockSplits ∧
    low ≤ openPrice ∧ openPrice ≤ high ∧ low ≤ close ∧ close ≤ high

theorem signIssues_eq_nil {value : ℚ} {on : String} {field : PriceField} :
    signIssues value on field = [] ↔ 0 ≤ value ∧ (field.isPrice → 0 < value) ∧
      (field = .volume → value.isInt) := by
  have hsign : (¬ (value < 0 ∨ field.isPrice ∧ value = 0)) ↔
      0 ≤ value ∧ (field.isPrice → 0 < value) := by
    rw [not_or, not_lt, not_and]
    refine and_congr_right fun hle => imp_congr_right fun _ => ?_
    rw [lt_iff_le_and_ne, ne_comm]
    exact ⟨fun h => ⟨hle, h⟩, fun h => h.2⟩
  unfold signIssues
  rw [List.append_eq_nil_iff]
  constructor
  · rintro ⟨h, h'⟩
    split at h
    · cases h
    · rename_i hs
      split at h'
      · cases h'
      · rename_i hv
        obtain ⟨hle, hprice⟩ := hsign.mp hs
        refine ⟨hle, hprice, fun hvolume => ?_⟩
        by_contra hint
        exact hv ⟨hvolume, hint⟩
  · rintro ⟨hle, hprice, hvolume⟩
    refine ⟨if_neg (hsign.mpr ⟨hle, hprice⟩), if_neg ?_⟩
    rintro ⟨hfield, hint⟩
    exact hint (hvolume hfield)

/-- A number has no issue exactly when its cell reads as one that its field admits. -/
theorem number_issues_eq_nil {decimal : String → Option PyDecimal} {cell : Option String}
    {on : String} {field : PriceField} :
    (number decimal cell on field).2 = [] ↔ ∃ value,
      ReadsAs decimal cell (number decimal cell on field).1 value ∧ 0 ≤ value ∧
        (field.isPrice → 0 < value) ∧ (field = .volume → value.isInt) := by
  unfold number ReadsAs
  cases cell with
  | none => simp
  | some text =>
    cases hdecimal : decimal text with
    | none => simp [hdecimal]
    | some parsed =>
      cases parsed with
      | nan => simp [hdecimal]
      | infinite => simp [hdecimal]
      | finite value => simp [hdecimal, signIssues_eq_nil]

theorem outside_some {low high value : ℚ} :
    outside low high (some value) = false ↔ low ≤ value ∧ value ≤ high := by
  simp [outside]

/-- No conflict, for a row with its four prices. -/
theorem ohlcConflict_eq_false {row : DailyPrice} {openPrice high low close : ℚ}
    (hopen : row.openPrice = some openPrice) (hhigh : row.high = some high)
    (hlow : row.low = some low) (hclose : row.close = some close) :
    ohlcConflict row = false ↔
      low ≤ openPrice ∧ openPrice ≤ high ∧ low ≤ close ∧ close ≤ high := by
  simp only [ohlcConflict, hopen, hhigh, hlow, hclose, Bool.or_eq_false_iff, outside_some,
    decide_eq_false_iff_not, not_lt]
  constructor
  · rintro ⟨⟨-, hlo, hoh⟩, hlc, hch⟩
    exact ⟨hlo, hoh, hlc, hch⟩
  · rintro ⟨hlo, hoh, hlc, hch⟩
    exact ⟨⟨le_trans hlo hoh, hlo, hoh⟩, hlc, hch⟩

/-- A row has no issue exactly when its cells are sound. -/
theorem normalizePriceRow_issues_eq_nil {decimal : String → Option PyDecimal} {on : String}
    {cells : Cells} :
    (normalizePriceRow decimal on cells).2 = [] ↔
      SoundCells decimal cells (normalizePriceRow decimal on cells).1 := by
  -- the conflict of the four prices is one issue
  have hconflict : ∀ row : DailyPrice, ∀ issues : List PriceQualityIssue, issues ≠ [] →
      ((if ohlcConflict row then issues else []) = [] ↔ ohlcConflict row = false) := by
    intro row issues hne
    cases ohlcConflict row <;> simp [hne]
  simp only [normalizePriceRow, List.append_eq_nil_iff, number_issues_eq_nil]
  rw [hconflict _ _ (List.cons_ne_nil _ _)]
  constructor
  · rintro ⟨⟨⟨⟨⟨⟨⟨⟨⟨o, ho, -, hop, -⟩, ⟨h, hh, -, hhp, -⟩⟩, ⟨l, hl, -, hlp, -⟩⟩, ⟨c, hc, -, hcp, -⟩⟩,
      ⟨a, ha, -, hap, -⟩⟩, ⟨v, hv, hv0, -, hvi⟩⟩, ⟨d, hd, hd0, -⟩⟩, ⟨s, hs, hs0, -⟩⟩, hohlc⟩
    obtain ⟨-, -, -, ho'⟩ := id ho
    obtain ⟨-, -, -, hh'⟩ := id hh
    obtain ⟨-, -, -, hl'⟩ := id hl
    obtain ⟨-, -, -, hc'⟩ := id hc
    exact ⟨o, h, l, c, a, v, d, s, ho, hh, hl, hc, ha, hv, hd, hs, hop rfl, hhp rfl, hlp rfl,
      hcp rfl, hap rfl, hv0, hvi trivial, hd0, hs0, (ohlcConflict_eq_false ho' hh' hl' hc').mp hohlc⟩
  · rintro ⟨o, h, l, c, a, v, d, s, ho, hh, hl, hc, ha, hv, hd, hs, hop, hhp, hlp, hcp, hap, hv0,
      hvi, hd0, hs0, hohlc⟩
    obtain ⟨-, -, -, ho'⟩ := id ho
    obtain ⟨-, -, -, hh'⟩ := id hh
    obtain ⟨-, -, -, hl'⟩ := id hl
    obtain ⟨-, -, -, hc'⟩ := id hc
    exact ⟨⟨⟨⟨⟨⟨⟨⟨⟨o, ho, hop.le, fun _ => hop, nofun⟩, ⟨h, hh, hhp.le, fun _ => hhp, nofun⟩⟩,
      ⟨l, hl, hlp.le, fun _ => hlp, nofun⟩⟩, ⟨c, hc, hcp.le, fun _ => hcp, nofun⟩⟩,
      ⟨a, ha, hap.le, fun _ => hap, nofun⟩⟩, ⟨v, hv, hv0, nofun, fun _ => hvi⟩⟩,
      ⟨d, hd, hd0, nofun, nofun⟩⟩, ⟨s, hs, hs0, nofun, nofun⟩⟩,
      (ohlcConflict_eq_false ho' hh' hl' hc').mpr hohlc⟩

end StockResearch.Preparation
