import StockResearch.Clock.DateTime

/-!
# Calendar days

`date` values: their arithmetic, the text `isoformat` prints and the spellings
`fromisoformat` reads. `isoformat` prints one spelling, `YYYY-MM-DD`; reading also
accepts the compact `YYYYMMDD` and the ISO week spellings.

- `Date`: a day between 0001-01-01 and 9999-12-31.
- `Date.isoformat_lt_iff`: the printed texts of two days compare like the days.
- `Date.fromisoformat`: the six accepted spellings.
- `threeYearStart`: the same day three years earlier.
-/

namespace StockResearch

/-- A `date`, as its number of days since 0001-01-01. -/
structure Date where
  ordinal : Nat
  inRange : ordinal < 3652059
deriving DecidableEq

namespace Date

theorem ext_ordinal {a b : Date} (h : a.ordinal = b.ordinal) : a = b := by
  cases a; cases b; cases h; rfl

instance : LT Date := ⟨fun a b => a.ordinal < b.ordinal⟩
instance : LE Date := ⟨fun a b => a.ordinal ≤ b.ordinal⟩
instance (a b : Date) : Decidable (a < b) := inferInstanceAs (Decidable (a.ordinal < b.ordinal))
instance (a b : Date) : Decidable (a ≤ b) := inferInstanceAs (Decidable (a.ordinal ≤ b.ordinal))

theorem lt_def {a b : Date} : a < b ↔ a.ordinal < b.ordinal := Iff.rfl
theorem le_def {a b : Date} : a ≤ b ↔ a.ordinal ≤ b.ordinal := Iff.rfl

theorem not_lt {a b : Date} : ¬ a < b ↔ b ≤ a := Nat.not_lt
theorem not_le {a b : Date} : ¬ a ≤ b ↔ b < a := Nat.not_le

/-- `value + timedelta(days=n)`, unless it leaves the range of `date`. -/
def add? (d : Date) (n : Nat) : Option Date :=
  if h : d.ordinal + n < 3652059 then some ⟨d.ordinal + n, h⟩ else none

/-- `value - timedelta(days=n)`, unless it leaves the range of `date`. -/
def sub? (d : Date) (n : Nat) : Option Date :=
  if n ≤ d.ordinal then some ⟨d.ordinal - n, Nat.lt_of_le_of_lt (Nat.sub_le ..) d.inRange⟩
  else none

theorem add?_eq_some_iff {d e : Date} {n : Nat} :
    d.add? n = some e ↔ e.ordinal = d.ordinal + n := by
  unfold add?
  split
  · rw [Option.some.injEq]
    exact ⟨fun h => h ▸ rfl, fun h => ext_ordinal h.symm⟩
  · rename_i h
    exact ⟨fun hn => (nomatch hn), fun he => absurd (he ▸ e.inRange) h⟩

theorem sub?_eq_some_iff {d e : Date} {n : Nat} :
    d.sub? n = some e ↔ e.ordinal + n = d.ordinal := by
  unfold sub?
  split
  · rw [Option.some.injEq]
    refine ⟨fun h => h ▸ Nat.sub_add_cancel ‹_›, fun h => ext_ordinal ?_⟩
    simp only
    omega
  · exact ⟨fun hn => (nomatch hn), fun he => by omega⟩

/-! ## Year, month and day -/

/-- The first instant of a day, read on a UTC clock. -/
def midnight (d : Date) : DateTime :=
  ⟨d.ordinal * dayMicros, Nat.mul_lt_mul_of_pos_right d.inRange (by decide)⟩

/-- The day an instant falls on, read on a UTC clock. -/
def ofDateTime (t : DateTime) : Date :=
  ⟨t.micros / dayMicros, by
    have h := t.inRange
    rw [maxMicros] at h
    exact Nat.div_lt_of_lt_mul (Nat.mul_comm .. ▸ h)⟩

/-- The year, the month (1 is January) and the day of the month. -/
def year (d : Date) : Nat := yearOf d.ordinal
def dayOfYear (d : Date) : Nat := d.ordinal - daysBeforeYear d.year
def month (d : Date) : Nat := monthOf (isLeap d.year) d.dayOfYear + 1
def day (d : Date) : Nat := d.dayOfYear - daysBeforeMonth (isLeap d.year) (d.month - 1) + 1

/-- Days in a month (0 is January). -/
def daysInMonth (leap : Bool) (month : Nat) : Nat :=
  if month = 11 then 31 else daysBeforeMonth leap (month + 1) - daysBeforeMonth leap month

/-- `date(year, month, day)`, for fields that name a day. -/
def ofFields? (year month day : Nat) : Option Date :=
  if 1 ≤ year ∧ year ≤ 9999 ∧ 1 ≤ month ∧ month ≤ 12 ∧
      1 ≤ day ∧ day ≤ daysInMonth (isLeap year) (month - 1) then
    let ordinal := daysBeforeYear year + daysBeforeMonth (isLeap year) (month - 1) + (day - 1)
    if h : ordinal < 3652059 then some ⟨ordinal, h⟩ else none
  else none

/-- No month ends after the 366th day of its year. -/
theorem dayOfMonth_le_366 {leap : Bool} {month day : Nat} (hmonth : month ≤ 11)
    (hday : day ≤ daysInMonth leap month) : daysBeforeMonth leap month + day ≤ 366 := by
  interval_cases month <;> cases leap <;> simp [daysInMonth, daysBeforeMonth] at hday ⊢ <;> omega

theorem ofFields?_ordinal_lt {y m d : Nat} {date : Date} (h : ofFields? y m d = some date) :
    1 ≤ y ∧ date.ordinal < daysBeforeYear y + 366 := by
  simp only [ofFields?] at h
  split at h
  · rename_i hfields
    obtain ⟨hy, -, -, hm, hd, hmonth⟩ := hfields
    split at h
    · cases h
      have := dayOfMonth_le_366 (show m - 1 ≤ 11 by omega) hmonth
      simp only
      omega
    · cases h
  · cases h

theorem daysBeforeYear_le (d : Date) : daysBeforeYear d.year ≤ d.ordinal :=
  Lex.threshold_block_le _ _ daysBeforeYear_zero

/-! ## Text -/

/-- `date.isoformat()`. -/
def isoformat (d : Date) : String :=
  String.ofList (Lex.decimal 4 d.year ++ ('-' :: (Lex.decimal 2 d.month ++
    ('-' :: Lex.decimal 2 d.day))))

/-- A day's fields are those of its first instant. -/
theorem dateTimeFields_midnight (d : Date) :
    dateTimeFields d.midnight = [d.year, d.month, d.day, 0, 0, 0, 0] := by
  have hday : d.midnight.micros / dayMicros = d.ordinal :=
    Nat.mul_div_cancel _ (by decide)
  have htime : d.midnight.micros % dayMicros = 0 := Nat.mul_mod_left ..
  simp only [dateTimeFields, hday, htime]
  rfl

/-- The text of a later day sorts later. -/
theorem isoformat_lt {a b : Date} (h : a < b) : a.isoformat < b.isoformat := by
  have hmidnight : a.midnight < b.midnight := by
    rw [DateTime.lt_def]
    exact Nat.mul_lt_mul_of_pos_right h (by decide)
  have hlt := dateTimeFields_lt hmidnight
  have bounds : ∀ d : Date, d.year < 10 ^ 4 ∧ d.month < 10 ^ 2 ∧ d.day < 10 ^ 2 := by
    intro d
    obtain ⟨y, mo, da, _, _, _, _, heq, hy, hmo, hda, -⟩ := dateTimeFields_bounds d.midnight
    rw [dateTimeFields_midnight, List.cons.injEq, List.cons.injEq, List.cons.injEq] at heq
    obtain ⟨rfl, rfl, rfl, -⟩ := heq
    exact ⟨hy, hmo, hda⟩
  rw [dateTimeFields_midnight, dateTimeFields_midnight] at hlt
  simp only [List.cons_lt_cons_iff, lt_irrefl, or_false, and_false] at hlt
  have sep : ∀ {c : Char} {s t : List Char}, s < t → c :: s < c :: t :=
    fun hst => List.cons_lt_cons_iff.mpr (.inr ⟨rfl, hst⟩)
  rw [String.lt_iff_toList_lt, isoformat, isoformat, String.toList_ofList, String.toList_ofList]
  refine field_lt (bounds a).1 (bounds b).1 (hlt.imp_right fun ⟨e, hlt⟩ => ⟨e, sep ?_⟩)
  refine field_lt (bounds a).2.1 (bounds b).2.1 (hlt.imp_right fun ⟨e, hlt⟩ => ⟨e, sep ?_⟩)
  exact (Lex.decimal_lt_iff (bounds a).2.2 (bounds b).2.2).mpr hlt

/-- **Text order is day order**, for days as `isoformat` prints them. -/
theorem isoformat_lt_iff {a b : Date} : a.isoformat < b.isoformat ↔ a < b := by
  constructor
  · intro h
    rcases Nat.lt_trichotomy a.ordinal b.ordinal with hlt | heq | hgt
    · exact hlt
    · rw [ext_ordinal heq] at h
      exact absurd h (String.lt_irrefl _)
    · exact absurd (isoformat_lt hgt) (String.lt_asymm h)
  · exact isoformat_lt

theorem isoformat_le_iff {a b : Date} : a.isoformat ≤ b.isoformat ↔ a ≤ b := by
  rw [← String.not_lt, isoformat_lt_iff, not_lt]

theorem isoformat_injective {a b : Date} (h : a.isoformat = b.isoformat) : a = b := by
  have hab := isoformat_le_iff.mp (le_of_eq h)
  have hba := isoformat_le_iff.mp (ge_of_eq h)
  exact ext_ordinal (Nat.le_antisymm hab hba)

/-! ## Reading -/

/-- The value of a run of ASCII digits. -/
def number (cs : List Char) : Option Nat :=
  cs.foldl (fun acc c => acc.bind fun n =>
    if '0' ≤ c ∧ c ≤ '9' then some (10 * n + (c.toNat - 48)) else none) (some 0)

/-- The Monday that starts the first ISO week of a year. -/
def week1Monday (year : Nat) : Nat :=
  let firstDay := daysBeforeYear year
  -- 0001-01-01 is a Monday
  let firstWeekday := firstDay % 7
  if 3 < firstWeekday then firstDay - firstWeekday + 7 else firstDay - firstWeekday

/-- Years whose last week has the number 53. -/
def hasWeek53 (year : Nat) : Bool :=
  let firstWeekday := daysBeforeYear year % 7
  firstWeekday == 3 || firstWeekday == 2 && isLeap year

/-- The day of an ISO year, week and weekday (1 is Monday). -/
def ofIsoWeek? (year week weekday : Nat) : Option Date :=
  if 1 ≤ year ∧ 1 ≤ week ∧ (week ≤ 52 ∨ week = 53 ∧ hasWeek53 year) ∧
      1 ≤ weekday ∧ weekday ≤ 7 then
    let ordinal := week1Monday year + (week - 1) * 7 + (weekday - 1)
    if h : ordinal < 3652059 then some ⟨ordinal, h⟩ else none
  else none

/-- `date.fromisoformat(text)`. -/
def fromisoformat (text : String) : Option Date := do
  let cs := text.toList
  let year ← number (cs.take 4)
  match cs.drop 4 with
  | ['-', 'W', w₁, w₂, '-', d] => ofIsoWeek? year (← number [w₁, w₂]) (← number [d])
  | ['-', 'W', w₁, w₂] => ofIsoWeek? year (← number [w₁, w₂]) 1
  | ['W', w₁, w₂, d] => ofIsoWeek? year (← number [w₁, w₂]) (← number [d])
  | ['W', w₁, w₂] => ofIsoWeek? year (← number [w₁, w₂]) 1
  | ['-', m₁, m₂, '-', d₁, d₂] => ofFields? year (← number [m₁, m₂]) (← number [d₁, d₂])
  | [m₁, m₂, d₁, d₂] => ofFields? year (← number [m₁, m₂]) (← number [d₁, d₂])
  | _ => none

example : (fromisoformat "2026-09-28").map isoformat = some "2026-09-28" ∧
    (fromisoformat "20260928").map isoformat = some "2026-09-28" ∧
    (fromisoformat "2026-W40").map isoformat = some "2026-09-28" := by decide +kernel

/-- A text spelled as `isoformat` prints its day. -/
def Canonical (text : String) (d : Date) : Prop := d.isoformat = text

instance (text : String) (d : Date) : Decidable (Canonical text d) :=
  inferInstanceAs (Decidable (_ = _))

end Date

/-! ## Three years -/

/-- `three_year_start`: the same day three years earlier; the 29th of February
falls back to the 28th. -/
def threeYearStart (endExclusive : Date) : Option Date :=
  match Date.ofFields? (endExclusive.year - 3) endExclusive.month endExclusive.day with
  | some start => some start
  | none => Date.ofFields? (endExclusive.year - 3) endExclusive.month 28

theorem threeYearStart_lt {d start : Date} (h : threeYearStart d = some start) : start < d := by
  have hordinal : 1 ≤ d.year - 3 ∧ start.ordinal < daysBeforeYear (d.year - 3) + 366 := by
    unfold threeYearStart at h
    split at h
    · cases h
      exact Date.ofFields?_ordinal_lt ‹_›
    · exact Date.ofFields?_ordinal_lt h
  have hyear := d.daysBeforeYear_le
  have hshort : daysBeforeYear (d.year - 3) + 366 ≤ daysBeforeYear d.year := by
    simp only [daysBeforeYear]
    omega
  rw [Date.lt_def]
  omega

example : (Date.fromisoformat "2024-02-29").bind threeYearStart =
    Date.fromisoformat "2021-02-28" := by decide +kernel

end StockResearch
