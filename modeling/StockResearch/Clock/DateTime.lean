import Mathlib.Tactic.IntervalCases
import StockResearch.Lib.Lex

/-!
# UTC datetimes, durations and `isoformat`

The clock readings of the runtime are timezone-aware UTC `datetime` values. A
value is its number of microseconds since `0001-01-01T00:00:00+00:00`; the range
ends where the year 9999 does, and arithmetic that leaves it is `datetime`'s
`OverflowError` (`none` here).

- `Seconds`, `timedelta`: a non-negative `float` is the exact fraction it
  denotes; `timedelta` rounds it to whole microseconds, half to even.
- `isoformat`: the text the runtime persists. Whole seconds print without a
  fraction, everything else with six digits.
- `isoformat_lt_iff`: comparing that text, as SQL does, is comparing the instants.
-/

namespace StockResearch

/-! ## Instants -/

/-- Microseconds per day. -/
def dayMicros : Nat := 86400000000

/-- Microseconds from the year 1 to the end of the year 9999. -/
def maxMicros : Nat := 3652059 * dayMicros

/-- A timezone-aware UTC datetime. -/
structure DateTime where
  micros : Nat
  inRange : micros < maxMicros
deriving DecidableEq

namespace DateTime

theorem ext_micros {a b : DateTime} (h : a.micros = b.micros) : a = b := by
  cases a; cases b; cases h; rfl

instance : LT DateTime := ⟨fun a b => a.micros < b.micros⟩
instance : LE DateTime := ⟨fun a b => a.micros ≤ b.micros⟩
instance (a b : DateTime) : Decidable (a < b) := inferInstanceAs (Decidable (a.micros < b.micros))
instance (a b : DateTime) : Decidable (a ≤ b) := inferInstanceAs (Decidable (a.micros ≤ b.micros))

theorem lt_def {a b : DateTime} : a < b ↔ a.micros < b.micros := Iff.rfl
theorem le_def {a b : DateTime} : a ≤ b ↔ a.micros ≤ b.micros := Iff.rfl

theorem not_lt {a b : DateTime} : ¬ a < b ↔ b ≤ a := Nat.not_lt
/-- `value + timedelta`, unless it leaves the range of `datetime`. -/
def add? (t : DateTime) (delta : Nat) : Option DateTime :=
  if h : t.micros + delta < maxMicros then some ⟨t.micros + delta, h⟩ else none

/-- `value - timedelta`, unless it leaves the range of `datetime`. -/
def sub? (t : DateTime) (delta : Nat) : Option DateTime :=
  if delta ≤ t.micros then some ⟨t.micros - delta, Nat.lt_of_le_of_lt (Nat.sub_le ..) t.inRange⟩
  else none

theorem add?_eq_some_iff {t u : DateTime} {delta : Nat} :
    t.add? delta = some u ↔ u.micros = t.micros + delta := by
  unfold add?
  split
  · rw [Option.some.injEq]
    exact ⟨fun h => h ▸ rfl, fun h => ext_micros h.symm⟩
  · rename_i h
    exact ⟨fun hn => (nomatch hn), fun hu => absurd (hu ▸ u.inRange) h⟩

theorem sub?_eq_some_iff {t u : DateTime} {delta : Nat} :
    t.sub? delta = some u ↔ u.micros + delta = t.micros := by
  unfold sub?
  split
  · rw [Option.some.injEq]
    refine ⟨fun h => h ▸ Nat.sub_add_cancel ‹_›, fun h => ext_micros ?_⟩
    simp only
    omega
  · exact ⟨fun hn => (nomatch hn), fun hu => by omega⟩

end DateTime

/-! ## Durations -/

/-- A finite non-negative number of seconds, as the exact fraction it denotes. -/
structure Seconds where
  num : Nat
  den : Nat
  den_pos : 0 < den
deriving DecidableEq

/-- A whole number of seconds. -/
def Seconds.ofNat (n : Nat) : Seconds := ⟨n, 1, Nat.one_pos⟩

/-- `num / den`, rounded to the nearest integer, half to even. -/
def roundHalfEven (num den : Nat) : Nat :=
  let q := num / den
  let r := num % den
  if 2 * r < den then q
  else if den < 2 * r then q + 1
  else if q % 2 = 0 then q else q + 1

/-- The microseconds of `timedelta(seconds=s)`; a duration of a thousand million
days or more is its `OverflowError`. -/
def timedelta (s : Seconds) : Option Nat :=
  let micros := roundHalfEven (s.num * 1000000) s.den
  if micros < 1000000000 * dayMicros then some micros else none

theorem timedelta_ofNat_eq_some {n micros : Nat} (h : timedelta (.ofNat n) = some micros) :
    micros = n * 1000000 := by
  have hround : roundHalfEven (n * 1000000) 1 = n * 1000000 := by
    simp [roundHalfEven, Nat.div_one, Nat.mod_one]
  simp only [timedelta, Seconds.ofNat, hround] at h
  split at h
  · exact (Option.some.inj h).symm
  · cases h

/-! ## The calendar -/

/-- Leap years of the proleptic Gregorian calendar. -/
def isLeap (year : Nat) : Bool :=
  year % 4 == 0 && (year % 100 != 0 || year % 400 == 0)

/-- Days before January 1st of a year. -/
def daysBeforeYear (year : Nat) : Nat :=
  let y := year - 1
  y * 365 + y / 4 - y / 100 + y / 400

/-- Days before the first of a month (0 is January). -/
def daysBeforeMonth (leap : Bool) (month : Nat) : Nat :=
  match month with
  | 0 => 0
  | 1 => 31
  | 2 => 59 + leap.toNat
  | 3 => 90 + leap.toNat
  | 4 => 120 + leap.toNat
  | 5 => 151 + leap.toNat
  | 6 => 181 + leap.toNat
  | 7 => 212 + leap.toNat
  | 8 => 243 + leap.toNat
  | 9 => 273 + leap.toNat
  | 10 => 304 + leap.toNat
  | _ => 334 + leap.toNat

/-- The year of a day counted from 0001-01-01. No year is shorter than 365 days,
so the search starts at most a few years too late. -/
def yearOf (day : Nat) : Nat := Lex.block daysBeforeYear (day / 365 + 1) day

/-- The month (0 is January) of a day counted from the start of its year. -/
def monthOf (leap : Bool) (dayOfYear : Nat) : Nat :=
  Lex.block (daysBeforeMonth leap) 11 dayOfYear

/-- Year, month, day, hour, minute, second and microsecond of an instant. -/
def dateTimeFields (t : DateTime) : List Nat :=
  let day := t.micros / dayMicros
  let time := t.micros % dayMicros
  let year := yearOf day
  let dayOfYear := day - daysBeforeYear year
  let month := monthOf (isLeap year) dayOfYear
  [year, month + 1, dayOfYear - daysBeforeMonth (isLeap year) month + 1,
    time / 3600000000, time / 60000000 % 60, time / 1000000 % 60, time % 1000000]

theorem daysBeforeYear_zero : daysBeforeYear 0 = 0 := rfl

theorem daysBeforeMonth_zero (leap : Bool) : daysBeforeMonth leap 0 = 0 := rfl

theorem yearOf_lt {day : Nat} (h : day < 3652059) : yearOf day < 10000 := by
  have hle : daysBeforeYear (yearOf day) ≤ day := Lex.threshold_block_le _ _ daysBeforeYear_zero
  by_contra hge
  simp only [daysBeforeYear] at hle
  omega

/-- No year is longer than 366 days. -/
theorem dayOfYear_lt (day : Nat) : day - daysBeforeYear (yearOf day) < 366 := by
  have hle := Lex.block_le daysBeforeYear (day / 365 + 1) day
  have hnext := Lex.lt_threshold_succ daysBeforeYear (day / 365 + 1) day
  change yearOf day ≤ _ at hle
  change yearOf day < _ → _ < daysBeforeYear (yearOf day + 1) at hnext
  rcases Nat.lt_or_eq_of_le hle with hlt | heq
  · have := hnext hlt
    simp only [daysBeforeYear] at this ⊢
    omega
  · simp only [daysBeforeYear, heq]
    omega

/-- No month is longer than 32 days. -/
theorem dayOfMonth_lt (leap : Bool) {day : Nat} (h : day < 366) :
    day - daysBeforeMonth leap (monthOf leap day) < 32 := by
  have hle := Lex.block_le (daysBeforeMonth leap) 11 day
  have hnext := Lex.lt_threshold_succ (daysBeforeMonth leap) 11 day
  change monthOf leap day ≤ _ at hle
  change monthOf leap day < _ → _ < daysBeforeMonth leap (monthOf leap day + 1) at hnext
  generalize monthOf leap day = m at *
  interval_cases m <;> cases leap <;> simp [daysBeforeMonth] at hnext ⊢ <;> omega

/-- The fields of a later instant come lexicographically later. -/
theorem dateTimeFields_lt {a b : DateTime} (h : a < b) : dateTimeFields a < dateTimeFields b := by
  rw [DateTime.lt_def] at h
  have hday : a.micros / dayMicros < b.micros / dayMicros ∨
      a.micros / dayMicros = b.micros / dayMicros ∧
        a.micros % dayMicros < b.micros % dayMicros := by
    simp only [dayMicros] at *
    omega
  simp only [dateTimeFields]
  rcases hday with hday | ⟨hday, htime⟩
  · -- an earlier day: the year, the month or the day of the month decides
    rw [List.cons_lt_cons_iff]
    rcases Lex.block_lt daysBeforeYear_zero (show a.micros / dayMicros / 365 + 1 ≤
        b.micros / dayMicros / 365 + 1 by omega) hday with hyear | ⟨hyear, hrest⟩
    · exact .inl hyear
    · refine .inr ⟨hyear, ?_⟩
      change yearOf _ = yearOf _ at hyear
      change _ - daysBeforeYear (yearOf _) < _ - daysBeforeYear (yearOf _) at hrest
      rw [List.cons_lt_cons_iff]
      rw [hyear] at hrest ⊢
      rcases Lex.block_lt (daysBeforeMonth_zero (isLeap (yearOf (b.micros / dayMicros))))
          (Nat.le_refl 11) hrest with hmonth | ⟨hmonth, hdom⟩
      · exact .inl (Nat.succ_lt_succ hmonth)
      · refine .inr ⟨congrArg Nat.succ hmonth, ?_⟩
        rw [List.cons_lt_cons_iff]
        exact .inl (Nat.succ_lt_succ hdom)
  · -- the same day: the time of day decides
    rw [hday]
    simp only [List.cons_lt_cons_iff, lt_irrefl, true_and, false_or]
    simp only [dayMicros] at htime ⊢
    have : ¬ (([] : List Nat) < []) := lt_irrefl _
    omega

/-! ## Text -/

/-- The fraction and offset of the text: no fraction on a whole second. -/
def isoformatTail (micro : Nat) : List Char :=
  (if micro = 0 then [] else '.' :: Lex.decimal 6 micro) ++ ['+', '0', '0', ':', '0', '0']

/-- The characters of the fields of an instant. -/
def isoformatChars : List Nat → List Char
  | [year, month, day, hour, minute, second, micro] =>
    Lex.decimal 4 year ++ ('-' :: (Lex.decimal 2 month ++ ('-' :: (Lex.decimal 2 day ++
      ('T' :: (Lex.decimal 2 hour ++ (':' :: (Lex.decimal 2 minute ++ (':' ::
        (Lex.decimal 2 second ++ isoformatTail micro))))))))))
  | _ => []

/-- `datetime.isoformat()` of a UTC datetime. -/
def isoformat (t : DateTime) : String := String.ofList (isoformatChars (dateTimeFields t))

example : isoformat ⟨63902822400000000, by decide⟩ = "2026-01-01T00:00:00+00:00" := by decide

theorem isoformatTail_lt {m n : Nat} (hn : n < 1000000) (h : m < n) :
    isoformatTail m < isoformatTail n := by
  have hn0 : n ≠ 0 := by omega
  unfold isoformatTail
  rw [if_neg hn0]
  split
  · -- `+` sorts before `.`: a whole second precedes every fraction of it
    exact List.cons_lt_cons_iff.mpr (.inl (by decide))
  · rw [List.cons_append, List.cons_append, List.cons_lt_cons_iff]
    refine .inr ⟨rfl, (Lex.append_lt_append_iff (by simp) (fun x => lt_irrefl x)).mpr (.inl ?_)⟩
    exact (Lex.decimal_lt_iff (by omega) hn).mpr h

/-- One fixed-width field in front decides the comparison unless it is equal. -/
theorem field_lt {width n m : Nat} {s t : List Char} (hn : n < 10 ^ width) (hm : m < 10 ^ width)
    (h : n < m ∨ n = m ∧ s < t) : Lex.decimal width n ++ s < Lex.decimal width m ++ t := by
  refine (Lex.append_lt_append_iff (by simp) (fun x => lt_irrefl x)).mpr ?_
  rcases h with h | ⟨rfl, h⟩
  · exact .inl ((Lex.decimal_lt_iff hn hm).mpr h)
  · exact .inr ⟨rfl, h⟩

/-- The ranges that keep every field within its fixed width. -/
theorem dateTimeFields_bounds (t : DateTime) : ∃ y mo d h mi s u,
    dateTimeFields t = [y, mo, d, h, mi, s, u] ∧
      y < 10 ^ 4 ∧ mo < 10 ^ 2 ∧ d < 10 ^ 2 ∧ h < 10 ^ 2 ∧ mi < 10 ^ 2 ∧ s < 10 ^ 2 ∧
      u < 1000000 := by
  have hrange := t.inRange
  simp only [maxMicros] at hrange
  have hday : t.micros / dayMicros < 3652059 := by
    rw [Nat.div_lt_iff_lt_mul (by decide)]
    exact hrange
  have htime : t.micros % dayMicros < dayMicros := Nat.mod_lt _ (by decide)
  have hmonth := Lex.block_le (daysBeforeMonth (isLeap (yearOf (t.micros / dayMicros)))) 11
    (t.micros / dayMicros - daysBeforeYear (yearOf (t.micros / dayMicros)))
  refine ⟨_, _, _, _, _, _, _, rfl, yearOf_lt hday, Nat.lt_of_le_of_lt (Nat.succ_le_succ hmonth)
    (by decide), Nat.lt_of_le_of_lt (dayOfMonth_lt _ (dayOfYear_lt _)) (by decide), ?_⟩
  simp only [dayMicros] at htime ⊢
  omega

/-- The text of a later instant sorts later. -/
theorem isoformatChars_lt {a b : DateTime} (h : a < b) :
    isoformatChars (dateTimeFields a) < isoformatChars (dateTimeFields b) := by
  have hlt := dateTimeFields_lt h
  obtain ⟨y, mo, d, h, mi, s, u, ha, hy, hmo, hd, hh, hmi, hs, -⟩ := dateTimeFields_bounds a
  obtain ⟨y', mo', d', h', mi', s', u', hb, hy', hmo', hd', hh', hmi', hs', hu'⟩ :=
    dateTimeFields_bounds b
  rw [ha, hb] at hlt ⊢
  simp only [List.cons_lt_cons_iff] at hlt
  have sep : ∀ {c : Char} {s t : List Char}, s < t → c :: s < c :: t :=
    fun hst => List.cons_lt_cons_iff.mpr (.inr ⟨rfl, hst⟩)
  refine field_lt hy hy' (hlt.imp_right fun ⟨e, hlt⟩ => ⟨e, sep ?_⟩)
  refine field_lt hmo hmo' (hlt.imp_right fun ⟨e, hlt⟩ => ⟨e, sep ?_⟩)
  refine field_lt hd hd' (hlt.imp_right fun ⟨e, hlt⟩ => ⟨e, sep ?_⟩)
  refine field_lt hh hh' (hlt.imp_right fun ⟨e, hlt⟩ => ⟨e, sep ?_⟩)
  refine field_lt hmi hmi' (hlt.imp_right fun ⟨e, hlt⟩ => ⟨e, sep ?_⟩)
  refine field_lt hs hs' (hlt.imp_right fun ⟨e, hlt⟩ => ⟨e, ?_⟩)
  rcases hlt with hlt | ⟨-, hnil⟩
  · exact isoformatTail_lt hu' hlt
  · exact absurd hnil (lt_irrefl _)

/-- **Text order is time order**: the `isoformat` texts of two UTC datetimes
compare, character by character as SQL compares them, like the instants. -/
theorem isoformat_lt_iff {a b : DateTime} : isoformat a < isoformat b ↔ a < b := by
  have hmono : ∀ {a b : DateTime}, a < b → isoformat a < isoformat b := fun h => by
    rw [String.lt_iff_toList_lt, isoformat, isoformat, String.toList_ofList, String.toList_ofList]
    exact isoformatChars_lt h
  constructor
  · intro h
    rcases Nat.lt_trichotomy a.micros b.micros with hlt | heq | hgt
    · exact hlt
    · rw [DateTime.ext_micros heq] at h
      exact absurd h (String.lt_irrefl _)
    · exact absurd (hmono hgt) (String.lt_asymm h)
  · exact hmono

theorem isoformat_injective {a b : DateTime} (h : isoformat a = isoformat b) : a = b := by
  rcases Nat.lt_trichotomy a.micros b.micros with hlt | heq | hgt
  · exact absurd (isoformat_lt_iff.mpr hlt) (by rw [h]; exact String.lt_irrefl _)
  · exact DateTime.ext_micros heq
  · exact absurd (isoformat_lt_iff.mpr hgt) (by rw [h]; exact String.lt_irrefl _)

end StockResearch
