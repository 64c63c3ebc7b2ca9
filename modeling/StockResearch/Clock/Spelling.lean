import Mathlib.Data.List.Induction
import StockResearch.Clock.Date

/-!
# Spellings of a day

`date.fromisoformat` reads a day in several spellings, of which `isoformat` prints one.
Among printed days a text in another spelling sorts after every day of the year it begins
with, whatever day it names.

- `Date.ofFields?_fields`: a day has the fields it was built from.
- `Date.fromisoformat_isoformat`: what is printed of a day is read as that day.
- `Date.sortDay`: the first day a text does not sort after.
- `Date.le_isoformat_iff`, `Date.isoformat_lt_iff_sortDay`: comparing a text with a
  printed day is comparing that day.
-/

namespace StockResearch

namespace Date

/-! ## Fields -/

/-- A year has 365 days, or 366. -/
theorem daysBeforeYear_succ {year : Nat} (h : 1 ≤ year) :
    daysBeforeYear (year + 1) = daysBeforeYear year + 365 + (isLeap year).toNat := by
  obtain ⟨n, rfl⟩ := Nat.exists_eq_add_of_le' h
  have hle : n / 100 ≤ n / 4 := Nat.div_le_div_left (by decide) (by decide)
  have hleap : (isLeap (n + 1)).toNat =
      (if 4 ∣ n + 1 then 1 else 0) - (if 100 ∣ n + 1 then 1 else 0) +
        (if 400 ∣ n + 1 then 1 else 0) := by
    have h100 : 400 ∣ n + 1 → 100 ∣ n + 1 := Nat.dvd_trans (by decide)
    have h4 : 100 ∣ n + 1 → 4 ∣ n + 1 := Nat.dvd_trans (by decide)
    simp only [isLeap, Nat.dvd_iff_mod_eq_zero] at *
    by_cases h : (n + 1) % 4 = 0 <;> by_cases h' : (n + 1) % 100 = 0 <;>
      by_cases h'' : (n + 1) % 400 = 0 <;> simp_all
  rw [hleap]
  simp only [daysBeforeYear, Nat.add_sub_cancel, Nat.succ_div]
  split <;> split <;> split <;> omega

theorem daysBeforeYear_mono : Monotone daysBeforeYear := by
  refine monotone_nat_of_le_succ fun year => ?_
  rcases Nat.eq_zero_or_pos year with rfl | hpos
  · exact Nat.le_refl _
  · rw [daysBeforeYear_succ hpos]
    omega

/-- A day between two New Year's Days lies in the year of the first. -/
theorem yearOf_eq {year ordinal : Nat} (hyear : 1 ≤ year) (hge : daysBeforeYear year ≤ ordinal)
    (hlt : ordinal < daysBeforeYear (year + 1)) : yearOf ordinal = year := by
  refine Nat.findGreatest_eq_iff.mpr ⟨?_, fun _ => hge, fun i hi _ hle => ?_⟩
  · simp only [daysBeforeYear] at hge
    omega
  · exact absurd (Nat.lt_of_lt_of_le hlt (Nat.le_trans (daysBeforeYear_mono hi) hle))
      (Nat.lt_irrefl _)

/-- So with the days of a year and its months. -/
theorem monthOf_eq {leap : Bool} {month day : Nat} (hmonth : month ≤ 11) (hday : 1 ≤ day)
    (hle : day ≤ daysInMonth leap month) :
    monthOf leap (daysBeforeMonth leap month + (day - 1)) = month := by
  refine Nat.findGreatest_eq_iff.mpr ⟨hmonth, fun _ => Nat.le_add_right _ _, fun i hi hi' hge => ?_⟩
  interval_cases month <;> interval_cases i <;> cases leap <;>
    simp [daysInMonth, daysBeforeMonth] at hle hge <;> omega

/-- No month ends after the last day of its year. -/
theorem dayOfMonth_le {leap : Bool} {month day : Nat} (hmonth : month ≤ 11)
    (hday : day ≤ daysInMonth leap month) :
    daysBeforeMonth leap month + day ≤ 365 + leap.toNat := by
  interval_cases month <;> cases leap <;> simp [daysInMonth, daysBeforeMonth] at hday ⊢ <;> omega

/-- A day has the fields it was built from. -/
theorem ofFields?_fields {year month day : Nat} {d : Date}
    (h : ofFields? year month day = some d) : d.year = year ∧ d.month = month ∧ d.day = day := by
  simp only [ofFields?] at h
  split at h
  · rename_i hfields
    obtain ⟨hyear, -, hmonth, hmonth', hday, hday'⟩ := hfields
    split at h
    · cases h
      have hlength := dayOfMonth_le (show month - 1 ≤ 11 by omega) hday'
      have hsucc := daysBeforeYear_succ hyear
      generalize hordinal : daysBeforeYear year + daysBeforeMonth (isLeap year) (month - 1) +
        (day - 1) = ordinal at *
      have hyearOf : yearOf ordinal = year := yearOf_eq hyear (by omega) (by omega)
      have hdays : ordinal - daysBeforeYear year =
          daysBeforeMonth (isLeap year) (month - 1) + (day - 1) := by omega
      have hmonthOf : monthOf (isLeap year) (ordinal - daysBeforeYear year) = month - 1 := by
        rw [hdays]
        exact monthOf_eq (by omega) hday hday'
      have hmonth'' : month - 1 + 1 = month := by omega
      refine ⟨hyearOf, ?_, ?_⟩
      · simp only [Date.month, Date.dayOfYear, Date.year, hyearOf, hmonthOf, hmonth'']
      · simp only [Date.day, Date.month, Date.dayOfYear, Date.year, hyearOf, hmonthOf,
          Nat.add_sub_cancel]
        omega
    · cases h
  · cases h

/-- A day lies before the next New Year's Day. -/
theorem lt_daysBeforeYear_succ (d : Date) : d.ordinal < daysBeforeYear (d.year + 1) := by
  rcases Nat.lt_or_eq_of_le (Lex.block_le daysBeforeYear (d.ordinal / 365 + 1) d.ordinal) with
    hlt | heq
  · exact Lex.lt_threshold_succ daysBeforeYear _ _ hlt
  · have hyear : d.year = d.ordinal / 365 + 1 := heq
    rw [hyear]
    simp only [daysBeforeYear]
    omega

/-- The days of a year and later are those from its New Year's Day on. -/
theorem le_year_iff {d : Date} {year : Nat} : year ≤ d.year ↔ daysBeforeYear year ≤ d.ordinal := by
  constructor
  · exact fun h => Nat.le_trans (daysBeforeYear_mono h) d.daysBeforeYear_le
  · intro h
    by_contra hlt
    have hnext : daysBeforeYear (d.year + 1) ≤ daysBeforeYear year :=
      daysBeforeYear_mono (Nat.not_le.mp hlt)
    exact absurd (Nat.lt_of_lt_of_le d.lt_daysBeforeYear_succ hnext) (Nat.not_lt.mpr h)

theorem number_concat {cs : List Char} {c : Char} :
    number (cs ++ [c]) = (number cs).bind fun n =>
      if '0' ≤ c ∧ c ≤ '9' then some (10 * n + (c.toNat - 48)) else none := by
  simp [number, List.foldl_append]

/-- An ASCII digit is the digit of its value. -/
theorem eq_digit {c : Char} (h : '0' ≤ c ∧ c ≤ '9') :
    c = Lex.digit (c.toNat - 48) ∧ c.toNat - 48 < 10 := by
  have hge : 48 ≤ c.toNat := h.1
  have hle : c.toNat ≤ 57 := h.2
  refine ⟨?_, by omega⟩
  rw [Lex.digit, Nat.add_sub_cancel' hge, Char.ofNat_toNat]

/-- A run of digits is its value, printed to its width. -/
theorem number_eq_some {cs : List Char} {n : Nat} (h : number cs = some n) :
    cs = Lex.decimal cs.length n ∧ n < 10 ^ cs.length := by
  induction cs using List.reverseRecOn generalizing n with
  | nil =>
    cases h
    exact ⟨rfl, Nat.one_pos⟩
  | append_singleton cs c ih =>
    rw [number_concat] at h
    obtain ⟨m, hm, h⟩ := Option.bind_eq_some_iff.mp h
    split at h
    · rename_i hdigit
      obtain ⟨hc, hlt⟩ := eq_digit hdigit
      obtain ⟨hcs, hbound⟩ := ih hm
      cases h
      have hdiv : (10 * m + (c.toNat - 48)) / 10 = m := by omega
      have hmod : (10 * m + (c.toNat - 48)) % 10 = c.toNat - 48 := by omega
      rw [List.length_append, List.length_singleton, Lex.decimal, hdiv, hmod, ← hcs, ← hc,
        Nat.pow_succ]
      exact ⟨rfl, by omega⟩
    · cases h

theorem month_lt (a : Date) : a.month < 10 ^ 2 := by
  have hle := Lex.block_le (daysBeforeMonth (isLeap a.year)) 11 a.dayOfYear
  have hmonth : a.month = monthOf (isLeap a.year) a.dayOfYear + 1 := rfl
  rw [hmonth]
  exact Nat.lt_of_le_of_lt (Nat.succ_le_succ hle) (by decide)

/-- What follows the year sorts after the month of a printed day. -/
def SortsLate (rest : List Char) : Prop :=
  ∀ month < 10 ^ 2, ∀ tail, '-' :: (Lex.decimal 2 month ++ tail) < rest

theorem sortsLate_of_lt {c : Char} {cs : List Char} (h : '-' < c) : SortsLate (c :: cs) :=
  fun _ _ _ => List.cons_lt_cons_iff.mpr (.inl h)

theorem digit_lt_of_lt {n : Nat} {c : Char} (hn : n < 10) (h : '9' < c) : Lex.digit n < c :=
  lt_of_le_of_lt ((by decide : ∀ n < 10, Lex.digit n ≤ '9') n hn) h

theorem sortsLate_week (cs : List Char) : SortsLate ('-' :: 'W' :: cs) := by
  intro month hmonth tail
  have hdigit : month / 10 % 10 < 10 := Nat.mod_lt _ (by decide)
  exact List.cons_lt_cons_iff.mpr (.inr ⟨rfl,
    List.cons_lt_cons_iff.mpr (.inl (digit_lt_of_lt hdigit (by decide)))⟩)

theorem exists_digit_of_mem_decimal {c : Char} : ∀ {width n : Nat},
    c ∈ Lex.decimal width n → ∃ k < 10, Lex.digit k = c
  | 0, _, h => nomatch h
  | _ + 1, _, h => by
    rcases List.mem_append.mp h with h | h
    · exact exists_digit_of_mem_decimal h
    · exact ⟨_, Nat.mod_lt _ (by decide), (List.mem_singleton.mp h).symm⟩

theorem sortsLate_digit {c : Char} {cs rest : List Char} {n : Nat}
    (h : number (c :: cs) = some n) : SortsLate (c :: rest) := by
  have hmem : c ∈ Lex.decimal (c :: cs).length n :=
    (number_eq_some h).1 ▸ List.mem_cons_self
  obtain ⟨k, hk, rfl⟩ := exists_digit_of_mem_decimal hmem
  exact sortsLate_of_lt ((by decide : ∀ k < 10, '-' < Lex.digit k) k hk)

/-- A text that is not as printed begins with a year and goes on with what sorts after
the rest of a printed day. -/
theorem fromisoformat_cases {text : String} {d : Date} (h : fromisoformat text = some d) :
    d.isoformat = text ∨ ∃ year < 10 ^ 4, number (text.toList.take 4) = some year ∧
      ∃ rest, text.toList = Lex.decimal 4 year ++ rest ∧ SortsLate rest := by
  obtain ⟨year, hyear, h⟩ := Option.bind_eq_some_iff.mp h
  obtain ⟨hdigits, hbound⟩ := number_eq_some hyear
  have hsplit : text.toList = text.toList.take 4 ++ text.toList.drop 4 :=
    (List.take_append_drop 4 _).symm
  generalize text.toList.drop 4 = rest at h hsplit
  have hfront : rest ≠ [] → text.toList = Lex.decimal 4 year ++ rest ∧ year < 10 ^ 4 := by
    intro hne
    have hfour : (text.toList.take 4).length = 4 := by
      have hlength := congrArg List.length hsplit
      have hpos := List.length_pos_of_ne_nil hne
      rw [List.length_append] at hlength
      rw [List.length_take] at hlength ⊢
      omega
    rw [hfour] at hdigits hbound
    rw [← hdigits]
    exact ⟨hsplit, hbound⟩
  have hlate : rest ≠ [] → SortsLate rest → d.isoformat = text ∨ ∃ year < 10 ^ 4,
      number (text.toList.take 4) = some year ∧
        ∃ rest, text.toList = Lex.decimal 4 year ++ rest ∧ SortsLate rest :=
    fun hne hrest => .inr ⟨year, (hfront hne).2, hyear, rest, (hfront hne).1, hrest⟩
  split at h
  · exact hlate (List.cons_ne_nil _ _) (sortsLate_week _)
  · exact hlate (List.cons_ne_nil _ _) (sortsLate_week _)
  · exact hlate (List.cons_ne_nil _ _) (sortsLate_of_lt (by decide))
  · exact hlate (List.cons_ne_nil _ _) (sortsLate_of_lt (by decide))
  · -- as printed
    rename_i m₁ m₂ d₁ d₂
    obtain ⟨month, hmonth, h⟩ := Option.bind_eq_some_iff.mp h
    obtain ⟨day, hday, h⟩ := Option.bind_eq_some_iff.mp h
    obtain ⟨rfl, rfl, rfl⟩ := ofFields?_fields h
    left
    have hm := (number_eq_some hmonth).1
    have hd := (number_eq_some hday).1
    simp only [List.length_cons, List.length_nil] at hm hd
    rw [isoformat, ← hm, ← hd, ← String.ofList_toList (s := text), (hfront (List.cons_ne_nil _ _)).1]
    rfl
  · rename_i m₁ m₂ d₁ d₂
    obtain ⟨month, hmonth, -⟩ := Option.bind_eq_some_iff.mp h
    exact hlate (List.cons_ne_nil _ _) (sortsLate_digit hmonth)
  · cases h

/-- The first day that a text does not sort after: the day it names if it is spelled as
that day prints, else the New Year's Day after the year it begins with. -/
def sortDay (text : String) (d : Date) : Nat :=
  if Canonical text d then d.ordinal
  else daysBeforeYear ((number (text.toList.take 4)).getD 0 + 1)

/-- A printed day sorts before a text exactly when it lies before its day. -/
theorem isoformat_lt_iff_sortDay {text : String} {d a : Date} (h : fromisoformat text = some d) :
    a.isoformat < text ↔ a.ordinal < sortDay text d := by
  unfold sortDay
  split
  · rename_i hcanonical
    rw [← hcanonical]
    exact isoformat_lt_iff
  · rename_i hspelled
    obtain hcanonical | ⟨year, hyear, hnumber, rest, htext, hlate⟩ := fromisoformat_cases h
    · exact absurd hcanonical hspelled
    · have hlt : a.year < 10 ^ 4 := yearOf_lt a.inRange
      rw [hnumber, Option.getD_some, ← Nat.not_le, ← le_year_iff, Nat.not_le, Nat.lt_succ_iff,
        String.lt_iff_toList_lt, htext, isoformat, String.toList_ofList,
        Lex.append_lt_append_iff (by simp) (fun x => lt_irrefl x),
        Lex.decimal_lt_iff hlt hyear, Nat.le_iff_lt_or_eq]
      exact or_congr_right ⟨fun h => Lex.decimal_inj hlt hyear h.1,
        fun heq => ⟨by rw [heq], hlate _ a.month_lt _⟩⟩

/-- A text sorts up to a printed day exactly when its day lies up to it. -/
theorem le_isoformat_iff {text : String} {d a : Date} (h : fromisoformat text = some d) :
    text ≤ a.isoformat ↔ sortDay text d ≤ a.ordinal := by
  rw [← String.not_lt, isoformat_lt_iff_sortDay h, Nat.not_lt]

/-- A printed day sorts up to a text when it lies before its day, or is it. -/
theorem isoformat_le_iff_sortDay {text : String} {d a : Date} (h : fromisoformat text = some d) :
    a.isoformat ≤ text ↔ a.ordinal < sortDay text d ∨ a.isoformat = text := by
  rw [le_iff_lt_or_eq, isoformat_lt_iff_sortDay h]

end Date

end StockResearch
