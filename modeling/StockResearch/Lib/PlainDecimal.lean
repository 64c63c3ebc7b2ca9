import Mathlib.Algebra.Order.Field.Basic
import Mathlib.Data.Nat.Log
import Mathlib.Data.List.DropRight
import Mathlib.Data.Option.Basic
import Mathlib.Tactic.FieldSimp
import Mathlib.Tactic.NormNum
import Mathlib.Tactic.Ring
import StockResearch.Lib.Lex

/-!
# Plain decimals

Decimal numbers in positional notation: a sign, digits, and digits after a point. A number
has many texts, which differ in zeros and in the sign of what is positive or zero; one of
them is canonical.

- `PlainDecimal`, `PlainDecimal.ofText`, `PlainDecimal.fixed`: reading and writing.
- `PlainDecimal.canonical`: the text without the zeros at the end of a fraction.
- `PlainDecimal.ofText_canonical`: it is read as the same number.
- `PlainDecimal.canonical_eq_iff`: it is the same for all texts of a number, and for no other.
-/

namespace StockResearch

/-- `±coefficient / 10 ^ places` -/
structure PlainDecimal where
  negative : Bool
  coefficient : Nat
  places : Nat
deriving DecidableEq

/-! ## Digits -/

/-- The value of a text of digits. -/
def digitsValue (digits : List Char) : Nat :=
  digits.foldl (fun n c => 10 * n + (c.toNat - '0'.toNat)) 0

/-- A natural number without leading zeros. -/
def natural (n : Nat) : List Char := Lex.decimal (Nat.log 10 n + 1) n

theorem digit_isDigit {d : Nat} (h : d < 10) : (Lex.digit d).isDigit = true :=
  (by decide : ∀ d < 10, (Lex.digit d).isDigit = true) d h

theorem digit_toNat {d : Nat} (h : d < 10) : (Lex.digit d).toNat - '0'.toNat = d :=
  (by decide : ∀ d < 10, (Lex.digit d).toNat - '0'.toNat = d) d h

theorem isDigit_of_mem_decimal {width n : Nat} {c : Char} (h : c ∈ Lex.decimal width n) :
    c.isDigit = true := by
  induction width generalizing n with
  | zero => cases h
  | succ width ih =>
    rcases List.mem_append.mp h with h | h
    · exact ih h
    · rw [List.mem_singleton.mp h]
      exact digit_isDigit (Nat.mod_lt _ (by decide))

theorem digitsValue_concat (digits : List Char) (c : Char) :
    digitsValue (digits ++ [c]) = 10 * digitsValue digits + (c.toNat - '0'.toNat) := by
  rw [digitsValue, List.foldl_append]
  rfl

/-- The digits of a number, padded, before those of another one. -/
theorem digitsValue_append_decimal (digits : List Char) (width n : Nat) :
    digitsValue (digits ++ Lex.decimal width n) =
      digitsValue digits * 10 ^ width + n % 10 ^ width := by
  induction width generalizing n with
  | zero => simp [Lex.decimal, Nat.mod_one]
  | succ width ih =>
    rw [Lex.decimal, ← List.append_assoc, digitsValue_concat, ih,
      digit_toNat (Nat.mod_lt _ (by decide))]
    have hmod : n % 10 ^ (width + 1) = 10 * (n / 10 % 10 ^ width) + n % 10 := by
      rw [Nat.pow_succ', Nat.mod_mul]
      omega
    rw [hmod, Nat.pow_succ]
    ring

theorem digitsValue_natural (n : Nat) : digitsValue (natural n) = n := by
  have h := digitsValue_append_decimal [] (Nat.log 10 n + 1) n
  rw [List.nil_append] at h
  rw [natural, h, Nat.mod_eq_of_lt (Nat.lt_pow_succ_log_self (by decide) n)]
  simp [digitsValue]

theorem natural_ne_nil (n : Nat) : natural n ≠ [] := by
  intro h
  have hlength := congrArg List.length h
  rw [natural, Lex.length_decimal] at hlength
  cases hlength

/-! ## Reading and writing -/

namespace PlainDecimal

def value (d : PlainDecimal) : ℚ :=
  (if d.negative then -1 else 1) * (d.coefficient / 10 ^ d.places)

/-- Whether a text starts with a minus, and the text after its sign. -/
def signOf : List Char → Bool × List Char
  | '+' :: rest => (false, rest)
  | '-' :: rest => (true, rest)
  | text => (false, text)

/-- The number of a text of digits, with or without a sign, a point and a fraction. -/
def ofText (text : List Char) : Option PlainDecimal := do
  let (negative, number) := signOf text
  let whole := number.takeWhile Char.isDigit
  let fraction ← match number.dropWhile Char.isDigit with
    | [] => some []
    | '.' :: fraction => some fraction
    | _ => none
  guard (whole ++ fraction ≠ [] ∧ fraction.all Char.isDigit)
  pure ⟨negative, digitsValue (whole ++ fraction), fraction.length⟩

example : ofText "-1.50".toList = some ⟨true, 150, 2⟩ ∧ ofText "+.5".toList = some ⟨false, 5, 1⟩ ∧
    ofText "5.".toList = some ⟨false, 5, 0⟩ ∧ ofText ".".toList = none ∧
    ofText "1e5".toList = none := by decide +kernel

def sign (d : PlainDecimal) : List Char := if d.negative then ['-'] else []

/-- The digits before the point. -/
def whole (d : PlainDecimal) : List Char := natural (d.coefficient / 10 ^ d.places)

/-- The digits after it. -/
def fraction (d : PlainDecimal) : List Char :=
  Lex.decimal d.places (d.coefficient % 10 ^ d.places)

/-- All digits of a number. -/
def fixed (d : PlainDecimal) : List Char :=
  d.sign ++ (d.whole ++ if d.places = 0 then [] else '.' :: d.fraction)

/-- A text without the zeros at the end of its fraction. -/
def trimmed (text : List Char) : List Char :=
  if '.' ∈ text then (text.rdropWhile (· = '0')).rdropWhile (· = '.') else text

/-- The canonical text of a number. -/
def canonical (d : PlainDecimal) : List Char :=
  if d.coefficient = 0 then ['0'] else trimmed d.fixed

theorem isDigit_of_mem_whole {d : PlainDecimal} {c : Char} (h : c ∈ d.whole) :
    c.isDigit = true := isDigit_of_mem_decimal h

theorem isDigit_of_mem_fraction {d : PlainDecimal} {c : Char} (h : c ∈ d.fraction) :
    c.isDigit = true := isDigit_of_mem_decimal h

/-- The digits of a number are those of its coefficient. -/
theorem digitsValue_digits (d : PlainDecimal) :
    digitsValue (d.whole ++ d.fraction) = d.coefficient := by
  rw [fraction, digitsValue_append_decimal, whole, digitsValue_natural, Nat.mod_mod,
    Nat.mul_comm, Nat.div_add_mod]

theorem signOf_sign {d : PlainDecimal} {text : List Char} (hplus : text.head? ≠ some '+')
    (hminus : text.head? ≠ some '-') : signOf (d.sign ++ text) = (d.negative, text) := by
  unfold sign
  cases d.negative with
  | true => rfl
  | false =>
    rw [if_neg Bool.false_ne_true, List.nil_append]
    unfold signOf
    split
    · exact absurd rfl hplus
    · exact absurd rfl hminus
    · rfl

/-- What is written is read again. -/
theorem ofText_fixed (d : PlainDecimal) : ofText d.fixed = some d := by
  obtain ⟨c, rest, hwhole⟩ := List.exists_cons_of_ne_nil (natural_ne_nil (d.coefficient / 10 ^ d.places))
  have hc : c.isDigit = true := isDigit_of_mem_whole (d := d) (by rw [whole, hwhole]; simp)
  -- it starts with a digit, so no sign is read
  have hhead : ∀ other, other.isDigit = false → ∀ after : List Char,
      (d.whole ++ after).head? ≠ some other := by
    intro other hother after h
    rw [whole, hwhole, List.cons_append, List.head?_cons, Option.some.injEq] at h
    rw [← h, hc] at hother
    cases hother
  have hdigits : ∀ x ∈ d.whole, x.isDigit = true := fun x => isDigit_of_mem_whole
  rw [fixed, ofText, signOf_sign (hhead _ (by decide) _) (hhead _ (by decide) _)]
  -- without a fraction there is no point
  by_cases hplaces : d.places = 0
  · have hvalue := d.digitsValue_digits
    have hfraction : d.fraction = [] := by rw [fraction, hplaces]; rfl
    rw [hfraction, List.append_nil] at hvalue
    have hguard : d.whole ≠ [] ∧ ([] : List Char).all Char.isDigit = true :=
      ⟨natural_ne_nil _, rfl⟩
    have hlength : ([] : List Char).length = d.places := hplaces.symm
    simp only [if_pos hplaces, List.append_nil]
    simp only [List.takeWhile_eq_self_iff.mpr hdigits, List.dropWhile_eq_nil_iff.mpr hdigits,
      List.append_nil, guard, Option.bind_eq_bind, Option.bind_some, if_pos hguard, hvalue, hlength]
    rfl
  · have hpoint : ¬ ('.' : Char).isDigit = true := by decide
    have htake : (d.whole ++ '.' :: d.fraction).takeWhile Char.isDigit = d.whole := by
      rw [List.takeWhile_append_of_pos hdigits, List.takeWhile_cons_of_neg hpoint,
        List.append_nil]
    have hdrop : (d.whole ++ '.' :: d.fraction).dropWhile Char.isDigit = '.' :: d.fraction := by
      rw [List.dropWhile_append_of_pos hdigits, List.dropWhile_cons_of_neg hpoint]
    have hguard : d.whole ++ d.fraction ≠ [] ∧ d.fraction.all Char.isDigit = true :=
      ⟨fun h => natural_ne_nil _ (List.append_eq_nil_iff.mp h).1,
        List.all_eq_true.mpr fun x => isDigit_of_mem_fraction⟩
    have hlength : d.fraction.length = d.places := Lex.length_decimal _ _
    simp only [if_neg hplaces, htake, hdrop, guard, Option.bind_eq_bind, Option.bind_some,
      if_pos hguard, digitsValue_digits, hlength]
    rfl

/-- The texts that are read: digits, with a point among them or without. -/
theorem ofText_eq_some {text : List Char} {d : PlainDecimal} (h : ofText text = some d) :
    ∃ whole fraction, (∀ c ∈ whole, c.isDigit = true) ∧ (∀ c ∈ fraction, c.isDigit = true) ∧
      whole ++ fraction ≠ [] ∧
      ((signOf text).2 = whole ∧ fraction = [] ∨ (signOf text).2 = whole ++ '.' :: fraction) ∧
      d = ⟨(signOf text).1, digitsValue (whole ++ fraction), fraction.length⟩ := by
  have hwhole : ∀ c ∈ (signOf text).2.takeWhile Char.isDigit, c.isDigit = true :=
    fun c hc => List.mem_takeWhile_imp hc
  have hparts : (signOf text).2.takeWhile Char.isDigit ++ (signOf text).2.dropWhile Char.isDigit =
      (signOf text).2 := List.takeWhile_append_dropWhile
  rw [ofText] at h
  simp only at h
  split at h
  · rename_i hrest
    obtain ⟨fraction, hsome, h⟩ := Option.bind_eq_some_iff.mp h
    obtain rfl := Option.some.inj hsome
    obtain ⟨⟨⟩, hguard, hd⟩ := Option.bind_eq_some_iff.mp h
    obtain ⟨hne, hdigits⟩ := (Option.guard_eq_some' _).mp hguard
    rw [hrest, List.append_nil] at hparts
    exact ⟨_, [], hwhole, List.all_eq_true.mp hdigits, hne, .inl ⟨hparts.symm, rfl⟩,
      (Option.some.inj hd).symm⟩
  · rename_i rest hrest
    obtain ⟨fraction, hsome, h⟩ := Option.bind_eq_some_iff.mp h
    obtain rfl := Option.some.inj hsome
    obtain ⟨⟨⟩, hguard, hd⟩ := Option.bind_eq_some_iff.mp h
    obtain ⟨hne, hdigits⟩ := (Option.guard_eq_some' _).mp hguard
    rw [hrest] at hparts
    exact ⟨_, rest, hwhole, List.all_eq_true.mp hdigits, hne, .inr hparts.symm,
      (Option.some.inj hd).symm⟩
  · cases h

/-! ## The canonical text -/

/-- The number with more zeros at its end. -/
def scale (d : PlainDecimal) (k : Nat) : PlainDecimal :=
  ⟨d.negative, d.coefficient * 10 ^ k, d.places + k⟩

/-- No zero is at the end of the fraction. -/
def Reduced (d : PlainDecimal) : Prop := d.places = 0 ∨ ¬ 10 ∣ d.coefficient

/-- A reduced number; zero has no sign. -/
structure Canonical (d : PlainDecimal) : Prop where
  reduced : d.Reduced
  unsigned : d.coefficient = 0 → d.places = 0 ∧ d.negative = false

theorem value_scale (d : PlainDecimal) (k : Nat) : (d.scale k).value = d.value := by
  have h10 : (10 : ℚ) ^ k ≠ 0 := pow_ne_zero _ (by norm_num)
  unfold value scale
  push_cast
  rw [pow_add, mul_div_mul_right _ _ h10]

theorem exists_reduced (d : PlainDecimal) : ∃ r k, Reduced r ∧ d = r.scale k := by
  obtain ⟨negative, coefficient, places⟩ := d
  induction places generalizing coefficient with
  | zero => exact ⟨⟨negative, coefficient, 0⟩, 0, .inl rfl, by simp [scale]⟩
  | succ places ih =>
    by_cases h : 10 ∣ coefficient
    · obtain ⟨m, rfl⟩ := h
      obtain ⟨r, k, hr, heq⟩ := ih m
      refine ⟨r, k + 1, hr, ?_⟩
      simp only [scale, mk.injEq] at heq ⊢
      obtain ⟨hnegative, hcoefficient, hplaces⟩ := heq
      refine ⟨hnegative, ?_, by omega⟩
      rw [hcoefficient, Nat.pow_succ]
      ring
    · exact ⟨⟨negative, coefficient, places + 1⟩, 0, .inr h, by simp [scale]⟩

theorem whole_scale (d : PlainDecimal) (k : Nat) : (d.scale k).whole = d.whole := by
  have hpos : 0 < 10 ^ k := Nat.pow_pos (by decide)
  simp only [whole, scale, Nat.pow_add, Nat.mul_div_mul_right _ _ hpos]

theorem fraction_scale (d : PlainDecimal) (k : Nat) :
    (d.scale k).fraction = d.fraction ++ List.replicate k '0' := by
  induction k with
  | zero => simp [scale, fraction]
  | succ k ih =>
    have hpow : d.coefficient * 10 ^ (k + 1) = 10 * (d.coefficient * 10 ^ k) := by
      rw [Nat.pow_succ]
      ring
    simp only [fraction, scale] at ih ⊢
    rw [← Nat.add_assoc, Lex.decimal, hpow, Nat.pow_succ', Nat.mul_mod_mul_left,
      Nat.mul_div_cancel_left _ (by decide), Nat.mul_mod_right, ih, List.replicate_succ',
      List.append_assoc]
    rfl

theorem rdropWhile_append_replicate (text : List Char) (c : Char) (k : Nat) :
    (text ++ List.replicate k c).rdropWhile (· = c) = text.rdropWhile (· = c) := by
  induction k with
  | zero => simp
  | succ k ih =>
    rw [List.replicate_succ', ← List.append_assoc, List.rdropWhile_concat_pos _ _ _ (by simp), ih]

/-- The zeros that were added are what is trimmed. -/
theorem trimmed_fixed_scale {d : PlainDecimal} (h : d.Reduced) (k : Nat) :
    trimmed (d.scale k).fixed = d.fixed := by
  have hsign : (d.scale k).sign = d.sign := rfl
  have hpoint : '.' ∉ d.sign ++ d.whole := by
    intro hmem
    rcases List.mem_append.mp hmem with hmem | hmem
    · unfold sign at hmem
      split at hmem <;> simp at hmem
    · exact absurd (isDigit_of_mem_whole hmem) (by decide)
  rw [fixed, hsign, whole_scale, fraction_scale]
  by_cases hplaces : d.places = 0
  · have hfraction : d.fraction = [] := by rw [fraction, hplaces]; rfl
    have hfixed : d.fixed = d.sign ++ d.whole := by simp [fixed, hplaces]
    rw [hfixed, hfraction, List.nil_append]
    by_cases hk : k = 0
    · have hzero : (d.scale k).places = 0 := by simp [scale, hplaces, hk]
      rw [if_pos hzero, List.append_nil, trimmed, if_neg hpoint]
    · have hsome : (d.scale k).places ≠ 0 := by simp [scale, hk]
      have htext : d.sign ++ (d.whole ++ '.' :: List.replicate k '0') =
          (d.sign ++ d.whole ++ ['.']) ++ List.replicate k '0' := by simp
      have hlast : (d.sign ++ d.whole).rdropWhile (· = '.') = d.sign ++ d.whole := by
        refine List.rdropWhile_eq_self_iff.mpr fun hne heq => hpoint ?_
        have hmem := List.getLast_mem hne
        rwa [of_decide_eq_true heq] at hmem
      rw [if_neg hsome, htext, trimmed, if_pos (by simp), rdropWhile_append_replicate,
        List.rdropWhile_concat_neg _ _ _ (by decide), List.rdropWhile_concat_pos _ _ _ (by simp),
        hlast]
  · -- the last digit of the fraction is no zero
    obtain ⟨p, hp⟩ := Nat.exists_eq_succ_of_ne_zero hplaces
    have hsome : (d.scale k).places ≠ 0 := by simp [scale, hp]
    have hnot : d.coefficient % 10 ≠ 0 := fun hzero =>
      (h.resolve_left hplaces) (Nat.dvd_of_mod_eq_zero hzero)
    have hfraction : ∃ digits digit, d.fraction = digits ++ [digit] ∧ digit ≠ '0' ∧ digit ≠ '.' := by
      have hmod : d.coefficient % 10 ^ (p + 1) % 10 = d.coefficient % 10 :=
        Nat.mod_mod_of_dvd _ ⟨10 ^ p, Nat.pow_succ'⟩
      refine ⟨_, Lex.digit (d.coefficient % 10), by rw [fraction, hp, Lex.decimal, hmod], ?_, ?_⟩
      · exact fun heq => hnot (Lex.digit_inj (e := 0) (Nat.mod_lt _ (by decide)) (by decide) heq)
      · intro heq
        have hdigit := digit_isDigit (Nat.mod_lt d.coefficient (by decide : 0 < 10))
        rw [heq] at hdigit
        exact absurd hdigit (by decide)
    obtain ⟨digits, digit, hdigits, hzero, hdot⟩ := hfraction
    have htext : d.sign ++ (d.whole ++ '.' :: (d.fraction ++ List.replicate k '0')) =
        (d.sign ++ (d.whole ++ '.' :: digits) ++ [digit]) ++ List.replicate k '0' := by
      simp [hdigits]
    rw [if_neg hsome, htext, trimmed, if_pos (by simp), rdropWhile_append_replicate,
      List.rdropWhile_concat_neg _ _ _ (by simpa using hzero),
      List.rdropWhile_concat_neg _ _ _ (by simpa using hdot), fixed, if_neg hplaces, hdigits]
    simp

/-- The canonical text is that of a canonical number. -/
theorem exists_canonical (d : PlainDecimal) :
    ∃ r : PlainDecimal, r.Canonical ∧ r.value = d.value ∧ d.canonical = r.fixed := by
  by_cases hzero : d.coefficient = 0
  · refine ⟨⟨false, 0, 0⟩, ⟨.inl rfl, fun _ => ⟨rfl, rfl⟩⟩, ?_, ?_⟩
    · simp [value, hzero]
    · rw [canonical, if_pos hzero]
      decide
  · obtain ⟨r, k, hr, rfl⟩ := d.exists_reduced
    refine ⟨r, ⟨hr, fun h => absurd ?_ hzero⟩, (value_scale r k).symm, ?_⟩
    · simp [scale, h]
    · rw [canonical, if_neg hzero, trimmed_fixed_scale hr]

theorem abs_value (d : PlainDecimal) : |d.value| = d.coefficient / 10 ^ d.places := by
  have hnonneg : (0 : ℚ) ≤ d.coefficient / 10 ^ d.places := by positivity
  unfold value
  split
  · rw [neg_one_mul, abs_neg, abs_of_nonneg hnonneg]
  · rw [one_mul, abs_of_nonneg hnonneg]

theorem value_neg_iff {d : PlainDecimal} (h : d.coefficient ≠ 0) :
    d.value < 0 ↔ d.negative = true := by
  have hpos : (0 : ℚ) < d.coefficient / 10 ^ d.places := by positivity
  unfold value
  split
  case isTrue hnegative => simpa [hnegative] using hpos
  case isFalse hnegative => simpa [hnegative] using hpos.le

/-- The coefficients of equal numbers, at one scale. -/
theorem coefficient_eq_of_value_eq {d e : PlainDecimal} (h : d.value = e.value) :
    d.coefficient * 10 ^ e.places = e.coefficient * 10 ^ d.places := by
  have habs := congrArg abs h
  rw [abs_value, abs_value, div_eq_div_iff (by positivity) (by positivity)] at habs
  exact_mod_cast habs

/-- A reduced number has the fewest places. -/
theorem Reduced.places_le {d e : PlainDecimal} (h : d.Reduced)
    (heq : d.coefficient * 10 ^ e.places = e.coefficient * 10 ^ d.places) :
    d.places ≤ e.places := by
  by_contra hlt
  obtain ⟨k, hk⟩ := Nat.exists_eq_add_of_lt (Nat.lt_of_not_le hlt)
  have hpos : 0 < 10 ^ e.places := Nat.pow_pos (by decide)
  have hdvd : d.coefficient = e.coefficient * 10 ^ k * 10 := by
    refine Nat.eq_of_mul_eq_mul_right hpos (heq.trans ?_)
    rw [hk, Nat.pow_succ, Nat.pow_add]
    ring
  rcases h with h | h
  · omega
  · exact h ⟨_, hdvd.trans (Nat.mul_comm _ _)⟩

/-- A number has one canonical form. -/
theorem Canonical.eq_of_value_eq {d e : PlainDecimal} (hd : d.Canonical) (he : e.Canonical)
    (h : d.value = e.value) : d = e := by
  have hscaled := coefficient_eq_of_value_eq h
  have hplaces : d.places = e.places :=
    Nat.le_antisymm (hd.reduced.places_le hscaled) (he.reduced.places_le hscaled.symm)
  have hcoefficient : d.coefficient = e.coefficient := by
    rw [hplaces] at hscaled
    exact Nat.eq_of_mul_eq_mul_right (Nat.pow_pos (by decide)) hscaled
  have hnegative : d.negative = e.negative := by
    by_cases hzero : d.coefficient = 0
    · rw [(hd.unsigned hzero).2, (he.unsigned (hcoefficient ▸ hzero)).2]
    · rw [Bool.eq_iff_iff, ← value_neg_iff hzero, h, value_neg_iff (hcoefficient ▸ hzero)]
  obtain ⟨dn, dc, dp⟩ := d
  obtain ⟨en, ec, ep⟩ := e
  simp only at hplaces hcoefficient hnegative
  rw [hplaces, hcoefficient, hnegative]

theorem fixed_injective {d e : PlainDecimal} (h : d.fixed = e.fixed) : d = e :=
  Option.some.inj ((ofText_fixed d).symm.trans ((congrArg ofText h).trans (ofText_fixed e)))

/-- The canonical text is read as the number it was written for. -/
theorem ofText_canonical (d : PlainDecimal) :
    ∃ r : PlainDecimal, ofText d.canonical = some r ∧ r.value = d.value := by
  obtain ⟨r, -, hvalue, htext⟩ := d.exists_canonical
  exact ⟨r, htext ▸ ofText_fixed r, hvalue⟩

/-- All texts of a number have one canonical text, which is of no other number. -/
theorem canonical_eq_iff (d e : PlainDecimal) : d.canonical = e.canonical ↔ d.value = e.value := by
  obtain ⟨r, hr, hrvalue, hrtext⟩ := d.exists_canonical
  obtain ⟨t, ht, htvalue, httext⟩ := e.exists_canonical
  rw [hrtext, httext, ← hrvalue, ← htvalue]
  constructor
  · intro h
    rw [fixed_injective h]
  · intro h
    rw [hr.eq_of_value_eq ht h]

end PlainDecimal

end StockResearch
