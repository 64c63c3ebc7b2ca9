import Mathlib.Data.List.Basic
import Mathlib.Data.Nat.Find
import Mathlib.Data.String.Basic
import Mathlib.Tactic.Common

/-!
# Lexicographic order of fixed-width decimal text

Why the text of a fixed-width, most-significant-first rendering sorts like the
number it renders: digits of equal width compare like their values
(`decimal_lt_iff`), blocks of equal width compare block by block
(`append_lt_append_iff`), and splitting a number at a growing sequence of
thresholds is monotone (`block_lt`).
-/

namespace StockResearch

namespace Lex

/-- Lists with prefixes of one length compare by the prefix, then by the rest. -/
theorem append_lt_append_iff {α : Type} [LT α] :
    ∀ {a b : List α} {s t : List α}, a.length = b.length →
      (∀ x : α, ¬ x < x) → (a ++ s < b ++ t ↔ a < b ∨ a = b ∧ s < t)
  | [], [], s, t, _, _ => by simp
  | x :: xs, y :: ys, s, t, h, hirr => by
    rw [List.cons_append, List.cons_append, List.cons_lt_cons_iff, List.cons_lt_cons_iff,
      append_lt_append_iff (Nat.succ.inj h) hirr, List.cons.injEq]
    constructor
    · rintro (hlt | ⟨rfl, hlt | ⟨rfl, hst⟩⟩)
      · exact .inl (.inl hlt)
      · exact .inl (.inr ⟨rfl, hlt⟩)
      · exact .inr ⟨⟨rfl, rfl⟩, hst⟩
    · rintro ((hlt | ⟨rfl, hlt⟩) | ⟨⟨rfl, rfl⟩, hst⟩)
      · exact .inl hlt
      · exact .inr ⟨rfl, .inl hlt⟩
      · exact .inr ⟨rfl, .inr ⟨rfl, hst⟩⟩

/-! ## Decimal digits -/

/-- The character of one decimal digit. -/
def digit (d : Nat) : Char := Char.ofNat (48 + d)

theorem digit_lt_iff {d e : Nat} (hd : d < 10) (he : e < 10) : digit d < digit e ↔ d < e :=
  (by decide : ∀ d < 10, ∀ e < 10, (digit d < digit e ↔ d < e)) d hd e he

theorem digit_inj {d e : Nat} (hd : d < 10) (he : e < 10) (h : digit d = digit e) : d = e := by
  rcases Nat.lt_trichotomy d e with hlt | heq | hlt
  · exact absurd ((digit_lt_iff hd he).mpr hlt) (h ▸ lt_irrefl _)
  · exact heq
  · exact absurd ((digit_lt_iff he hd).mpr hlt) (h ▸ lt_irrefl _)

/-- `n` in decimal, zero-padded to `width` digits. -/
def decimal : Nat → Nat → List Char
  | 0, _ => []
  | width + 1, n => decimal width (n / 10) ++ [digit (n % 10)]

@[simp] theorem length_decimal (width n : Nat) : (decimal width n).length = width := by
  induction width generalizing n with
  | zero => rfl
  | succ width ih => simp [decimal, ih]

theorem decimal_inj {width n m : Nat} (hn : n < 10 ^ width) (hm : m < 10 ^ width)
    (h : decimal width n = decimal width m) : n = m := by
  induction width generalizing n m with
  | zero => simp only [Nat.pow_zero] at hn hm; omega
  | succ width ih =>
    rw [Nat.pow_succ] at hn hm
    obtain ⟨hinit, hlast⟩ := List.append_inj' h rfl
    have hdiv : n / 10 = m / 10 := ih (by omega) (by omega) hinit
    have hmod : n % 10 = m % 10 :=
      digit_inj (Nat.mod_lt _ (by decide)) (Nat.mod_lt _ (by decide)) (by simpa using hlast)
    omega

/-- Digits of equal width compare like the numbers they render. -/
theorem decimal_lt_iff {width n m : Nat} (hn : n < 10 ^ width) (hm : m < 10 ^ width) :
    decimal width n < decimal width m ↔ n < m := by
  induction width generalizing n m with
  | zero => simp only [Nat.pow_zero] at hn hm; simp [decimal]; omega
  | succ width ih =>
    rw [Nat.pow_succ] at hn hm
    have hn' : n / 10 < 10 ^ width := by omega
    have hm' : m / 10 < 10 ^ width := by omega
    have hdigit : ([digit (n % 10)] < [digit (m % 10)]) ↔ n % 10 < m % 10 := by
      rw [List.cons_lt_cons_iff, digit_lt_iff (Nat.mod_lt _ (by decide)) (Nat.mod_lt _ (by decide))]
      simp
    have heq : decimal width (n / 10) = decimal width (m / 10) ↔ n / 10 = m / 10 :=
      ⟨decimal_inj hn' hm', fun h => by rw [h]⟩
    rw [decimal, decimal, append_lt_append_iff (by simp) (fun x => lt_irrefl x), ih hn' hm', heq,
      hdigit]
    omega

/-! ## Blocks of a threshold sequence -/

/-- The last index up to `bound` whose threshold is at most `n`. -/
def block (f : Nat → Nat) (bound n : Nat) : Nat := Nat.findGreatest (fun i => f i ≤ n) bound

theorem block_le (f : Nat → Nat) (bound n : Nat) : block f bound n ≤ bound :=
  Nat.findGreatest_le bound

/-- The threshold of `n`'s block is at most `n`. -/
theorem threshold_block_le {f : Nat → Nat} (bound n : Nat) (h0 : f 0 = 0) :
    f (block f bound n) ≤ n :=
  Nat.findGreatest_spec (P := fun i => f i ≤ n) (Nat.zero_le bound) (by rw [h0]; exact Nat.zero_le n)

/-- Below the bound, the next threshold is already past `n`. -/
theorem lt_threshold_succ (f : Nat → Nat) (bound n : Nat) (h : block f bound n < bound) :
    n < f (block f bound n + 1) :=
  Nat.lt_of_not_le (Nat.findGreatest_is_greatest (P := fun i => f i ≤ n) (Nat.lt_succ_self _) h)

/-- A larger number lies in a later block, or deeper in the same one. -/
theorem block_lt {f : Nat → Nat} {b b' n n' : Nat} (h0 : f 0 = 0) (hb : b ≤ b') (h : n < n') :
    block f b n < block f b' n' ∨
      block f b n = block f b' n' ∧ n - f (block f b n) < n' - f (block f b' n') := by
  have hmono : block f b n ≤ block f b' n' :=
    Nat.findGreatest_mono (fun i hi => Nat.le_trans hi (Nat.le_of_lt h)) hb
  rcases Nat.lt_or_eq_of_le hmono with hlt | heq
  · exact .inl hlt
  · refine .inr ⟨heq, ?_⟩
    have := threshold_block_le b n h0
    rw [← heq]
    omega

end Lex

end StockResearch
