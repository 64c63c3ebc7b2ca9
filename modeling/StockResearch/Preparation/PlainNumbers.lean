import StockResearch.Lib.PlainDecimal
import StockResearch.Preparation.DecimalText

/-!
# Plain decimals as numbers

A plain decimal, which is a text of digits with an optional sign and point, is read by
`Decimal` as the number it denotes, unless it has too many digits for any number.

- `numberOf_plain`: the digits of a text and of its fraction.
- `ofText_plain`: the whole text.
-/

namespace StockResearch.Preparation

/-! ## Texts without spaces -/

theorem dropWhile_eq_self {α : Type} {p : α → Bool} {xs : List α} (h : ∀ x ∈ xs, p x = false) :
    xs.dropWhile p = xs := by
  cases xs with
  | nil => rfl
  | cons x xs => rw [List.dropWhile_cons_of_neg (by simp [h x List.mem_cons_self])]

theorem strip_eq_self {text : String} (h : ∀ c ∈ text.toList, Sources.isSpace c = false) :
    Sources.strip text = text := by
  have hreverse : ∀ c ∈ text.toList.reverse, Sources.isSpace c = false :=
    fun c hc => h c (List.mem_reverse.mp hc)
  rw [Sources.strip, Sources.stripWhere, dropWhile_eq_self h, dropWhile_eq_self hreverse,
    List.reverse_reverse, String.ofList_toList]

/-- A visible character of ASCII. -/
def IsVisible (c : Char) : Prop := 33 ≤ c.toNat ∧ c.toNat ≤ 126 ∧ c ≠ '_'

theorem IsVisible.not_isSpace {c : Char} (h : IsVisible c) : Sources.isSpace c = false := by
  obtain ⟨hlow, hhigh, -⟩ := h
  simp only [Sources.isSpace, Bool.or_eq_false_iff, Bool.and_eq_false_iff, beq_eq_false_iff_ne,
    decide_eq_false_iff_not]
  omega

theorem IsVisible.asciiOf_eq {c : Char} (h : IsVisible c) : asciiOf c = some c := by
  obtain ⟨hlow, hhigh, -⟩ := h
  exact if_pos ⟨by omega, by omega⟩

theorem mapM_eq_self {α : Type} {f : α → Option α} {xs : List α} (h : ∀ x ∈ xs, f x = some x) :
    xs.mapM f = some xs := by
  induction xs with
  | nil => rfl
  | cons x xs ih =>
    obtain ⟨hx, hxs⟩ := List.forall_mem_cons.mp h
    rw [List.mapM_cons, hx, ih hxs]
    rfl

theorem asciiDecimal_eq {text : String} (h : ∀ c ∈ text.toList, IsVisible c) :
    asciiDecimal text = some text.toList := by
  have hfilter : text.toList.filter (· ≠ '_') = text.toList :=
    List.filter_eq_self.mpr fun c hc => decide_eq_true (h c hc).2.2
  rw [asciiDecimal, strip_eq_self fun c hc => (h c hc).not_isSpace, hfilter]
  exact mapM_eq_self fun c hc => (h c hc).asciiOf_eq

/-! ## Signs and digits -/

theorem toNat_of_isDigit {c : Char} (h : c.isDigit = true) : 48 ≤ c.toNat ∧ c.toNat ≤ 57 := by
  simp only [Char.isDigit, Bool.and_eq_true, decide_eq_true_eq, ge_iff_le] at h
  obtain ⟨hlow, hhigh⟩ := h
  rw [UInt32.le_iff_toNat_le] at hlow hhigh
  exact ⟨hlow, hhigh⟩

theorem isVisible_of_isDigit {c : Char} (h : c.isDigit = true) : IsVisible c := by
  obtain ⟨hlow, hhigh⟩ := toNat_of_isDigit h
  refine ⟨by omega, by omega, ?_⟩
  rintro rfl
  exact absurd hhigh (by decide)

theorem toLower_of_isDigit {c : Char} (h : c.isDigit = true) : c.toLower = c := by
  obtain ⟨hlow, hhigh⟩ := toNat_of_isDigit h
  unfold Char.toLower
  split
  · rename_i hupper
    have hupper' : 65 ≤ c.toNat := UInt32.le_iff_toNat_le.mp hupper.1
    omega
  · rfl

theorem valueOf_eq (digits : List Char) : valueOf digits = digitsValue digits := rfl

/-- The number of digits and of a fraction, if it is one at all. -/
theorem numberOf_plain {number whole fraction : List Char}
    (hwhole : ∀ c ∈ whole, c.isDigit = true) (hfraction : ∀ c ∈ fraction, c.isDigit = true)
    (hne : whole ++ fraction ≠ [])
    (hnumber : number = whole ∧ fraction = [] ∨ number = whole ++ '.' :: fraction) :
    numberOf number = none ∨
      numberOf number =
        some ((digitsValue (whole ++ fraction) : ℚ) / 10 ^ fraction.length) := by
  have hpower : ((10 : ℚ) ^ (0 - (fraction.length : Int))) = 1 / 10 ^ fraction.length := by
    rw [zero_sub, zpow_neg, zpow_natCast, one_div]
  -- without an exponent the number is read as its digits
  have hresult : numberOf number = (do
      guard (whole ++ fraction ≠ [])
      let exponent ← exponentOf []
      let last : Int := exponent - fraction.length
      guard (fitsExponent (whole ++ fraction) last)
      pure (valueOf (whole ++ fraction) * (10 : ℚ) ^ last)) := by
    rcases hnumber with ⟨rfl, rfl⟩ | rfl
    · have htake := List.takeWhile_eq_self_iff.mpr hwhole
      have hdrop := List.dropWhile_eq_nil_iff.mpr hwhole
      rw [numberOf]
      simp [htake, hdrop]
    · have hpoint : ¬ ('.' : Char).isDigit = true := by decide
      have htake : (whole ++ '.' :: fraction).takeWhile Char.isDigit = whole := by
        rw [List.takeWhile_append_of_pos hwhole, List.takeWhile_cons_of_neg hpoint,
          List.append_nil]
      have hdrop : (whole ++ '.' :: fraction).dropWhile Char.isDigit = '.' :: fraction := by
        rw [List.dropWhile_append_of_pos hwhole, List.dropWhile_cons_of_neg hpoint]
      have htake' := List.takeWhile_eq_self_iff.mpr hfraction
      have hdrop' := List.dropWhile_eq_nil_iff.mpr hfraction
      rw [numberOf]
      simp [htake, hdrop, htake', hdrop']
  rw [hresult]
  simp only [guard, if_pos hne]
  -- what is left is the check of the exponent
  cases hfits : fitsExponent (whole ++ fraction) (0 - (fraction.length : Int)) with
  | false =>
    left
    show (if fitsExponent (whole ++ fraction) (0 - (fraction.length : Int)) = true then
      some () else none).bind _ = none
    rw [hfits]
    rfl
  | true =>
    right
    show (if fitsExponent (whole ++ fraction) (0 - (fraction.length : Int)) = true then
      some () else none).bind _ = _
    rw [hfits, if_pos rfl, Option.bind_some, hpower, valueOf_eq, mul_one_div]
    rfl

/-- The sign of a text, as `Decimal` reads it. -/
theorem signOf_eq (text : List Char) :
    signOf text = (if (PlainDecimal.signOf text).1 then -1 else 1, (PlainDecimal.signOf text).2) := by
  unfold signOf
  split
  · rfl
  · rfl
  · rename_i hplus hminus
    have hsign : PlainDecimal.signOf text = (false, text) := by
      unfold PlainDecimal.signOf
      split
      · exact absurd rfl (hplus _)
      · exact absurd rfl (hminus _)
      · rfl
    rw [hsign]
    rfl

theorem mem_of_signOf {text : List Char} {c : Char} (h : c ∈ text) :
    c = '+' ∨ c = '-' ∨ c ∈ (PlainDecimal.signOf text).2 := by
  unfold PlainDecimal.signOf
  split
  · rcases List.mem_cons.mp h with rfl | h
    · exact .inl rfl
    · exact .inr (.inr h)
  · rcases List.mem_cons.mp h with rfl | h
    · exact .inr (.inl rfl)
    · exact .inr (.inr h)
  · exact .inr (.inr h)

/-- A plain decimal is read as the number it denotes, or it has too many digits. -/
theorem ofText_plain {text : String} {d : PlainDecimal}
    (h : PlainDecimal.ofText text.toList = some d) :
    PyDecimal.ofText text = none ∨ PyDecimal.ofText text = some (.finite d.value) := by
  obtain ⟨whole, fraction, hwhole, hfraction, hne, hnumber, hd⟩ := PlainDecimal.ofText_eq_some h
  have hmem : ∀ c ∈ (PlainDecimal.signOf text.toList).2, c.isDigit = true ∨ c = '.' := by
    intro c hc
    rcases hnumber with ⟨heq, -⟩ | heq
    · exact .inl (hwhole c (heq ▸ hc))
    · rw [heq] at hc
      rcases List.mem_append.mp hc with hc | hc
      · exact .inl (hwhole c hc)
      rcases List.mem_cons.mp hc with rfl | hc
      · exact .inr rfl
      · exact .inl (hfraction c hc)
  -- there is no space or underscore to remove
  have hvisible : ∀ c ∈ text.toList, IsVisible c := by
    intro c hc
    rcases mem_of_signOf hc with rfl | rfl | hc
    · exact ⟨by decide, by decide, by decide⟩
    · exact ⟨by decide, by decide, by decide⟩
    rcases hmem c hc with hdigit | rfl
    · exact isVisible_of_isDigit hdigit
    · exact ⟨by decide, by decide, by decide⟩
  obtain ⟨c, rest, hrest⟩ : ∃ c rest, (PlainDecimal.signOf text.toList).2 = c :: rest := by
    refine List.exists_cons_of_ne_nil fun hnil => ?_
    rcases hnumber with ⟨heq, hempty⟩ | heq
    · rw [hnil] at heq
      exact hne (by rw [← heq, hempty]; rfl)
    · rw [hnil] at heq
      exact List.append_ne_nil_of_right_ne_nil _ (List.cons_ne_nil _ _) heq.symm
  -- and no letter, so it is neither infinite nor a NaN
  have hletter : ∀ letter : Char, letter.toNat ∈ [105, 110, 115] → c.toLower ≠ letter := by
    intro letter hletter heq
    have hc := hmem c (hrest ▸ List.mem_cons_self)
    rcases hc with hdigit | rfl
    · rw [toLower_of_isDigit hdigit] at heq
      obtain ⟨-, hhigh⟩ := toNat_of_isDigit hdigit
      rw [heq] at hhigh
      simp only [List.mem_cons, List.not_mem_nil, or_false] at hletter
      omega
    · rw [← heq] at hletter
      exact absurd hletter (by decide)
  have hinfinite : ¬ ((c :: rest).map Char.toLower = "inf".toList ∨
      (c :: rest).map Char.toLower = "infinity".toList) := by
    rintro (h | h)
    · exact hletter 'i' (by decide) (List.cons.inj h).1
    · exact hletter 'i' (by decide) (List.cons.inj h).1
  have hnan : isNaN ((c :: rest).map Char.toLower) = false := by
    have hs : ¬ ((c :: rest).map Char.toLower).head? = some 's' := fun h =>
      hletter 's' (by decide) (Option.some.inj h)
    rw [isNaN, if_neg hs]
    refine decide_eq_false fun h => ?_
    have hprefix := List.isPrefixOf_iff_prefix.mp h.1
    exact hletter 'n' (by decide) (List.cons_prefix_cons.mp hprefix).1.symm
  have hread : PyDecimal.ofText text = (numberOf (c :: rest)).bind fun value =>
      some (.finite (((if (PlainDecimal.signOf text.toList).1 then -1 else 1 : Int) : ℚ) * value)) := by
    simp only [PyDecimal.ofText, asciiDecimal_eq hvisible, Option.bind_eq_bind, Option.bind_some,
      signOf_eq, hrest, if_neg hinfinite, hnan, Bool.false_eq_true, if_false]
    rfl
  rw [hrest] at hnumber
  rcases numberOf_plain hwhole hfraction hne hnumber with hnone | hsome
  · exact .inl (by rw [hread, hnone]; rfl)
  · right
    rw [hread, hsome, Option.bind_some, hd, PlainDecimal.value]
    cases (PlainDecimal.signOf text.toList).1 <;> simp

end StockResearch.Preparation
