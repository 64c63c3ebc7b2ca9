import StockResearch.Preparation.FinancialCandidates
import StockResearch.Preparation.FinancialMapping

/-!
# Adoption of values

A metric has a value if the taxonomy of the filing proves its concept, and if the facts that
were found comparable are of that concept and agree. The value is written in one way, however
the filing spells it.

- `decimalOf`: `Decimal(value)` of a plain decimal.
- `adoptMetric`: `adopt_metric`.
- `IsAdopted`: what is proved of a value.
- `adoption_exact`: a value is accepted exactly when it is, and how it is written.
-/

namespace StockResearch.Preparation

open Sources

/-! ## The code -/

/-- `AcceptedFactReference` -/
structure AcceptedFactReference where
  ordinal : Nat
  member : String
  contextId : String
  unitId : String
  decimals : Option String
  precision : Option String
deriving DecidableEq

/-- `FinancialValue`, with what coverage does not read of it -/
structure AdoptedValue extends FinancialValue where
  concept : Option EdinetXbrlQName
  references : List AcceptedFactReference
  reasons : List String
deriving DecidableEq

/-- `Decimal(value)`, of the text of a comparable fact. Only plain decimals arrive: `_number`
refuses every other text, also those `Decimal` would read (`1e5`), and a nil fact has none. -/
def decimalOf (value : String) : Except PyException PlainDecimal := do
  let number ← fetch (PlainDecimal.ofText value.toList) .invalidOperation
  require (PyDecimal.ofText value ≠ none) .invalidOperation
  pure number

/-- `by_ordinal[ordinal]`: of equal ordinals the last one stands. -/
def factOf (facts : FactSetFields) (ordinal : Nat) : Option EdinetXbrlFactCandidate :=
  (facts.facts.filter (·.1.ordinal = ordinal)).getLast?

/-- `AcceptedFactReference(...)` -/
def referenceOf (fact : EdinetXbrlFactCandidate) : AcceptedFactReference where
  ordinal := fact.1.ordinal
  member := fact.1.sourceMemberPath
  contextId := fact.1.contextRef
  unitId := fact.1.unitRef.getD ""
  decimals := fact.1.decimals
  precision := fact.1.precision

/-- The period type of a metric. -/
def Metric.periodType (metric : Metric) : PeriodType :=
  if metric.isInstant then .instant else .duration

/-- The size of the set of some numbers: equal numbers are one, however they are written. -/
def distinctCount (numbers : List PlainDecimal) : Nat :=
  (numbers.map PlainDecimal.value).dedup.length

/-- The reasons not to adopt a value. -/
def adoptionReasons (review : MetricReview) (proof : TaxonomyProof)
    (selected : List EdinetXbrlFactCandidate) (numbers : List PlainDecimal) : List String :=
  proof.reasons ++
    reasonUnless (proof.verified = true) "taxonomy_proof_unresolved" ++
    reasonUnless (proof.periodType = some review.metric.periodType)
      "taxonomy_period_type_mismatch" ++
    reasonUnless (review.status ∈ [ReviewStatus.candidate, .duplicate])
      ("candidate_" ++ review.status.text) ++
    reasonUnless (review.comparableOrdinals ≠ []) "no_comparable_facts" ++
    reasonUnless (∀ fact ∈ selected, some (conceptOf fact) = proof.concept)
      "taxonomy_fact_concept_mismatch" ++
    reasonUnless (distinctCount numbers = 1 ∧ ∀ fact ∈ selected, fact.1.isNil = false)
      "no_unique_numeric_value"

/-- `FinancialValue(...)` -/
def financialValue (review : MetricReview) (proof : TaxonomyProof) (startDate endDate : Date)
    (selected : List EdinetXbrlFactCandidate) (numbers : List PlainDecimal) : AdoptedValue :=
  let reasons := adoptionReasons review proof selected numbers
  { metric := review.metric
    status := if reasons = [] then .accepted else .unaccepted
    value := if reasons = [] then
        numbers.head?.map fun number => String.ofList number.canonical
      else none
    currency := .jpy
    scope := .consolidated
    concept := proof.concept
    startDate := if review.metric.periodType = .duration then some startDate else none
    endDate
    references := selected.map referenceOf
    reasons := sortedSet reasons }

/-- `adopt_metric` -/
def adoptMetric (facts : FactSetFields) (review : MetricReview) (proof : TaxonomyProof)
    (startDate endDate : Date) : Except PyException AdoptedValue := do
  let selected ← review.comparableOrdinals.mapM fun ordinal => fetch (factOf facts ordinal) .keyError
  let numbers ← (selected.filterMap (·.1.value)).mapM decimalOf
  pure (financialValue review proof startDate endDate selected numbers)

/-! ## What is adopted -/

/-- The value of some facts, by the proof of a taxonomy. -/
structure IsAdopted (selected : List EdinetXbrlFactCandidate) (metric : Metric)
    (proof : TaxonomyProof) (value : ℚ) : Prop where
  verified : proof.verified = true
  reasons : proof.reasons = []
  periodType : proof.periodType = some metric.periodType
  some_fact : selected ≠ []
  concept : ∀ fact ∈ selected, proof.concept = some (conceptOf fact)
  agree : ∀ fact ∈ selected, ∃ text number, fact.1.value = some text ∧
    PlainDecimal.ofText text.toList = some number ∧ number.value = value

/-- A fact with a number has a text that is a plain decimal, and that `Decimal` reads. -/
theorem numberOfFact_eq_some {fact : EdinetXbrlFactCandidate} {value : ℚ}
    (h : numberOfFact fact = some value) : fact.1.isNil = false ∧ ∃ text number,
      fact.1.value = some text ∧ PlainDecimal.ofText text.toList = some number ∧
        decimalOf text = .ok number ∧ number.value = value := by
  unfold numberOfFact at h
  split at h
  · cases h
  rename_i hnil
  obtain ⟨text, htext, h⟩ := Option.bind_eq_some_iff.mp h
  obtain ⟨⟨⟩, hguard, h⟩ := Option.bind_eq_some_iff.mp h
  obtain ⟨number, hnumber⟩ := Option.isSome_iff_exists.mp ((Option.guard_eq_some' _).mp hguard)
  refine ⟨Bool.eq_false_iff.mpr hnil, text, number, htext, hnumber, ?_⟩
  rcases ofText_plain hnumber with hnone | hsome
  · rw [hnone] at h
    cases h
  · rw [hsome] at h
    refine ⟨?_, Option.some.inj h⟩
    have hread : PyDecimal.ofText text ≠ none := by
      rw [hsome]
      exact Option.some_ne_none _
    exact bind_eq_ok.mpr ⟨number, fetch_eq_ok.mpr hnumber,
      bind_eq_ok.mpr ⟨(), require_eq_ok.mpr hread, rfl⟩⟩

/-- A fact without a number, of those that are compared, is nil and has no value. -/
theorem value_eq_none {fact : EdinetXbrlFactCandidate} (h : fact.1.isNil = true) :
    fact.1.value = none := by
  have hvalid := fact.2.2.2.2
  rw [h] at hvalid
  exact Option.isNone_iff_eq_none.mp hvalid.symm

variable {facts : FactSetFields} {rule : MappingRule} {proposal : MappingProposal}
  {expectedCode : Option String} {filingReasons : List String}

theorem factOf_eq_some (hresolved : IsResolved facts.contexts facts.units facts.facts)
    {ordinal : Nat} {fact : EdinetXbrlFactCandidate} :
    factOf facts ordinal = some fact ↔ fact ∈ facts.facts ∧ fact.1.ordinal = ordinal := by
  have hnodup : (facts.facts.map (·.1.ordinal)).Nodup := by
    rw [hresolved.ordinals]
    exact List.nodup_range'
  exact getLast?_filter_eq_some hnodup

/-- The ordinals of facts give them back. -/
theorem mapM_factOf (hresolved : IsResolved facts.contexts facts.units facts.facts)
    {selected : List EdinetXbrlFactCandidate} (h : selected.Sublist facts.facts) :
    (selected.map (·.1.ordinal)).mapM (fun ordinal =>
      fetch (factOf facts ordinal) PyException.keyError) = .ok selected := by
  rw [mapM_eq_ok, List.forall₂_map_left_iff, List.forall₂_same]
  intro fact hfact
  rw [fetch_eq_ok, factOf_eq_some hresolved]
  exact ⟨h.subset hfact, rfl⟩

/-- The numbers of comparable facts are read: none of them raises. -/
theorem exists_numbers {selected : List EdinetXbrlFactCandidate}
    (h : ∀ fact ∈ selected, fact.1.isNil = true ∨ numberOfFact fact ≠ none) :
    ∃ numbers, (selected.filterMap (·.1.value)).mapM decimalOf = .ok numbers ∧
      numbers.map PlainDecimal.value = selected.filterMap numberOfFact := by
  let text? : EdinetXbrlFactCandidate → Option String := fun fact => fact.1.value
  induction selected with
  | nil => exact ⟨[], rfl, rfl⟩
  | cons fact selected ih =>
    obtain ⟨hfact, hrest⟩ := List.forall_mem_cons.mp h
    obtain ⟨numbers, hrun, hvalues⟩ := ih hrest
    cases hnumber : numberOfFact fact with
    | none =>
      have hnil := hfact.resolve_right (fun hne => hne hnumber)
      rw [List.filterMap_cons_none (f := text?) (value_eq_none hnil),
        List.filterMap_cons_none hnumber]
      exact ⟨numbers, hrun, hvalues⟩
    | some value =>
      obtain ⟨-, text, number, htext, -, hdecimal, hvalue⟩ := numberOfFact_eq_some hnumber
      rw [List.filterMap_cons_some (f := text?) htext, List.filterMap_cons_some hnumber,
        List.mapM_cons, hdecimal, ok_bind, hrun, ok_bind]
      exact ⟨number :: numbers, rfl, by rw [List.map_cons, hvalues, hvalue]⟩

/-- The numbers of a review are those of its facts. -/
theorem numbers_of_reviews {selected : List EdinetXbrlFactCandidate}
    {comparable : List ReviewedFact}
    (h : List.Forall₂ (Reviews facts rule proposal expectedCode filingReasons) selected comparable) :
    comparable.filterMap (·.number) = selected.filterMap numberOfFact := by
  induction h with
  | nil => rfl
  | cons hfact _ ih => rw [List.filterMap_cons, List.filterMap_cons, hfact.number, ih]

/-- Numbers that are one, and are some. -/
theorem dedup_length_eq_one {α : Type} [DecidableEq α] {xs : List α} :
    xs.dedup.length = 1 ↔ ∃ x, xs ≠ [] ∧ ∀ y ∈ xs, y = x := by
  cases xs with
  | nil =>
    constructor
    · intro h
      cases h
    · rintro ⟨-, h, -⟩
      exact absurd rfl h
  | cons x xs =>
    rw [dedup_length_eq_one_iff]
    constructor
    · intro h
      refine ⟨x, List.cons_ne_nil x xs, fun y hy => ?_⟩
      rcases List.mem_cons.mp hy with rfl | hy
      · rfl
      · exact h y hy
    · rintro ⟨z, -, h⟩ y hy
      rw [h y (List.mem_cons_of_mem _ hy), h x List.mem_cons_self]

/-- Facts that agree have one number, and none of them is nil. -/
theorem IsAdopted.numbers {selected : List EdinetXbrlFactCandidate} {metric : Metric}
    {proof : TaxonomyProof} {value : ℚ} (h : IsAdopted selected metric proof value)
    (hnumbers : ∀ fact ∈ selected, fact.1.isNil = true ∨ numberOfFact fact ≠ none) :
    (∀ fact ∈ selected, fact.1.isNil = false) ∧ selected.filterMap numberOfFact ≠ [] ∧
      ∀ number ∈ selected.filterMap numberOfFact, number = value := by
  have hnotNil : ∀ fact ∈ selected, fact.1.isNil = false := by
    intro fact hfact
    obtain ⟨text, number, htext, -⟩ := h.agree fact hfact
    cases hnil : fact.1.isNil with
    | false => rfl
    | true =>
      rw [value_eq_none hnil] at htext
      cases htext
  -- every fact has the one number
  have hsome : ∀ fact ∈ selected, numberOfFact fact = some value := by
    intro fact hfact
    have hne := (hnumbers fact hfact).resolve_left (by rw [hnotNil fact hfact]; decide)
    obtain ⟨found, hfound⟩ := Option.ne_none_iff_exists'.mp hne
    obtain ⟨text, number, htext, hnumber, hvalue⟩ := h.agree fact hfact
    obtain ⟨-, text', number', htext', hnumber', -, hvalue'⟩ := numberOfFact_eq_some hfound
    obtain rfl := Option.some.inj (htext.symm.trans htext')
    obtain rfl := Option.some.inj (hnumber.symm.trans hnumber')
    rw [hfound, ← hvalue, ← hvalue']
  refine ⟨hnotNil, ?_, ?_⟩
  · obtain ⟨fact, rest, hselected⟩ := List.exists_cons_of_ne_nil h.some_fact
    have hfact := hsome fact (hselected ▸ List.mem_cons_self)
    exact List.ne_nil_of_mem (List.mem_filterMap.mpr
      ⟨fact, hselected ▸ List.mem_cons_self, hfact⟩)
  · intro number hnumber
    obtain ⟨fact, hfact, heq⟩ := List.mem_filterMap.mp hnumber
    exact Option.some.inj (heq.symm.trans (hsome fact hfact))

/-- The status of facts that agree lets them be adopted. -/
theorem statusOf_of_agree {reviewed comparable : List ReviewedFact}
    (hsub : comparable.Sublist reviewed) (hne : comparable ≠ [])
    (hnil : ∀ r ∈ comparable, r.candidate.isNil = false)
    (hone : (comparable.filterMap (·.number)).dedup.length = 1) :
    statusOf reviewed comparable ∈ [ReviewStatus.candidate, .duplicate] := by
  have hreviewed : reviewed ≠ [] := by
    rintro rfl
    exact hne (List.sublist_nil.mp hsub)
  have hcount : (comparable.filter (·.candidate.isNil)).length = 0 := by
    rw [List.length_eq_zero_iff, List.filter_eq_nil_iff]
    intro r hr
    rw [hnil r hr]
    exact Bool.false_ne_true
  have hconflict : ¬ ((comparable.filter (·.candidate.isNil)).length ≠ 0 ∧
      comparable.filterMap (·.number) ≠ [] ∨
        1 < (comparable.filterMap (·.number)).dedup.length) := by
    rintro (⟨hsome, -⟩ | hmany)
    · exact hsome hcount
    · omega
  simp only [statusOf]
  rw [if_neg hreviewed, if_neg hne, if_neg hconflict, if_neg (not_not.mpr hcount)]
  split <;> decide

/-- The reasons, one by one. -/
theorem adoptionReasons_eq_nil {review : MetricReview} {proof : TaxonomyProof}
    {selected : List EdinetXbrlFactCandidate} {numbers : List PlainDecimal} :
    adoptionReasons review proof selected numbers = [] ↔
      proof.reasons = [] ∧ proof.verified = true ∧
        proof.periodType = some review.metric.periodType ∧
        review.status ∈ [ReviewStatus.candidate, .duplicate] ∧ review.comparableOrdinals ≠ [] ∧
        (∀ fact ∈ selected, some (conceptOf fact) = proof.concept) ∧
        distinctCount numbers = 1 ∧ ∀ fact ∈ selected, fact.1.isNil = false := by
  simp only [adoptionReasons, List.append_eq_nil_iff, reasonUnless_eq_nil, and_assoc]

/-- The review of a metric, and the adoption of its value, do not raise on the facts of a filing.
A value is accepted exactly when the taxonomy proves its concept and its period type, and the
comparable facts are some, all are of this concept, none is nil, and all spell one number. The
references are those of exactly these facts, and the value is the canonical text of the number:
all spellings of a number are adopted as one text, and different numbers as different texts. -/
theorem adoption_exact (hresolved : IsResolved facts.contexts facts.units facts.facts)
    (rule : MappingRule) (proposal : MappingProposal) (expectedCode : Option String)
    (filingReasons : List String) (proof : TaxonomyProof) (startDate endDate : Date) :
    ∃ review value selected,
      reviewMetric facts rule proposal expectedCode filingReasons = .ok review ∧
        adoptMetric facts review proof startDate endDate = .ok value ∧
        selected.Sublist facts.facts ∧
        (∀ fact ∈ facts.facts, fact ∈ selected ↔
          IsComparable facts rule proposal expectedCode filingReasons fact) ∧
        value.references = selected.map referenceOf ∧
        (value.status = .accepted ↔ ∃ number, IsAdopted selected rule.metric proof number) ∧
        (value.status = .unaccepted → value.value = none) ∧
        ∀ number, IsAdopted selected rule.metric proof number →
          ∃ text, value.value = some text ∧
            (∃ d, PlainDecimal.ofText text.toList = some d ∧ d.value = number) ∧
            ∀ d : PlainDecimal, d.value = number ↔ String.ofList d.canonical = text := by
  obtain ⟨review, reviewed, comparable, selected, hreview, hmetric, hstatus, hsub, hordinals,
    hselected, hmem, hreviews⟩ :=
      exists_reviewMetric hresolved rule proposal expectedCode filingReasons
  -- a comparable fact is nil or a number
  have hcomparable : ∀ fact ∈ selected, fact.1.isNil = true ∨ numberOfFact fact ≠ none :=
    fun fact hfact => ((hmem fact (hselected.subset hfact)).mp hfact).number
  obtain ⟨numbers, hnumbers, hvalues⟩ := exists_numbers hcomparable
  have hadopt : adoptMetric facts review proof startDate endDate =
      .ok (financialValue review proof startDate endDate selected numbers) := by
    rw [adoptMetric, hordinals]
    exact bind_eq_ok.mpr ⟨selected, mapM_factOf hresolved hselected,
      bind_eq_ok.mpr ⟨numbers, hnumbers, rfl⟩⟩
  have hcount : distinctCount numbers = (selected.filterMap numberOfFact).dedup.length := by
    rw [distinctCount, hvalues]
  have hlength := hreviews.length_eq
  -- no reason is left exactly when the value is adopted
  have hiff : adoptionReasons review proof selected numbers = [] ↔
      ∃ number, IsAdopted selected rule.metric proof number := by
    rw [adoptionReasons_eq_nil, hmetric, hcount, dedup_length_eq_one]
    constructor
    · rintro ⟨hreasons, hverified, hperiod, -, hsome, hconcept, ⟨number, -, hone⟩, hnil⟩
      refine ⟨number, hverified, hreasons, hperiod, ?_, fun fact hfact =>
        (hconcept fact hfact).symm, fun fact hfact => ?_⟩
      · rintro rfl
        exact hsome hordinals
      · have hne := (hcomparable fact hfact).resolve_left (by rw [hnil fact hfact]; decide)
        obtain ⟨found, hfound⟩ := Option.ne_none_iff_exists'.mp hne
        obtain ⟨-, text, d, htext, hd, -, hvalue⟩ := numberOfFact_eq_some hfound
        refine ⟨text, d, htext, hd, hvalue.trans ?_⟩
        exact hone found (List.mem_filterMap.mpr ⟨fact, hfact, hfound⟩)
    · rintro ⟨number, hadopted⟩
      obtain ⟨hnil, hne, hone⟩ := hadopted.numbers hcomparable
      have hsome : comparable ≠ [] := by
        rintro rfl
        exact hadopted.some_fact (List.eq_nil_of_length_eq_zero hlength)
      refine ⟨hadopted.reasons, hadopted.verified, hadopted.periodType, ?_, ?_, fun fact hfact =>
        (hadopted.concept fact hfact).symm, ⟨number, hne, hone⟩, hnil⟩
      · rw [hstatus]
        refine statusOf_of_agree hsub hsome (fun r hr => ?_) ?_
        · obtain ⟨fact, hfact, hr⟩ := exists_left_of_mem hreviews hr
          rw [hr.isNil, hnil fact hfact]
        · rw [numbers_of_reviews hreviews]
          exact dedup_length_eq_one.mpr ⟨number, hne, hone⟩
      · rw [hordinals]
        exact fun h => hadopted.some_fact (List.map_eq_nil_iff.mp h)
  refine ⟨review, _, selected, hreview, hadopt, hselected, hmem, rfl, ?_, ?_, ?_⟩
  · rw [← hiff]
    simp only [financialValue]
    split
    · rename_i h
      exact ⟨fun _ => h, fun _ => rfl⟩
    · rename_i h
      constructor
      · rintro ⟨⟩
      · exact fun heq => absurd heq h
  · intro hunaccepted
    simp only [financialValue] at hunaccepted ⊢
    split at hunaccepted
    · cases hunaccepted
    · rename_i h
      exact if_neg h
  · -- the canonical text is that of the first number, as of every other
    intro number hadopted
    obtain ⟨-, hne, hone⟩ := hadopted.numbers hcomparable
    obtain ⟨d, rest, hd⟩ : ∃ d rest, numbers = d :: rest := by
      refine List.exists_cons_of_ne_nil fun hnil => hne ?_
      rw [← hvalues, hnil]
      rfl
    have hvalue : d.value = number := by
      refine hone _ ?_
      rw [← hvalues, hd]
      exact List.mem_cons_self
    obtain ⟨r, hr, hrvalue⟩ := PlainDecimal.ofText_canonical d
    refine ⟨String.ofList d.canonical, ?_, ⟨r, ?_, hrvalue.trans hvalue⟩, fun e => ?_⟩
    · show (if adoptionReasons review proof selected numbers = [] then _ else _) = _
      rw [if_pos (hiff.mpr ⟨number, hadopted⟩), hd]
      rfl
    · rw [String.toList_ofList]
      exact hr
    · rw [← hvalue, ← PlainDecimal.canonical_eq_iff]
      exact ⟨fun h => congrArg String.ofList h, fun h => String.ofList_injective h⟩

/-! ## A value that is adopted -/

namespace SampleAdoption

def context : EdinetXbrlContext :=
  ⟨⟨"a.xbrl", "C1", edinetScheme, "E00001-000", .instant, some "2026-03-31", none, none, []⟩,
    by decide +kernel⟩

def unit : EdinetXbrlUnit := ⟨⟨"a.xbrl", "U1", [japaneseYen], []⟩, by decide⟩

/-- Its value has zeros that are not adopted. -/
def fact : EdinetXbrlFactCandidate :=
  ⟨⟨1, "a.xbrl", "urn:concepts", "Assets", "C1", some "U1", none, none, none, none,
    some "+1500.250", false⟩, by decide⟩

def filing : FactSetFields := ⟨"", ["a.xbrl"], [context], [unit], [fact]⟩

theorem isResolved : IsResolved filing.contexts filing.units filing.facts where
  ordinals := rfl
  contextKeys := List.nodup_singleton _
  unitKeys := List.nodup_singleton _
  contextRefs := by
    intro found hfound
    rw [List.mem_singleton.mp hfound]
    exact List.mem_singleton_self _
  unitRefs := by
    intro found hfound unit hunit
    rw [List.mem_singleton.mp hfound] at hunit ⊢
    rw [Option.some.inj hunit.symm]
    exact List.mem_singleton_self _

theorem startDate_inRange : 739341 < 3652059 := by decide

theorem endDate_inRange : 739705 < 3652059 := by decide

/-- A concept for each metric. -/
def ruleOf (metric : Metric) : MappingRule where
  metric
  concepts := match metric with
    | .assets => [conceptOf fact]
    | .revenue => [⟨"urn:concepts", "Revenue", by decide, by decide⟩]
    | .operatingProfit => [⟨"urn:concepts", "OperatingProfit", by decide, by decide⟩]
    | .parentProfit => [⟨"urn:concepts", "ParentProfit", by decide, by decide⟩]
    | .equity => [⟨"urn:concepts", "Equity", by decide, by decide⟩]
    | .operatingCashFlow => [⟨"urn:concepts", "OperatingCashFlow", by decide, by decide⟩]
  concepts_ne_nil := by cases metric <;> exact List.cons_ne_nil _ _

def yearProposal : MappingProposal where
  startDate := ⟨739341, startDate_inRange⟩
  endDate := ⟨739705, endDate_inRange⟩
  rules := metrics.map ruleOf
  ordered := by decide
  complete := by decide
  unambiguous := by decide

def proof : TaxonomyProof := ⟨true, [], some (conceptOf fact), some .instant, [], []⟩

theorem isComparable : IsComparable filing (ruleOf .assets) yearProposal (some "E00001") [] fact where
  concept := List.mem_singleton_self _
  filing := rfl
  context := ⟨context, List.mem_singleton_self _, rfl, ⟨rfl, "E00001", rfl, by decide +kernel⟩,
    by decide +kernel, rfl⟩
  unit := ⟨unit, List.mem_singleton_self _, rfl, rfl, rfl, rfl⟩
  scale := rfl
  number := .inr (by decide +kernel)

/-- The value of the fact, as it is adopted. -/
theorem assets_adopted : ∃ review value,
    reviewMetric filing (ruleOf .assets) yearProposal (some "E00001") [] = .ok review ∧
      adoptMetric filing review proof yearProposal.startDate yearProposal.endDate = .ok value ∧
      value.status = .accepted ∧ value.value = some "1500.25" := by
  obtain ⟨review, value, selected, hreview, hadopt, hsub, hmem, -, hstatus, -, htext⟩ :=
    adoption_exact isResolved (ruleOf .assets) yearProposal (some "E00001") [] proof
      yearProposal.startDate yearProposal.endDate
  have hselected : fact ∈ selected :=
    (hmem fact (List.mem_singleton_self _)).mpr isComparable
  have honly : ∀ found ∈ selected, found = fact := fun found hfound =>
    List.mem_singleton.mp (hsub.subset hfound)
  have hread : PlainDecimal.ofText "+1500.250".toList = some ⟨false, 1500250, 3⟩ := by decide
  have hadopted : IsAdopted selected (ruleOf .assets).metric proof
      (PlainDecimal.value ⟨false, 1500250, 3⟩) :=
    { verified := rfl
      reasons := rfl
      periodType := rfl
      some_fact := List.ne_nil_of_mem hselected
      concept := fun found hfound => by rw [honly found hfound]; rfl
      agree := fun found hfound => by
        rw [honly found hfound]
        exact ⟨_, _, rfl, hread, rfl⟩ }
  obtain ⟨text, hvalue, -, hcanonical⟩ := htext _ hadopted
  refine ⟨review, value, hreview, hadopt, hstatus.mpr ⟨_, hadopted⟩, ?_⟩
  have heq : String.ofList (PlainDecimal.canonical ⟨false, 1500250, 3⟩) = "1500.25" := by
    decide +kernel
  rw [hvalue, ← (hcanonical _).mp rfl, heq]

end SampleAdoption

end StockResearch.Preparation
