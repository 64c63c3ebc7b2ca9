import StockResearch.Preparation.AnnualCoverage
import StockResearch.Preparation.PlainNumbers
import StockResearch.Sources.XbrlFactsLaw

/-!
# Mapping of facts to metrics

A rule names the concepts that a metric may be read from. The facts of these concepts are
reviewed: those of the issuer, the period, without dimensions and in plain yen are comparable,
and the review says whether they agree. It exports no value.

- `MappingRule`, `MappingProposal`: what is proposed.
- `matchEntity`, `numberOfFact`: `match_entity` and `_number`.
- `reviewMetric`: `review_metric`.
- `IsComparable`: the facts that are compared.
- `reviewMetric_eq_ok`: the review of facts with their contexts.
-/

namespace StockResearch.Preparation

open Sources

/-! ## Proposals -/

/-- `MappingRule`, without its references to evidence -/
structure MappingRule where
  metric : Metric
  concepts : List EdinetXbrlQName
  concepts_ne_nil : concepts ≠ []

/-- `MappingProposal` -/
structure MappingProposal where
  startDate : Date
  endDate : Date
  rules : List MappingRule
  ordered : startDate ≤ endDate
  complete : (rules.map (·.metric)).Perm metrics
  unambiguous : (rules.flatMap (·.concepts)).Nodup

/-! ## Entities -/

/-- `EntityMatch` -/
structure EntityMatch where
  scheme : String
  identifier : String
  edinetCode : Option String
  suffix : Option String
  reason : String
deriving DecidableEq

/-- `EDINET_SCHEME` -/
def edinetScheme : String := "http://disclosure.edinet-fsa.go.jp"

/-- The groups of `(E[0-9]{5})-([0-9]{3})`. -/
def splitEntity (identifier : String) : Option (String × String) :=
  let code := identifier.toList.take 6
  let suffix := identifier.toList.drop 7
  if code.head? = some 'E' ∧ (code.drop 1).length = 5 ∧ (code.drop 1).all Char.isDigit ∧
      (identifier.toList.drop 6).head? = some '-' ∧ suffix.length = 3 ∧ suffix.all Char.isDigit then
    some (String.ofList code, String.ofList suffix)
  else none

/-- `match_entity` -/
def matchEntity (context : EdinetXbrlContext) (expectedCode : Option String) : EntityMatch :=
  let matched := splitEntity context.1.entityIdentifier
  let code := matched.map Prod.fst
  let suffix := matched.map Prod.snd
  { scheme := context.1.entityIdentifierScheme
    identifier := context.1.entityIdentifier
    edinetCode := code
    suffix
    reason :=
      if context.1.entityIdentifierScheme ≠ edinetScheme then "unsupported_entity_scheme"
      else if matched = none then "unsupported_entity_identifier"
      else if expectedCode = none then "issuer_binding_unresolved"
      else if code ≠ expectedCode then "different_entity"
      else if suffix ≠ some "000" then "unsupported_instance_suffix"
      else "matched" }

/-! ## Numbers -/

/-- `re.fullmatch(r"[+-]?(?:[0-9]+(?:\.[0-9]*)?|\.[0-9]+)", value)` -/
def isPlainDecimal (value : String) : Bool := (PlainDecimal.ofText value.toList).isSome

/-- `_number` -/
def numberOfFact (fact : EdinetXbrlFactCandidate) : Option ℚ :=
  if fact.1.isNil then none
  else do
    let value ← fact.1.value
    guard (isPlainDecimal value)
    match PyDecimal.ofText value with
    | some (.finite number) => some number
    | _ => none

/-! ## Reviews -/

/-- `CandidateReview` -/
structure CandidateReview where
  ordinal : Nat
  sourceMemberPath : String
  concept : EdinetXbrlQName
  contextRef : String
  unitRef : Option String
  decimals : Option String
  isNil : Bool
  periodKind : PeriodKind
  startDate : Option String
  endDate : Option String
  instant : Option String
  dimensionAxes : List EdinetXbrlQName
  dimensionMembers : List EdinetXbrlQName
  unitNumerator : List EdinetXbrlQName
  unitDenominator : List EdinetXbrlQName
  precision : Option String
  scale : Option String
  entity : EntityMatch
  reasons : List String
deriving DecidableEq

/-- The status of a `MetricReview`. -/
inductive ReviewStatus where
  | missing
  | excluded
  | nil
  | candidate
  | duplicate
  | conflicting
deriving DecidableEq

/-- The text of a status. -/
def ReviewStatus.text : ReviewStatus → String
  | missing => "missing"
  | excluded => "excluded"
  | nil => "nil"
  | candidate => "candidate"
  | duplicate => "duplicate"
  | conflicting => "conflicting"

/-- `MetricReview` -/
structure MetricReview where
  metric : Metric
  status : ReviewStatus
  candidates : List CandidateReview
  comparableOrdinals : List Nat
  reviewReasons : List String
deriving DecidableEq

/-- `EdinetXbrlQName(namespace=fact.concept_namespace, local_name=fact.concept_local_name)` -/
def conceptOf (fact : EdinetXbrlFactCandidate) : EdinetXbrlQName where
  nameSpace := fact.1.conceptNamespace
  localName := fact.1.conceptLocalName
  nameSpace_bounded := fact.2.2.1 _ (List.mem_cons_of_mem _ List.mem_cons_self)
  localName_bounded :=
    fact.2.2.1 _ (List.mem_cons_of_mem _ (List.mem_cons_of_mem _ List.mem_cons_self))

/-- `contexts[(fact.source_member_path, fact.context_ref)]`: of equal keys the last one stands. -/
def contextOf (facts : FactSetFields) (fact : EdinetXbrlFactCandidate) : Option EdinetXbrlContext :=
  (facts.contexts.filter
    (EdinetXbrlContext.key · = (fact.1.sourceMemberPath, fact.1.contextRef))).getLast?

/-- `units.get((fact.source_member_path, fact.unit_ref or ""))` -/
def unitOf (facts : FactSetFields) (fact : EdinetXbrlFactCandidate) : Option EdinetXbrlUnit :=
  (facts.units.filter
    (EdinetXbrlUnit.key · = (fact.1.sourceMemberPath, fact.1.unitRef.getD ""))).getLast?

/-- `EdinetXbrlQName(namespace="http://www.xbrl.org/2003/iso4217", local_name="JPY")` -/
def japaneseYen : EdinetXbrlQName where
  nameSpace := "http://www.xbrl.org/2003/iso4217"
  localName := "JPY"
  nameSpace_bounded := by decide
  localName_bounded := by decide

/-- The unit is yen, and nothing else. -/
def isPlainYen (unit : EdinetXbrlUnit) : Prop :=
  unit.1.denominatorMeasures = [] ∧ unit.1.numeratorMeasures = [japaneseYen]

instance : DecidablePred isPlainYen := fun _ => inferInstanceAs (Decidable (_ ∧ _))

/-- The period of a context is the proposed one, by its text. -/
def periodMatches (metric : Metric) (proposal : MappingProposal) (context : EdinetXbrlContext) :
    Prop :=
  if metric.isInstant then
    context.1.periodKind = .instant ∧ context.1.instant = some proposal.endDate.isoformat
  else
    context.1.periodKind = .duration ∧ context.1.startDate = some proposal.startDate.isoformat ∧
      context.1.endDate = some proposal.endDate.isoformat

instance (metric : Metric) (proposal : MappingProposal) (context : EdinetXbrlContext) :
    Decidable (periodMatches metric proposal context) := by
  unfold periodMatches
  exact inferInstance

/-- A reason, if there is one. -/
def reasonUnless (p : Prop) [Decidable p] (reason : String) : List String :=
  if p then [] else [reason]

/-- What a review finds about one fact: its candidate, whether it is comparable, its number. -/
structure ReviewedFact where
  candidate : CandidateReview
  isComparable : Bool
  number : Option ℚ

/-- One round of the loop over the facts, for a fact of a concept of the rule. -/
def reviewFact (facts : FactSetFields) (rule : MappingRule) (proposal : MappingProposal)
    (expectedCode : Option String) (filingReasons : List String) (fact : EdinetXbrlFactCandidate) :
    Except PyException ReviewedFact := do
  let context ← fetch (contextOf facts fact) .keyError
  let entity := matchEntity context expectedCode
  let unit := unitOf facts fact
  let number := numberOfFact fact
  let reasons := filingReasons ++
    reasonUnless (entity.reason = "matched") entity.reason ++
    reasonUnless (periodMatches rule.metric proposal context) "period_mismatch" ++
    reasonUnless (context.1.dimensions = []) "dimensions_outside_proposal" ++
    reasonUnless (∃ found ∈ unit, isPlainYen found) "unsupported_unit" ++
    reasonUnless (fact.1.scale = none) "unsupported_scale" ++
    reasonUnless (fact.1.isNil = true ∨ number ≠ none) "invalid_numeric_value"
  pure
    { candidate :=
        { ordinal := fact.1.ordinal
          sourceMemberPath := fact.1.sourceMemberPath
          concept := conceptOf fact
          contextRef := fact.1.contextRef
          unitRef := fact.1.unitRef
          decimals := fact.1.decimals
          isNil := fact.1.isNil
          periodKind := context.1.periodKind
          startDate := context.1.startDate
          endDate := context.1.endDate
          instant := context.1.instant
          dimensionAxes := context.1.dimensions.map (·.1.dimension)
          dimensionMembers := context.1.dimensions.map (·.1.member)
          unitNumerator := unit.elim [] (·.1.numeratorMeasures)
          unitDenominator := unit.elim [] (·.1.denominatorMeasures)
          precision := fact.1.precision
          scale := fact.1.scale
          entity
          reasons := sortedSet (reasons ++ if fact.1.isNil then ["nil"] else []) }
      isComparable := reasons = []
      number }

/-- The status of a review, from its comparable facts. -/
def statusOf (reviewed comparable : List ReviewedFact) : ReviewStatus :=
  let numbers := comparable.filterMap (·.number)
  let nilCount := (comparable.filter (·.candidate.isNil)).length
  if reviewed = [] then .missing
  else if comparable = [] then .excluded
  else if nilCount ≠ 0 ∧ numbers ≠ [] ∨ 1 < numbers.dedup.length then .conflicting
  else if nilCount ≠ 0 then .nil
  else if 1 < numbers.length then .duplicate
  else .candidate

/-- `review_metric` -/
def reviewMetric (facts : FactSetFields) (rule : MappingRule) (proposal : MappingProposal)
    (expectedCode : Option String) (filingReasons : List String) :
    Except PyException MetricReview := do
  let reviewed ← (facts.facts.filter (conceptOf · ∈ rule.concepts)).mapM
    (reviewFact facts rule proposal expectedCode filingReasons)
  let comparable := reviewed.filter (·.isComparable)
  pure
    { metric := rule.metric
      status := statusOf reviewed comparable
      candidates := reviewed.map (·.candidate)
      comparableOrdinals := comparable.map (·.candidate.ordinal)
      reviewReasons := ["mapping_not_approved", "consolidation_scope_unconfirmed"] }

/-! ## What is matched -/

/-- A context is one of the issuer: its official code, and no instance but the first. -/
def IsOfIssuer (context : EdinetXbrlContext) (expectedCode : Option String) : Prop :=
  context.1.entityIdentifierScheme = edinetScheme ∧
    ∃ code, expectedCode = some code ∧
      splitEntity context.1.entityIdentifier = some (code, "000")

theorem matchEntity_matched {context : EdinetXbrlContext} {expectedCode : Option String} :
    (matchEntity context expectedCode).reason = "matched" ↔ IsOfIssuer context expectedCode := by
  unfold matchEntity IsOfIssuer
  simp only
  constructor
  · -- the checks in their order: each refuses with another status
    intro h
    split at h
    · exact absurd h (by decide)
    rename_i hscheme
    split at h
    · exact absurd h (by decide)
    rename_i hmatched
    split at h
    · exact absurd h (by decide)
    rename_i hexpected
    split at h
    · exact absurd h (by decide)
    rename_i hcode
    split at h
    · exact absurd h (by decide)
    rename_i hsuffix
    obtain ⟨⟨code, suffix⟩, hsplit⟩ := Option.ne_none_iff_exists'.mp hmatched
    rw [hsplit] at hcode hsuffix ⊢
    refine ⟨not_not.mp hscheme, code, (not_not.mp hcode).symm, ?_⟩
    have hzeros : suffix = "000" := Option.some.inj (not_not.mp hsuffix)
    rw [hzeros]
  · rintro ⟨hscheme, code, hexpected, hsplit⟩
    rw [if_neg (not_not.mpr hscheme), hsplit, if_neg (Option.some_ne_none _), hexpected,
      if_neg (Option.some_ne_none _)]
    simp

theorem reasonUnless_eq_nil {p : Prop} [Decidable p] {reason : String} :
    reasonUnless p reason = [] ↔ p := by
  unfold reasonUnless
  split
  · rename_i hp
    exact ⟨fun _ => hp, fun _ => rfl⟩
  · rename_i hp
    exact ⟨fun h => absurd h (List.cons_ne_nil _ _), fun h => absurd h hp⟩

/-! ## Comparable facts -/

variable {facts : FactSetFields} {rule : MappingRule} {proposal : MappingProposal}
  {expectedCode : Option String} {filingReasons : List String}

/-- A fact of a concept of the rule that the review compares. -/
structure IsComparable (facts : FactSetFields) (rule : MappingRule) (proposal : MappingProposal)
    (expectedCode : Option String) (filingReasons : List String) (fact : EdinetXbrlFactCandidate) :
    Prop where
  concept : conceptOf fact ∈ rule.concepts
  filing : filingReasons = []
  context : ∃ context ∈ facts.contexts,
    EdinetXbrlContext.key context = (fact.1.sourceMemberPath, fact.1.contextRef) ∧
      IsOfIssuer context expectedCode ∧ periodMatches rule.metric proposal context ∧
      context.1.dimensions = []
  unit : ∃ unit ∈ facts.units, fact.1.unitRef = some unit.1.unitId ∧
    unit.1.sourceMemberPath = fact.1.sourceMemberPath ∧ isPlainYen unit
  scale : fact.1.scale = none
  number : fact.1.isNil = true ∨ numberOfFact fact ≠ none

/-- Of elements with distinct keys, the last one with a key is the one that has it. -/
theorem getLast?_filter_eq_some {α β : Type} [DecidableEq β] {key : α → β} {xs : List α} {x : α}
    {k : β} (hnodup : (xs.map key).Nodup) :
    (xs.filter (key · = k)).getLast? = some x ↔ x ∈ xs ∧ key x = k := by
  have hinj := List.inj_on_of_nodup_map hnodup
  constructor
  · intro h
    have hmem := List.mem_of_getLast? h
    simpa using hmem
  · rintro ⟨hx, hkey⟩
    have hmem : x ∈ xs.filter (key · = k) := by simpa using And.intro hx hkey
    cases hlast : (xs.filter (key · = k)).getLast? with
    | none =>
      rw [List.getLast?_eq_none_iff] at hlast
      rw [hlast] at hmem
      cases hmem
    | some y =>
      have hy := List.mem_of_getLast? hlast
      simp only [List.mem_filter, decide_eq_true_eq] at hy
      rw [hinj hy.1 hx (hy.2.trans hkey.symm)]

theorem contextOf_eq_some (hresolved : IsResolved facts.contexts facts.units facts.facts)
    {fact : EdinetXbrlFactCandidate} {context : EdinetXbrlContext} :
    contextOf facts fact = some context ↔ context ∈ facts.contexts ∧
      EdinetXbrlContext.key context = (fact.1.sourceMemberPath, fact.1.contextRef) :=
  getLast?_filter_eq_some hresolved.contextKeys

theorem unitOf_eq_some (hresolved : IsResolved facts.contexts facts.units facts.facts)
    {fact : EdinetXbrlFactCandidate} {unit : EdinetXbrlUnit} :
    unitOf facts fact = some unit ↔ unit ∈ facts.units ∧ fact.1.unitRef = some unit.1.unitId ∧
      unit.1.sourceMemberPath = fact.1.sourceMemberPath := by
  rw [unitOf, getLast?_filter_eq_some hresolved.unitKeys, EdinetXbrlUnit.key, Prod.mk.injEq]
  constructor
  · rintro ⟨hmem, hpath, hid⟩
    refine ⟨hmem, ?_, hpath⟩
    cases href : fact.1.unitRef with
    | some ref =>
      rw [href] at hid
      rw [hid]
      rfl
    | none =>
      -- an identifier of a unit is not empty
      rw [href] at hid
      have hbounded := unit.2.2.1.1
      rw [hid] at hbounded
      exact absurd hbounded (by decide)
  · rintro ⟨hmem, href, hpath⟩
    rw [href]
    exact ⟨hmem, hpath, rfl⟩

/-- What a review says of a fact. -/
structure Reviews (facts : FactSetFields) (rule : MappingRule) (proposal : MappingProposal)
    (expectedCode : Option String) (filingReasons : List String) (fact : EdinetXbrlFactCandidate)
    (reviewed : ReviewedFact) : Prop where
  ordinal : reviewed.candidate.ordinal = fact.1.ordinal
  isNil : reviewed.candidate.isNil = fact.1.isNil
  number : reviewed.number = numberOfFact fact
  comparable : reviewed.isComparable = true ↔
    IsComparable facts rule proposal expectedCode filingReasons fact

theorem exists_reviewFact (hresolved : IsResolved facts.contexts facts.units facts.facts)
    {fact : EdinetXbrlFactCandidate} (hfact : fact ∈ facts.facts)
    (hconcept : conceptOf fact ∈ rule.concepts) :
    ∃ reviewed, reviewFact facts rule proposal expectedCode filingReasons fact = .ok reviewed ∧
      Reviews facts rule proposal expectedCode filingReasons fact reviewed := by
  obtain ⟨context, hmem, hkey⟩ := List.mem_map.mp (hresolved.contextRefs fact hfact)
  have hcontext := (contextOf_eq_some hresolved).mpr ⟨hmem, hkey⟩
  rw [reviewFact, hcontext]
  refine ⟨_, rfl, ⟨rfl, rfl, rfl, ?_⟩⟩
  simp only [decide_eq_true_eq, List.append_eq_nil_iff, reasonUnless_eq_nil, matchEntity_matched]
  constructor
  · rintro ⟨⟨⟨⟨⟨⟨hfiling, hentity⟩, hperiod⟩, hdimensions⟩, unit, hunit, hyen⟩, hscale⟩, hnumber⟩
    obtain ⟨humem, href, hpath⟩ := (unitOf_eq_some hresolved).mp hunit
    exact ⟨hconcept, hfiling, ⟨context, hmem, hkey, hentity, hperiod, hdimensions⟩,
      ⟨unit, humem, href, hpath, hyen⟩, hscale, hnumber⟩
  · rintro ⟨-, hfiling, ⟨other, homem, hokey, hentity, hperiod, hdimensions⟩,
      ⟨unit, humem, href, hpath, hyen⟩, hscale, hnumber⟩
    obtain rfl := Option.some.inj (hcontext.symm.trans
      ((contextOf_eq_some hresolved).mpr ⟨homem, hokey⟩))
    exact ⟨⟨⟨⟨⟨⟨hfiling, hentity⟩, hperiod⟩, hdimensions⟩, unit,
      (unitOf_eq_some hresolved).mpr ⟨humem, href, hpath⟩, hyen⟩, hscale⟩, hnumber⟩

/-- The review of facts with their contexts: it does not raise, and lists what is compared. -/
theorem exists_reviewMetric (hresolved : IsResolved facts.contexts facts.units facts.facts)
    (rule : MappingRule) (proposal : MappingProposal) (expectedCode : Option String)
    (filingReasons : List String) :
    ∃ review reviewed comparable selected,
      reviewMetric facts rule proposal expectedCode filingReasons = .ok review ∧
        review.metric = rule.metric ∧ review.status = statusOf reviewed comparable ∧
        comparable.Sublist reviewed ∧
        review.comparableOrdinals = selected.map (·.1.ordinal) ∧
        selected.Sublist facts.facts ∧
        (∀ fact ∈ facts.facts, fact ∈ selected ↔
          IsComparable facts rule proposal expectedCode filingReasons fact) ∧
        List.Forall₂ (Reviews facts rule proposal expectedCode filingReasons) selected
          comparable := by
  classical
  -- every fact of a concept of the rule can be reviewed
  have hall : ∀ fact ∈ facts.facts.filter (conceptOf · ∈ rule.concepts), ∃ reviewed,
      reviewFact facts rule proposal expectedCode filingReasons fact = .ok reviewed := by
    intro fact hfact
    simp only [List.mem_filter, decide_eq_true_eq] at hfact
    obtain ⟨reviewed, hreviewed, -⟩ := exists_reviewFact hresolved hfact.1 hfact.2
    exact ⟨reviewed, hreviewed⟩
  obtain ⟨reviewed, hrun⟩ := exists_mapM_eq_ok.mpr hall
  have hreviews : List.Forall₂ (Reviews facts rule proposal expectedCode filingReasons)
      (facts.facts.filter (conceptOf · ∈ rule.concepts)) reviewed := by
    have hpairs := (List.forall₂_and_left _ _).mpr
      ⟨fun fact hfact => hfact, mapM_eq_ok.mp hrun⟩
    refine hpairs.imp fun fact r h => ?_
    have hfact := h.1
    simp only [List.mem_filter, decide_eq_true_eq] at hfact
    obtain ⟨r', hr', hreviews⟩ := exists_reviewFact hresolved hfact.1 hfact.2
    rwa [Except.ok.inj (h.2.symm.trans hr')]
  let selected := (facts.facts.filter (conceptOf · ∈ rule.concepts)).filter
    fun fact => IsComparable facts rule proposal expectedCode filingReasons fact
  -- the comparable reviews are those of the comparable facts
  have hselected : List.Forall₂ (Reviews facts rule proposal expectedCode filingReasons) selected
      (reviewed.filter (·.isComparable)) := by
    refine List.rel_filter (fun fact r h => ?_) hreviews
    show decide (IsComparable facts rule proposal expectedCode filingReasons fact) = true ↔
      r.isComparable = true
    rw [decide_eq_true_eq, h.comparable]
  refine ⟨_, reviewed, reviewed.filter (·.isComparable), selected,
    bind_eq_ok.mpr ⟨reviewed, hrun, rfl⟩, rfl, rfl, List.filter_sublist, ?_, ?_, ?_, hselected⟩
  · exact map_eq_map_of_forall₂ (fun _ _ h => h.ordinal) hselected
  · exact List.filter_sublist.trans List.filter_sublist
  · intro fact hfact
    simp only [selected, List.mem_filter, decide_eq_true_eq]
    exact ⟨fun h => h.2, fun h => ⟨⟨hfact, h.concept⟩, h⟩⟩

end StockResearch.Preparation
