import StockResearch.Sources.DocumentArchive
import StockResearch.Sources.Taxonomy

/-!
# Facts of a filing

The instances in the archive of a filing are read into candidates for facts: each fact with
the context and the unit it refers to, nothing normalized. What the ZIP and XML libraries do
with the bytes is a parameter.

- `EdinetXbrlFactCandidate`, `EdinetXbrlContext`, `EdinetXbrlUnit`: what is read.
- `toContext`, `toUnit`, `toFact`: `_to_context`, `_to_unit` and `_to_fact`.
- `parseXbrlMember`: `_parse_xbrl_member`.
- `extractFacts`: `EdinetXbrlFactExtractor.extract`.
- `parseDocument`: `EdinetXbrlDocumentAdapter.parse`.
-/

namespace StockResearch.Sources

/-! ## Models -/

/-- The validators of a model: a `ValidationError` is a `ValueError`. -/
def construct {α : Type} (Valid : α → Prop) [DecidablePred Valid] (fields : α) :
    Except PyException {fields : α // Valid fields} :=
  if h : Valid fields then .ok ⟨fields, h⟩ else .error .valueError

/-- `StringConstraints(min_length=1, max_length=128)` -/
def IsShortText (text : String) : Prop := 1 ≤ text.length ∧ text.length ≤ 128

instance (text : String) : Decidable (IsShortText text) := inferInstanceAs (Decidable (_ ∧ _))

/-- The fields of a fact. -/
structure FactFields where
  ordinal : Nat
  sourceMemberPath : String
  conceptNamespace : String
  conceptLocalName : String
  contextRef : String
  unitRef : Option String
  decimals : Option String
  precision : Option String
  scale : Option String
  language : Option String
  value : Option String
  isNil : Bool
deriving DecidableEq

/-- The validators of `EdinetXbrlFactCandidate`. -/
def FactFields.Valid (fact : FactFields) : Prop :=
  1 ≤ fact.ordinal ∧
    (∀ text ∈ [fact.sourceMemberPath, fact.conceptNamespace, fact.conceptLocalName,
      fact.contextRef], IsBoundedText text) ∧
    (∀ text ∈ [fact.unitRef, fact.decimals, fact.precision, fact.scale, fact.language],
      ∀ value ∈ text, IsShortText value) ∧
    fact.isNil = fact.value.isNone

instance : DecidablePred FactFields.Valid := fun _ => inferInstanceAs (Decidable (_ ∧ _ ∧ _ ∧ _))

/-- `EdinetXbrlFactCandidate` -/
abbrev EdinetXbrlFactCandidate := {fact : FactFields // fact.Valid}

/-- `_DimensionLocation` -/
inductive DimensionLocation where
  | segment
  | scenario
deriving DecidableEq

/-- The name of the container at a location. -/
def DimensionLocation.text : DimensionLocation → String
  | segment => "segment"
  | scenario => "scenario"

/-- `member_kind` -/
inductive MemberKind where
  | explicit
  | typed
deriving DecidableEq

/-- The fields of a dimension. -/
structure DimensionFields where
  location : DimensionLocation
  dimension : EdinetXbrlQName
  memberKind : MemberKind
  member : EdinetXbrlQName
  typedValue : Option String
deriving DecidableEq

/-- The validators of `EdinetXbrlDimension`. -/
def DimensionFields.Valid (dimension : DimensionFields) : Prop :=
  dimension.typedValue ≠ some "" ∧
    (dimension.memberKind = .typed ↔ dimension.typedValue.isSome)

instance : DecidablePred DimensionFields.Valid := fun _ => inferInstanceAs (Decidable (_ ∧ _))

/-- `EdinetXbrlDimension` -/
abbrev EdinetXbrlDimension := {dimension : DimensionFields // dimension.Valid}

/-- `_PeriodKind` -/
inductive PeriodKind where
  | instant
  | duration
  | forever
deriving DecidableEq

/-- The fields of a context. -/
structure ContextFields where
  sourceMemberPath : String
  contextId : String
  entityIdentifierScheme : String
  entityIdentifier : String
  periodKind : PeriodKind
  instant : Option String
  startDate : Option String
  endDate : Option String
  dimensions : List EdinetXbrlDimension
deriving DecidableEq

/-- The dates of a period are those of its kind. -/
def ContextFields.HasPeriodShape (context : ContextFields) : Prop :=
  match context.periodKind with
  | .instant => context.instant.isSome ∧ context.startDate = none ∧ context.endDate = none
  | .duration => context.instant = none ∧ context.startDate.isSome ∧ context.endDate.isSome
  | .forever => context.instant = none ∧ context.startDate = none ∧ context.endDate = none

instance : DecidablePred ContextFields.HasPeriodShape := fun context => by
  unfold ContextFields.HasPeriodShape
  cases context.periodKind <;> exact inferInstance

/-- A duration does not end before it starts. -/
def ContextFields.IsOrdered (context : ContextFields) : Prop :=
  ∀ start ∈ context.startDate.bind Date.fromisoformat,
    ∀ last ∈ context.endDate.bind Date.fromisoformat, start ≤ last

instance : DecidablePred ContextFields.IsOrdered := fun context => by
  unfold ContextFields.IsOrdered
  exact inferInstance

/-- The validators of `EdinetXbrlContext`. -/
def ContextFields.Valid (context : ContextFields) : Prop :=
  (∀ text ∈ [context.sourceMemberPath, context.contextId, context.entityIdentifierScheme,
      context.entityIdentifier], IsBoundedText text) ∧
    context.HasPeriodShape ∧
    (∀ text ∈ [context.instant, context.startDate, context.endDate],
      ∀ value ∈ text, (Date.fromisoformat value).isSome) ∧
    context.IsOrdered ∧
    (context.dimensions.map fun dimension => (dimension.1.location, dimension.1.dimension)).Nodup

instance : DecidablePred ContextFields.Valid := fun _ =>
  inferInstanceAs (Decidable (_ ∧ _ ∧ _ ∧ _ ∧ _))

/-- `EdinetXbrlContext` -/
abbrev EdinetXbrlContext := {context : ContextFields // context.Valid}

/-- The fields of a unit. -/
structure UnitFields where
  sourceMemberPath : String
  unitId : String
  numeratorMeasures : List EdinetXbrlQName
  denominatorMeasures : List EdinetXbrlQName
deriving DecidableEq

/-- The validators of `EdinetXbrlUnit`. -/
def UnitFields.Valid (unit : UnitFields) : Prop :=
  IsBoundedText unit.sourceMemberPath ∧ IsBoundedText unit.unitId ∧ unit.numeratorMeasures ≠ []

instance : DecidablePred UnitFields.Valid := fun _ => inferInstanceAs (Decidable (_ ∧ _ ∧ _))

/-- `EdinetXbrlUnit` -/
abbrev EdinetXbrlUnit := {unit : UnitFields // unit.Valid}

/-- The fields of a set of facts. -/
structure FactSetFields where
  archiveSha256 : String
  xbrlMemberPaths : List String
  contexts : List EdinetXbrlContext
  units : List EdinetXbrlUnit
  facts : List EdinetXbrlFactCandidate
deriving DecidableEq

/-- The validators of `EdinetXbrlFactSet`. -/
def FactSetFields.Valid (set : FactSetFields) : Prop :=
  set.xbrlMemberPaths ≠ [] ∧ (∀ path ∈ set.xbrlMemberPaths, IsBoundedText path) ∧
    set.contexts ≠ [] ∧ set.facts ≠ []

instance : DecidablePred FactSetFields.Valid := fun _ => inferInstanceAs (Decidable (_ ∧ _ ∧ _ ∧ _))

/-- `EdinetXbrlFactSet` -/
abbrev EdinetXbrlFactSet := {set : FactSetFields // set.Valid}

/-! ## Elements -/

/-- `element.tag`: the namespace is in braces. -/
def tagText (tag : XmlName) : String :=
  if tag.uri = "" then tag.name else "\x7b" ++ tag.uri ++ "\x7d" ++ tag.name

/-- `_split_expanded_name` -/
def splitExpandedName (value : String) : Except PyException (String × String) := do
  require (value.toList.head? = some '\x7b' ∧ '\x7d' ∈ value.toList) .valueError
  let (nameSpace, _, localName) := partition '\x7d' (String.ofList (value.toList.drop 1))
  require (nameSpace ≠ "" ∧ localName ≠ "") .valueError
  pure (nameSpace, localName)

/-- `XBRLDI + name` -/
def xbrldi (name : String) : XmlName := ⟨"http://xbrl.org/2006/xbrldi", name⟩

/-- `_XSI_NIL` -/
def xsiNil : XmlName := ⟨"http://www.w3.org/2001/XMLSchema-instance", "nil"⟩

/-- `_XML_LANG` -/
def xmlLang : XmlName := ⟨"http://www.w3.org/XML/1998/namespace", "lang"⟩

/-- `_single_child` -/
def singleChild (element : XmlElement) (name : String) : Except PyException XmlElement :=
  match element.elements (xbrli name) with
  | [child] => .ok child
  | _ => .error .valueError

/-- `_attribute` -/
def attributeOf (element : XmlElement) (name : String) : Except PyException String := do
  let value ← fetch (element.get (plain name)) .valueError
  require (value ≠ "") .valueError
  pure value

/-- `_text` -/
def textOf (element : XmlElement) : Except PyException String := do
  let value := strip element.itertext
  require (value ≠ "") .valueError
  pure value

/-! ## Contexts -/

/-- What `_parse_period` returns. -/
structure ParsedPeriod where
  kind : PeriodKind
  instant : Option String
  startDate : Option String
  endDate : Option String

/-- `_parse_period` -/
def parsePeriod (period : XmlElement) : Except PyException ParsedPeriod :=
  match period.elements (xbrli "instant"), period.elements (xbrli "startDate"),
    period.elements (xbrli "endDate"), period.elements (xbrli "forever") with
  | [instant], [], [], [] => do
    let text ← textOf instant
    pure ⟨.instant, some text, none, none⟩
  | [], [start], [last], [] => do
    let startDate ← textOf start
    let endDate ← textOf last
    pure ⟨.duration, none, some startDate, some endDate⟩
  | [], [], [], [_] => pure ⟨.forever, none, none, none⟩
  | _, _, _, _ => .error .valueError

/-- One round of the loop of `_parse_dimensions`. -/
def parseDimension (location : DimensionLocation) (namespaces : List (String × String))
    (element : XmlElement) : Except PyException EdinetXbrlDimension := do
  let name ← attributeOf element "dimension"
  let dimension ← resolveQName name namespaces
  if element.tag = xbrldi "explicitMember" then do
    let text ← textOf element
    let member ← resolveQName text namespaces
    construct DimensionFields.Valid ⟨location, dimension, .explicit, member, none⟩
  else if element.tag = xbrldi "typedMember" then do
    let value ← fetch (if element.children.length = 1 then element.children.head? else none)
      .valueError
    require (value.children = []) .valueError
    let (nameSpace, localName) ← splitExpandedName (tagText value.tag)
    let member ← makeQName nameSpace localName
    let text ← textOf value
    construct DimensionFields.Valid ⟨location, dimension, .typed, member, some text⟩
  else .error .valueError

/-- `element.find(".//{location}")` -/
def containerOf (location : DimensionLocation) (element : XmlElement) : Option XmlElement :=
  element.descendants.find? (·.tag = xbrli location.text)

/-- The dimensions of the first container at a location. -/
def parseDimensions (namespaces : List (String × String)) (element : XmlElement)
    (location : DimensionLocation) : Except PyException (List EdinetXbrlDimension) :=
  match containerOf location element with
  | some container => container.children.mapM (parseDimension location namespaces)
  | none => pure []

/-- `_to_context` -/
def toContext (path : String) (namespaces : List (String × String)) (element : XmlElement) :
    Except PyException EdinetXbrlContext := do
  let entity ← singleChild element "entity"
  let identifier ← singleChild entity "identifier"
  let period ← singleChild element "period"
  let parsed ← parsePeriod period
  let segment ← parseDimensions namespaces element .segment
  let scenario ← parseDimensions namespaces element .scenario
  let contextId ← attributeOf element "id"
  let scheme ← attributeOf identifier "scheme"
  let text ← textOf identifier
  construct ContextFields.Valid ⟨path, contextId, scheme, text, parsed.kind, parsed.instant,
    parsed.startDate, parsed.endDate, segment ++ scenario⟩

/-! ## Units -/

/-- `_resolve_qname(_text(measure, "unit_measure"), namespaces)` -/
def resolveMeasure (namespaces : List (String × String)) (measure : XmlElement) :
    Except PyException EdinetXbrlQName := do
  let text ← textOf measure
  resolveQName text namespaces

/-- `_measure_group` -/
def measureGroup (divide : XmlElement) (name : String) (namespaces : List (String × String)) :
    Except PyException (List EdinetXbrlQName) := do
  let group ← singleChild divide name
  let measures := group.elements (xbrli "measure")
  require (measures ≠ [] ∧ measures.length = group.children.length) .valueError
  measures.mapM (resolveMeasure namespaces)

/-- The measures above and below the line. -/
def readMeasures (namespaces : List (String × String)) (element : XmlElement) :
    Except PyException (List EdinetXbrlQName × List EdinetXbrlQName) :=
  let measures := element.elements (xbrli "measure")
  let divides := element.elements (xbrli "divide")
  if measures ≠ [] ∧ divides = [] ∧ measures.length = element.children.length then do
    let numerator ← measures.mapM (resolveMeasure namespaces)
    pure (numerator, [])
  else if measures = [] ∧ element.children.length = 1 then
    match divides with
    | [divide] => do
      let numerator ← measureGroup divide "unitNumerator" namespaces
      let denominator ← measureGroup divide "unitDenominator" namespaces
      pure (numerator, denominator)
    | _ => .error .valueError
  else .error .valueError

/-- `_to_unit` -/
def toUnit (path : String) (namespaces : List (String × String)) (element : XmlElement) :
    Except PyException EdinetXbrlUnit := do
  let (numerator, denominator) ← readMeasures namespaces element
  let unitId ← attributeOf element "id"
  construct UnitFields.Valid ⟨path, unitId, numerator, denominator⟩

/-! ## Facts -/

/-- The value of a fact, which has none if it is nil. -/
def readValue (element : XmlElement) : Except PyException (Option String) := do
  let nilValue := (element.get xsiNil).getD "false"
  require (nilValue ∈ ["false", "0", "true", "1"]) .valueError
  require (element.children = []) .valueError
  let lexicalValue := strip element.itertext
  if nilValue ∈ ["true", "1"] then do
    require (lexicalValue = "") .valueError
    pure none
  else do
    require (lexicalValue ≠ "") .valueError
    pure (some lexicalValue)

/-- `_to_fact` -/
def toFact (path : String) (contexts units : List String) (element : XmlElement) (ordinal : Nat) :
    Except PyException EdinetXbrlFactCandidate := do
  let (nameSpace, localName) ← splitExpandedName (tagText element.tag)
  let contextRef ← fetch (element.get (plain "contextRef")) .valueError
  require (contextRef ∈ contexts) .valueError
  let unitRef := element.get (plain "unitRef")
  require (unitRef.all (· ∈ units)) .valueError
  let value ← readValue element
  construct FactFields.Valid
    { ordinal
      sourceMemberPath := path
      conceptNamespace := nameSpace
      conceptLocalName := localName
      contextRef
      unitRef
      decimals := element.get (plain "decimals")
      precision := element.get (plain "precision")
      scale := element.get (plain "scale")
      language := element.get xmlLang
      value
      isNil := value.isNone }

/-! ## Members -/

/-- What is used of the language and its libraries: those of archives, `archive.open` with a
read of some bytes, `iterparse` of bytes for their namespaces, and `fromstring` of bytes. -/
structure DocumentLibraries extends ArchiveLibrary where
  read : List UInt8 → String → Nat → Except PyException (List UInt8)
  namespaces : List UInt8 → NamespaceRun
  fromstring : List UInt8 → Except XmlError XmlElement

/-- The definitions and the raw facts of a member, as the loop finds them. -/
structure RawMember where
  contexts : List EdinetXbrlContext
  units : List EdinetXbrlUnit
  rawFacts : List XmlElement

/-- `_add_unique_definition`, of a context -/
def RawMember.addContext (raw : RawMember) (context : EdinetXbrlContext) :
    Except PyException RawMember := do
  require (context.1.contextId ∉ raw.contexts.map (·.1.contextId)) .valueError
  pure { raw with contexts := raw.contexts ++ [context] }

/-- `_add_unique_definition`, of a unit -/
def RawMember.addUnit (raw : RawMember) (unit : EdinetXbrlUnit) : Except PyException RawMember := do
  require (unit.1.unitId ∉ raw.units.map (·.1.unitId)) .valueError
  pure { raw with units := raw.units ++ [unit] }

/-- One round of the loop over the elements of a member. -/
def readElement (path : String) (namespaces : List (String × String)) (raw : RawMember)
    (element : XmlElement) : Except PyException RawMember :=
  if element.tag = xbrli "context" then do
    let context ← toContext path namespaces element
    raw.addContext context
  else if element.tag = xbrli "unit" then do
    let unit ← toUnit path namespaces element
    raw.addUnit unit
  else if (element.get (plain "contextRef")).isSome then
    pure { raw with rawFacts := raw.rawFacts ++ [element] }
  else pure raw

/-- `_ParsedXbrlMember` -/
structure ParsedXbrlMember where
  contexts : List EdinetXbrlContext
  units : List EdinetXbrlUnit
  facts : List EdinetXbrlFactCandidate

/-- `text.encode()` of an ASCII text -/
def asciiBytes (text : String) : List UInt8 := text.toList.map fun c => c.toNat.toUInt8

variable (libraries : DocumentLibraries)

/-- The tree of a member. -/
def readTree (body : List UInt8) : Except PyException XmlElement :=
  (libraries.fromstring body).mapError XmlError.raised

/-- `_parse_xbrl_member` -/
def parseXbrlMember (path : String) (body : List UInt8) (firstOrdinal : Nat) :
    Except PyException ParsedXbrlMember := do
  require (¬ (hasInfix (asciiBytes "<!DOCTYPE") body ∨ hasInfix (asciiBytes "<!ENTITY") body))
    .valueError
  let namespaces ← readNamespaces (libraries.namespaces body)
  let root ← readTree libraries body
  require (root.tag = xbrli "xbrl") .valueError
  let raw ← root.iter.foldlM (readElement path namespaces) ⟨[], [], []⟩
  let facts ← (raw.rawFacts.zipIdx firstOrdinal).mapM fun item =>
    toFact path (raw.contexts.map (·.1.contextId)) (raw.units.map (·.1.unitId)) item.1 item.2
  pure ⟨raw.contexts, raw.units, facts⟩

/-! ## Documents -/

/-- The members of an archive that are instances. -/
def EdinetDocumentArchive.xbrlMembers (archive : EdinetDocumentArchive) :
    List EdinetArchiveMember := archive.members.filter (·.isXbrl)

/-- One round of the loop over the instances. -/
def readMember (body : List UInt8) (parsed : ParsedXbrlMember) (member : EdinetArchiveMember) :
    Except PyException ParsedXbrlMember := do
  let bytes ← libraries.read body member.path (member.uncompressedBytes + 1)
  require (bytes.length = member.uncompressedBytes) .valueError
  let next ← parseXbrlMember libraries member.path bytes (parsed.facts.length + 1)
  pure ⟨parsed.contexts ++ next.contexts, parsed.units ++ next.units, parsed.facts ++ next.facts⟩

/-- `except (ElementTree.ParseError, KeyError, OSError, RuntimeError, ValueError,
zipfile.BadZipFile)` -/
def isFactError : PyException → Bool
  | .xmlParseError | .keyError | .osError | .runtimeError | .notImplementedError | .valueError
  | .badZipFile => true
  | _ => false

/-- The `except` clause of the extractor. -/
def factError (exception : PyException) : DocumentError :=
  if isFactError exception then .factsInvalid else .escaped exception

/-- The class of what leaves an adapter. -/
def DocumentError.exception : DocumentError → PyException
  | retrievalInvalid | factsInvalid | hashMismatch => .valueError
  | escaped exception => exception

variable {sha256 : List UInt8 → String}

/-- The body of the `try` statement. -/
def readFacts (response : BoundedSourceResponse sha256) (inventory : EdinetDocumentArchive) :
    Except PyException EdinetXbrlFactSet := do
  let verified ←
    (parseArchive libraries.toArchiveLibrary response).mapError DocumentError.exception
  require (verified = inventory) .valueError
  let parsed ← inventory.xbrlMembers.foldlM (readMember libraries response.body) ⟨[], [], []⟩
  construct FactSetFields.Valid ⟨response.digest, inventory.xbrlMembers.map (·.path),
    parsed.contexts, parsed.units, parsed.facts⟩

/-- `EdinetXbrlFactExtractor.extract` -/
def extractFacts (response : BoundedSourceResponse sha256) (inventory : EdinetDocumentArchive) :
    Except DocumentError EdinetXbrlFactSet :=
  (readFacts libraries response inventory).mapError factError

/-- `EdinetXbrlDocument` -/
structure EdinetXbrlDocument where
  archive : EdinetDocumentArchive
  facts : EdinetXbrlFactSet
  sameArchive : archive.archiveSha256 = facts.1.archiveSha256

/-- `EdinetXbrlDocumentAdapter.parse` -/
def parseDocument (response : BoundedSourceResponse sha256) :
    Except DocumentError EdinetXbrlDocument := do
  let archive ← parseArchive libraries.toArchiveLibrary response
  let facts ← extractFacts libraries response archive
  if h : archive.archiveSha256 = facts.1.archiveSha256 then pure ⟨archive, facts, h⟩
  else .error .hashMismatch

end StockResearch.Sources
