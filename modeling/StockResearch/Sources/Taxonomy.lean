import StockResearch.Contracts.Base
import StockResearch.Lib.PosixPath
import StockResearch.Lib.Xml
import StockResearch.Preparation.TradingDates
import StockResearch.Sources.CurrentList
import StockResearch.Sources.XbrlNames

/-!
# Taxonomy proofs

A metric may be read from a concept only if the taxonomy of the filing has the relations
that a policy approved for it: the declarations of a schema, and arcs of linkbases. The
members are pinned by their hashes. What the XML library does with a text is a parameter.

- `TaxonomySpec`, `TaxonomyRule`, `TaxonomyProof`: what is approved, and what is proved.
- `verifyDeclaration`, `verifyNetwork`: `_declaration` and `_verify_network`.
- `verifyTaxonomy`: the code.
-/

namespace StockResearch.Sources

open Contracts (Sha256Hex)
open Preparation (sortedSet)

/-! ## What is approved -/

/-- `Literal["instant", "duration"]` -/
inductive PeriodType where
  | instant
  | duration
deriving DecidableEq

/-- The text of a period type. -/
def PeriodType.text : PeriodType → String
  | instant => "instant"
  | duration => "duration"

/-- `ConceptDeclaration` -/
structure ConceptDeclaration where
  href : String
  concept : EdinetXbrlQName
  periodType : Option PeriodType
  monetary : Bool
deriving DecidableEq

/-- `RequiredArc` -/
structure RequiredArc where
  member : String
  role : String
  arcrole : String
  source : String
  target : String
  weight : Option String
  closed : Option String
  contextElement : Option String
deriving DecidableEq

/-- `TaxonomyRule` -/
structure TaxonomyRule where
  conceptHref : String
  arcs : List RequiredArc
  arcs_ne_nil : arcs ≠ []

/-- `TaxonomySpec`; the hashes are those of a `dict`. -/
structure TaxonomySpec where
  schemaMember : String
  memberHashes : String → Option Sha256Hex
  declarations : List ConceptDeclaration

/-- `TaxonomyProof` -/
structure TaxonomyProof where
  verified : Bool
  reasons : List String
  concept : Option EdinetXbrlQName
  periodType : Option PeriodType
  memberHashes : List (String × Sha256Hex)
  arcs : List RequiredArc
deriving DecidableEq

/-! ## Names -/

/-- `XLINK + name` -/
def xlink (name : String) : XmlName := ⟨"http://www.w3.org/1999/xlink", name⟩

/-- `XBRLDT + name` -/
def xbrldt (name : String) : XmlName := ⟨"http://xbrl.org/2005/xbrldt", name⟩

/-- `XBRLI + name` -/
def xbrli (name : String) : XmlName := ⟨"http://www.xbrl.org/2003/instance", name⟩

/-- `XSD + name` -/
def xsd (name : String) : XmlName := ⟨"http://www.w3.org/2001/XMLSchema", name⟩

/-- `LINK + name` -/
def linkbase (name : String) : XmlName := ⟨"http://www.xbrl.org/2003/linkbase", name⟩

/-- A name without a namespace. -/
def plain (name : String) : XmlName := ⟨"", name⟩

/-- `EdinetXbrlQName(namespace=XBRLI[1:-1], local_name="monetaryItemType")` -/
def monetaryItemType : EdinetXbrlQName :=
  ⟨"http://www.xbrl.org/2003/instance", "monetaryItemType", by decide, by decide⟩

/-- `EdinetXbrlQName(namespace=XBRLI[1:-1], local_name="item")` -/
def itemGroup : EdinetXbrlQName :=
  ⟨"http://www.xbrl.org/2003/instance", "item", by decide, by decide⟩

/-- `text.endswith(ending)` -/
def endsWith (ending text : String) : Bool := ending.toList.isSuffixOf text.toList

/-! ## Members -/

/-- What `iterparse` reads of some bytes, up to where it raises: the prefixes of the elements
that have begun, as they are nested. -/
structure ScopedRun where
  scopes : XmlScopes
  error : Option XmlError

/-- What is used of the language and its libraries: `sha256`, `bytes.decode("utf-8-sig")` (none
is its `UnicodeError`), `fromstring` of a text (none is its `ParseError` or `ValueError`),
`iterparse` of bytes, and the scheme `urlsplit` finds (none is its `ValueError`). -/
structure TaxonomyLibraries where
  sha256 : List UInt8 → Sha256Hex
  decode : List UInt8 → Option String
  fromstring : String → Option XmlElement
  iterparse : List UInt8 → ScopedRun
  scheme : String → Option String

/-- `iterparse(io.BytesIO(body), events=("start-ns",))` tells only that a prefix is declared, not
where. -/
def TaxonomyLibraries.namespaces (libraries : TaxonomyLibraries) (body : List UInt8) :
    NamespaceRun :=
  ⟨(libraries.iterparse body).scopes.declarations, (libraries.iterparse body).error⟩

variable (libraries : TaxonomyLibraries)

/-- The text of a member is not parsed. -/
def isUnsafe (text : String) : Bool :=
  text.toList.contains '\x00' || hasInfix "<!DOCTYPE".toList text.toList ||
    hasInfix "<!ENTITY".toList text.toList

/-- `_xml` -/
def parseXml (body : List UInt8) : Except PyException XmlElement := do
  let text ← fetch (libraries.decode body) .valueError
  require (¬ isUnsafe text) .valueError
  fetch (libraries.fromstring text) .valueError

/-! ## Declarations -/

/-- `href.partition("#")`: what is before and after the first `#`, if there is one. -/
def partitionHref (href : String) : String × Option String :=
  match href.toList.dropWhile (· ≠ '#') with
  | [] => (href, none)
  | _ :: identifier =>
    (String.ofList (href.toList.takeWhile (· ≠ '#')), some (String.ofList identifier))

/-- `PurePosixPath(spec.schema_member).parent / location` -/
def locate (schemaMember location : String) : PosixPath :=
  (PosixPath.ofText schemaMember).parent.join (PosixPath.ofText location)

/-- The location is the schema member, next to itself. -/
def isLocal (schemaMember location : String) : Bool :=
  let path := locate schemaMember location
  ".." ∉ path.parts && !path.isAbsolute && path.asPosix = schemaMember

/-- The checks of an element that declares a monetary concept. -/
def verifyMonetary (body : List UInt8) (node : XmlElement) (periodType : Option PeriodType) :
    Except PyException Unit := do
  let namespaces ← readNamespaces (libraries.namespaces body)
  let type ← resolveQName ((node.get (plain "type")).getD "") namespaces
  require (type = monetaryItemType) .valueError
  let group ← resolveQName ((node.get (plain "substitutionGroup")).getD "") namespaces
  require (group = itemGroup) .valueError
  require ((node.get (plain "abstract")).getD "false" ∈ ["false", "0"]) .valueError
  require (node.get (xbrli "periodType") = periodType.map PeriodType.text) .valueError

/-- The elements of a schema with an id. -/
def elementsWithId (root : XmlElement) (identifier : String) : List XmlElement :=
  (root.elements (xsd "element")).filter (·.get (plain "id") = some identifier)

/-- `_declaration` -/
def verifyDeclaration (declaration : ConceptDeclaration) (spec : TaxonomySpec)
    (members : String → Option (List UInt8)) : Except PyException Unit := do
  let (location, rest) := partitionHref declaration.href
  let identifier ← fetch rest .valueError
  require (identifier ≠ "" ∧ '#' ∉ identifier.toList) .valueError
  let body ← fetch (members spec.schemaMember) .keyError
  let root ← parseXml libraries body
  require (root.tag = xsd "schema") .valueError
  let scheme ← fetch (libraries.scheme location) .valueError
  if scheme ≠ "" then
    require (scheme ∈ ["http", "https"] ∧ ∃ node ∈ root.elements (xsd "import"),
      node.get (plain "schemaLocation") = some location ∧
        node.get (plain "namespace") = some declaration.concept.nameSpace) .valueError
  else do
    require (isLocal spec.schemaMember location) .valueError
    match elementsWithId root identifier with
    | [node] => do
      require (root.get (plain "targetNamespace") = some declaration.concept.nameSpace ∧
        node.get (plain "name") = some declaration.concept.localName) .valueError
      if declaration.monetary then verifyMonetary libraries body node declaration.periodType
      else pure ()
    | _ => .error .valueError

/-! ## Networks -/

/-- `node.get(XLINK + "type") == type` -/
def hasType (type : String) (node : XmlElement) : Bool := node.get (xlink "type") = some type

/-- The label and the href of a locator. -/
def locatorOf (node : XmlElement) : String × String :=
  ((node.get (xlink "label")).getD "", (node.get (xlink "href")).getD "")

/-- The locators of a link; no two have one label. -/
def readLocators (link : XmlElement) : Except PyException (List (String × String)) := do
  let locators := (link.children.filter (hasType "locator")).map locatorOf
  require (locators.map Prod.fst).Nodup .valueError
  pure locators

/-- `locators.get(label)` -/
def hrefOf (locators : List (String × String)) (label : String) : Option String :=
  (locators.find? (·.1 = label)).map Prod.snd

/-- The name of the links and arcs with an arcrole. -/
def kindOf (arcrole : String) : String :=
  if endsWith "/parent-child" arcrole then "presentation"
  else if endsWith "/summation-item" arcrole then "calculation"
  else "definition"

/-- What is compared of an arc. -/
structure ObservedArc where
  arcrole : String
  source : String
  target : String
  weight : Option String
  closed : Option String
  contextElement : Option String
deriving DecidableEq

/-- `(arc.arcrole, arc.source, arc.target, arc.weight, arc.closed, arc.context_element)` -/
def RequiredArc.shown (arc : RequiredArc) : ObservedArc :=
  ⟨arc.arcrole, arc.source, arc.target, arc.weight, arc.closed, arc.contextElement⟩

/-- `node.get(XLINK + "arcrole", "")` -/
def arcroleOf (node : XmlElement) : String := (node.get (xlink "arcrole")).getD ""

/-- The arc has the attributes of one that stands by itself. -/
def isSupported (node : XmlElement) : Prop :=
  (node.get (plain "use")).getD "optional" = "optional" ∧
    (node.get (plain "priority")).getD "0" = "0" ∧ node.get (xbrldt "targetRole") = none ∧
    (node.get (xbrldt "usable")).getD "true" ∈ ["true", "1"]

instance (node : XmlElement) : Decidable (isSupported node) :=
  inferInstanceAs (Decidable (_ ∧ _ ∧ _ ∧ _))

/-- The arc gives an axis another default than an approved arc does. -/
def isOtherDefault (required : List RequiredArc) (node : XmlElement) (source target : String) :
    Prop :=
  ∃ arc ∈ required, endsWith "/dimension-default" (arcroleOf node) = true ∧
    arc.arcrole = arcroleOf node ∧ source = arc.source ∧ target ≠ arc.target

instance (required : List RequiredArc) (node : XmlElement) (source target : String) :
    Decidable (isOtherDefault required node source target) :=
  inferInstanceAs (Decidable (∃ arc ∈ required, _))

/-- One round of the loop over the arcs of a link. -/
def readArc (required : List RequiredArc) (link : XmlElement) (locators : List (String × String))
    (node : XmlElement) : Except PyException (Option ObservedArc) := do
  let relevant := required.flatMap fun arc => [arc.source, arc.target]
  let source? := hrefOf locators ((node.get (xlink "from")).getD "")
  let target? := hrefOf locators ((node.get (xlink "to")).getD "")
  if source?.all (· ∉ relevant) ∧ target?.all (· ∉ relevant) then pure none
  else do
    let source ← fetch source? .valueError
    let target ← fetch target? .valueError
    require (isSupported node) .valueError
    let arcrole := arcroleOf node
    require (link.tag = linkbase (kindOf arcrole ++ "Link") ∧
      node.tag = linkbase (kindOf arcrole ++ "Arc")) .valueError
    require (¬ endsWith "/notAll" arcrole) .valueError
    require (¬ isOtherDefault required node source target) .valueError
    pure (some ⟨arcrole, source, target, node.get (plain "weight"), node.get (xbrldt "closed"),
      node.get (xbrldt "contextElement")⟩)

/-- One round of the loop over the links. -/
def readLink (required : List RequiredArc) (link : XmlElement) :
    Except PyException (List ObservedArc) := do
  require (hasType "extended" link) .valueError
  let locators ← readLocators link
  let observed ← (link.children.filter (hasType "arc")).mapM (readArc required link locators)
  pure (observed.filterMap id)

/-- `_verify_network` -/
def verifyNetwork (body : List UInt8) (role : String) (required : List RequiredArc)
    (allowed : List String) : Except PyException Unit := do
  let root ← parseXml libraries body
  require (root.tag = linkbase "linkbase") .valueError
  let networks := root.children.filter (·.get (xlink "role") = some role)
  require (networks ≠ []) .valueError
  let observed ← networks.mapM (readLink required)
  required.forM fun arc => do
    require (arc.source ∈ allowed ∧ arc.target ∈ allowed) .valueError
    require (arc.shown ∈ observed.flatten) .valueError

/-! ## The proof -/

/-- `{spec.schema_member, *(arc.member for arc in rule.arcs)}` -/
def usedMembers (spec : TaxonomySpec) (rule : TaxonomyRule) : List String :=
  spec.schemaMember :: rule.arcs.map (·.member)

/-- The hashes of the used members that are present. -/
def memberHashes (members : String → Option (List UInt8)) (spec : TaxonomySpec)
    (rule : TaxonomyRule) : List (String × Sha256Hex) :=
  (sortedSet (usedMembers spec rule)).filterMap fun name =>
    (members name).map fun body => (name, libraries.sha256 body)

/-- The members and roles of the arcs, once each. -/
def networksOf (rule : TaxonomyRule) : List (String × String) :=
  (rule.arcs.map fun arc => (arc.member, arc.role)).dedup.insertionSort
    fun a b => a.1 < b.1 ∨ (a.1 = b.1 ∧ a.2 ≤ b.2)

/-- `{rule.concept_href, *(end for arc in rule.arcs for end in (arc.source, arc.target))}` -/
def endpointsOf (rule : TaxonomyRule) : List String :=
  rule.conceptHref :: rule.arcs.flatMap fun arc => [arc.source, arc.target]

/-- `declarations[href]` -/
def declarationOf (spec : TaxonomySpec) (href : String) : Option ConceptDeclaration :=
  spec.declarations.find? (·.href = href)

/-- The body of the `try`, up to the concept of the proof. -/
def selectConcept (members : String → Option (List UInt8)) (spec : TaxonomySpec)
    (rule : TaxonomyRule) : Except PyException ConceptDeclaration := do
  require (∀ name ∈ usedMembers spec rule,
    (members name).isSome ∧ (members name).map libraries.sha256 = spec.memberHashes name)
    .valueError
  -- the `dict` of the declarations has as many keys as there are declarations
  require (spec.declarations.map (·.href)).Nodup .valueError
  let selected ← fetch (declarationOf spec rule.conceptHref) .keyError
  require (selected.monetary ∧ selected.periodType ≠ none) .valueError
  pure selected

/-- The body of the `try`, after the concept of the proof. -/
def verifyRelations (members : String → Option (List UInt8)) (spec : TaxonomySpec)
    (rule : TaxonomyRule) : Except PyException Unit := do
  (sortedSet (endpointsOf rule)).forM fun href => do
    let declaration ← fetch (declarationOf spec href) .keyError
    verifyDeclaration libraries declaration spec members
  (networksOf rule).forM fun (member, role) => do
    let body ← fetch (members member) .keyError
    verifyNetwork libraries body role
      (rule.arcs.filter fun arc => arc.member = member ∧ arc.role = role)
      (spec.declarations.map (·.href))

/-- `except ValueError, KeyError, ET.ParseError` -/
def isTaxonomyError : PyException → Bool
  | .valueError | .keyError | .xmlParseError => true
  | _ => false

/-- The proof of a failure. -/
def unresolved (hashes : List (String × Sha256Hex)) (selected : Option ConceptDeclaration) :
    TaxonomyProof :=
  ⟨false, ["taxonomy_proof_unresolved"], selected.map (·.concept),
    selected.bind (·.periodType), hashes, []⟩

/-- `verify_taxonomy`; an error is an exception that leaves it. -/
def verifyTaxonomy (members : String → Option (List UInt8)) (spec : TaxonomySpec)
    (rule : TaxonomyRule) : Except PyException TaxonomyProof :=
  let hashes := memberHashes libraries members spec rule
  match selectConcept libraries members spec rule with
  | .error error =>
    if isTaxonomyError error then .ok (unresolved hashes none) else .error error
  | .ok selected =>
    match verifyRelations libraries members spec rule with
    | .error error =>
      if isTaxonomyError error then .ok (unresolved hashes (some selected)) else .error error
    | .ok _ => .ok ⟨true, [], some selected.concept, selected.periodType, hashes, rule.arcs⟩

end StockResearch.Sources
