import Mathlib.Data.List.TakeWhile
import StockResearch.Lib.Related
import StockResearch.Lib.Table
import StockResearch.Sources.Taxonomy

/-!
# What a taxonomy proof says

A proof is verified exactly when the pinned members say all that the policy approved, and a
verification that fails must still return a proof.

- `InScope`, `InTable`: how a name is resolved by XML, and by the code.
- `Verified`: the declarations and the arcs of a rule are in the members.
- `TaxonomyLaw`: the verification returns, and is right on well-formed members.
- `EncodingEscape`: the runs that raise.
- `Misread`: the members whose prefixes the table does not resolve as their scopes do.
- `taxonomyLaw_iff`: the inputs for which the law holds.
-/

namespace StockResearch.Sources

open Contracts (Sha256Hex)
open Preparation (sortedSet mem_sortedSet)

/-! ## What the members say -/

/-- The tree of a member that is UTF-8 and has no declarations. -/
def TreeOf (libraries : TaxonomyLibraries) (body : List UInt8) (root : XmlElement) : Prop :=
  ∃ text, libraries.decode body = some text ∧ ¬ isUnsafe text = true ∧
    libraries.fromstring text = some root

/-- A member that can be read, as a text and as bytes. -/
def WellFormed (libraries : TaxonomyLibraries) (body : List UInt8) : Prop :=
  (∃ root, TreeOf libraries body root) ∧ (libraries.namespaces body).error = none

/-- A locator is a location, one `#`, and an id. -/
def Locates (href location identifier : String) : Prop :=
  href = location ++ "#" ++ identifier ∧ '#' ∉ location.toList ∧ identifier ≠ "" ∧
    '#' ∉ identifier.toList

/-- How names are resolved in a member: what a text names at the element at a place among the
children of the root. -/
abbrev Reading := List UInt8 → Nat → String → EdinetXbrlQName → Prop

/-- A name is resolved by the declaration of its prefix that is in scope at the element. -/
def InScope (libraries : TaxonomyLibraries) : Reading := fun body place value name =>
  ∃ label, splitQName value = some (label, name.localName) ∧
    (libraries.iterparse body).scopes.lookup [place] label = some name.nameSpace

/-- A name is resolved by any declaration of its prefix in the member. -/
def Anywhere (libraries : TaxonomyLibraries) : Reading := fun body _ value name =>
  Names (libraries.namespaces body).declared value name

/-- A name is resolved by the only declaration of its prefix in a member that is read to its end
and declares no prefix twice. -/
def InTable (libraries : TaxonomyLibraries) : Reading := fun body place value name =>
  (libraries.namespaces body).error = none ∧ Consistent (libraries.namespaces body).declared ∧
    Anywhere libraries body place value name

/-- The text that types an element. -/
def typeOf (node : XmlElement) : String := (node.get (plain "type")).getD ""

/-- The text that names the substitution group of an element. -/
def groupOf (node : XmlElement) : String := (node.get (plain "substitutionGroup")).getD ""

/-- An element is a concrete monetary item of the period type. -/
structure IsMonetary (names : String → EdinetXbrlQName → Prop) (node : XmlElement)
    (periodType : Option PeriodType) : Prop where
  type : names (typeOf node) monetaryItemType
  group : names (groupOf node) itemGroup
  concrete : (node.get (plain "abstract")).getD "false" ∈ ["false", "0"]
  period : node.get (xbrli "periodType") = periodType.map PeriodType.text

/-- The place of the first element with an id among the children of the root. -/
def placeOf (root : XmlElement) (identifier : String) : Nat :=
  root.children.findIdx fun node =>
    node.tag = xsd "element" ∧ node.get (plain "id") = some identifier

/-- An element of the schema member has the id and the name that are declared. -/
structure BoundTo (schemaMember : String) (root : XmlElement) (declaration : ConceptDeclaration)
    (location identifier : String) (node : XmlElement) : Prop where
  resolves : isLocal schemaMember location = true
  unique : elementsWithId root identifier = [node]
  nameSpace : root.get (plain "targetNamespace") = some declaration.concept.nameSpace
  localName : node.get (plain "name") = some declaration.concept.localName

/-- The schema member confirms a declaration: it imports an external one, and has a local one. -/
inductive Confirmed (libraries : TaxonomyLibraries) (reading : Reading) (schemaMember : String)
    (body : List UInt8) (root : XmlElement) (declaration : ConceptDeclaration) : Prop
  | external {location identifier scheme : String} :
      Locates declaration.href location identifier →
      libraries.scheme location = some scheme → scheme ∈ ["http", "https"] →
      (∃ node ∈ root.elements (xsd "import"),
        node.get (plain "schemaLocation") = some location ∧
          node.get (plain "namespace") = some declaration.concept.nameSpace) →
      Confirmed libraries reading schemaMember body root declaration
  | here {location identifier : String} {node : XmlElement} :
      Locates declaration.href location identifier →
      libraries.scheme location = some "" →
      BoundTo schemaMember root declaration location identifier node →
      (declaration.monetary = true →
        IsMonetary (reading body (placeOf root identifier)) node declaration.periodType) →
      Confirmed libraries reading schemaMember body root declaration

/-- A declaration is confirmed by the schema member of the members. -/
def Declares (libraries : TaxonomyLibraries) (reading : Reading)
    (members : String → Option (List UInt8)) (spec : TaxonomySpec)
    (declaration : ConceptDeclaration) : Prop :=
  ∃ body root, members spec.schemaMember = some body ∧ TreeOf libraries body root ∧
    root.tag = xsd "schema" ∧ Confirmed libraries reading spec.schemaMember body root declaration

/-- An end of an arc: what a locator of the link with that label refers to. -/
def EndOf (link : XmlElement) (label href : String) : Prop :=
  ∃ node ∈ link.children, hasType "locator" node = true ∧ locatorOf node = (label, href)

/-- The labels an arc names. -/
def fromOf (node : XmlElement) : String := (node.get (xlink "from")).getD ""

/-- The labels an arc names. -/
def toOf (node : XmlElement) : String := (node.get (xlink "to")).getD ""

/-- An arc has an end in common with the approved arcs. -/
def Touches (required : List RequiredArc) (link node : XmlElement) : Prop :=
  ∃ arc ∈ required, ∃ href, (href = arc.source ∨ href = arc.target) ∧
    (EndOf link (fromOf node) href ∨ EndOf link (toOf node) href)

/-- An arc leaves the approved relations as they are. -/
structure Harmless (required : List RequiredArc) (link node : XmlElement) (source target : String) :
    Prop where
  supported : isSupported node
  linkKind : link.tag = linkbase (kindOf (arcroleOf node) ++ "Link")
  arcKind : node.tag = linkbase (kindOf (arcroleOf node) ++ "Arc")
  included : ¬ endsWith "/notAll" (arcroleOf node) = true
  sameDefault : ¬ isOtherDefault required node source target

/-- A link is an extended one with distinct labels, and its arcs that touch the approved ones
have two ends and are harmless. -/
structure LinkHolds (required : List RequiredArc) (link : XmlElement) : Prop where
  extended : hasType "extended" link = true
  distinct : ((link.children.filter (hasType "locator")).map locatorOf |>.map Prod.fst).Nodup
  arcs : ∀ node ∈ link.children, hasType "arc" node = true → Touches required link node →
    ∃ source target, EndOf link (fromOf node) source ∧ EndOf link (toOf node) target ∧
      Harmless required link node source target

/-- An arc of a link is the approved one. -/
structure Shows (link node : XmlElement) (arc : RequiredArc) : Prop where
  source : EndOf link (fromOf node) arc.source
  target : EndOf link (toOf node) arc.target
  arcrole : arcroleOf node = arc.arcrole
  weight : node.get (plain "weight") = arc.weight
  closed : node.get (xbrldt "closed") = arc.closed
  contextElement : node.get (xbrldt "contextElement") = arc.contextElement

/-- A linkbase has links with the role; all of them hold, and every approved arc is in one. -/
structure NetworkHolds (root : XmlElement) (role : String) (required : List RequiredArc) :
    Prop where
  linkbase : root.tag = linkbase "linkbase"
  present : ∃ link ∈ root.children, link.get (xlink "role") = some role
  links : ∀ link ∈ root.children, link.get (xlink "role") = some role → LinkHolds required link
  shown : ∀ arc ∈ required, ∃ link ∈ root.children, link.get (xlink "role") = some role ∧
    ∃ node ∈ link.children, hasType "arc" node = true ∧ Shows link node arc

/-- The members are pinned, and the concept of the rule is declared. -/
structure Selected (libraries : TaxonomyLibraries) (members : String → Option (List UInt8))
    (spec : TaxonomySpec) (rule : TaxonomyRule) : Prop where
  pinned : ∀ name ∈ usedMembers spec rule, ∃ body, members name = some body ∧
    spec.memberHashes name = some (libraries.sha256 body)
  distinct : (spec.declarations.map (·.href)).Nodup
  concept : ∃ declaration ∈ spec.declarations, declaration.href = rule.conceptHref ∧
    declaration.monetary = true ∧ declaration.periodType ≠ none

/-- An endpoint is declared, and confirmed by the schema member. -/
def EndpointHolds (libraries : TaxonomyLibraries) (reading : Reading)
    (members : String → Option (List UInt8)) (spec : TaxonomySpec) (href : String) : Prop :=
  ∃ declaration ∈ spec.declarations, declaration.href = href ∧
    Declares libraries reading members spec declaration

/-- The members say all that the rule and the specification approve. -/
structure Verified (libraries : TaxonomyLibraries) (reading : Reading)
    (members : String → Option (List UInt8)) (spec : TaxonomySpec) (rule : TaxonomyRule) :
    Prop where
  selected : Selected libraries members spec rule
  endpoints : ∀ href ∈ endpointsOf rule, EndpointHolds libraries reading members spec href
  networks : ∀ arc ∈ rule.arcs, ∃ body root, members arc.member = some body ∧
    TreeOf libraries body root ∧ NetworkHolds root arc.role
      (rule.arcs.filter fun other => other.member = arc.member ∧ other.role = arc.role)

/-- The used members can be read. -/
def Readable (libraries : TaxonomyLibraries) (members : String → Option (List UInt8))
    (spec : TaxonomySpec) (rule : TaxonomyRule) : Prop :=
  ∀ name ∈ usedMembers spec rule, ∀ body, members name = some body → WellFormed libraries body

/-- The verification returns, and is right on members that can be read. -/
structure TaxonomyLaw (libraries : TaxonomyLibraries) (members : String → Option (List UInt8))
    (spec : TaxonomySpec) (rule : TaxonomyRule) : Prop where
  returns : ∃ proof, verifyTaxonomy libraries members spec rule = .ok proof
  exact : Readable libraries members spec rule →
    ∀ proof, verifyTaxonomy libraries members spec rule = .ok proof →
      (proof.verified = true ↔ Verified libraries (InScope libraries) members spec rule)

/-! ## Members and locators -/

section

variable {libraries : TaxonomyLibraries} {members : String → Option (List UInt8)}
  {spec : TaxonomySpec} {rule : TaxonomyRule}

theorem parseXml_eq_ok {body : List UInt8} {root : XmlElement} :
    parseXml libraries body = .ok root ↔ TreeOf libraries body root := by
  simp only [parseXml, TreeOf, bind_eq_ok, fetch_eq_ok, require_eq_ok]
  constructor
  · rintro ⟨text, htext, -, hsafe, hroot⟩
    exact ⟨text, htext, hsafe, hroot⟩
  · rintro ⟨text, htext, hsafe, hroot⟩
    exact ⟨text, htext, (), hsafe, hroot⟩

theorem parseXml_eq_error {body : List UInt8} {error : PyException}
    (h : parseXml libraries body = .error error) : error = .valueError := by
  simp only [parseXml, bind_eq_error, fetch_eq_error, require_eq_error] at h
  rcases h with ⟨-, rfl⟩ | ⟨_, -, ⟨-, rfl⟩ | ⟨_, -, -, rfl⟩⟩ <;> rfl

theorem takeWhile_append_cons {α : Type} {p : α → Bool} {xs ys : List α} {x : α}
    (hxs : ∀ a ∈ xs, p a = true) (hx : p x = false) :
    (xs ++ x :: ys).takeWhile p = xs ∧ (xs ++ x :: ys).dropWhile p = x :: ys := by
  induction xs with
  | nil => simp [hx]
  | cons a xs ih =>
    obtain ⟨ha, hxs⟩ := List.forall_mem_cons.mp hxs
    simp [ha, ih hxs]

/-- A text is split at its first `#`. -/
theorem partitionHref_iff {href location identifier : String} :
    partitionHref href = (location, some identifier) ↔
      href = location ++ "#" ++ identifier ∧ '#' ∉ location.toList := by
  have hhash : "#".toList = ['#'] := rfl
  constructor
  · intro h
    unfold partitionHref at h
    split at h
    · cases h
    · rename_i c rest hdrop
      obtain ⟨rfl, hrest⟩ := Prod.mk.inj h
      obtain rfl := Option.some.inj hrest
      have hc : c = '#' := by
        have hnot := List.head?_dropWhile_not (· ≠ '#') href.toList
        rw [hdrop] at hnot
        simpa using hnot
      have hwhole := List.takeWhile_append_dropWhile (p := (· ≠ '#')) (l := href.toList)
      rw [hdrop, hc] at hwhole
      refine ⟨?_, fun hmem => ?_⟩
      · rw [← String.toList_inj]
        simpa [String.toList_append, hhash] using hwhole.symm
      · rw [String.toList_ofList] at hmem
        simpa using List.mem_takeWhile_imp hmem
  · rintro ⟨rfl, hlocation⟩
    have hchars : (location ++ "#" ++ identifier).toList =
        location.toList ++ '#' :: identifier.toList := by
      simp [String.toList_append, hhash]
    obtain ⟨htake, hdrop⟩ :
        (location.toList ++ '#' :: identifier.toList).takeWhile (· ≠ '#') = location.toList ∧
          (location.toList ++ '#' :: identifier.toList).dropWhile (· ≠ '#') =
            '#' :: identifier.toList :=
      takeWhile_append_cons (fun a ha => decide_eq_true fun heq => hlocation (heq ▸ ha))
        (by decide)
    unfold partitionHref
    rw [hchars, hdrop, htake]
    simp

/-- Among items with distinct keys, the one with a key is found. -/
theorem find?_key_iff {α κ : Type} [DecidableEq κ] {key : α → κ} {xs : List α} {x : α} {k : κ}
    (hdistinct : (xs.map key).Nodup) :
    xs.find? (key · = k) = some x ↔ x ∈ xs ∧ key x = k := by
  constructor
  · intro h
    exact ⟨List.mem_of_find?_eq_some h, by simpa using List.find?_some h⟩
  · rintro ⟨hx, rfl⟩
    obtain ⟨y, hy⟩ := Option.isSome_iff_exists.mp
      (List.find?_isSome.mpr ⟨x, hx, decide_eq_true rfl⟩ : (xs.find? (key · = key x)).isSome)
    have hkey : key y = key x := by simpa using List.find?_some hy
    rw [hy, List.inj_on_of_nodup_map hdistinct (List.mem_of_find?_eq_some hy) hx hkey]

theorem declarationOf_eq_some {declaration : ConceptDeclaration} {href : String}
    (hdistinct : (spec.declarations.map (·.href)).Nodup) :
    declarationOf spec href = some declaration ↔
      declaration ∈ spec.declarations ∧ declaration.href = href :=
  find?_key_iff hdistinct

/-! ## Declarations -/

theorem verifyMonetary_eq_ok {body : List UInt8} {place : Nat} {node : XmlElement}
    {periodType : Option PeriodType} :
    verifyMonetary libraries body node periodType = .ok () ↔
      IsMonetary (InTable libraries body place) node periodType := by
  simp only [verifyMonetary, bind_eq_ok, require_eq_ok]
  constructor
  · rintro ⟨namespaces, hnamespaces, type, htype, -, rfl, group, hgroup, -, rfl, -, habstract,
      hperiod⟩
    obtain ⟨herror, hrecords⟩ := readNamespaces_eq_ok hnamespaces
    exact ⟨⟨herror, hrecords.1, (resolveQName_eq_ok hrecords).mp htype⟩,
      ⟨herror, hrecords.1, (resolveQName_eq_ok hrecords).mp hgroup⟩, habstract, hperiod⟩
  · rintro ⟨⟨herror, hconsistent, htype⟩, ⟨-, -, hgroup⟩, habstract, hperiod⟩
    obtain ⟨namespaces, hnamespaces⟩ := exists_readNamespaces hconsistent herror
    obtain ⟨-, hrecords⟩ := readNamespaces_eq_ok hnamespaces
    exact ⟨namespaces, hnamespaces, _, (resolveQName_eq_ok hrecords).mpr htype, (), rfl, _,
      (resolveQName_eq_ok hrecords).mpr hgroup, (), rfl, (), habstract, hperiod⟩

/-- The prefixes of a member are consistent, and its encoding is unknown. -/
def HasUnknownEncoding (libraries : TaxonomyLibraries) (body : List UInt8) : Prop :=
  Consistent (libraries.namespaces body).declared ∧
    (libraries.namespaces body).error = some .lookupError

theorem verifyMonetary_escapes_iff {body : List UInt8} {node : XmlElement}
    {periodType : Option PeriodType} {error : PyException} :
    verifyMonetary libraries body node periodType = .error error ∧
        isTaxonomyError error = false ↔
      error = .lookupError ∧ HasUnknownEncoding libraries body := by
  simp only [verifyMonetary, bind_eq_error, require_eq_error, readNamespaces_eq_error]
  constructor
  · rintro ⟨h, hescapes⟩
    rcases h with (⟨-, rfl⟩ | ⟨hconsistent, raised, hraised, rfl⟩) | ⟨_, -, h⟩
    · cases hescapes
    · cases raised with
      | parseError => cases hescapes
      | valueError => cases hescapes
      | lookupError => exact ⟨rfl, hconsistent, hraised⟩
    · rcases h with h | ⟨_, -, ⟨-, rfl⟩ | ⟨_, -, h | ⟨_, -, ⟨-, rfl⟩ | ⟨_, -, ⟨-, rfl⟩ |
        ⟨_, -, -, rfl⟩⟩⟩⟩⟩
      · rw [resolveQName_eq_error h] at hescapes
        cases hescapes
      · cases hescapes
      · rw [resolveQName_eq_error h] at hescapes
        cases hescapes
      · cases hescapes
      · cases hescapes
      · cases hescapes
  · rintro ⟨rfl, hconsistent, hraised⟩
    exact ⟨.inl (.inr ⟨hconsistent, _, hraised, rfl⟩), rfl⟩

/-- The declaration is a local monetary one, whose element is found in the schema member. -/
def ReadsMonetary (libraries : TaxonomyLibraries) (schemaMember : String) (root : XmlElement)
    (declaration : ConceptDeclaration) : Prop :=
  declaration.monetary = true ∧ ∃ location identifier node,
    Locates declaration.href location identifier ∧ libraries.scheme location = some "" ∧
    BoundTo schemaMember root declaration location identifier node

theorem verifyDeclaration_eq_ok {declaration : ConceptDeclaration} :
    verifyDeclaration libraries declaration spec members = .ok () ↔
      Declares libraries (InTable libraries) members spec declaration := by
  simp only [verifyDeclaration, bind_eq_ok, require_eq_ok, fetch_eq_ok, parseXml_eq_ok]
  constructor
  · rintro ⟨identifier, hidentifier, -, ⟨hne, hhash⟩, body, hbody, root, hroot, -, htag, scheme,
      hscheme, h⟩
    have hlocates : Locates declaration.href (partitionHref declaration.href).1 identifier := by
      obtain ⟨hhref, hlocation⟩ := partitionHref_iff.mp (Prod.ext rfl hidentifier)
      exact ⟨hhref, hlocation, hne, hhash⟩
    refine ⟨body, root, hbody, hroot, htag, ?_⟩
    split at h
    · -- the schema is elsewhere: it must be imported
      obtain ⟨hhttp, himport⟩ := require_eq_ok.mp h
      exact .external hlocates hscheme hhttp himport
    · rename_i hempty
      -- the schema is this member: one element with the name
      obtain ⟨⟨⟩, hlocal, h⟩ := bind_eq_ok.mp h
      split at h
      · rename_i node hnode
        obtain ⟨⟨⟩, hnames, h⟩ := bind_eq_ok.mp h
        rw [require_eq_ok] at hlocal hnames
        refine .here hlocates (not_not.mp hempty ▸ hscheme) ⟨hlocal, hnode, hnames.1, hnames.2⟩ ?_
        intro hmonetary
        rw [if_pos hmonetary] at h
        exact verifyMonetary_eq_ok.mp h
      · cases h
  · rintro ⟨body, root, hbody, hroot, htag, hconfirmed⟩
    cases hconfirmed with
    | external hlocates hscheme hhttp himport =>
      obtain ⟨hhref, hlocation, hne, hhash⟩ := hlocates
      have hpartition := partitionHref_iff.mpr ⟨hhref, hlocation⟩
      rw [hpartition]
      refine ⟨_, rfl, (), ⟨hne, hhash⟩, body, hbody, root, hroot, (), htag, _, hscheme, ?_⟩
      rw [if_pos (by rintro rfl; simp at hhttp)]
      exact require_eq_ok.mpr ⟨hhttp, himport⟩
    | here hlocates hscheme hbound hmonetary =>
      obtain ⟨hhref, hlocation, hne, hhash⟩ := hlocates
      have hpartition := partitionHref_iff.mpr ⟨hhref, hlocation⟩
      rw [hpartition]
      refine ⟨_, rfl, (), ⟨hne, hhash⟩, body, hbody, root, hroot, (), htag, _, hscheme, ?_⟩
      rw [if_neg (not_not.mpr rfl)]
      refine bind_eq_ok.mpr ⟨(), require_eq_ok.mpr hbound.resolves, ?_⟩
      rw [hbound.unique]
      refine bind_eq_ok.mpr ⟨(), require_eq_ok.mpr ⟨hbound.nameSpace, hbound.localName⟩, ?_⟩
      split
      · rename_i h
        exact verifyMonetary_eq_ok.mpr (hmonetary h)
      · rfl

/-- The check of a declaration raises what no clause takes only where it reads prefixes. -/
def DeclarationEscape (libraries : TaxonomyLibraries) (members : String → Option (List UInt8))
    (spec : TaxonomySpec) (declaration : ConceptDeclaration) : Prop :=
  ∃ body root, members spec.schemaMember = some body ∧ TreeOf libraries body root ∧
    root.tag = xsd "schema" ∧ ReadsMonetary libraries spec.schemaMember root declaration ∧
    HasUnknownEncoding libraries body

theorem verifyDeclaration_escapes_iff {declaration : ConceptDeclaration} :
    (∃ error, verifyDeclaration libraries declaration spec members = .error error ∧
        isTaxonomyError error = false) ↔
      DeclarationEscape libraries members spec declaration := by
  simp only [verifyDeclaration, bind_eq_error, require_eq_error, fetch_eq_error, fetch_eq_ok,
    require_eq_ok, parseXml_eq_ok]
  constructor
  · rintro ⟨error, h, hescapes⟩
    -- every check on the way raises a taxonomy error
    rcases h with ⟨-, rfl⟩ | ⟨identifier, hidentifier, ⟨-, rfl⟩ | ⟨-, ⟨hne, hhash⟩, ⟨-, rfl⟩ |
      ⟨body, hbody, h | ⟨root, hroot, ⟨-, rfl⟩ | ⟨-, htag, ⟨-, rfl⟩ | ⟨scheme, hscheme, h⟩⟩⟩⟩⟩⟩
    · cases hescapes
    · cases hescapes
    · cases hescapes
    · rw [parseXml_eq_error h] at hescapes
      cases hescapes
    · cases hescapes
    · cases hescapes
    split at h
    · obtain ⟨-, rfl⟩ := require_eq_error.mp h
      cases hescapes
    · rename_i hempty
      rcases bind_eq_error.mp h with h | ⟨⟨⟩, hlocal, h⟩
      · obtain ⟨-, rfl⟩ := require_eq_error.mp h
        cases hescapes
      split at h
      · rename_i node hnode
        rcases bind_eq_error.mp h with h | ⟨⟨⟩, hnames, h⟩
        · obtain ⟨-, rfl⟩ := require_eq_error.mp h
          cases hescapes
        -- only the monetary check of a local concept is left
        rw [require_eq_ok] at hlocal hnames
        split at h
        · rename_i hmonetary
          obtain ⟨-, hunknown⟩ := verifyMonetary_escapes_iff.mp ⟨h, hescapes⟩
          obtain ⟨hhref, hlocation⟩ := partitionHref_iff.mp (Prod.ext rfl hidentifier)
          exact ⟨body, root, hbody, hroot, htag, ⟨hmonetary, _, identifier, node,
            ⟨hhref, hlocation, hne, hhash⟩, not_not.mp hempty ▸ hscheme,
            ⟨hlocal, hnode, hnames.1, hnames.2⟩⟩, hunknown⟩
        · cases h
      · cases h
        cases hescapes
  · rintro ⟨body, root, hbody, hroot, htag, ⟨hmonetary, location, identifier, node, hlocates,
      hscheme, hbound⟩, hunknown⟩
    obtain ⟨hhref, hlocation, hne, hhash⟩ := hlocates
    have hpartition := partitionHref_iff.mpr ⟨hhref, hlocation⟩
    obtain ⟨hraises, hescapes⟩ : verifyMonetary libraries body node declaration.periodType =
        .error .lookupError ∧ isTaxonomyError .lookupError = false :=
      verifyMonetary_escapes_iff.mpr ⟨rfl, hunknown⟩
    rw [hpartition]
    refine ⟨.lookupError, .inr ⟨_, rfl, .inr ⟨(), ⟨hne, hhash⟩, .inr ⟨body, hbody, .inr ⟨root,
      hroot, .inr ⟨(), htag, .inr ⟨_, hscheme, ?_⟩⟩⟩⟩⟩⟩, hescapes⟩
    rw [if_neg (not_not.mpr rfl)]
    refine bind_eq_error.mpr (.inr ⟨(), require_eq_ok.mpr hbound.resolves, ?_⟩)
    rw [hbound.unique]
    refine bind_eq_error.mpr (.inr ⟨(), require_eq_ok.mpr ⟨hbound.nameSpace, hbound.localName⟩, ?_⟩)
    rw [if_pos hmonetary]
    exact hraises

/-! ## Networks -/

theorem readLocators_eq_ok {link : XmlElement} {locators : List (String × String)} :
    readLocators link = .ok locators ↔
      locators = (link.children.filter (hasType "locator")).map locatorOf ∧
        (locators.map Prod.fst).Nodup := by
  simp only [readLocators, bind_eq_ok, require_eq_ok, pure_eq_ok]
  constructor
  · rintro ⟨-, hdistinct, rfl⟩
    exact ⟨rfl, hdistinct⟩
  · rintro ⟨rfl, hdistinct⟩
    exact ⟨(), hdistinct, rfl⟩

/-- With distinct labels, a label is looked up as the locators say. -/
theorem hrefOf_eq_some {link : XmlElement} {locators : List (String × String)}
    (h : readLocators link = .ok locators) {label href : String} :
    hrefOf locators label = some href ↔ EndOf link label href := by
  obtain ⟨rfl, hdistinct⟩ := readLocators_eq_ok.mp h
  rw [hrefOf, Table.find?_key_eq hdistinct]
  simp [EndOf, and_assoc]

/-- An arc that touches no approved one is passed over, and any other must be harmless. -/
theorem readArc_eq_ok {required : List RequiredArc} {link node : XmlElement}
    {locators : List (String × String)} (h : readLocators link = .ok locators)
    {observed : Option ObservedArc} :
    readArc required link locators node = .ok observed ↔
      (¬ Touches required link node ∧ observed = none) ∨
        (Touches required link node ∧ ∃ source target, EndOf link (fromOf node) source ∧
          EndOf link (toOf node) target ∧ Harmless required link node source target ∧
          observed = some ⟨arcroleOf node, source, target, node.get (plain "weight"),
            node.get (xbrldt "closed"), node.get (xbrldt "contextElement")⟩) := by
  -- an end is relevant when an approved arc names it
  have hrelevant : ∀ label, (hrefOf locators label).all
      (· ∉ required.flatMap fun arc => [arc.source, arc.target]) = true ↔
        ¬ ∃ arc ∈ required, ∃ href, (href = arc.source ∨ href = arc.target) ∧
          EndOf link label href := by
    intro label
    rw [Option.all_eq_true]
    simp only [hrefOf_eq_some h, decide_eq_true_eq, List.mem_flatMap, List.mem_cons,
      List.not_mem_nil, or_false]
    constructor
    · rintro hnone ⟨arc, harc, href, hside, hend⟩
      exact hnone href hend ⟨arc, harc, hside⟩
    · rintro hnone href hend ⟨arc, harc, hside⟩
      exact hnone ⟨arc, harc, href, hside, hend⟩
  have htouches : ((hrefOf locators (fromOf node)).all
      (· ∉ required.flatMap fun arc => [arc.source, arc.target]) = true ∧
      (hrefOf locators (toOf node)).all
        (· ∉ required.flatMap fun arc => [arc.source, arc.target]) = true) ↔
      ¬ Touches required link node := by
    rw [hrelevant, hrelevant, ← not_or]
    refine not_congr ⟨?_, ?_⟩
    · rintro (⟨arc, harc, href, hside, hend⟩ | ⟨arc, harc, href, hside, hend⟩)
      · exact ⟨arc, harc, href, hside, .inl hend⟩
      · exact ⟨arc, harc, href, hside, .inr hend⟩
    · rintro ⟨arc, harc, href, hside, hend | hend⟩
      · exact .inl ⟨arc, harc, href, hside, hend⟩
      · exact .inr ⟨arc, harc, href, hside, hend⟩
  change (if _ ∧ _ then _ else _) = _ ↔ _
  rw [show (((node.get (xlink "from")).getD "") = fromOf node) from rfl,
    show (((node.get (xlink "to")).getD "") = toOf node) from rfl]
  -- a relevant arc passes every check, any other is skipped
  by_cases htouch : Touches required link node
  · rw [if_neg (fun hnot => htouches.mp hnot htouch)]
    simp only [bind_eq_ok, fetch_eq_ok, require_eq_ok, pure_eq_ok, hrefOf_eq_some h, htouch,
      not_true_eq_false, false_and, true_and, false_or]
    constructor
    · rintro ⟨source, hsource, target, htarget, -, hsupported, -, ⟨hlink, harc⟩, -, hincluded, -,
        hdefault, rfl⟩
      exact ⟨source, target, hsource, htarget, ⟨hsupported, hlink, harc, hincluded, hdefault⟩, rfl⟩
    · rintro ⟨source, target, hsource, htarget, hharmless, rfl⟩
      exact ⟨source, hsource, target, htarget, (), hharmless.supported, (),
        ⟨hharmless.linkKind, hharmless.arcKind⟩, (), hharmless.included, (),
        hharmless.sameDefault, rfl⟩
  · rw [if_pos (htouches.mpr htouch), pure_eq_ok]
    simp [htouch, eq_comm]

theorem readArc_eq_error {required : List RequiredArc} {link node : XmlElement}
    {locators : List (String × String)} {error : PyException}
    (h : readArc required link locators node = .error error) : error = .valueError := by
  unfold readArc at h
  dsimp only at h
  split at h
  · cases h
  · simp only [bind_eq_error, fetch_eq_error, require_eq_error] at h
    rcases h with ⟨-, rfl⟩ | ⟨_, -, ⟨-, rfl⟩ | ⟨_, -, ⟨-, rfl⟩ | ⟨_, -, ⟨-, rfl⟩ | ⟨_, -,
      ⟨-, rfl⟩ | ⟨_, -, ⟨-, rfl⟩ | ⟨_, -, h⟩⟩⟩⟩⟩⟩
    all_goals first | rfl | cases h

/-- A link is read exactly when it holds, and then shows the arcs that touch approved ones. -/
theorem readLink_eq_ok {required : List RequiredArc} {link : XmlElement} :
    (∃ observed, readLink required link = .ok observed) ↔ LinkHolds required link := by
  simp only [readLink, bind_eq_ok, require_eq_ok, pure_eq_ok, mapM_eq_ok]
  constructor
  · rintro ⟨-, -, hextended, locators, hlocators, arcs, harcs, -⟩
    obtain ⟨hmap, hdistinct⟩ := readLocators_eq_ok.mp hlocators
    refine ⟨hextended, hmap ▸ hdistinct, fun node hnode harc htouch => ?_⟩
    obtain ⟨observed, -, hread⟩ := exists_right_of_mem harcs (List.mem_filter.mpr ⟨hnode, harc⟩)
    rcases (readArc_eq_ok hlocators).mp hread with ⟨hnot, -⟩ | ⟨-, source, target, hsource, htarget,
      hharmless, -⟩
    · exact absurd htouch hnot
    · exact ⟨source, target, hsource, htarget, hharmless⟩
  · rintro ⟨hextended, hdistinct, harcs⟩
    have hlocators := readLocators_eq_ok.mpr ⟨rfl, hdistinct⟩
    obtain ⟨arcs, hread⟩ := exists_mapM_eq_ok.mpr fun node hnode => show ∃ observed,
        readArc required link _ node = .ok observed from by
      obtain ⟨hnode, harc⟩ := List.mem_filter.mp hnode
      by_cases htouch : Touches required link node
      · obtain ⟨source, target, hsource, htarget, hharmless⟩ := harcs node hnode harc htouch
        exact ⟨_, (readArc_eq_ok hlocators).mpr
          (.inr ⟨htouch, source, target, hsource, htarget, hharmless, rfl⟩)⟩
      · exact ⟨none, (readArc_eq_ok hlocators).mpr (.inl ⟨htouch, rfl⟩)⟩
    exact ⟨_, (), hextended, _, hlocators, arcs, mapM_eq_ok.mp hread, rfl⟩

/-- An approved arc is observed in a link exactly when one of its arcs shows it. -/
theorem mem_observed_iff {required : List RequiredArc} {link : XmlElement} {arc : RequiredArc}
    {observed : List ObservedArc} (harc : arc ∈ required)
    (hread : readLink required link = .ok observed) :
    arc.shown ∈ observed ↔
      ∃ node ∈ link.children, hasType "arc" node = true ∧ Shows link node arc := by
  have hholds := readLink_eq_ok.mp ⟨observed, hread⟩
  simp only [readLink, bind_eq_ok, pure_eq_ok, mapM_eq_ok] at hread
  obtain ⟨-, -, locators, hlocators, arcs, harcs, rfl⟩ := hread
  -- a label has one locator
  have hends : ∀ {label first second}, EndOf link label first → EndOf link label second →
      first = second := fun hfirst hsecond => by
    rw [← hrefOf_eq_some hlocators] at hfirst hsecond
    exact Option.some.inj (hfirst.symm.trans hsecond)
  rw [List.mem_filterMap]
  constructor
  · rintro ⟨_, hmem, rfl⟩
    obtain ⟨node, hnode, hread⟩ := exists_left_of_mem harcs hmem
    obtain ⟨hnode, htype⟩ := List.mem_filter.mp hnode
    rcases (readArc_eq_ok hlocators).mp hread with ⟨-, hnone⟩ | ⟨-, source, target, hsource,
      htarget, -, hshown⟩
    · cases hnone
    · obtain ⟨harcrole, rfl, rfl, hweight, hclosed, helement⟩ :=
        ObservedArc.mk.inj (Option.some.inj hshown)
      exact ⟨node, hnode, htype, hsource, htarget, harcrole.symm, hweight.symm, hclosed.symm,
        helement.symm⟩
  · -- an arc that shows an approved one is relevant, so it is read
    rintro ⟨node, hnode, htype, hshows⟩
    have htouch : Touches required link node :=
      ⟨arc, harc, arc.source, .inl rfl, .inl hshows.source⟩
    obtain ⟨read, hmem, hread⟩ := exists_right_of_mem harcs (List.mem_filter.mpr ⟨hnode, htype⟩)
    rcases (readArc_eq_ok hlocators).mp hread with ⟨hnot, -⟩ | ⟨-, source, target, hsource,
      htarget, -, rfl⟩
    · exact absurd htouch hnot
    · refine ⟨_, hmem, ?_⟩
      rw [id, hends hsource hshows.source, hends htarget hshows.target, hshows.arcrole,
        hshows.weight, hshows.closed, hshows.contextElement]
      rfl

theorem readLink_eq_error {required : List RequiredArc} {link : XmlElement} {error : PyException}
    (h : readLink required link = .error error) : error = .valueError := by
  simp only [readLink, readLocators, bind_eq_error, require_eq_error, mapM_eq_error] at h
  rcases h with ⟨-, rfl⟩ | ⟨_, -, (⟨-, rfl⟩ | ⟨_, -, h⟩) | ⟨_, -,
    ⟨_, _, _, -, -, h⟩ | ⟨_, -, h⟩⟩⟩
  · rfl
  · rfl
  · cases h
  · exact readArc_eq_error h
  · cases h

/-- A network is accepted exactly when it holds, if its approved arcs end in declared places. -/
theorem verifyNetwork_eq_ok {body : List UInt8} {role : String} {required : List RequiredArc}
    {allowed : List String}
    (hallowed : ∀ arc ∈ required, arc.source ∈ allowed ∧ arc.target ∈ allowed) :
    verifyNetwork libraries body role required allowed = .ok () ↔
      ∃ root, TreeOf libraries body root ∧ NetworkHolds root role required := by
  -- the links of the role
  have hlinks : ∀ root link : XmlElement,
      link ∈ root.children.filter (·.get (xlink "role") = some role) ↔
        link ∈ root.children ∧ link.get (xlink "role") = some role := fun root link => by
    simp [List.mem_filter]
  simp only [verifyNetwork, bind_eq_ok, parseXml_eq_ok, require_eq_ok]
  constructor
  · rintro ⟨root, hroot, -, htag, -, hpresent, observed, hobserved, harcs⟩
    refine ⟨root, hroot, htag, ?_, fun link hlink hrole => ?_, fun arc harc => ?_⟩
    · obtain ⟨link, hlink⟩ := List.exists_mem_of_ne_nil _ hpresent
      obtain ⟨hlink, hrole⟩ := (hlinks root link).mp hlink
      exact ⟨link, hlink, hrole⟩
    · have hmem := (hlinks root link).mpr ⟨hlink, hrole⟩
      exact readLink_eq_ok.mp (exists_mapM_eq_ok.mp ⟨observed, hobserved⟩ link hmem)
    · obtain ⟨-, -, hshown⟩ := bind_eq_ok.mp (forM_eq_ok.mp harcs arc harc)
      obtain ⟨seen, hseen, hshown⟩ := List.mem_flatten.mp (require_eq_ok.mp hshown)
      obtain ⟨link, hlink, hread⟩ := exists_left_of_mem (mapM_eq_ok.mp hobserved) hseen
      obtain ⟨hlink, hrole⟩ := (hlinks root link).mp hlink
      exact ⟨link, hlink, hrole, (mem_observed_iff harc hread).mp hshown⟩
  · rintro ⟨root, hroot, htag, ⟨present, hpresent, hpresentRole⟩, hholds, hshown⟩
    obtain ⟨observed, hobserved⟩ := exists_mapM_eq_ok.mpr fun link hlink =>
      readLink_eq_ok.mpr (hholds link ((hlinks root link).mp hlink).1 ((hlinks root link).mp hlink).2)
    refine ⟨root, hroot, (), htag, (), ?_, observed, hobserved, forM_eq_ok.mpr fun arc harc => ?_⟩
    · exact List.ne_nil_of_mem ((hlinks root present).mpr ⟨hpresent, hpresentRole⟩)
    · refine bind_eq_ok.mpr ⟨(), require_eq_ok.mpr (hallowed arc harc), require_eq_ok.mpr ?_⟩
      obtain ⟨link, hlink, hrole, hnode⟩ := hshown arc harc
      obtain ⟨seen, hseen, hread⟩ := exists_right_of_mem (mapM_eq_ok.mp hobserved)
        ((hlinks root link).mpr ⟨hlink, hrole⟩)
      exact List.mem_flatten.mpr ⟨seen, hseen, (mem_observed_iff harc hread).mpr hnode⟩

theorem verifyNetwork_eq_error {body : List UInt8} {role : String} {required : List RequiredArc}
    {allowed : List String} {error : PyException}
    (h : verifyNetwork libraries body role required allowed = .error error) :
    error = .valueError := by
  simp only [verifyNetwork, bind_eq_error, require_eq_error, mapM_eq_error, forM_eq_error] at h
  rcases h with h | ⟨_, -, ⟨-, rfl⟩ | ⟨_, -, ⟨-, rfl⟩ | ⟨_, -, ⟨_, _, _, -, -, h⟩ |
    ⟨_, -, _, _, _, -, -, ⟨-, rfl⟩ | ⟨_, -, -, rfl⟩⟩⟩⟩⟩
  · exact parseXml_eq_error h
  · rfl
  · rfl
  · exact readLink_eq_error h
  · rfl
  · rfl

/-! ## The proof -/

/-- The prefixes of the schema member are read for an endpoint, after all before it are
confirmed, and its encoding is unknown. -/
def EncodingEscape (libraries : TaxonomyLibraries) (members : String → Option (List UInt8))
    (spec : TaxonomySpec) (rule : TaxonomyRule) : Prop :=
  Selected libraries members spec rule ∧ ∃ before href after,
    sortedSet (endpointsOf rule) = before ++ href :: after ∧
    (∀ other ∈ before, EndpointHolds libraries (InTable libraries) members spec other) ∧
    ∃ declaration ∈ spec.declarations, declaration.href = href ∧
      DeclarationEscape libraries members spec declaration

theorem selectConcept_eq_ok :
    (∃ selected, selectConcept libraries members spec rule = .ok selected) ↔
      Selected libraries members spec rule := by
  have hpinned : ∀ name, ((members name).isSome ∧
      (members name).map libraries.sha256 = spec.memberHashes name) ↔
      ∃ body, members name = some body ∧
        spec.memberHashes name = some (libraries.sha256 body) := by
    intro name
    cases members name with
    | none => simp
    | some body => simp [eq_comm]
  simp only [selectConcept, bind_eq_ok, require_eq_ok, fetch_eq_ok, pure_eq_ok, hpinned]
  constructor
  · rintro ⟨selected, -, hmembers, -, hdistinct, _, hselected, -, ⟨hmonetary, hperiod⟩, -⟩
    obtain ⟨hmem, hhref⟩ := (declarationOf_eq_some hdistinct).mp hselected
    exact ⟨hmembers, hdistinct, _, hmem, hhref, hmonetary, hperiod⟩
  · rintro ⟨hmembers, hdistinct, declaration, hmem, hhref, hmonetary, hperiod⟩
    exact ⟨declaration, (), hmembers, (), hdistinct, declaration,
      (declarationOf_eq_some hdistinct).mpr ⟨hmem, hhref⟩, (), ⟨hmonetary, hperiod⟩, rfl⟩

theorem selectConcept_eq_error {error : PyException}
    (h : selectConcept libraries members spec rule = .error error) :
    isTaxonomyError error = true := by
  simp only [selectConcept, bind_eq_error, require_eq_error, fetch_eq_error] at h
  rcases h with ⟨-, rfl⟩ | ⟨_, -, ⟨-, rfl⟩ | ⟨_, -, ⟨-, rfl⟩ | ⟨_, -, ⟨-, rfl⟩ | ⟨_, -, h⟩⟩⟩⟩
  all_goals first | rfl | cases h

/-- The arcs of a rule end in declared places, if its endpoints are declared. -/
theorem allowed_of_endpoints
    {reading : Reading}
    (hdeclared : ∀ href ∈ endpointsOf rule, EndpointHolds libraries reading members spec href)
    (member role : String) :
    ∀ arc ∈ rule.arcs.filter fun arc => arc.member = member ∧ arc.role = role,
      arc.source ∈ spec.declarations.map (·.href) ∧
        arc.target ∈ spec.declarations.map (·.href) := by
  have hallowed : ∀ href ∈ endpointsOf rule, href ∈ spec.declarations.map (·.href) := by
    intro href hhref
    obtain ⟨declaration, hmem, rfl, -⟩ := hdeclared href hhref
    exact List.mem_map.mpr ⟨declaration, hmem, rfl⟩
  intro arc harc
  have harc := (List.mem_filter.mp harc).1
  refine ⟨hallowed _ ?_, hallowed _ ?_⟩
  · exact List.mem_cons_of_mem _ (List.mem_flatMap.mpr ⟨arc, harc, by simp⟩)
  · exact List.mem_cons_of_mem _ (List.mem_flatMap.mpr ⟨arc, harc, by simp⟩)

/-- The check of an endpoint, in the loop over them. -/
theorem endpoint_eq_ok (hdistinct : (spec.declarations.map (·.href)).Nodup) {href : String} :
    (fetch (declarationOf spec href) .keyError >>= fun declaration =>
      verifyDeclaration libraries declaration spec members) = .ok () ↔
      EndpointHolds libraries (InTable libraries) members spec href := by
  simp only [bind_eq_ok, fetch_eq_ok, declarationOf_eq_some hdistinct, verifyDeclaration_eq_ok,
    EndpointHolds, and_assoc]

/-- After the selection, the relations are found exactly when they are in the members. -/
theorem verifyRelations_eq_ok (hselected : Selected libraries members spec rule) :
    verifyRelations libraries members spec rule = .ok () ↔
      Verified libraries (InTable libraries) members spec rule := by
  -- each endpoint is checked once, in any order
  have hendpoints : (sortedSet (endpointsOf rule)).forM (fun href =>
      fetch (declarationOf spec href) .keyError >>= fun declaration =>
        verifyDeclaration libraries declaration spec members) = .ok ⟨⟩ ↔
      ∀ href ∈ endpointsOf rule,
        EndpointHolds libraries (InTable libraries) members spec href := by
    rw [forM_eq_ok]
    simp only [endpoint_eq_ok hselected.distinct, mem_sortedSet]
  -- each network as well
  have hnetworks : ∀ network, network ∈ networksOf rule ↔
      ∃ arc ∈ rule.arcs, (arc.member, arc.role) = network := by
    intro network
    rw [networksOf, (List.perm_insertionSort _ _).mem_iff, List.mem_dedup, List.mem_map]
  rw [verifyRelations, bind_eq_ok]
  constructor
  · rintro ⟨⟨⟩, hdeclared, hverified⟩
    have hdeclared := hendpoints.mp hdeclared
    refine ⟨hselected, hdeclared, fun arc harc => ?_⟩
    have hnetwork := forM_eq_ok.mp hverified _ ((hnetworks _).mpr ⟨arc, harc, rfl⟩)
    obtain ⟨body, hbody, hnetwork⟩ := bind_eq_ok.mp hnetwork
    have hallowed := allowed_of_endpoints hdeclared arc.member arc.role
    obtain ⟨root, hroot, hholds⟩ := (verifyNetwork_eq_ok hallowed).mp hnetwork
    exact ⟨body, root, fetch_eq_ok.mp hbody, hroot, hholds⟩
  · rintro ⟨-, hdeclared, hholds⟩
    refine ⟨(), hendpoints.mpr hdeclared, forM_eq_ok.mpr fun network hnetwork => ?_⟩
    obtain ⟨arc, harc, rfl⟩ := (hnetworks network).mp hnetwork
    obtain ⟨body, root, hbody, hroot, hholds⟩ := hholds arc harc
    have hallowed := allowed_of_endpoints hdeclared arc.member arc.role
    exact bind_eq_ok.mpr ⟨body, fetch_eq_ok.mpr hbody,
      (verifyNetwork_eq_ok hallowed).mpr ⟨root, hroot, hholds⟩⟩

/-- What escapes from the relations is the unknown encoding of the schema member. -/
theorem verifyRelations_escapes_iff (hselected : Selected libraries members spec rule) :
    (∃ error, verifyRelations libraries members spec rule = .error error ∧
        isTaxonomyError error = false) ↔
      EncodingEscape libraries members spec rule := by
  simp only [verifyRelations, bind_eq_error, forM_eq_error, fetch_eq_error,
    endpoint_eq_ok hselected.distinct]
  constructor
  · rintro ⟨error, ⟨before, href, after, hsorted, hbefore, ⟨-, rfl⟩ | ⟨declaration,
      hdeclaration, h⟩⟩ | ⟨_, -, _, _, _, -, -, ⟨-, rfl⟩ | ⟨_, -, h⟩⟩, hescapes⟩
    · cases hescapes
    · obtain ⟨hmem, hhref⟩ :=
        (declarationOf_eq_some hselected.distinct).mp (fetch_eq_ok.mp hdeclaration)
      exact ⟨hselected, before, href, after, hsorted, hbefore, declaration, hmem, hhref,
        verifyDeclaration_escapes_iff.mp ⟨error, h, hescapes⟩⟩
    · cases hescapes
    · rw [verifyNetwork_eq_error h] at hescapes
      cases hescapes
  · rintro ⟨-, before, href, after, hsorted, hbefore, declaration, hmem, hhref, hescape⟩
    obtain ⟨error, h, hescapes⟩ := verifyDeclaration_escapes_iff.mpr hescape
    exact ⟨error, .inl ⟨before, href, after, hsorted, hbefore, .inr ⟨declaration,
      fetch_eq_ok.mpr ((declarationOf_eq_some hselected.distinct).mpr ⟨hmem, hhref⟩), h⟩⟩, hescapes⟩

/-! ## Prefixes -/

/-- The prefix of a text is not in scope at the element at a place of the schema. -/
def IsUnbound (libraries : TaxonomyLibraries) (body : List UInt8) (place : Nat) (value : String) :
    Prop :=
  ∃ label localName, splitQName value = some (label, localName) ∧
    (libraries.iterparse body).scopes.lookup [place] label = none

theorem InScope.anywhere {body : List UInt8} {place : Nat} {value : String} {name : EdinetXbrlQName}
    (h : InScope libraries body place value name) : Anywhere libraries body place value name := by
  obtain ⟨label, hsplit, hlookup⟩ := h
  exact ⟨label, hsplit, XmlScopes.mem_declarations_of_lookup hlookup⟩

theorem InScope.not_isUnbound {body : List UInt8} {place : Nat} {value : String}
    {name : EdinetXbrlQName} (h : InScope libraries body place value name) :
    ¬ IsUnbound libraries body place value := by
  rintro ⟨label, localName, hsplit, hnone⟩
  obtain ⟨label', hsplit', hlookup⟩ := h
  obtain ⟨rfl, -⟩ := Prod.mk.inj (Option.some.inj (hsplit.symm.trans hsplit'))
  rw [hnone] at hlookup
  cases hlookup

/-- If no prefix is declared twice, a prefix in scope has the namespace declared for it anywhere. -/
theorem Anywhere.inScope {body : List UInt8} {place : Nat} {value : String} {name : EdinetXbrlQName}
    (hconsistent : Consistent (libraries.namespaces body).declared)
    (h : Anywhere libraries body place value name)
    (hbound : ¬ IsUnbound libraries body place value) : InScope libraries body place value name := by
  obtain ⟨label, hsplit, hdeclared⟩ := h
  cases hlookup : (libraries.iterparse body).scopes.lookup [place] label with
  | none => exact absurd ⟨label, _, hsplit, hlookup⟩ hbound
  | some uri =>
    obtain rfl := hconsistent label uri _ (XmlScopes.mem_declarations_of_lookup hlookup) hdeclared
    exact ⟨label, hsplit, hlookup⟩

/-- An endpoint is a local monetary declaration, so that prefixes are read for its element. -/
def ReadsAt (libraries : TaxonomyLibraries) (members : String → Option (List UInt8))
    (spec : TaxonomySpec) (href : String) (body : List UInt8) (place : Nat) (node : XmlElement) :
    Prop :=
  ∃ declaration ∈ spec.declarations, declaration.href = href ∧ declaration.monetary = true ∧
    ∃ root location identifier, members spec.schemaMember = some body ∧
      TreeOf libraries body root ∧ Locates href location identifier ∧
      libraries.scheme location = some "" ∧
      BoundTo spec.schemaMember root declaration location identifier node ∧
      place = placeOf root identifier

/-- A locator has one location and one id. -/
theorem Locates.unique {href location identifier location' identifier' : String}
    (h : Locates href location identifier) (h' : Locates href location' identifier') :
    location = location' ∧ identifier = identifier' := by
  have hfirst := partitionHref_iff.mpr ⟨h.1, h.2.1⟩
  have hsecond := partitionHref_iff.mpr ⟨h'.1, h'.2.1⟩
  rw [hfirst, Prod.mk.injEq, Option.some.injEq] at hsecond
  exact hsecond

theorem TreeOf.unique {body : List UInt8} {root root' : XmlElement}
    (h : TreeOf libraries body root) (h' : TreeOf libraries body root') : root = root' := by
  obtain ⟨text, htext, -, hroot⟩ := h
  obtain ⟨text', htext', -, hroot'⟩ := h'
  obtain rfl := Option.some.inj (htext.symm.trans htext')
  exact Option.some.inj (hroot.symm.trans hroot')

/-- An endpoint that is read holds only if its element is monetary. -/
theorem ReadsAt.isMonetary {reading : Reading} (hdistinct : (spec.declarations.map (·.href)).Nodup)
    {href : String} {body : List UInt8} {place : Nat} {node : XmlElement}
    (hread : ReadsAt libraries members spec href body place node)
    (hholds : EndpointHolds libraries reading members spec href) :
    ∃ periodType, IsMonetary (reading body place) node periodType := by
  obtain ⟨declaration, hmem, rfl, hmonetary, root, location, identifier, hbody, hroot, hlocates,
    hscheme, hbound, rfl⟩ := hread
  obtain ⟨declaration', hmem', hhref, body', root', hbody', hroot', -, hconfirmed⟩ := hholds
  obtain rfl := List.inj_on_of_nodup_map hdistinct hmem' hmem hhref
  obtain rfl := Option.some.inj (hbody.symm.trans hbody')
  obtain rfl := hroot.unique hroot'
  cases hconfirmed with
  | external hlocates' hscheme' hhttp =>
    -- its location has no scheme
    obtain ⟨rfl, -⟩ := hlocates.unique hlocates'
    obtain rfl := Option.some.inj (hscheme.symm.trans hscheme')
    simp at hhttp
  | here hlocates' _ hbound' hchecked =>
    obtain ⟨rfl, rfl⟩ := hlocates.unique hlocates'
    have hsame := hbound.unique.symm.trans hbound'.unique
    obtain rfl := List.head_eq_of_cons_eq hsame
    exact ⟨_, hchecked hmonetary⟩

/-- A rule that is verified in one reading is verified in another that resolves at least the
names of the elements that are read. -/
theorem Verified.mono {reading reading' : Reading}
    (h : Verified libraries reading members spec rule)
    (hnames : ∀ href ∈ endpointsOf rule, ∀ body place node,
      ReadsAt libraries members spec href body place node →
        ∀ value name, value = typeOf node ∨ value = groupOf node →
          reading body place value name → reading' body place value name) :
    Verified libraries reading' members spec rule := by
  refine ⟨h.selected, fun href hhref => ?_, h.networks⟩
  obtain ⟨declaration, hmem, rfl, body, root, hbody, hroot, htag, hconfirmed⟩ := h.endpoints href hhref
  refine ⟨declaration, hmem, rfl, body, root, hbody, hroot, htag, ?_⟩
  cases hconfirmed with
  | external hlocates hscheme hhttp himport => exact .external hlocates hscheme hhttp himport
  | here hlocates hscheme hbound hchecked =>
    refine .here hlocates hscheme hbound fun hmonetary => ?_
    have hread := hnames _ hhref _ _ _ ⟨declaration, hmem, rfl, hmonetary, root, _, _, hbody, hroot,
      hlocates, hscheme, hbound, rfl⟩
    obtain ⟨htype, hgroup, hconcrete, hperiod⟩ := hchecked hmonetary
    exact ⟨hread _ _ (.inl rfl) htype, hread _ _ (.inr rfl) hgroup, hconcrete, hperiod⟩

/-- The prefixes of the schema member mislead the verification. -/
inductive Misread (libraries : TaxonomyLibraries) (members : String → Option (List UInt8))
    (spec : TaxonomySpec) (rule : TaxonomyRule) : Prop
  /-- All is as approved, and a prefix of the member is declared twice. -/
  | refused {href : String} {body : List UInt8} {place : Nat} {node : XmlElement} :
      Verified libraries (InScope libraries) members spec rule →
      href ∈ endpointsOf rule → ReadsAt libraries members spec href body place node →
      ¬ Consistent (libraries.namespaces body).declared →
      Misread libraries members spec rule
  /-- All is as approved, but that the prefix of a name is declared only where it is not in
  scope; and no prefix is declared twice. -/
  | accepted {href : String} {body : List UInt8} {place : Nat} {node : XmlElement} :
      Verified libraries (Anywhere libraries) members spec rule →
      href ∈ endpointsOf rule → ReadsAt libraries members spec href body place node →
      Consistent (libraries.namespaces body).declared →
      IsUnbound libraries body place (typeOf node) ∨ IsUnbound libraries body place (groupOf node) →
      Misread libraries members spec rule

theorem ReadsAt.body_eq {href href' : String} {body body' : List UInt8} {place place' : Nat}
    {node node' : XmlElement} (h : ReadsAt libraries members spec href body place node)
    (h' : ReadsAt libraries members spec href' body' place' node') : body = body' := by
  obtain ⟨_, -, -, -, _, _, _, hbody, -⟩ := h
  obtain ⟨_, -, -, -, _, _, _, hbody', -⟩ := h'
  exact Option.some.inj (hbody.symm.trans hbody')

/-- On members that can be read, the table of prefixes decides as their scopes do unless they
mislead. -/
theorem verified_inTable_iff (hreadable : Readable libraries members spec rule) :
    (Verified libraries (InTable libraries) members spec rule ↔
        Verified libraries (InScope libraries) members spec rule) ↔
      ¬ Misread libraries members spec rule := by
  have hfinished : ∀ {href body place node}, ReadsAt libraries members spec href body place node →
      (libraries.namespaces body).error = none := by
    rintro href body place node ⟨_, -, -, -, _, _, _, hbody, -⟩
    exact (hreadable spec.schemaMember List.mem_cons_self body hbody).2
  constructor
  · rintro hsame (⟨hscoped, hhref, hread, htwice⟩ | ⟨hanywhere, hhref, hread, hconsistent, hunbound⟩)
    · -- the table is not read, so nothing is verified by it
      have htable := hsame.mpr hscoped
      obtain ⟨_, hmonetary⟩ := hread.isMonetary htable.selected.distinct (htable.endpoints _ hhref)
      exact htwice hmonetary.type.2.1
    · -- the table finds what is out of scope
      have htable : Verified libraries (InTable libraries) members spec rule :=
        hanywhere.mono fun _ _ _ _ _ hother _ _ _ hname =>
          ⟨hfinished hother, hread.body_eq hother ▸ hconsistent, hname⟩
      have hscoped := hsame.mp htable
      obtain ⟨_, hmonetary⟩ := hread.isMonetary hscoped.selected.distinct (hscoped.endpoints _ hhref)
      rcases hunbound with htype | hgroup
      · exact hmonetary.type.not_isUnbound htype
      · exact hmonetary.group.not_isUnbound hgroup
  · intro hright
    refine ⟨fun htable => ?_, fun hscoped => ?_⟩
    · refine htable.mono fun href hhref body place node hread value name hvalue hname => ?_
      obtain ⟨-, hconsistent, hanywhere⟩ := hname
      refine hanywhere.inScope hconsistent fun hunbound => hright ?_
      have hloose : Verified libraries (Anywhere libraries) members spec rule :=
        htable.mono fun _ _ _ _ _ _ _ _ _ hname => hname.2.2
      refine .accepted hloose hhref hread hconsistent ?_
      rcases hvalue with rfl | rfl
      · exact .inl hunbound
      · exact .inr hunbound
    · refine hscoped.mono fun href hhref body place node hread value name hvalue hname => ?_
      by_cases hconsistent : Consistent (libraries.namespaces body).declared
      · exact ⟨hfinished hread, hconsistent, hname.anywhere⟩
      · exact absurd (.refused hscoped hhref hread hconsistent) hright

/-! ## The theorem -/

/-- The verification raises only what escapes from the relations. -/
theorem verifyTaxonomy_returns_iff :
    (∃ proof, verifyTaxonomy libraries members spec rule = .ok proof) ↔
      ¬ EncodingEscape libraries members spec rule := by
  by_cases hselected : Selected libraries members spec rule
  · obtain ⟨selected, hselect⟩ := selectConcept_eq_ok.mpr hselected
    rw [← verifyRelations_escapes_iff hselected]
    cases hrelations : verifyRelations libraries members spec rule with
    | ok u => simp [verifyTaxonomy, hselect, hrelations]
    | error error => cases htaken : isTaxonomyError error <;>
        simp [verifyTaxonomy, hselect, hrelations, htaken]
  · refine iff_of_true ?_ fun h => hselected h.1
    cases hselect : selectConcept libraries members spec rule with
    | ok selected => exact absurd (selectConcept_eq_ok.mp ⟨selected, hselect⟩) hselected
    | error error => simp [verifyTaxonomy, hselect, selectConcept_eq_error hselect]

/-- What is verified is what the members say when names are resolved in the table. -/
theorem verifyTaxonomy_verified {proof : TaxonomyProof}
    (h : verifyTaxonomy libraries members spec rule = .ok proof) :
    proof.verified = true ↔ Verified libraries (InTable libraries) members spec rule := by
  cases hselect : selectConcept libraries members spec rule with
  | error error =>
    have hselected : ¬ Selected libraries members spec rule := fun hselected => by
      obtain ⟨selected, hok⟩ := selectConcept_eq_ok.mpr hselected
      rw [hselect] at hok
      cases hok
    simp only [verifyTaxonomy, hselect, selectConcept_eq_error hselect, if_true] at h
    cases h
    exact iff_of_false Bool.false_ne_true fun hverified => hselected hverified.selected
  | ok selected =>
    have hverified := verifyRelations_eq_ok (selectConcept_eq_ok.mp ⟨selected, hselect⟩)
    rw [← hverified]
    cases hrelations : verifyRelations libraries members spec rule with
    | ok u =>
      simp only [verifyTaxonomy, hselect, hrelations] at h
      cases h
      exact iff_of_true rfl rfl
    | error error =>
      simp only [verifyTaxonomy, hselect, hrelations] at h
      split at h
      · cases h
        exact iff_of_false Bool.false_ne_true (by simp)
      · cases h

end

/-- **The verification keeps its law** unless it comes to read the prefixes of a schema member of
an unknown encoding, or the members can be read and the prefixes of the schema member, which are
read without their scopes, mislead it. -/
theorem taxonomyLaw_iff (libraries : TaxonomyLibraries) (members : String → Option (List UInt8))
    (spec : TaxonomySpec) (rule : TaxonomyRule) :
    TaxonomyLaw libraries members spec rule ↔
      ¬ EncodingEscape libraries members spec rule ∧
        ¬ (Readable libraries members spec rule ∧ Misread libraries members spec rule) := by
  constructor
  · intro hlaw
    refine ⟨verifyTaxonomy_returns_iff.mp hlaw.returns, fun hmisread => ?_⟩
    obtain ⟨hreadable, hmisread⟩ := hmisread
    obtain ⟨proof, hproof⟩ := hlaw.returns
    have hscoped := hlaw.exact hreadable proof hproof
    rw [verifyTaxonomy_verified hproof] at hscoped
    exact (verified_inTable_iff hreadable).mp hscoped hmisread
  · rintro ⟨hreturns, hright⟩
    refine ⟨verifyTaxonomy_returns_iff.mpr hreturns, fun hreadable proof hproof => ?_⟩
    rw [verifyTaxonomy_verified hproof]
    exact (verified_inTable_iff hreadable).mpr fun hmisread => hright ⟨hreadable, hmisread⟩

/-! ## A schema of an unknown encoding -/

namespace SampleTaxonomy

open Workbook (ascii)

/-- The text of a schema with one element. -/
def schemaText : String :=
  "<?xml version=\"1.0\" encoding=\"x-none\"?>" ++
    "<schema xmlns=\"http://www.w3.org/2001/XMLSchema\" targetNamespace=\"urn:s\">" ++
    "<element id=\"Sales\" name=\"Sales\"/></schema>"

/-- The tree of that text. -/
def schemaTree : XmlElement :=
  let element : XmlElement :=
    .node (xsd "element") [(plain "id", "Sales"), (plain "name", "Sales")] "" []
  .node (xsd "schema") [(plain "targetNamespace", "urn:s")] "" [(element, "")]

/-- The libraries on the schema: the text is parsed whatever it declares, the bytes are not. -/
def libraries : TaxonomyLibraries where
  sha256 _ := Contracts.zeroSha256
  decode _ := some schemaText
  fromstring _ := some schemaTree
  iterparse _ := ⟨.node [] [], some .lookupError⟩
  scheme _ := some ""

def members (name : String) : Option (List UInt8) :=
  if name = "schema.xsd" then some (ascii schemaText)
  else if name = "definition.xml" then some (ascii "<link:linkbase/>") else none

def spec : TaxonomySpec where
  schemaMember := "schema.xsd"
  memberHashes _ := some Contracts.zeroSha256
  declarations := [⟨"schema.xsd#Sales", ⟨"urn:s", "Sales", by decide, by decide⟩, some .duration,
    true⟩]

def rule : TaxonomyRule where
  conceptHref := "schema.xsd#Sales"
  arcs := [⟨"definition.xml", "urn:statement", "http://www.xbrl.org/2003/arcrole/parent-child",
    "schema.xsd#Sales", "schema.xsd#Sales", none, none, none⟩]
  arcs_ne_nil := by decide

theorem verify_raises : (match verifyTaxonomy libraries members spec rule with
    | .error error => decide (error = .lookupError)
    | .ok _ => false) = true := by decide +kernel

/-- The schema raises a `LookupError`, which is no `KeyError`. -/
theorem not_taxonomyLaw : ¬ TaxonomyLaw libraries members spec rule := by
  intro hlaw
  obtain ⟨proof, hproof⟩ := hlaw.returns
  have hraises := verify_raises
  rw [hproof] at hraises
  cases hraises

end SampleTaxonomy

end StockResearch.Sources
