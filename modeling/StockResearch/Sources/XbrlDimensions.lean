import StockResearch.Sources.XbrlFactsLaw

/-!
# The dimensions of a context

The members of a dimension stand in a container: the segment of an entity, or the scenario of
a context. The reader looks for the first container of each kind and reads its children. A
context that is accepted may have members elsewhere: in a second container, or inside of
another member. They are lost, and no error tells so.

- `dimensionMembers`: the members in any container of a kind, in document order.
- `IsUnambiguous`: they all are children of the first one.
- `context_dimensions_exact`: what the reader returns, and when nothing is lost.
-/

namespace StockResearch.Sources

/-! ## Members -/

/-- An `explicitMember` or a `typedMember`. -/
def isMemberElement (element : XmlElement) : Bool :=
  element.tag = xbrldi "explicitMember" ∨ element.tag = xbrldi "typedMember"

/-- A `segment` or a `scenario`. -/
def isContainer (location : DimensionLocation) (element : XmlElement) : Bool :=
  element.tag = xbrli location.text

/-- The containers of a kind, less those inside of another one. -/
def containers (location : DimensionLocation) (element : XmlElement) : List XmlElement :=
  element.outermost (isContainer location)

/-- The members below an element. -/
def membersBelow (element : XmlElement) : List XmlElement :=
  element.descendants.filter isMemberElement

/-- The members in any container of a kind. -/
def dimensionMembers (location : DimensionLocation) (element : XmlElement) : List XmlElement :=
  (containers location element).flatMap membersBelow

/-- All members in containers, with the kind of their container. -/
def locatedMembers (element : XmlElement) : List (DimensionLocation × XmlElement) :=
  [DimensionLocation.segment, .scenario].flatMap fun location =>
    (dimensionMembers location element).map (location, ·)

/-- The children of the first container of a kind. -/
def firstChildren (location : DimensionLocation) (element : XmlElement) : List XmlElement :=
  (containerOf location element).elim [] XmlElement.children

/-- No member stands in another container than the first, or below a child of the first. -/
structure IsUnambiguous (location : DimensionLocation) (element : XmlElement) : Prop where
  others : ∀ container ∈ (containers location element).tail, membersBelow container = []
  nested : ∀ child ∈ firstChildren location element, membersBelow child = []

theorem containerOf_eq (location : DimensionLocation) (element : XmlElement) :
    containerOf location element = (containers location element).head? :=
  XmlElement.find?_descendants _ element

/-! ## Lists of members -/

/-- The members below an element whose children all are members. -/
theorem membersBelow_eq {element : XmlElement}
    (h : ∀ child ∈ element.children, isMemberElement child = true) :
    membersBelow element = element.children.flatMap fun child => child :: membersBelow child := by
  have hfilter : ∀ children : List XmlElement, (∀ child ∈ children, isMemberElement child = true) →
      (children.flatMap XmlElement.iter).filter isMemberElement =
        children.flatMap fun child => child :: membersBelow child := by
    intro children hchildren
    induction children with
    | nil => rfl
    | cons child children ih =>
      obtain ⟨hchild, hrest⟩ := List.forall_mem_cons.mp hchildren
      rw [List.flatMap_cons, List.filter_append, ih hrest, List.flatMap_cons, XmlElement.iter,
        List.filter_cons_of_pos hchild]
      rfl
  rw [membersBelow, XmlElement.descendants_eq, hfilter _ h]

theorem length_flatMap_cons {xs : List XmlElement} {f : XmlElement → List XmlElement} :
    (xs.flatMap fun x => x :: f x).length = xs.length + (xs.flatMap f).length := by
  induction xs with
  | nil => rfl
  | cons x xs ih =>
    rw [List.flatMap_cons, List.flatMap_cons, List.length_append, List.length_append, ih,
      List.length_cons, List.length_cons]
    omega

theorem flatMap_cons_eq_self {xs : List XmlElement} {f : XmlElement → List XmlElement}
    (h : ∀ x ∈ xs, f x = []) : (xs.flatMap fun x => x :: f x) = xs := by
  induction xs with
  | nil => rfl
  | cons x xs ih =>
    obtain ⟨hx, hxs⟩ := List.forall_mem_cons.mp h
    rw [List.flatMap_cons, ih hxs, hx]
    rfl

/-- The children of the first container come first; the others are what is lost. -/
theorem length_dimensionMembers {location : DimensionLocation} {element : XmlElement}
    (h : ∀ child ∈ firstChildren location element, isMemberElement child = true) :
    (dimensionMembers location element).length = (firstChildren location element).length +
      ((firstChildren location element).flatMap membersBelow).length +
      ((containers location element).tail.flatMap membersBelow).length := by
  rw [dimensionMembers]
  rw [firstChildren, containerOf_eq] at h ⊢
  cases hcontainers : containers location element with
  | nil => rfl
  | cons container others =>
    rw [hcontainers] at h
    rw [List.flatMap_cons, List.length_append, membersBelow_eq h, length_flatMap_cons]
    rfl

/-- Nothing is lost exactly when there is nothing but the children of the first container. -/
theorem isUnambiguous_iff {location : DimensionLocation} {element : XmlElement}
    (h : ∀ child ∈ firstChildren location element, isMemberElement child = true) :
    IsUnambiguous location element ↔
      (dimensionMembers location element).length = (firstChildren location element).length := by
  rw [length_dimensionMembers h]
  constructor
  · rintro ⟨hothers, hnested⟩
    rw [List.flatMap_eq_nil_iff.mpr hothers, List.flatMap_eq_nil_iff.mpr hnested]
    rfl
  · intro hlength
    have hnested : (firstChildren location element).flatMap membersBelow = [] :=
      List.eq_nil_of_length_eq_zero (by omega)
    have hothers : (containers location element).tail.flatMap membersBelow = [] :=
      List.eq_nil_of_length_eq_zero (by omega)
    exact ⟨List.flatMap_eq_nil_iff.mp hothers, List.flatMap_eq_nil_iff.mp hnested⟩

theorem IsUnambiguous.dimensionMembers_eq {location : DimensionLocation} {element : XmlElement}
    (hchildren : ∀ child ∈ firstChildren location element, isMemberElement child = true)
    (h : IsUnambiguous location element) :
    dimensionMembers location element = firstChildren location element := by
  have hnested := h.nested
  have hothers := h.others
  rw [dimensionMembers]
  rw [firstChildren, containerOf_eq] at hchildren hnested ⊢
  cases hcontainers : containers location element with
  | nil => rfl
  | cons container others =>
    rw [hcontainers] at hchildren hnested hothers
    have hrest : others.flatMap membersBelow = [] := List.flatMap_eq_nil_iff.mpr hothers
    rw [List.flatMap_cons, hrest, List.append_nil, membersBelow_eq hchildren]
    exact flatMap_cons_eq_self hnested

/-! ## The reader -/

/-- What is read is a member, and its dimension is at the location that was asked for. -/
theorem parseDimension_eq_ok {location : DimensionLocation}
    {namespaces : List (String × String)} {element : XmlElement}
    {dimension : EdinetXbrlDimension}
    (h : parseDimension location namespaces element = .ok dimension) :
    isMemberElement element = true ∧ dimension.1.location = location := by
  obtain ⟨name, -, h⟩ := bind_eq_ok.mp h
  obtain ⟨axis, -, h⟩ := bind_eq_ok.mp h
  split at h
  · rename_i htag
    obtain ⟨text, -, h⟩ := bind_eq_ok.mp h
    obtain ⟨member, -, h⟩ := bind_eq_ok.mp h
    rw [construct_eq_ok] at h
    exact ⟨decide_eq_true (.inl htag), by rw [h]⟩
  · split at h
    · rename_i htag
      obtain ⟨value, -, h⟩ := bind_eq_ok.mp h
      obtain ⟨⟨⟩, -, h⟩ := bind_eq_ok.mp h
      obtain ⟨⟨nameSpace, localName⟩, -, h⟩ := bind_eq_ok.mp h
      obtain ⟨member, -, h⟩ := bind_eq_ok.mp h
      obtain ⟨text, -, h⟩ := bind_eq_ok.mp h
      rw [construct_eq_ok] at h
      exact ⟨decide_eq_true (.inr htag), by rw [h]⟩
    · cases h

theorem parseDimensions_eq_ok {namespaces : List (String × String)} {element : XmlElement}
    {location : DimensionLocation} {dimensions : List EdinetXbrlDimension} :
    parseDimensions namespaces element location = .ok dimensions ↔
      List.Forall₂ (fun child dimension => parseDimension location namespaces child = .ok dimension)
        (firstChildren location element) dimensions := by
  unfold parseDimensions firstChildren
  cases containerOf location element with
  | none =>
    rw [pure_eq_ok]
    exact ⟨fun h => h ▸ .nil, fun h => (List.forall₂_nil_left_iff.mp h).symm⟩
  | some container => exact mapM_eq_ok

theorem toContext_dimensions {path : String} {namespaces : List (String × String)}
    {element : XmlElement} {context : EdinetXbrlContext}
    (h : toContext path namespaces element = .ok context) : ∃ segment scenario,
      parseDimensions namespaces element .segment = .ok segment ∧
        parseDimensions namespaces element .scenario = .ok scenario ∧
          context.1.dimensions = segment ++ scenario := by
  obtain ⟨entity, -, h⟩ := bind_eq_ok.mp h
  obtain ⟨identifier, -, h⟩ := bind_eq_ok.mp h
  obtain ⟨period, -, h⟩ := bind_eq_ok.mp h
  obtain ⟨parsed, -, h⟩ := bind_eq_ok.mp h
  obtain ⟨segment, hsegment, h⟩ := bind_eq_ok.mp h
  obtain ⟨scenario, hscenario, h⟩ := bind_eq_ok.mp h
  obtain ⟨contextId, -, h⟩ := bind_eq_ok.mp h
  obtain ⟨scheme, -, h⟩ := bind_eq_ok.mp h
  obtain ⟨text, -, h⟩ := bind_eq_ok.mp h
  rw [construct_eq_ok] at h
  exact ⟨segment, scenario, hsegment, hscenario, by rw [h]⟩

/-- A dimension is the reading of a member at its location. -/
def ReadsDimension (namespaces : List (String × String)) (item : DimensionLocation × XmlElement)
    (dimension : EdinetXbrlDimension) : Prop :=
  parseDimension item.1 namespaces item.2 = .ok dimension

theorem forall₂_located {namespaces : List (String × String)} {location : DimensionLocation}
    {members : List XmlElement} {dimensions : List EdinetXbrlDimension} :
    List.Forall₂ (ReadsDimension namespaces) (members.map (location, ·)) dimensions ↔
      List.Forall₂ (fun child dimension => parseDimension location namespaces child = .ok dimension)
        members dimensions := List.forall₂_map_left_iff

/-- The dimensions of an accepted context are the readings of the children of its first segment,
and of its first scenario. They are the readings of all members in any segment or scenario
exactly when no member stands elsewhere, and fewer if some does. -/
theorem context_dimensions_exact {path : String} {namespaces : List (String × String)}
    {element : XmlElement} {context : EdinetXbrlContext}
    (h : toContext path namespaces element = .ok context) :
    List.Forall₂ (ReadsDimension namespaces)
        ((firstChildren .segment element).map (.segment, ·) ++
          (firstChildren .scenario element).map (.scenario, ·)) context.1.dimensions ∧
      context.1.dimensions.length ≤ (locatedMembers element).length ∧
      (List.Forall₂ (ReadsDimension namespaces) (locatedMembers element) context.1.dimensions ↔
        ∀ location, IsUnambiguous location element) := by
  obtain ⟨segment, scenario, hsegment, hscenario, hdimensions⟩ := toContext_dimensions h
  rw [parseDimensions_eq_ok] at hsegment hscenario
  -- what is read are members only
  have hmembers : ∀ {location : DimensionLocation} {dimensions : List EdinetXbrlDimension},
      List.Forall₂ (fun child dimension => parseDimension location namespaces child = .ok dimension)
          (firstChildren location element) dimensions →
        ∀ child ∈ firstChildren location element, isMemberElement child = true := by
    intro location dimensions hread child hchild
    obtain ⟨dimension, -, hdimension⟩ := exists_right_of_mem hread hchild
    exact (parseDimension_eq_ok hdimension).1
  -- so the readings can be counted against all members
  have hlengths : (locatedMembers element).length =
      (dimensionMembers .segment element).length + (dimensionMembers .scenario element).length := by
    simp [locatedMembers]
  have hread : (segment ++ scenario).length =
      (firstChildren .segment element).length + (firstChildren .scenario element).length := by
    rw [List.length_append, hsegment.length_eq, hscenario.length_eq]
  have hsegments := length_dimensionMembers (hmembers hsegment)
  have hscenarios := length_dimensionMembers (hmembers hscenario)
  rw [hdimensions]
  refine ⟨?_, by omega, ?_, ?_⟩
  · exact List.rel_append (forall₂_located.mpr hsegment) (forall₂_located.mpr hscenario)
  · -- equal readings: no member stands outside the first segment or scenario
    intro hall location
    have hsame := hall.length_eq
    cases location with
    | segment => exact (isUnambiguous_iff (hmembers hsegment)).mpr (by omega)
    | scenario => exact (isUnambiguous_iff (hmembers hscenario)).mpr (by omega)
  · -- and if none does, the readings are those of all members
    intro hboth
    have hlocated : locatedMembers element = (firstChildren .segment element).map (.segment, ·) ++
        (firstChildren .scenario element).map (.scenario, ·) := by
      rw [locatedMembers, List.flatMap_cons, List.flatMap_cons, List.flatMap_nil, List.append_nil,
        (hboth .segment).dimensionMembers_eq (hmembers hsegment),
        (hboth .scenario).dimensionMembers_eq (hmembers hscenario)]
    rw [hlocated]
    exact List.rel_append (forall₂_located.mpr hsegment) (forall₂_located.mpr hscenario)

/-! ## A context with two segments -/

namespace TwoSegments

/-- A member of an axis. -/
def memberOf (axis : String) : XmlElement :=
  .node (xbrldi "explicitMember") [(plain "dimension", axis)] "p:Member" []

/-- Its second segment is not read. -/
def element : XmlElement :=
  let identifier : XmlElement := .node (xbrli "identifier") [(plain "scheme", "urn:s")] "E2" []
  let first : XmlElement := .node (xbrli "segment") [] "" [(memberOf "p:Region", "")]
  let second : XmlElement := .node (xbrli "segment") [] "" [(memberOf "p:Product", "")]
  let entity : XmlElement :=
    .node (xbrli "entity") [] "" [(identifier, ""), (first, ""), (second, "")]
  let forever : XmlElement := .node (xbrli "forever") [] "" []
  let period : XmlElement := .node (xbrli "period") [] "" [(forever, "")]
  .node (xbrli "context") [(plain "id", "C2")] "" [(entity, ""), (period, "")]

theorem toContext_isOk : (toContext "b.xbrl" [("p", "urn:p")] element).isOk = true := by
  decide +kernel

theorem others_some :
    ((containers .segment element).tail.all fun container => (membersBelow container).isEmpty) =
      false := by decide +kernel

/-- The context is accepted, and does not have all of its members. -/
theorem dimensions_lost : ∃ context, toContext "b.xbrl" [("p", "urn:p")] element = .ok context ∧
    ¬ List.Forall₂ (ReadsDimension [("p", "urn:p")]) (locatedMembers element)
      context.1.dimensions := by
  have hisOk := toContext_isOk
  cases hread : toContext "b.xbrl" [("p", "urn:p")] element with
  | error error =>
    rw [hread] at hisOk
    cases hisOk
  | ok context =>
    refine ⟨context, rfl, fun hall => ?_⟩
    have hsegment := (context_dimensions_exact hread).2.2.mp hall .segment
    have hnone : ((containers .segment element).tail.all fun container =>
        (membersBelow container).isEmpty) = true :=
      List.all_eq_true.mpr fun container hcontainer =>
        List.isEmpty_iff.mpr (hsegment.others container hcontainer)
    rw [others_some] at hnone
    cases hnone

end TwoSegments

end StockResearch.Sources
