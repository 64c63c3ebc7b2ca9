import StockResearch.Lib.Accumulator
import StockResearch.Lib.Related
import StockResearch.Sources.XbrlFacts

/-!
# What the facts of a filing are

The reader of a filing either returns facts that are found again in the instances of the
archive, or raises. Its own checks raise a `ValueError`; other exceptions are those of the ZIP
and XML libraries, of which some leave the adapter.

- `ReadsMember`: what the loop over the elements of an instance has found.
- `IsResolved`: a fact refers to one context and to one unit of its member.
- `LibraryRaises`: how a library raises while a member is read.
- `located`: the dimension members below a context, by the container they stand in.
-/

namespace StockResearch.Sources

/-! ## Errors of single elements -/

theorem construct_eq_ok {α : Type} {Valid : α → Prop} [DecidablePred Valid] {fields : α}
    {model : {fields : α // Valid fields}} :
    construct Valid fields = .ok model ↔ model.1 = fields := by
  unfold construct
  constructor
  · intro h
    split at h
    · rw [← Except.ok.inj h]
    · cases h
  · rintro rfl
    exact dif_pos model.2

theorem construct_eq_error {α : Type} {Valid : α → Prop} [DecidablePred Valid] {fields : α}
    {error : PyException} (h : construct Valid fields = .error error) : error = .valueError := by
  unfold construct at h
  split at h
  · cases h
  · exact (Except.error.inj h).symm

/-- The step raises nothing but a `ValueError`. -/
def OnlyValueError {α : Type} (x : Except PyException α) : Prop :=
  ∀ error, x = .error error → error = .valueError

theorem OnlyValueError.bind {α β : Type} {x : Except PyException α}
    {f : α → Except PyException β} (hx : OnlyValueError x)
    (hf : ∀ a, OnlyValueError (f a)) : OnlyValueError (x >>= f) := by
  intro error h
  rcases bind_eq_error.mp h with h | ⟨a, -, h⟩
  · exact hx error h
  · exact hf a error h

theorem OnlyValueError.mapM {α β : Type} {f : α → Except PyException β}
    (hf : ∀ a, OnlyValueError (f a)) (xs : List α) : OnlyValueError (xs.mapM f) := by
  intro error h
  obtain ⟨-, x, -, -, -, hx⟩ := mapM_eq_error.mp h
  exact hf x error hx

theorem onlyValueError_ok {α : Type} (a : α) : OnlyValueError (.ok a) := by
  intro error h
  cases h

theorem onlyValueError_pure {α : Type} (a : α) : OnlyValueError (pure a) := onlyValueError_ok a

theorem onlyValueError_error {α : Type} : OnlyValueError (.error .valueError : Except _ α) :=
  fun _ h => (Except.error.inj h).symm

theorem onlyValueError_require {p : Prop} [Decidable p] : OnlyValueError (require p .valueError) :=
  fun _ h => (require_eq_error.mp h).2.symm

theorem onlyValueError_fetch {α : Type} {o : Option α} : OnlyValueError (fetch o .valueError) :=
  fun _ h => (fetch_eq_error.mp h).2.symm

theorem onlyValueError_construct {α : Type} {Valid : α → Prop} [DecidablePred Valid] {fields : α} :
    OnlyValueError (construct Valid fields) := fun _ => construct_eq_error

theorem onlyValueError_resolveQName (value : String) (namespaces : List (String × String)) :
    OnlyValueError (resolveQName value namespaces) := fun _ => resolveQName_eq_error

theorem onlyValueError_singleChild (element : XmlElement) (name : String) :
    OnlyValueError (singleChild element name) := by
  unfold singleChild
  split
  · exact onlyValueError_ok _
  · exact onlyValueError_error

theorem onlyValueError_attributeOf (element : XmlElement) (name : String) :
    OnlyValueError (attributeOf element name) :=
  onlyValueError_fetch.bind fun _ => onlyValueError_require.bind fun _ => onlyValueError_pure _

theorem onlyValueError_textOf (element : XmlElement) : OnlyValueError (textOf element) :=
  onlyValueError_require.bind fun _ => onlyValueError_pure _

theorem onlyValueError_splitExpandedName (value : String) :
    OnlyValueError (splitExpandedName value) :=
  onlyValueError_require.bind fun _ => onlyValueError_require.bind fun _ => onlyValueError_pure _

theorem onlyValueError_parsePeriod (period : XmlElement) : OnlyValueError (parsePeriod period) := by
  unfold parsePeriod
  split
  · exact (onlyValueError_textOf _).bind fun _ => onlyValueError_pure _
  · exact (onlyValueError_textOf _).bind fun _ =>
      (onlyValueError_textOf _).bind fun _ => onlyValueError_pure _
  · exact onlyValueError_pure _
  · exact onlyValueError_error

theorem onlyValueError_parseDimension (location : DimensionLocation)
    (namespaces : List (String × String)) (element : XmlElement) :
    OnlyValueError (parseDimension location namespaces element) := by
  refine (onlyValueError_attributeOf _ _).bind fun _ =>
    (onlyValueError_resolveQName _ _).bind fun _ => ?_
  split
  · exact (onlyValueError_textOf _).bind fun _ =>
      (onlyValueError_resolveQName _ _).bind fun _ => onlyValueError_construct
  · split
    · exact onlyValueError_fetch.bind fun _ => onlyValueError_require.bind fun _ =>
        (onlyValueError_splitExpandedName _).bind fun _ =>
          OnlyValueError.bind (fun _ => makeQName_eq_error) fun _ =>
            (onlyValueError_textOf _).bind fun _ => onlyValueError_construct
    · exact onlyValueError_error

theorem onlyValueError_parseDimensions (namespaces : List (String × String))
    (element : XmlElement) (location : DimensionLocation) :
    OnlyValueError (parseDimensions namespaces element location) := by
  unfold parseDimensions
  split
  · exact OnlyValueError.mapM (onlyValueError_parseDimension location namespaces) _
  · exact onlyValueError_pure _

theorem onlyValueError_toContext (path : String) (namespaces : List (String × String))
    (element : XmlElement) : OnlyValueError (toContext path namespaces element) :=
  (onlyValueError_singleChild _ _).bind fun _ => (onlyValueError_singleChild _ _).bind fun _ =>
    (onlyValueError_singleChild _ _).bind fun _ => (onlyValueError_parsePeriod _).bind fun _ =>
      (onlyValueError_parseDimensions _ _ _).bind fun _ =>
        (onlyValueError_parseDimensions _ _ _).bind fun _ =>
          (onlyValueError_attributeOf _ _).bind fun _ =>
            (onlyValueError_attributeOf _ _).bind fun _ => (onlyValueError_textOf _).bind fun _ =>
              onlyValueError_construct

theorem onlyValueError_resolveMeasure (namespaces : List (String × String))
    (measure : XmlElement) : OnlyValueError (resolveMeasure namespaces measure) :=
  (onlyValueError_textOf _).bind fun _ => onlyValueError_resolveQName _ _

theorem onlyValueError_measureGroup (divide : XmlElement) (name : String)
    (namespaces : List (String × String)) :
    OnlyValueError (measureGroup divide name namespaces) :=
  (onlyValueError_singleChild _ _).bind fun _ => onlyValueError_require.bind fun _ =>
    OnlyValueError.mapM (onlyValueError_resolveMeasure namespaces) _

theorem onlyValueError_toUnit (path : String) (namespaces : List (String × String))
    (element : XmlElement) : OnlyValueError (toUnit path namespaces element) := by
  refine OnlyValueError.bind ?_ fun _ => (onlyValueError_attributeOf _ _).bind fun _ =>
    onlyValueError_construct
  dsimp only [readMeasures]
  split
  · exact (OnlyValueError.mapM (onlyValueError_resolveMeasure namespaces) _).bind fun _ =>
      onlyValueError_pure _
  · split
    · split
      · exact (onlyValueError_measureGroup _ _ _).bind fun _ =>
          (onlyValueError_measureGroup _ _ _).bind fun _ => onlyValueError_pure _
      · exact onlyValueError_error
    · exact onlyValueError_error

theorem onlyValueError_readValue (element : XmlElement) : OnlyValueError (readValue element) := by
  refine onlyValueError_require.bind fun _ => onlyValueError_require.bind fun _ => ?_
  split
  · exact onlyValueError_require.bind fun _ => onlyValueError_pure _
  · exact onlyValueError_require.bind fun _ => onlyValueError_pure _

theorem onlyValueError_toFact (path : String) (contexts units : List String)
    (element : XmlElement) (ordinal : Nat) :
    OnlyValueError (toFact path contexts units element ordinal) :=
  (onlyValueError_splitExpandedName _).bind fun _ => onlyValueError_fetch.bind fun _ =>
    onlyValueError_require.bind fun _ => onlyValueError_require.bind fun _ =>
      (onlyValueError_readValue _).bind fun _ => onlyValueError_construct

theorem onlyValueError_readElement (path : String) (namespaces : List (String × String))
    (raw : RawMember) (element : XmlElement) :
    OnlyValueError (readElement path namespaces raw element) := by
  unfold readElement
  split
  · exact (onlyValueError_toContext _ _ _).bind fun _ => onlyValueError_require.bind fun _ =>
      onlyValueError_pure _
  · split
    · exact (onlyValueError_toUnit _ _ _).bind fun _ => onlyValueError_require.bind fun _ =>
        onlyValueError_pure _
    · split <;> exact onlyValueError_pure _

theorem OnlyValueError.foldlM {σ α : Type} {f : σ → α → Except PyException σ}
    (hf : ∀ s a, OnlyValueError (f s a)) (xs : List α) (s : σ) :
    OnlyValueError (xs.foldlM f s) := by
  induction xs generalizing s with
  | nil => exact onlyValueError_pure s
  | cons x xs ih =>
    rw [List.foldlM_cons]
    exact (hf s x).bind ih

/-! ## The elements of a member -/

/-- The loop takes an element for a context, for a unit, or for a fact. -/
def isContextElement (element : XmlElement) : Bool := element.tag = xbrli "context"

def isUnitElement (element : XmlElement) : Bool := element.tag = xbrli "unit"

def isFactElement (element : XmlElement) : Bool :=
  !isContextElement element && !isUnitElement element &&
    (element.get (plain "contextRef")).isSome

/-- What the loop has found in some elements: all of it is read, and no identifier is twice. -/
structure ReadsMember (path : String) (namespaces : List (String × String))
    (elements : List XmlElement) (raw : RawMember) : Prop where
  contexts : List.Forall₂ (fun element context => toContext path namespaces element = .ok context)
    (elements.filter isContextElement) raw.contexts
  units : List.Forall₂ (fun element unit => toUnit path namespaces element = .ok unit)
    (elements.filter isUnitElement) raw.units
  rawFacts : raw.rawFacts = elements.filter isFactElement
  contextIds : (raw.contexts.map (·.1.contextId)).Nodup
  unitIds : (raw.units.map (·.1.unitId)).Nodup

theorem readsMember_nil (path : String) (namespaces : List (String × String)) :
    ReadsMember path namespaces [] ⟨[], [], []⟩ :=
  ⟨.nil, .nil, rfl, List.nodup_nil, List.nodup_nil⟩

theorem forall₂_concat {α β : Type} {R : α → β → Prop} {xs : List α} {ys : List β} {x : α} {y : β}
    (h : List.Forall₂ R xs ys) (hxy : R x y) : List.Forall₂ R (xs ++ [x]) (ys ++ [y]) :=
  List.rel_append h (.cons hxy .nil)

/-- One round of the loop. -/
theorem ReadsMember.step {path : String} {namespaces : List (String × String)}
    {done : List XmlElement} {raw raw' : RawMember} {element : XmlElement}
    (h : ReadsMember path namespaces done raw)
    (hstep : readElement path namespaces raw element = .ok raw') :
    ReadsMember path namespaces (done ++ [element]) raw' := by
  obtain ⟨hcontexts, hunits, hfacts, hcontextIds, hunitIds⟩ := h
  unfold readElement at hstep
  split at hstep
  · -- a context: neither unit nor fact
    rename_i hcontext
    obtain ⟨context, hread, hadd⟩ := bind_eq_ok.mp hstep
    obtain ⟨⟨⟩, hnew, hraw⟩ := bind_eq_ok.mp hadd
    rw [require_eq_ok] at hnew
    obtain rfl := pure_eq_ok.mp hraw
    have hunit : isUnitElement element = false := by
      rw [isUnitElement, hcontext]
      decide
    have htrue : isContextElement element = true := decide_eq_true hcontext
    have hfact : isFactElement element = false := by rw [isFactElement, htrue]; rfl
    refine ⟨?_, ?_, ?_, ?_, hunitIds⟩
    · rw [List.filter_append, List.filter_cons_of_pos htrue]
      exact forall₂_concat hcontexts hread
    · rw [List.filter_append, List.filter_cons_of_neg (by simp [hunit]), List.filter_nil,
        List.append_nil]
      exact hunits
    · rw [List.filter_append, List.filter_cons_of_neg (by simp [hfact]), List.filter_nil,
        List.append_nil]
      exact hfacts
    · simp only [List.map_append, List.map_cons, List.map_nil]
      exact List.nodup_append.mpr ⟨hcontextIds, List.nodup_singleton _, fun a ha b hb heq =>
        hnew (by rw [← List.mem_singleton.mp hb, ← heq]; exact ha)⟩
  · rename_i hcontext
    have hnot : isContextElement element = false := decide_eq_false hcontext
    split at hstep
    · -- a unit
      rename_i hunit
      obtain ⟨unit, hread, hadd⟩ := bind_eq_ok.mp hstep
      obtain ⟨⟨⟩, hnew, hraw⟩ := bind_eq_ok.mp hadd
      rw [require_eq_ok] at hnew
      obtain rfl := pure_eq_ok.mp hraw
      have htrue : isUnitElement element = true := decide_eq_true hunit
      have hfact : isFactElement element = false := by rw [isFactElement, htrue]; simp
      refine ⟨?_, ?_, ?_, hcontextIds, ?_⟩
      · rw [List.filter_append, List.filter_cons_of_neg (by simp [hnot]), List.filter_nil,
          List.append_nil]
        exact hcontexts
      · rw [List.filter_append, List.filter_cons_of_pos htrue]
        exact forall₂_concat hunits hread
      · rw [List.filter_append, List.filter_cons_of_neg (by simp [hfact]), List.filter_nil,
          List.append_nil]
        exact hfacts
      · simp only [List.map_append, List.map_cons, List.map_nil]
        exact List.nodup_append.mpr ⟨hunitIds, List.nodup_singleton _, fun a ha b hb heq =>
          hnew (by rw [← List.mem_singleton.mp hb, ← heq]; exact ha)⟩
    · -- neither: a fact if it has a `contextRef`, else nothing is recorded
      rename_i hunit
      have hnotUnit : isUnitElement element = false := decide_eq_false hunit
      have hrest : ReadsMember path namespaces (done ++ [element])
          { raw with rawFacts := raw.rawFacts ++ [element].filter isFactElement } := by
        refine ⟨?_, ?_, ?_, hcontextIds, hunitIds⟩
        · rw [List.filter_append, List.filter_cons_of_neg (by simp [hnot]), List.filter_nil,
            List.append_nil]
          exact hcontexts
        · rw [List.filter_append, List.filter_cons_of_neg (by simp [hnotUnit]), List.filter_nil,
            List.append_nil]
          exact hunits
        · rw [List.filter_append, hfacts]
      split at hstep
      · rename_i href
        obtain rfl := pure_eq_ok.mp hstep
        have hfact : isFactElement element = true := by
          rw [isFactElement, hnot, hnotUnit, href]
          rfl
        rwa [List.filter_cons_of_pos hfact] at hrest
      · rename_i href
        obtain rfl := pure_eq_ok.mp hstep
        have hfact : isFactElement element = false := by
          rw [isFactElement, Bool.eq_false_iff.mpr href, Bool.and_false]
        rwa [List.filter_cons_of_neg (by simp [hfact]), List.filter_nil, List.append_nil] at hrest

/-- The whole loop. -/
theorem ReadsMember.run {path : String} {namespaces : List (String × String)}
    {done rest : List XmlElement} {raw raw' : RawMember}
    (h : ReadsMember path namespaces done raw)
    (hrun : rest.foldlM (readElement path namespaces) raw = .ok raw') :
    ReadsMember path namespaces (done ++ rest) raw' := by
  induction rest generalizing done raw with
  | nil =>
    obtain rfl := pure_eq_ok.mp hrun
    rwa [List.append_nil]
  | cons element rest ih =>
    rw [List.foldlM_cons] at hrun
    obtain ⟨next, hstep, hrest⟩ := bind_eq_ok.mp hrun
    have := ih (h.step hstep) hrest
    rwa [List.append_assoc, List.singleton_append] at this

/-! ## The facts of a member -/

/-- What a fact says of its element. -/
structure ReadsFact (path : String) (element : XmlElement) (ordinal : Nat)
    (fact : EdinetXbrlFactCandidate) : Prop where
  ordinal_eq : fact.1.ordinal = ordinal
  path_eq : fact.1.sourceMemberPath = path
  contextRef : element.get (plain "contextRef") = some fact.1.contextRef
  unitRef : element.get (plain "unitRef") = fact.1.unitRef
  name : splitExpandedName (tagText element.tag) =
    .ok (fact.1.conceptNamespace, fact.1.conceptLocalName)
  decimals : element.get (plain "decimals") = fact.1.decimals
  scale : element.get (plain "scale") = fact.1.scale
  value : readValue element = .ok fact.1.value

theorem toFact_eq_ok {path : String} {contexts units : List String} {element : XmlElement}
    {ordinal : Nat} {fact : EdinetXbrlFactCandidate}
    (h : toFact path contexts units element ordinal = .ok fact) :
    ReadsFact path element ordinal fact ∧ fact.1.contextRef ∈ contexts ∧
      ∀ unit ∈ fact.1.unitRef, unit ∈ units := by
  obtain ⟨⟨nameSpace, localName⟩, hname, h⟩ := bind_eq_ok.mp h
  obtain ⟨contextRef, hcontext, h⟩ := bind_eq_ok.mp h
  obtain ⟨⟨⟩, hknown, h⟩ := bind_eq_ok.mp h
  obtain ⟨⟨⟩, hunits, h⟩ := bind_eq_ok.mp h
  obtain ⟨value, hvalue, h⟩ := bind_eq_ok.mp h
  rw [fetch_eq_ok] at hcontext
  rw [require_eq_ok] at hknown hunits
  rw [construct_eq_ok] at h
  refine ⟨⟨?_, ?_, ?_, ?_, ?_, ?_, ?_, ?_⟩, ?_, ?_⟩
  all_goals rw [h]
  · exact hcontext
  · exact hname
  · exact hvalue
  · exact hknown
  · intro unit hunit
    have hsome : element.get (plain "unitRef") = some unit := hunit
    rw [hsome] at hunits
    exact of_decide_eq_true hunits

/-- No declaration of a document type or of an entity is in the bytes. -/
def IsPlainXml (body : List UInt8) : Prop :=
  ¬ (hasInfix (asciiBytes "<!DOCTYPE") body ∨ hasInfix (asciiBytes "<!ENTITY") body)

instance : DecidablePred IsPlainXml := fun _ => inferInstanceAs (Decidable (¬ (_ ∨ _)))

variable (libraries : DocumentLibraries)

/-- A member that is read, with what the libraries return for it. -/
structure ReadsXbrl (path : String) (body : List UInt8) (firstOrdinal : Nat)
    (parsed : ParsedXbrlMember) (root : XmlElement) : Prop where
  tree : libraries.fromstring body = .ok root
  consistent : Consistent (libraries.namespaces body).declared
  contexts : ∃ namespaces, Records namespaces (libraries.namespaces body).declared ∧
    List.Forall₂ (fun element context => toContext path namespaces element = .ok context)
      (root.iter.filter isContextElement) parsed.contexts
  facts : List.Forall₂ (fun item fact => ReadsFact path item.1 item.2 fact)
    ((root.iter.filter isFactElement).zipIdx firstOrdinal) parsed.facts
  contextIds : (parsed.contexts.map (·.1.contextId)).Nodup
  unitIds : (parsed.units.map (·.1.unitId)).Nodup
  contextPaths : ∀ context ∈ parsed.contexts, context.1.sourceMemberPath = path
  unitPaths : ∀ unit ∈ parsed.units, unit.1.sourceMemberPath = path
  contextRefs : ∀ fact ∈ parsed.facts, fact.1.contextRef ∈ parsed.contexts.map (·.1.contextId)
  unitRefs : ∀ fact ∈ parsed.facts, ∀ unit ∈ fact.1.unitRef,
    unit ∈ parsed.units.map (·.1.unitId)

theorem toContext_path {path : String} {namespaces : List (String × String)}
    {element : XmlElement} {context : EdinetXbrlContext}
    (h : toContext path namespaces element = .ok context) : context.1.sourceMemberPath = path := by
  simp only [toContext, bind_eq_ok, construct_eq_ok] at h
  obtain ⟨_, -, _, -, _, -, _, -, _, -, _, -, _, -, _, -, _, -, h⟩ := h
  rw [h]

theorem toUnit_path {path : String} {namespaces : List (String × String)}
    {element : XmlElement} {unit : EdinetXbrlUnit}
    (h : toUnit path namespaces element = .ok unit) : unit.1.sourceMemberPath = path := by
  simp only [toUnit, bind_eq_ok, construct_eq_ok] at h
  obtain ⟨_, -, _, -, h⟩ := h
  rw [h]

theorem parseXbrlMember_eq_ok {path : String} {body : List UInt8} {firstOrdinal : Nat}
    {parsed : ParsedXbrlMember}
    (h : parseXbrlMember libraries path body firstOrdinal = .ok parsed) :
    ∃ root, ReadsXbrl libraries path body firstOrdinal parsed root := by
  obtain ⟨⟨⟩, -, h⟩ := bind_eq_ok.mp h
  obtain ⟨namespaces, hnamespaces, h⟩ := bind_eq_ok.mp h
  obtain ⟨root, hroot, h⟩ := bind_eq_ok.mp h
  obtain ⟨⟨⟩, -, h⟩ := bind_eq_ok.mp h
  obtain ⟨raw, hraw, h⟩ := bind_eq_ok.mp h
  obtain ⟨facts, hfacts, h⟩ := bind_eq_ok.mp h
  obtain rfl := pure_eq_ok.mp h
  obtain ⟨-, hrecords⟩ := readNamespaces_eq_ok hnamespaces
  -- what the loop has recorded when it is through
  have hread := (readsMember_nil path namespaces).run hraw
  rw [List.nil_append] at hread
  rw [mapM_eq_ok, hread.rawFacts] at hfacts
  refine ⟨root, ⟨mapError_eq_ok.mp hroot, hrecords.1, ⟨namespaces, hrecords, hread.contexts⟩,
    hfacts.imp fun _ _ hfact => (toFact_eq_ok hfact).1, hread.contextIds, hread.unitIds,
    ?_, ?_, ?_, ?_⟩⟩
  · -- contexts, units and facts have the path of the member
    intro context hcontext
    obtain ⟨element, -, hread⟩ := exists_left_of_mem hread.contexts hcontext
    exact toContext_path hread
  · intro unit hunit
    obtain ⟨element, -, hread⟩ := exists_left_of_mem hread.units hunit
    exact toUnit_path hread
  · intro fact hfact
    obtain ⟨item, -, hread⟩ := exists_left_of_mem hfacts hfact
    exact (toFact_eq_ok hread).2.1
  · intro fact hfact
    obtain ⟨item, -, hread⟩ := exists_left_of_mem hfacts hfact
    exact (toFact_eq_ok hread).2.2

/-! ## The facts of an archive -/

/-- The name of a context, or of a unit, in an archive. -/
def EdinetXbrlContext.key (context : EdinetXbrlContext) : String × String :=
  (context.1.sourceMemberPath, context.1.contextId)

def EdinetXbrlUnit.key (unit : EdinetXbrlUnit) : String × String :=
  (unit.1.sourceMemberPath, unit.1.unitId)

/-- The facts are numbered, and each refers to one context and to one unit of its member. -/
structure IsResolved (contexts : List EdinetXbrlContext) (units : List EdinetXbrlUnit)
    (facts : List EdinetXbrlFactCandidate) : Prop where
  ordinals : facts.map (·.1.ordinal) = List.range' 1 facts.length
  contextKeys : (contexts.map EdinetXbrlContext.key).Nodup
  unitKeys : (units.map EdinetXbrlUnit.key).Nodup
  contextRefs : ∀ fact ∈ facts,
    (fact.1.sourceMemberPath, fact.1.contextRef) ∈ contexts.map EdinetXbrlContext.key
  unitRefs : ∀ fact ∈ facts, ∀ unit ∈ fact.1.unitRef,
    (fact.1.sourceMemberPath, unit) ∈ units.map EdinetXbrlUnit.key

/-- The members of an archive that are read, each with its bytes and its tree, and the facts
of each, numbered from the last one of the member before. -/
inductive ReadsArchive (body : List UInt8) :
    List EdinetArchiveMember → ParsedXbrlMember → Prop
  | nil : ReadsArchive body [] ⟨[], [], []⟩
  | concat {members : List EdinetArchiveMember} {parsed next : ParsedXbrlMember}
      {member : EdinetArchiveMember} {bytes : List UInt8} {root : XmlElement} :
      ReadsArchive body members parsed →
      libraries.read body member.path (member.uncompressedBytes + 1) = .ok bytes →
      bytes.length = member.uncompressedBytes →
      ReadsXbrl libraries member.path bytes (parsed.facts.length + 1) next root →
      ReadsArchive body (members ++ [member]) ⟨parsed.contexts ++ next.contexts,
        parsed.units ++ next.units, parsed.facts ++ next.facts⟩

theorem ReadsArchive.run {body : List UInt8} {done rest : List EdinetArchiveMember}
    {parsed parsed' : ParsedXbrlMember} (h : ReadsArchive libraries body done parsed)
    (hrun : rest.foldlM (readMember libraries body) parsed = .ok parsed') :
    ReadsArchive libraries body (done ++ rest) parsed' := by
  induction rest generalizing done parsed with
  | nil =>
    obtain rfl := pure_eq_ok.mp hrun
    rwa [List.append_nil]
  | cons member rest ih =>
    rw [List.foldlM_cons] at hrun
    obtain ⟨next, hstep, hrest⟩ := bind_eq_ok.mp hrun
    obtain ⟨bytes, hbytes, hstep⟩ := bind_eq_ok.mp hstep
    obtain ⟨⟨⟩, hlength, hstep⟩ := bind_eq_ok.mp hstep
    obtain ⟨xbrl, hxbrl, hstep⟩ := bind_eq_ok.mp hstep
    obtain rfl := pure_eq_ok.mp hstep
    obtain ⟨root, hroot⟩ := parseXbrlMember_eq_ok libraries hxbrl
    have := ih (h.concat hbytes (require_eq_ok.mp hlength) hroot) hrest
    rwa [List.append_assoc, List.singleton_append] at this

theorem nodup_append_of_path {α : Type} {path : α → String} {key : α → String × String}
    {name : α → String} (hkey : ∀ a, key a = (path a, name a)) {xs ys : List α} {next : String}
    (hxs : (xs.map key).Nodup) (hys : (ys.map name).Nodup) (hnew : ∀ x ∈ xs, path x ≠ next)
    (hpath : ∀ y ∈ ys, path y = next) : ((xs ++ ys).map key).Nodup := by
  rw [List.map_append, List.nodup_append]
  refine ⟨hxs, ?_, ?_⟩
  · refine List.Nodup.of_map Prod.snd ?_
    rw [List.map_map]
    have hname : ys.map (Prod.snd ∘ key) = ys.map name := by simp [hkey]
    rwa [hname]
  · intro a ha b hb heq
    obtain ⟨x, hx, rfl⟩ := List.mem_map.mp ha
    obtain ⟨y, hy, rfl⟩ := List.mem_map.mp hb
    rw [hkey, hkey] at heq
    exact hnew x hx ((Prod.mk.inj heq).1.trans (hpath y hy))

/-- Members have different paths, so that what they name is different. -/
theorem ReadsArchive.isResolved {body : List UInt8} {members : List EdinetArchiveMember}
    {parsed : ParsedXbrlMember} (h : ReadsArchive libraries body members parsed)
    (hnodup : (members.map (·.path)).Nodup) :
    IsResolved parsed.contexts parsed.units parsed.facts ∧
      (∀ context ∈ parsed.contexts, context.1.sourceMemberPath ∈ members.map (·.path)) ∧
      (∀ unit ∈ parsed.units, unit.1.sourceMemberPath ∈ members.map (·.path)) := by
  induction h with
  | nil =>
    refine ⟨⟨rfl, List.nodup_nil, List.nodup_nil, ?_, ?_⟩, ?_, ?_⟩ <;> simp
  | @concat members parsed next member bytes root hprev hread hlength hxbrl ih =>
    rw [List.map_append, List.nodup_append] at hnodup
    obtain ⟨hbefore, -, hdisjoint⟩ := hnodup
    obtain ⟨⟨hordinals, hcontextKeys, hunitKeys, hcontextRefs, hunitRefs⟩, hcontexts, hunits⟩ :=
      ih hbefore
    -- the new member has a path of its own
    have hnew : ∀ path ∈ members.map (·.path), path ≠ member.path := fun path hpath =>
      hdisjoint path hpath member.path (by simp)
    have hpaths : ∀ fact ∈ next.facts, fact.1.sourceMemberPath = member.path := by
      intro fact hfact
      obtain ⟨item, -, hitem⟩ := exists_left_of_mem hxbrl.facts hfact
      exact hitem.path_eq
    refine ⟨⟨?_, ?_, ?_, ?_, ?_⟩, ?_, ?_⟩
    · -- its ordinals go on where those before ended
      have hnext : next.facts.map (·.1.ordinal) =
          List.range' (parsed.facts.length + 1) next.facts.length := by
        have hlengths := hxbrl.facts.length_eq
        rw [List.length_zipIdx] at hlengths
        rw [map_eq_map_of_forall₂ (fun _ _ hfact => hfact.ordinal_eq) hxbrl.facts,
          List.zipIdx_map_snd, hlengths]
      rw [List.map_append, hordinals, hnext, List.length_append, ← List.range'_append_1,
        Nat.add_comm 1]
    · exact nodup_append_of_path (fun _ => rfl) hcontextKeys hxbrl.contextIds
        (fun context hcontext => hnew _ (hcontexts context hcontext)) hxbrl.contextPaths
    · exact nodup_append_of_path (fun _ => rfl) hunitKeys hxbrl.unitIds
        (fun unit hunit => hnew _ (hunits unit hunit)) hxbrl.unitPaths
    · -- an old fact refers to an old context, a new one to a context of its member
      intro fact hfact
      rw [List.map_append, List.mem_append]
      rcases List.mem_append.mp hfact with hfact | hfact
      · exact .inl (hcontextRefs fact hfact)
      · obtain ⟨context, hcontext, hid⟩ := List.mem_map.mp (hxbrl.contextRefs fact hfact)
        refine .inr (List.mem_map.mpr ⟨context, hcontext, ?_⟩)
        rw [EdinetXbrlContext.key, hxbrl.contextPaths context hcontext, hpaths fact hfact, hid]
    · -- the same for units
      intro fact hfact unit hunit
      rw [List.map_append, List.mem_append]
      rcases List.mem_append.mp hfact with hfact | hfact
      · exact .inl (hunitRefs fact hfact unit hunit)
      · obtain ⟨found, hfound, hid⟩ := List.mem_map.mp (hxbrl.unitRefs fact hfact unit hunit)
        refine .inr (List.mem_map.mpr ⟨found, hfound, ?_⟩)
        rw [EdinetXbrlUnit.key, hxbrl.unitPaths found hfound, hpaths fact hfact, hid]
    · intro context hcontext
      rw [List.map_append, List.mem_append]
      rcases List.mem_append.mp hcontext with hcontext | hcontext
      · exact .inl (hcontexts context hcontext)
      · exact .inr (by simp [hxbrl.contextPaths context hcontext])
    · intro unit hunit
      rw [List.map_append, List.mem_append]
      rcases List.mem_append.mp hunit with hunit | hunit
      · exact .inl (hunits unit hunit)
      · exact .inr (by simp [hxbrl.unitPaths unit hunit])

/-! ## Exceptions of the libraries -/

/-- How a library raises while a member is read. -/
inductive LibraryRaises (body : List UInt8) (member : EdinetArchiveMember) (error : PyException) :
    Prop
  | read (h : libraries.read body member.path (member.uncompressedBytes + 1) = .error error)
  | namespaces {bytes : List UInt8} {raised : XmlError}
      (hread : libraries.read body member.path (member.uncompressedBytes + 1) = .ok bytes)
      (hlength : bytes.length = member.uncompressedBytes) (hplain : IsPlainXml bytes)
      (hconsistent : Consistent (libraries.namespaces bytes).declared)
      (hraised : (libraries.namespaces bytes).error = some raised) (herror : raised.raised = error)
  | tree {bytes : List UInt8} {raised : XmlError}
      (hread : libraries.read body member.path (member.uncompressedBytes + 1) = .ok bytes)
      (hlength : bytes.length = member.uncompressedBytes) (hplain : IsPlainXml bytes)
      (hconsistent : Consistent (libraries.namespaces bytes).declared)
      (hnone : (libraries.namespaces bytes).error = none)
      (hraised : libraries.fromstring bytes = .error raised) (herror : raised.raised = error)

/-- A member raises, other than a `ValueError`, what a library raises. -/
theorem readMember_eq_error {body : List UInt8} {parsed : ParsedXbrlMember}
    {member : EdinetArchiveMember} {error : PyException} (hnot : error ≠ .valueError) :
    readMember libraries body parsed member = .error error ↔
      LibraryRaises libraries body member error := by
  have hvalue : ∀ {α : Type} {x : Except PyException α}, OnlyValueError x → x ≠ .error error :=
    fun hx heq => hnot (hx error heq)
  -- everything after the tree is parsed raises `ValueError` alone
  have hfacts : ∀ (root : XmlElement) (namespaces : List (String × String)) (first : Nat),
      OnlyValueError (do
        require (root.tag = xbrli "xbrl") .valueError
        let raw ← root.iter.foldlM (readElement member.path namespaces) ⟨[], [], []⟩
        let facts ← (raw.rawFacts.zipIdx first).mapM fun item =>
          toFact member.path (raw.contexts.map (·.1.contextId)) (raw.units.map (·.1.unitId))
            item.1 item.2
        pure (ParsedXbrlMember.mk raw.contexts raw.units facts)) := fun root namespaces first =>
    onlyValueError_require.bind fun _ =>
      (OnlyValueError.foldlM (onlyValueError_readElement _ _) _ _).bind fun _ =>
        (OnlyValueError.mapM (fun _ => onlyValueError_toFact _ _ _ _ _) _).bind fun _ =>
          onlyValueError_pure _
  rw [readMember, bind_eq_error]
  constructor
  · -- in the order of the code: the read, the namespaces, the tree
    rintro (h | ⟨bytes, hread, h⟩)
    · exact .read h
    rcases bind_eq_error.mp h with h | ⟨⟨⟩, hlength, h⟩
    · exact absurd h (hvalue onlyValueError_require)
    rw [require_eq_ok] at hlength
    rcases bind_eq_error.mp h with h | ⟨next, -, h⟩
    · rcases bind_eq_error.mp h with h | ⟨⟨⟩, hplain, h⟩
      · exact absurd h (hvalue onlyValueError_require)
      rw [require_eq_ok] at hplain
      rcases bind_eq_error.mp h with h | ⟨namespaces, hnamespaces, h⟩
      · rcases readNamespaces_eq_error.mp h with ⟨-, hvalueError⟩ | ⟨hconsistent, raised, hraised, heq⟩
        · exact absurd hvalueError hnot
        · exact .namespaces hread hlength hplain hconsistent hraised heq
      obtain ⟨hnone, hrecords⟩ := readNamespaces_eq_ok hnamespaces
      rcases bind_eq_error.mp h with h | ⟨root, -, h⟩
      · obtain ⟨raised, hraised, heq⟩ := mapError_eq_error.mp h
        exact .tree hread hlength hplain hrecords.1 hnone hraised heq
      · exact absurd h (hvalue (hfacts root namespaces _))
    · exact absurd h (hvalue (onlyValueError_pure _))
  · intro h
    cases h with
    | read h => exact .inl h
    | @namespaces bytes raised hread hlength hplain hconsistent hraised herror =>
      refine .inr ⟨bytes, hread, bind_eq_error.mpr (.inr ⟨(), require_eq_ok.mpr hlength, ?_⟩)⟩
      refine bind_eq_error.mpr (.inl (bind_eq_error.mpr (.inr ⟨(), require_eq_ok.mpr hplain, ?_⟩)))
      exact bind_eq_error.mpr (.inl (readNamespaces_eq_error.mpr
        (.inr ⟨hconsistent, raised, hraised, herror⟩)))
    | @tree bytes raised hread hlength hplain hconsistent hnone hraised herror =>
      refine .inr ⟨bytes, hread, bind_eq_error.mpr (.inr ⟨(), require_eq_ok.mpr hlength, ?_⟩)⟩
      refine bind_eq_error.mpr (.inl (bind_eq_error.mpr (.inr ⟨(), require_eq_ok.mpr hplain, ?_⟩)))
      obtain ⟨namespaces, hnamespaces⟩ := exists_readNamespaces hconsistent hnone
      refine bind_eq_error.mpr (.inr ⟨namespaces, hnamespaces, bind_eq_error.mpr (.inl ?_)⟩)
      exact mapError_eq_error.mpr ⟨raised, hraised, herror⟩

/-! ## Documents -/

variable {sha256 : List UInt8 → String}

/-- The bytes are those of an archive. -/
def IsArchive (response : BoundedSourceResponse sha256) : Prop :=
  response.mediaType = "application/octet-stream" ∧ response.encoding = "binary"

instance (response : BoundedSourceResponse sha256) : Decidable (IsArchive response) :=
  inferInstanceAs (Decidable (_ ∧ _))

/-- A second inspection of an archive finds the same. -/
theorem readFacts_of_parseArchive {response : BoundedSourceResponse sha256}
    {archive : EdinetDocumentArchive}
    (h : parseArchive libraries.toArchiveLibrary response = .ok archive) :
    readFacts libraries response archive =
      archive.xbrlMembers.foldlM (readMember libraries response.body) ⟨[], [], []⟩ >>= fun parsed =>
        construct FactSetFields.Valid ⟨response.digest, archive.xbrlMembers.map (·.path),
          parsed.contexts, parsed.units, parsed.facts⟩ := by
  rw [readFacts, h, mapError_ok, ok_bind, require, if_pos rfl, ok_bind]

/-- The facts of an accepted document are those of its archive. -/
theorem parseDocument_eq_ok {response : BoundedSourceResponse sha256}
    {document : EdinetXbrlDocument} (h : parseDocument libraries response = .ok document) :
    parseArchive libraries.toArchiveLibrary response = .ok document.archive ∧
      ∃ parsed, ReadsArchive libraries response.body document.archive.xbrlMembers parsed ∧
        document.facts.1 = ⟨response.digest, document.archive.xbrlMembers.map (·.path),
          parsed.contexts, parsed.units, parsed.facts⟩ := by
  obtain ⟨archive, harchive, h⟩ := bind_eq_ok.mp h
  obtain ⟨facts, hfacts, h⟩ := bind_eq_ok.mp h
  rw [extractFacts, mapError_eq_ok, readFacts_of_parseArchive libraries harchive] at hfacts
  obtain ⟨parsed, hparsed, hconstruct⟩ := bind_eq_ok.mp hfacts
  split at h
  · obtain rfl := pure_eq_ok.mp h
    have hnil : ReadsArchive libraries response.body [] ⟨[], [], []⟩ := .nil
    have hread := hnil.run libraries hparsed
    rw [List.nil_append] at hread
    exact ⟨harchive, parsed, hread, construct_eq_ok.mp hconstruct⟩
  · cases h

/-- An accepted document has the facts of exactly the instances of its archive, each read with
its declared size, in order. Facts are numbered from one, and each refers to exactly one context,
and to exactly one unit if it has one, of its own instance. -/
theorem document_facts_resolve {response : BoundedSourceResponse sha256}
    {document : EdinetXbrlDocument} (h : parseDocument libraries response = .ok document) :
    (∃ parsed, ReadsArchive libraries response.body document.archive.xbrlMembers parsed ∧
        document.facts.1 = ⟨response.digest, document.archive.xbrlMembers.map (·.path),
          parsed.contexts, parsed.units, parsed.facts⟩) ∧
      IsResolved document.facts.1.contexts document.facts.1.units document.facts.1.facts := by
  obtain ⟨-, parsed, hread, hfacts⟩ := parseDocument_eq_ok libraries h
  have hnodup : (document.archive.xbrlMembers.map (·.path)).Nodup :=
    document.archive.paths_nodup.sublist (List.filter_sublist.map _)
  refine ⟨⟨parsed, hread, hfacts⟩, ?_⟩
  rw [hfacts]
  exact (hread.isResolved libraries hnodup).1

/-! ## A document with one fact -/

namespace SampleDocument

/-- The text of an instance with a context and a fact. -/
def instanceText : String :=
  "<x:xbrl xmlns:x=\"http://www.xbrl.org/2003/instance\" xmlns:c=\"urn:concepts\">" ++
    "<x:context id=\"C1\"><x:entity><x:identifier scheme=\"urn:codes\">E1</x:identifier>" ++
    "</x:entity><x:period><x:instant>2026-03-31</x:instant></x:period></x:context>" ++
    "<c:Assets contextRef=\"C1\"> 5 </c:Assets></x:xbrl>"

/-- The tree of that text. -/
def tree : XmlElement :=
  let identifier : XmlElement := .node (xbrli "identifier") [(plain "scheme", "urn:codes")] "E1" []
  let entity : XmlElement := .node (xbrli "entity") [] "" [(identifier, "")]
  let instant : XmlElement := .node (xbrli "instant") [] "2026-03-31" []
  let period : XmlElement := .node (xbrli "period") [] "" [(instant, "")]
  let context : XmlElement :=
    .node (xbrli "context") [(plain "id", "C1")] "" [(entity, ""), (period, "")]
  let fact : XmlElement := .node ⟨"urn:concepts", "Assets"⟩ [(plain "contextRef", "C1")] " 5 " []
  .node (xbrli "xbrl") [] "" [(context, ""), (fact, "")]

/-- The libraries, on an archive of this instance. -/
def libraryOfTree : DocumentLibraries where
  infolist _ := .ok [⟨"XBRL/", 0, 0, 0, 0, 0, 0⟩, ⟨"XBRL/a.xbrl", 0, 0, 8, 168, 280, 3135571323⟩]
  lower text := text
  read _ name size := if name = "XBRL/a.xbrl" then .ok ((asciiBytes instanceText).take size)
    else .error .keyError
  namespaces text := if text = asciiBytes instanceText then
      ⟨[("x", "http://www.xbrl.org/2003/instance"), ("c", "urn:concepts")], none⟩
    else ⟨[], some .parseError⟩
  fromstring text := if text = asciiBytes instanceText then .ok tree else .error .parseError

theorem mediaType_ge : 1 ≤ "application/octet-stream".length := by decide

theorem mediaType_le : "application/octet-stream".length ≤ 128 := by decide

theorem encoding_ge : 1 ≤ "binary".length := by decide

theorem encoding_le : "binary".length ≤ 64 := by decide

def response : BoundedSourceResponse (fun _ => String.ofList (List.replicate 64 'b')) where
  physicalAttemptId := ⟨"a2", .refl true⟩
  body := asciiBytes "PK"
  mediaType := "application/octet-stream"
  encoding := "binary"
  mediaType_ge := mediaType_ge
  mediaType_le := mediaType_le
  encoding_ge := encoding_ge
  encoding_le := encoding_le
  digest := String.ofList (List.replicate 64 'b')
  exactHash := rfl

theorem parse_isOk : (parseDocument libraryOfTree response).isOk = true := by decide +kernel

theorem parse_exists : ∃ document, parseDocument libraryOfTree response = .ok document := by
  have hisOk := parse_isOk
  cases hparse : parseDocument libraryOfTree response with
  | ok document => exact ⟨document, rfl⟩
  | error error =>
    rw [hparse] at hisOk
    cases hisOk

/-- The fact of the document is found again. -/
theorem facts_resolve : ∃ document, parseDocument libraryOfTree response = .ok document ∧
    IsResolved document.facts.1.contexts document.facts.1.units document.facts.1.facts := by
  obtain ⟨document, hparse⟩ := parse_exists
  exact ⟨document, hparse, (document_facts_resolve libraryOfTree hparse).2⟩

end SampleDocument

/-! ## What leaves the adapter -/

theorem factError_eq_escaped {raised exception : PyException} :
    factError raised = .escaped exception ↔ raised = exception ∧ isFactError exception = false := by
  unfold factError
  split
  · rename_i htaken
    constructor
    · rintro ⟨⟩
    · rintro ⟨rfl, hnot⟩
      rw [htaken] at hnot
      cases hnot
  · rename_i hnot
    constructor
    · intro h
      obtain rfl := DocumentError.escaped.inj h
      exact ⟨rfl, Bool.eq_false_iff.mpr hnot⟩
    · rintro ⟨rfl, -⟩
      rfl

/-- The exceptions that leave the adapter, other than its own, are exactly those of the libraries
that no clause takes: when the archive is opened, or while a member is read after all members
before it have been. -/
theorem document_raises_iff (response : BoundedSourceResponse sha256) (exception : PyException) :
    parseDocument libraries response = .error (.escaped exception) ↔
      IsArchive response ∧
        ((libraries.infolist response.body = .error exception ∧
            isRetrievalError exception = false) ∨
          ∃ archive, parseArchive libraries.toArchiveLibrary response = .ok archive ∧
            isFactError exception = false ∧
            ∃ before member after parsed, archive.xbrlMembers = before ++ member :: after ∧
              before.foldlM (readMember libraries response.body) ⟨[], [], []⟩ = .ok parsed ∧
              LibraryRaises libraries response.body member exception) := by
  rw [parseDocument, bind_eq_error]
  constructor
  · rintro (h | ⟨archive, harchive, h⟩)
    · -- opening the archive has raised
      obtain ⟨hraised, hnot⟩ := parseArchive_escapes libraries.toArchiveLibrary h
      rcases bind_eq_error.mp h with h | ⟨⟨⟩, hmedia, -⟩
      · cases (require_eq_error.mp h).2
      · exact ⟨require_eq_ok.mp hmedia, .inl ⟨hraised, hnot⟩⟩
    have hmedia := ((parseArchive_eq_ok libraries.toArchiveLibrary).mp harchive).1
    refine ⟨hmedia, .inr ⟨archive, harchive, ?_⟩⟩
    rcases bind_eq_error.mp h with h | ⟨facts, -, h⟩
    · rw [extractFacts, readFacts_of_parseArchive libraries harchive] at h
      obtain ⟨raised, hraised, heq⟩ := mapError_eq_error.mp h
      obtain ⟨rfl, hnot⟩ := factError_eq_escaped.mp heq
      have hvalue : raised ≠ .valueError := by
        rintro rfl
        cases hnot
      rcases bind_eq_error.mp hraised with hfold | ⟨parsed, -, hconstruct⟩
      · -- the first member that raises, after those before it were read
        obtain ⟨before, member, after, parsed, hmembers, hbefore, hmember⟩ :=
          foldlM_eq_error.mp hfold
        exact ⟨hnot, before, member, after, parsed, hmembers, hbefore,
          (readMember_eq_error libraries hvalue).mp hmember⟩
      · exact absurd (construct_eq_error hconstruct) hvalue
    · split at h <;> cases h
  · rintro ⟨hmedia, ⟨hraised, hnot⟩ | ⟨archive, harchive, hnot, before, member, after, parsed,
      hmembers, hbefore, hraises⟩⟩
    · refine .inl (bind_eq_error.mpr (.inr ⟨(), require_eq_ok.mpr hmedia, ?_⟩))
      refine mapError_eq_error.mpr ⟨exception, bind_eq_error.mpr (.inl hraised), ?_⟩
      rw [retrievalError, hnot]
      rfl
    · refine .inr ⟨archive, harchive, bind_eq_error.mpr (.inl ?_)⟩
      have hvalue : exception ≠ .valueError := by
        rintro rfl
        cases hnot
      rw [extractFacts, readFacts_of_parseArchive libraries harchive]
      refine mapError_eq_error.mpr ⟨exception, ?_, factError_eq_escaped.mpr ⟨rfl, hnot⟩⟩
      refine bind_eq_error.mpr (.inl (foldlM_eq_error.mpr ⟨before, member, after, parsed,
        hmembers, hbefore, ?_⟩))
      exact (readMember_eq_error libraries hvalue).mpr hraises

end StockResearch.Sources
