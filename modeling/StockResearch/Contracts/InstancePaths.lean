import StockResearch.Contracts.Pointer
import StockResearch.Contracts.Wrapper

/-!
# Where a rejected value is

The path of a validation error is written from pydantic's location: the keys and indexes
from the root, and between them the name of each branch of a union that was entered. What
pydantic reports is a parameter; what is assumed of it is where a location can lead.

- `SchemaNode`: what a model says of one value, with the nodes of a schema as names.
- `ErrorAt`: the locations of the errors in a value.
- `PointsAt`: the path is a pointer to the rejected element.
- `instancePath_iff`: it is one exactly if no branch of a union was entered.
-/

namespace StockResearch.Contracts

open PyStr (ofString)

/-! ## Values and their places -/

/-- The child of a name: the value of a key, or the item at an index. -/
def PyValue.child : PyValue → PyStr → Option PyValue
  | .dict entries, name => (entries.find? (·.1.keyEq (.str name))).map (·.2)
  | .list items, name => (indexOf name).bind (items[·]?)
  | _, _ => Option.none

/-- A part of a location: a step into the value, or the branch of a union. -/
inductive LocPart where
  | key (name : PyStr)
  | index (i : Nat)
  | branch (label : PyStr)

/-- What the wrapper sees of a part. -/
def LocPart.item : LocPart → LocItem
  | .key name => .field name
  | .index i => .index i
  | .branch label => .field label

/-- The step into the value; none if it stays where it is. -/
def LocPart.step? : LocPart → Option PyStr
  | .key name => some name
  | .index i => some (ofString (toString i))
  | .branch _ => none

/-- An error of pydantic's, and what the parts of its location are. -/
structure LocatedError where
  type : String
  loc : List LocPart

/-- The error as the wrapper sees it. -/
def LocatedError.detail (error : LocatedError) : ErrorDetail :=
  ⟨error.type, error.loc.map (·.item)⟩

/-- Where the rejected element is in the value. -/
def LocatedError.position (error : LocatedError) : List PyStr := error.loc.filterMap (·.step?)

/-- A branch of a union was entered on the way. -/
def LocatedError.InUnion (error : LocatedError) : Prop :=
  ∃ label, .branch label ∈ error.loc

/-! ## Schemas -/

/-- What a model says of one value: the shapes that put something into a location. -/
inductive SchemaNode (S : Type) where
  | leaf
  | model (fields : List (PyStr × S))
  | array (item : S)
  | mapping (entry : S)
  | nullable (inner : S)
  | tagged (branches : List (PyStr × S))
  | union (branches : List (PyStr × S))

/-- The locations pydantic reports for a value: dict keys and list indexes from the root,
the tag after the position of a discriminated-union value, and the label of the branch
after that of a plain union value. -/
inductive ErrorAt {S : Type} (schema : S → SchemaNode S) :
    S → PyValue → List LocPart → String → Prop where
  /-- The value itself is rejected. -/
  | here {s : S} {value : PyValue} {type : String} (htype : type ≠ "missing") :
      ErrorAt schema s value [] type
  /-- A field is missing. -/
  | missing {s : S} {fields : List (PyStr × S)} {entries : List (PyValue × PyValue)}
      {name : PyStr} (hnode : schema s = .model fields) (hfield : name ∈ fields.map Prod.fst)
      (hmissing : (.str name : PyValue) ∉ entries.map Prod.fst) :
      ErrorAt schema s (.dict entries) [.key name] "missing"
  /-- A key is no field. -/
  | extra {s : S} {fields : List (PyStr × S)} {entries : List (PyValue × PyValue)}
      {name : PyStr} {value : PyValue} (hnode : schema s = .model fields)
      (hfield : name ∉ fields.map Prod.fst) (hentry : (.str name, value) ∈ entries) :
      ErrorAt schema s (.dict entries) [.key name] "extra_forbidden"
  /-- The value of a field is rejected. -/
  | field {s t : S} {fields : List (PyStr × S)} {entries : List (PyValue × PyValue)}
      {name : PyStr} {value : PyValue} {loc : List LocPart} {type : String}
      (hnode : schema s = .model fields) (hfield : (name, t) ∈ fields)
      (hentry : (.str name, value) ∈ entries) (hvalue : ErrorAt schema t value loc type) :
      ErrorAt schema s (.dict entries) (.key name :: loc) type
  /-- An item of a list is rejected. -/
  | item {s t : S} {items : List PyValue} {i : Nat} {value : PyValue} {loc : List LocPart}
      {type : String} (hnode : schema s = .array t) (hitem : items[i]? = some value)
      (hvalue : ErrorAt schema t value loc type) :
      ErrorAt schema s (.list items) (.index i :: loc) type
  /-- The value of a key is rejected. -/
  | entry {s t : S} {entries : List (PyValue × PyValue)} {name : PyStr} {value : PyValue}
      {loc : List LocPart} {type : String} (hnode : schema s = .mapping t)
      (hentry : (.str name, value) ∈ entries) (hvalue : ErrorAt schema t value loc type) :
      ErrorAt schema s (.dict entries) (.key name :: loc) type
  /-- An optional value is there, and rejected. -/
  | nullable {s t : S} {value : PyValue} {loc : List LocPart} {type : String}
      (hnode : schema s = .nullable t) (hvalue : ErrorAt schema t value loc type) :
      ErrorAt schema s value loc type
  /-- The branch that the tag names rejects the value. -/
  | tagged {s t : S} {branches : List (PyStr × S)} {tag : PyStr} {value : PyValue}
      {loc : List LocPart} {type : String} (hnode : schema s = .tagged branches)
      (hbranch : (tag, t) ∈ branches) (hvalue : ErrorAt schema t value loc type) :
      ErrorAt schema s value (.branch tag :: loc) type
  /-- A branch rejects the value. -/
  | union {s t : S} {branches : List (PyStr × S)} {label : PyStr} {value : PyValue}
      {loc : List LocPart} {type : String} (hnode : schema s = .union branches)
      (hbranch : (label, t) ∈ branches) (hvalue : ErrorAt schema t value loc type) :
      ErrorAt schema s value (.branch label :: loc) type

/-! ## The law -/

/-- The artifact's path is a pointer to the rejected element; if a required field is
missing, its parent leads to the object that lacks it. -/
structure PointsAt (value : PyValue) (error : LocatedError) (artifact : ValidationError) :
    Prop where
  names : tokensOf (ofString artifact.instancePath) = some error.position
  reaches : artifact.code ≠ .requiredFieldMissing →
    ∃ element, evaluate PyValue.child value (ofString artifact.instancePath) = some element
  lacks : artifact.code = .requiredFieldMissing → ∃ parent name entries,
    error.position = parent ++ [name] ∧
      evaluate PyValue.child value (pointer parent) = some (.dict entries) ∧
      (PyValue.dict entries).child name = none

section
variable {S Model Artifact : Type}

/-- The text holds an object that reaches the validation by its model, and this is the
first error there. -/
structure RejectedByModel (schema : S → SchemaNode S) (root : Model → S) (libraries : Libraries)
    (registry : Table (PyStr × Int) Model)
    (modelValidate : Model → PyValue → Except LocatedError Artifact) (text : PyStr)
    (format : InputFormat) (value : PyValue) (error : LocatedError) : Prop where
  parsed : parseText libraries text format = .ok value
  rejected : ∃ schemaId schemaVersion model, Declares value schemaId schemaVersion ∧
    Nameable schemaId ∧ 1 ≤ schemaVersion ∧
    registry.get? (schemaId, schemaVersion) = some model ∧
    modelValidate model value = .error error ∧
    ErrorAt schema (root model) value error.loc error.type

/-- What the wrapper sees of a model's validation. -/
def detailed (modelValidate : Model → PyValue → Except LocatedError Artifact) (model : Model)
    (value : PyValue) : Except ErrorDetail Artifact :=
  (modelValidate model value).mapError (·.detail)

end

/-! ## Locations lead into the value -/

/-- No mapping inside a value has a key twice. -/
def KeysOnce (value : PyValue) : Prop :=
  ∃ depth, ∀ p ∈ value.within depth, ∀ entries, p.2 = .dict entries →
    (entries.map Prod.fst).Nodup

theorem Clean.keysOnce {value : PyValue} (h : Clean value) : KeysOnce value := ⟨0, h.distinct⟩

theorem mem_itemsWithin {depth : Nat} {item : PyValue} {p : Nat × PyValue}
    (hp : p ∈ item.within depth) : ∀ {items : List PyValue}, item ∈ items →
      p ∈ PyValue.itemsWithin depth items
  | [], hitem => nomatch hitem
  | first :: items, hitem => by
    rw [PyValue.itemsWithin, List.mem_append]
    obtain rfl | hlater := List.mem_cons.mp hitem
    · exact .inl hp
    · exact .inr (mem_itemsWithin hp hlater)

theorem mem_entriesWithin {depth : Nat} {key value : PyValue} {p : Nat × PyValue}
    (hp : p ∈ value.within depth) : ∀ {entries : List (PyValue × PyValue)},
      (key, value) ∈ entries → p ∈ PyValue.entriesWithin depth entries
  | [], hentry => nomatch hentry
  | first :: entries, hentry => by
    rw [PyValue.entriesWithin, List.mem_append]
    obtain rfl | hlater := List.mem_cons.mp hentry
    · exact .inl hp
    · exact .inr (mem_entriesWithin hp hlater)

theorem KeysOnce.item {items : List PyValue} {item : PyValue} (h : KeysOnce (.list items))
    (hitem : item ∈ items) : KeysOnce item := by
  obtain ⟨depth, hkeys⟩ := h
  refine ⟨depth + 1, fun p hp => hkeys p ?_⟩
  rw [PyValue.within]
  exact List.mem_cons_of_mem _ (mem_itemsWithin hp hitem)

theorem KeysOnce.entry {entries : List (PyValue × PyValue)} {key value : PyValue}
    (h : KeysOnce (.dict entries)) (hentry : (key, value) ∈ entries) : KeysOnce value := by
  obtain ⟨depth, hkeys⟩ := h
  refine ⟨depth + 1, fun p hp => hkeys p ?_⟩
  rw [PyValue.within]
  exact List.mem_cons_of_mem _ (mem_entriesWithin hp hentry)

theorem KeysOnce.nodup {entries : List (PyValue × PyValue)} (h : KeysOnce (.dict entries)) :
    (entries.map Prod.fst).Nodup := by
  obtain ⟨depth, hkeys⟩ := h
  refine hkeys (depth, .dict entries) ?_ entries rfl
  rw [PyValue.within]
  exact List.mem_cons_self

/-- Nothing but the same string equals a string. -/
theorem keyEq_str_iff {key : PyValue} {name : PyStr} :
    key.keyEq (.str name) = true ↔ key = .str name := by
  cases key with
  | float value => cases value <;> simp [PyValue.keyEq, PyValue.number?]
  | _ => simp [PyValue.keyEq, PyValue.number?]

/-- The child of a key is its value, if no key is there twice. -/
theorem child_of_mem {entries : List (PyValue × PyValue)} {name : PyStr} {value : PyValue}
    (hnodup : (entries.map Prod.fst).Nodup) (hentry : (.str name, value) ∈ entries) :
    (PyValue.dict entries).child name = some value := by
  rw [PyValue.child, Option.map_eq_some_iff]
  refine ⟨(.str name, value), ?_, rfl⟩
  obtain ⟨before, after, rfl⟩ := List.append_of_mem hentry
  refine List.find?_eq_some_iff_append.mpr ⟨keyEq_str_iff.mpr rfl, before, after, rfl, ?_⟩
  intro other hother
  have hne : other.1 ≠ .str name := by
    rw [List.map_append, List.nodup_append] at hnodup
    exact hnodup.2.2 _ (List.mem_map_of_mem hother) _ (by simp)
  rw [Bool.not_eq_true', Bool.eq_false_iff, ne_eq, keyEq_str_iff]
  exact hne

theorem child_eq_none {entries : List (PyValue × PyValue)} {name : PyStr}
    (h : (.str name : PyValue) ∉ entries.map Prod.fst) :
    (PyValue.dict entries).child name = none := by
  rw [PyValue.child, Option.map_eq_none_iff, List.find?_eq_none]
  intro entry hentry hkey
  exact h (List.mem_map.mpr ⟨entry, hentry, keyEq_str_iff.mp hkey⟩)

/-- The names lead to an element; if a field is missing, to where it would be. -/
structure Leads (type : String) (value : PyValue) (names : List PyStr) : Prop where
  reaches : type ≠ "missing" → ∃ element, names.foldlM PyValue.child value = some element
  lacks : type = "missing" → ∃ parent name entries, names = parent ++ [name] ∧
    parent.foldlM PyValue.child value = some (.dict entries) ∧
    (PyValue.dict entries).child name = none

theorem Leads.step {type : String} {value child : PyValue} {name : PyStr} {names : List PyStr}
    (hchild : value.child name = some child) (h : Leads type child names) :
    Leads type value (name :: names) := by
  refine ⟨fun htype => ?_, fun htype => ?_⟩
  · obtain ⟨element, helement⟩ := h.reaches htype
    refine ⟨element, ?_⟩
    rw [List.foldlM_cons, hchild]
    exact helement
  · obtain ⟨parent, last, entries, rfl, hparent, hlast⟩ := h.lacks htype
    refine ⟨name :: parent, last, entries, rfl, ?_, hlast⟩
    rw [List.foldlM_cons, hchild]
    exact hparent

/-- An element leads to itself. -/
theorem Leads.here {type : String} {value : PyValue} (htype : type ≠ "missing") :
    Leads type value [] :=
  ⟨fun _ => ⟨value, rfl⟩, fun heq => absurd heq htype⟩

/-- **Without the branches, a location leads to what was rejected.** -/
theorem ErrorAt.leads {S : Type} {schema : S → SchemaNode S} {s : S} {value : PyValue}
    {loc : List LocPart} {type : String} (h : ErrorAt schema s value loc type)
    (hkeys : KeysOnce value) : Leads type value (loc.filterMap (·.step?)) := by
  induction h with
  | here htype => exact Leads.here htype
  | missing _ _ hmissing =>
    exact ⟨fun htype => absurd rfl htype, fun _ => ⟨[], _, _, rfl, rfl, child_eq_none hmissing⟩⟩
  | extra _ _ hentry => exact (Leads.here (by decide)).step (child_of_mem hkeys.nodup hentry)
  | field _ _ hentry _ ih => exact (ih (hkeys.entry hentry)).step (child_of_mem hkeys.nodup hentry)
  | item _ hitem _ ih =>
    refine (ih (hkeys.item (List.mem_of_getElem? hitem))).step ?_
    rw [PyValue.child, indexOf_ofString]
    exact hitem
  | entry _ hentry _ ih => exact (ih (hkeys.entry hentry)).step (child_of_mem hkeys.nodup hentry)
  | nullable _ _ ih => exact ih hkeys
  | tagged _ _ _ ih => exact ih hkeys
  | union _ _ _ ih => exact ih hkeys

/-! ## What the path says -/

/-- The text of a part. -/
def LocPart.text : LocPart → PyStr
  | .key name => name
  | .index i => ofString (toString i)
  | .branch label => label

theorem escapePointerToken_item (part : LocPart) :
    escapePointerToken part.item = escapeToken part.text := by
  cases part with
  | key name => rfl
  | index i => exact (escapeToken_index i).symm
  | branch label => rfl

/-- The path is the pointer of all parts, the branches among them. -/
theorem instancePath_detail (error : LocatedError) :
    instancePath error.detail.loc = pointer (error.loc.map (·.text)) := by
  rw [instancePath, LocatedError.detail, pointer, List.flatMap_map, List.flatMap_map]
  refine congrArg (fun f => List.flatMap f error.loc) (funext fun part => ?_)
  exact congrArg (ofString "/" ++ ·) (escapePointerToken_item part)

/-- The parts are the steps exactly if no branch is among them. -/
theorem position_eq_iff {error : LocatedError} :
    error.loc.map (·.text) = error.position ↔ ¬ error.InUnion := by
  constructor
  · rintro heq ⟨label, hlabel⟩
    have hlength : error.position.length < error.loc.length :=
      List.length_filterMap_lt_length_iff_exists.mpr ⟨.branch label, hlabel, rfl⟩
    rw [← heq, List.length_map] at hlength
    exact Nat.lt_irrefl _ hlength
  · intro hunion
    rw [LocatedError.position, ← List.filterMap_eq_map]
    refine List.filterMap_congr fun part hpart => ?_
    cases part with
    | key name => rfl
    | index i => rfl
    | branch label => exact absurd ⟨label, hpart⟩ hunion

theorem codeOfType_eq_missing_iff {type : String} :
    codeOfType type = .requiredFieldMissing ↔ type = "missing" := by
  unfold codeOfType
  split
  · rename_i h
    exact iff_of_true rfl h
  · rename_i h
    refine iff_of_false ?_ h
    split
    · nofun
    · split <;> nofun

/-- What the artifact of a pydantic error holds. -/
theorem fromPydantic_artifact {detail : ErrorDetail} {target : ValidationTarget}
    {artifact : ValidationError} (h : fromPydantic detail target = .contractValidation artifact) :
    artifact.code = codeOfType detail.type ∧
      ofString artifact.instancePath = instancePath detail.loc := by
  unfold fromPydantic failure at h
  split at h
  · rename_i hpath
    split at h
    · cases h
      exact ⟨rfl, ofString_of_decode? hpath⟩
    · cases h
  · cases h

/-- The path points at what was rejected exactly if no branch of a union was entered. -/
theorem pointsAt_iff {S : Type} {schema : S → SchemaNode S} {s : S} {value : PyValue}
    {error : LocatedError} {target : ValidationTarget} {artifact : ValidationError}
    (hkeys : KeysOnce value) (hlocated : ErrorAt schema s value error.loc error.type)
    (h : fromPydantic error.detail target = .contractValidation artifact) :
    PointsAt value error artifact ↔ ¬ error.InUnion := by
  obtain ⟨hcode, hpath⟩ := fromPydantic_artifact h
  rw [instancePath_detail] at hpath
  constructor
  · intro hpoints
    have hnames := hpoints.names
    rw [hpath, tokensOf_pointer] at hnames
    exact position_eq_iff.mp (Option.some.inj hnames)
  · intro hunion
    rw [position_eq_iff.mpr hunion] at hpath
    have hleads : Leads error.type value error.position := hlocated.leads hkeys
    refine ⟨by rw [hpath, tokensOf_pointer], fun hother => ?_, fun hmissing => ?_⟩
    · rw [hpath, evaluate_pointer]
      exact hleads.reaches fun htype => hother (hcode.trans (codeOfType_eq_missing_iff.mpr htype))
    · obtain ⟨parent, name, entries, hposition, hparent, hlast⟩ :=
        hleads.lacks (codeOfType_eq_missing_iff.mp (hcode.symm.trans hmissing))
      exact ⟨parent, name, entries, hposition, evaluate_pointer.trans hparent, hlast⟩

section
variable {S Model Artifact : Type}

/-- What the model finds first leaves the wrapper as an error of pydantic's. -/
theorem validateText_invalid {libraries : Libraries} {registry : Table (PyStr × Int) Model}
    {modelValidate : Model → PyValue → Except ErrorDetail Artifact}
    {validators : List (Artifact → Except ValidationIssue Unit)} {text : PyStr}
    {format : InputFormat} {value : PyValue} {schemaId : PyStr} {schemaVersion : Int}
    {model : Model} {detail : ErrorDetail} (h : parseText libraries text format = .ok value)
    (hdeclares : Declares value schemaId schemaVersion) (hname : Nameable schemaId)
    (hpositive : 1 ≤ schemaVersion)
    (hmodel : registry.get? (schemaId, schemaVersion) = some model)
    (hinvalid : modelValidate model value = .error detail) :
    ∃ target, validateText libraries registry modelValidate validators text format =
      .error (fromPydantic detail target) := by
  refine (validateText_named h hdeclares hname hpositive).imp fun target heq => heq.trans ?_
  rw [getModel_eq_ok.mpr hmodel, ok_bind, hinvalid]
  rfl

/-- The path of the error of a rejected object points at what was rejected exactly if no
branch of a union was entered on the way and the names on the way are Unicode text. -/
theorem instancePath_iff (schema : S → SchemaNode S) (root : Model → S) (libraries : Libraries)
    (registry : Table (PyStr × Int) Model)
    (modelValidate : Model → PyValue → Except LocatedError Artifact)
    (validators : List (Artifact → Except ValidationIssue Unit)) (text : PyStr)
    (format : InputFormat) (value : PyValue) (error : LocatedError)
    (h : RejectedByModel schema root libraries registry modelValidate text format value error) :
    (∃ artifact, validateText libraries registry (detailed modelValidate) validators text format =
        .error (.contractValidation artifact) ∧ PointsAt value error artifact) ↔
      ¬ error.InUnion ∧ ∀ name ∈ error.position, name.decode?.isSome := by
  obtain ⟨hparsed, schemaId, schemaVersion, model, hdeclares, hname, hpositive, hmodel, hinvalid,
    hlocated⟩ := h
  have hkeys : KeysOnce value := (parseText_clean hparsed).keysOnce
  have hdetail : detailed modelValidate model value = .error error.detail := by
    rw [detailed, hinvalid]
    rfl
  -- the model refuses the object, so the wrapper converts the location
  have hraised : ∃ target, validateText libraries registry (detailed modelValidate) validators text
      format = .error (fromPydantic error.detail target) :=
    validateText_invalid hparsed hdeclares hname hpositive hmodel hdetail
  obtain ⟨target, heq⟩ := hraised
  rw [heq]
  have hown : (fromPydantic error.detail target).Own ↔
      ∀ name ∈ error.loc.map (·.text), name.decode?.isSome := by
    rw [fromPydantic_own_iff, instancePath_detail, decode?_pointer_isSome_iff]
  -- the path is the position as long as no union was entered
  constructor
  · rintro ⟨artifact, hraised, hpoints⟩
    have hartifact := Except.error.inj hraised
    have hunion := (pointsAt_iff hkeys hlocated hartifact).mp hpoints
    rw [position_eq_iff.mpr hunion] at hown
    exact ⟨hunion, hown.mp ⟨artifact, hartifact⟩⟩
  · rintro ⟨hunion, hnames⟩
    rw [position_eq_iff.mpr hunion] at hown
    obtain ⟨artifact, hartifact⟩ := hown.mpr hnames
    exact ⟨artifact, congrArg _ hartifact, (pointsAt_iff hkeys hlocated hartifact).mpr hunion⟩

end

/-! ## An evidence set -/

/-- The values in an evidence set. -/
inductive EvidenceNode where
  | evidenceSet | records | record | sourceMetadata | raw | normalized | calculated
  | applicablePeriod | artifactReference | previousReference | previousEvidenceSet
  | freshnessAssessments | freshness | invalidations | invalidation
  | json | jsonList | jsonDict | scalars | scalar

/-- A node of a model, on the names of its fields. -/
def modelNode {S : Type} (fields : List (String × S)) : SchemaNode S :=
  .model (fields.map fun field => (ofString field.1, field.2))

/-- The branches of a union, on their names. -/
def taggedNode {S : Type} (branches : List (String × S)) : SchemaNode S :=
  .tagged (branches.map fun branch => (ofString branch.1, branch.2))

/-- The fields of `DerivedEvidenceV1`. -/
def derivedFields : List (String × EvidenceNode) :=
  [("evidence_id", .scalar), ("input_evidence_ids", .scalars), ("value", .json),
    ("missing_reason", .scalar), ("unit", .scalar), ("content_sha256", .scalar),
    ("data_version", .scalar)]

/-- `EvidenceSetV1` and the models in it. Optional scalars count as scalars. -/
def evidenceSchema : EvidenceNode → SchemaNode EvidenceNode
  | .evidenceSet => modelNode [("schema_id", .scalar), ("schema_version", .scalar),
      ("task_id", .scalar), ("artifact_id", .scalar), ("evidence_set_version", .scalar),
      ("state", .scalar), ("previous_evidence_set", .previousEvidenceSet),
      ("evidence_frozen_at", .scalar), ("freshness_checked_at", .scalar),
      ("analysis_completed_at", .scalar), ("records", .records),
      ("freshness_assessments", .freshnessAssessments), ("invalidations", .invalidations)]
  | .records => .array .record
  | .record => taggedNode [("source_metadata", .sourceMetadata), ("raw", .raw),
      ("normalized", .normalized), ("calculated", .calculated)]
  | .sourceMetadata => modelNode [("evidence_id", .scalar), ("layer", .scalar),
      ("source_id", .scalar), ("source_approval_reference", .artifactReference),
      ("provider", .scalar), ("service", .scalar), ("dataset", .scalar),
      ("published_at", .scalar), ("first_available_at", .scalar), ("updated_at", .scalar),
      ("retrieved_at", .scalar), ("applicable_period", .applicablePeriod), ("timezone", .scalar),
      ("reference", .scalar), ("content_sha256", .scalar), ("data_version", .scalar)]
  | .raw => modelNode [("evidence_id", .scalar), ("layer", .scalar),
      ("source_metadata_evidence_id", .scalar), ("payload_reference", .artifactReference),
      ("content_sha256", .scalar), ("data_version", .scalar)]
  | .normalized => modelNode (derivedFields ++
      [("layer", .scalar), ("normalization_logic_version", .scalar)])
  | .calculated => modelNode (derivedFields ++
      [("layer", .scalar), ("calculation_logic_version", .scalar), ("rounding_method", .scalar)])
  | .applicablePeriod => modelNode [("start_date", .scalar), ("end_date", .scalar)]
  | .artifactReference => modelNode [("artifact_type", .scalar), ("artifact_id", .scalar),
      ("schema_id", .scalar), ("schema_version", .scalar), ("sha256", .scalar)]
  | .previousEvidenceSet => .nullable .previousReference
  | .previousReference => modelNode [("evidence_set_version", .scalar),
      ("artifact_reference", .artifactReference)]
  | .freshnessAssessments => .array .freshness
  | .freshness => modelNode [("category", .scalar), ("status", .scalar),
      ("evidence_ids", .scalars), ("requirement", .scalar), ("detail", .scalar)]
  | .invalidations => .array .invalidation
  | .invalidation => modelNode [("invalidation_id", .scalar), ("created_at", .scalar),
      ("triggering_evidence_ids", .scalars), ("affected_artifact_ids", .scalars),
      ("reason", .scalar)]
  | .json => taggedNode [("list", .jsonList), ("dict", .jsonDict), ("str", .scalar),
      ("bool", .scalar), ("int", .scalar), ("float", .scalar), ("NoneType", .scalar)]
  | .jsonList => .array .json
  | .jsonDict => .mapping .json
  | .scalars => .array .scalar
  | .scalar => .leaf

/-- A JSON object. -/
def object (entries : List (String × PyValue)) : PyValue :=
  .dict (entries.map fun entry => (.str (ofString entry.1), entry.2))

theorem ofString_injective {a b : String} (h : ofString a = ofString b) : a = b := by
  have hdecoded := congrArg PyStr.decode? h
  rw [PyStr.decode?_ofString, PyStr.decode?_ofString] at hdecoded
  exact Option.some.inj hdecoded

section
variable {S : Type} {schema : S → SchemaNode S} {s t : S} {fields : List (String × S)}
  {entries : List (String × PyValue)} {name : String}

theorem ErrorAt.objectField {value : PyValue} {loc : List LocPart} {type : String}
    (hnode : schema s = modelNode fields) (hfield : (name, t) ∈ fields)
    (hentry : (name, value) ∈ entries) (hvalue : ErrorAt schema t value loc type) :
    ErrorAt schema s (object entries) (.key (ofString name) :: loc) type :=
  .field hnode (List.mem_map.mpr ⟨_, hfield, rfl⟩) (List.mem_map.mpr ⟨_, hentry, rfl⟩) hvalue

theorem ErrorAt.objectMissing (hnode : schema s = modelNode fields)
    (hfield : name ∈ fields.map Prod.fst) (hmissing : name ∉ entries.map Prod.fst) :
    ErrorAt schema s (object entries) [.key (ofString name)] "missing" := by
  refine .missing hnode ?_ fun hmem => hmissing ?_
  · obtain ⟨field, hmem, rfl⟩ := List.mem_map.mp hfield
    rw [List.map_map]
    exact List.mem_map.mpr ⟨field, hmem, rfl⟩
  · rw [List.map_map] at hmem
    obtain ⟨entry, hentry, heq⟩ := List.mem_map.mp hmem
    rw [← ofString_injective (PyValue.str.inj heq)]
    exact List.mem_map_of_mem hentry

end

/-- What pydantic finds in an evidence set that has no task, or whose first record has a
layer and no identifier. -/
def validateEvidence (value : PyValue) : Except LocatedError Unit :=
  if (value.child (ofString "task_id")).isNone then
    .error ⟨"missing", [.key (ofString "task_id")]⟩
  else
    match evaluate PyValue.child value (ofString "/records/0/layer"),
        evaluate PyValue.child value (ofString "/records/0/evidence_id") with
    | some (.str layer), none => .error ⟨"missing", [.key (ofString "records"), .index 0,
        .branch layer, .key (ofString "evidence_id")]⟩
    | _, _ => .ok ()

/-- The start of an evidence set that every field of accepts, up to its records. -/
def evidenceHead : List (String × PyValue) :=
  [("schema_id", .str (ofString "detailed-analysis.evidence-set")), ("schema_version", .int 1),
    ("task_id", .str (ofString "t")), ("artifact_id", .str (ofString "a")),
    ("evidence_set_version", .int 1), ("state", .str (ofString "frozen")),
    ("previous_evidence_set", .none),
    ("evidence_frozen_at", .str (ofString "2026-01-05T00:00:00Z")),
    ("freshness_checked_at", .str (ofString "2026-01-05T00:00:00Z")),
    ("analysis_completed_at", .none)]

/-- An evidence set with a raw record that holds nothing but its layer. -/
def bareRecord : PyValue :=
  object (evidenceHead ++ [("records", .list [object [("layer", .str (ofString "raw"))]])])

/-- Its text. -/
def bareRecordText : PyStr :=
  ["\x7b", "\"schema_id\":", "\"detailed-analysis.", "evidence-set\",",
    "\"schema_version\":1,", "\"task_id\":\"t\",", "\"artifact_id\":\"a\",",
    "\"evidence_set_version\":1,", "\"state\":\"frozen\",", "\"previous_evidence_set\":",
    "null,", "\"evidence_frozen_at\":", "\"2026-01-05T00:00:00Z\",",
    "\"freshness_checked_at\":", "\"2026-01-05T00:00:00Z\",", "\"analysis_completed_at\":",
    "null,", "\"records\":", "[\x7b\"layer\":\"raw\"\x7d]", "\x7d"].flatMap ofString

/-! ## Two texts that are rejected -/

/-- The keys of an object. -/
def keysOf : PyValue → List PyStr
  | .dict entries => entries.filterMap fun entry =>
      match entry.1 with
      | .str name => some name
      | _ => none
  | _ => []

theorem map_keysOf {entries : List (PyValue × PyValue)} (h : ∀ e ∈ entries, e.1.isStr) :
    (keysOf (.dict entries)).map PyValue.str = entries.map Prod.fst := by
  induction entries with
  | nil => rfl
  | cons entry entries ih =>
    obtain ⟨key, child⟩ := entry
    have hfirst := h (key, child) List.mem_cons_self
    cases key with
    | str name => exact congrArg (_ :: ·) (ih fun e he => h e (List.mem_cons_of_mem _ he))
    | _ => cases hfirst

/-- `json.loads` on the text of a value. -/
def loadJson (value : PyValue) (h : ensureJsonValue 0 value = .ok ()) :
    LibraryRun PyValue.str where
  calls := (value.within 0).map fun p => .mapping (keysOf p.2)
  error := none
  value := value
  complete := by
    rintro - p hp entries hentries
    have hallowed := ((ensureJsonValue_iff 0 value).mp h p hp).2
    rw [hentries] at hallowed
    refine ⟨keysOf p.2, List.mem_map.mpr ⟨p, hp, rfl⟩, ?_⟩
    rw [hentries]
    exact map_keysOf hallowed

/-- The libraries on the JSON text of a value. -/
def jsonLibraries (value : PyValue) (h : ensureJsonValue 0 value = .ok ()) : Libraries where
  jsonLoads _ := loadJson value h
  yamlScan _ := ([], none)
  yamlLoad _ := .raising .yamlError

/-- The registry of the one contract. -/
def evidenceRegistry : Table (PyStr × Int) Unit :=
  Table.empty.insert (ofString "detailed-analysis.evidence-set", 1) ()

/-- The error of the record without an identifier. -/
def bareRecordError : LocatedError where
  type := "missing"
  loc := [.key (ofString "records"), .index 0, .branch (ofString "raw"),
    .key (ofString "evidence_id")]

theorem bareRecord_ensured : ensureJsonValue 0 bareRecord = .ok () := by
  decide +kernel

theorem bareRecord_rejected : RejectedByModel evidenceSchema (fun _ => .evidenceSet)
    (jsonLibraries bareRecord bareRecord_ensured) evidenceRegistry
    (fun _ => validateEvidence) bareRecordText .json bareRecord bareRecordError := by
  constructor
  · have hlength : bareRecordText.encodedLength = some 315 := by decide +kernel
    rw [parseText, hlength]
    rfl
  · refine ⟨ofString "detailed-analysis.evidence-set", 1, (), ⟨_, rfl, rfl, by decide, rfl⟩,
      ⟨by decide +kernel, by decide +kernel⟩, by decide, rfl, rfl, ?_⟩
    refine .objectField rfl (t := .records) (by simp) (List.mem_append_right _ (.head _)) ?_
    refine .item rfl rfl (.tagged rfl (t := .raw) ?_ ?_)
    · exact List.mem_map.mpr ⟨("raw", .raw), by simp, rfl⟩
    · exact .objectMissing rfl (by simp) (by simp)

/-- The path of its error goes through the branch, which is no key of the record: it leads
nowhere, and neither does its parent. -/
theorem branch_in_path :
    RejectedByModel evidenceSchema (fun _ => .evidenceSet)
      (jsonLibraries bareRecord bareRecord_ensured) evidenceRegistry (fun _ => validateEvidence)
      bareRecordText .json bareRecord bareRecordError ∧
    ∃ artifact, validateText (jsonLibraries bareRecord bareRecord_ensured) evidenceRegistry
        (detailed fun _ => validateEvidence) [] bareRecordText .json =
          .error (.contractValidation artifact) ∧
      artifact.code = .requiredFieldMissing ∧
      artifact.instancePath = "/records/0/raw/evidence_id" ∧
      evaluate PyValue.child bareRecord (ofString "/records/0/raw") = none ∧
      ¬ PointsAt bareRecord bareRecordError artifact := by
  refine ⟨bareRecord_rejected, ?_⟩
  have hraised : ∃ target, validateText (jsonLibraries bareRecord bareRecord_ensured)
      evidenceRegistry (detailed fun _ => validateEvidence) [] bareRecordText .json =
        .error (fromPydantic bareRecordError.detail target) := by
    obtain ⟨schemaId, schemaVersion, model, hdeclares, hname, hpositive, hmodel, hinvalid, -⟩ :=
      bareRecord_rejected.rejected
    exact validateText_invalid bareRecord_rejected.parsed hdeclares hname hpositive hmodel
      (by rw [detailed, hinvalid]; rfl)
  obtain ⟨target, hraised⟩ := hraised
  obtain ⟨artifact, hartifact⟩ := fromPydantic_own_iff.mpr
    (show (instancePath bareRecordError.detail.loc).decode?.isSome by decide +kernel)
  obtain ⟨hcode, hpath⟩ := fromPydantic_artifact hartifact
  refine ⟨artifact, hraised.trans (congrArg _ hartifact), hcode, ?_, by rfl, fun hpoints => ?_⟩
  · refine ofString_injective (hpath.trans ?_)
    decide +kernel
  · have hnames := hpoints.names
    rw [hpath, instancePath_detail, tokensOf_pointer] at hnames
    exact position_eq_iff.mp (Option.some.inj hnames) ⟨ofString "raw", by simp [bareRecordError]⟩

/-- An evidence set of which nothing but the contract is there. -/
def bareEvidence : PyValue :=
  object [("schema_id", .str (ofString "detailed-analysis.evidence-set")),
    ("schema_version", .int 1)]

theorem bareEvidence_ensured : ensureJsonValue 0 bareEvidence = .ok () := by
  decide +kernel

/-- The path of its missing task points at the set. -/
theorem instancePath_iff_task :
    ∃ artifact, validateText (jsonLibraries bareEvidence bareEvidence_ensured) evidenceRegistry
        (detailed fun _ => validateEvidence) []
        (ofString "\x7b\"schema_id\":\"detailed-analysis.evidence-set\",\"schema_version\":1\x7d")
        .json = .error (.contractValidation artifact) ∧
      PointsAt bareEvidence ⟨"missing", [.key (ofString "task_id")]⟩ artifact := by
  refine (instancePath_iff evidenceSchema (fun _ => .evidenceSet)
    (jsonLibraries bareEvidence bareEvidence_ensured) evidenceRegistry (fun _ => validateEvidence)
    [] _ .json bareEvidence ⟨"missing", [.key (ofString "task_id")]⟩ ⟨?_, ?_⟩).mpr ⟨?_, ?_⟩
  · rfl
  · exact ⟨ofString "detailed-analysis.evidence-set", 1, (), ⟨_, rfl, rfl, by decide, rfl⟩,
      ⟨by decide +kernel, by decide +kernel⟩, by decide, rfl, rfl,
      .objectMissing rfl (by simp) (by simp)⟩
  · rintro ⟨label, hlabel⟩
    simp at hlabel
  · intro name hname
    obtain rfl := List.mem_singleton.mp hname
    decide +kernel

end StockResearch.Contracts
