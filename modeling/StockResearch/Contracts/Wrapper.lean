import StockResearch.Contracts.Errors
import StockResearch.Contracts.Parsing
import StockResearch.Lib.Table

/-!
# The validation wrapper

Parses one untrusted text, dispatches on the contract it declares, and validates it. All
that goes wrong on the way is meant to come out as the one public error contract, whose
artifact is itself validated when it is built.

- `ValidationTarget`, `ValidationError`: the error contract.
- `failure`: the exception that carries it, or pydantic's own when it cannot be built.
- `validateText`: the code. The models and the validators are parameters.
- `Contained`: the wrapper fails only with its own error contract.
- `contained_iff`: it does unless one of the listed accidents comes first.
-/

namespace StockResearch.Contracts

/-! ## The error contract -/

/-- `ValidationTargetV1` -/
structure ValidationTarget where
  artifactType : NonEmptyString
  schemaId : NonEmptyString
  schemaVersion : Int
  schemaVersion_pos : 1 ≤ schemaVersion

/-- `ValidationErrorV1` -/
structure ValidationError where
  category : ErrorCategory
  code : ErrorCode
  code_mem : code ∈ codesOf category
  target : ValidationTarget
  instancePath : String
  message : NonEmptyString
  context : List (PyStr × JsonValue)
  context_text : JsonValue.entriesAreText context

/-- What leaves `validate_text` as an exception: `ContractValidationError`, pydantic's
`ValidationError`, or one of the interpreter's. -/
inductive Raised where
  | contractValidation (artifact : ValidationError)
  | validation
  | typeError
  | valueError

/-- A string as a `NonEmptyString`; none is a validation error. -/
def nonEmptyString? (text : PyStr) : Option NonEmptyString :=
  match text.decode? with
  | some decoded => if h : decoded ≠ "" then some ⟨decoded, h⟩ else none
  | none => none

/-- `_failure`, on the fields of an issue. -/
def failure (issue : ValidationIssue) (target : ValidationTarget) : Raised :=
  match nonEmptyString? issue.message, issue.instancePath.decode? with
  | some message, some instancePath =>
    if h : issue.code ∈ codesOf issue.category ∧ JsonValue.entriesAreText issue.context then
      .contractValidation {
        category := issue.category
        code := issue.code
        code_mem := h.1
        target
        instancePath
        message
        context := issue.context
        context_text := h.2 }
    else .validation
  | _, _ => .validation

/-- An issue of the wrapper's own. -/
def schemaIssue (code : ErrorCode) (message instancePath : String) : ValidationIssue where
  category := .schema
  code
  message := .ofString message
  instancePath := .ofString instancePath
  context := []

/-- The target before the text has named one. -/
def unknownTarget : ValidationTarget :=
  ⟨⟨"unknown", by decide⟩, ⟨"unknown", by decide⟩, 1, le_refl 1⟩

/-- `ValidationTargetV1(...)` -/
def makeTarget (artifactType schemaId : PyStr) (schemaVersion : Int) :
    Except Raised ValidationTarget :=
  match nonEmptyString? artifactType, nonEmptyString? schemaId with
  | some artifactType, some schemaId =>
    if h : 1 ≤ schemaVersion then .ok ⟨artifactType, schemaId, schemaVersion, h⟩
    else .error .validation
  | _, _ => .error .validation

/-! ## Dispatch -/

/-- What the `except` clauses make of a parse error. -/
def parseFailure : ParseError → Raised
  | .duplicateKey =>
    failure (schemaIssue .duplicateYamlKey "duplicate YAML mapping key" "") unknownTarget
  | .invalidJsonValue message => failure (schemaIssue .invalidJson message "") unknownTarget
  | .unicodeError => failure (schemaIssue .invalidJson "input is not valid JSON" "") unknownTarget
  | .library .jsonDecodeError =>
    failure (schemaIssue .invalidJson "input is not valid JSON" "") unknownTarget
  | .library .yamlError =>
    failure (schemaIssue .unsafeYaml "input is not safe YAML" "") unknownTarget
  | .library (.valueError message) =>
    failure ⟨.schema, .nonJsonYamlValue, message, [], []⟩ unknownTarget
  | .valueError message => failure (schemaIssue .nonJsonYamlValue message "") unknownTarget
  | .typeError => .typeError

/-- `value.get(name)` -/
def lookup (entries : List (PyValue × PyValue)) (name : String) : PyValue :=
  match entries.find? fun entry => entry.1.keyEq (.str (.ofString name)) with
  | some entry => entry.2
  | none => .none

/-- The object at the top. -/
def objectOf : PyValue → Except Raised (List (PyValue × PyValue))
  | .dict entries => .ok entries
  | _ => .error (failure
    (schemaIssue .typeMismatch "top-level contract value must be an object" "") unknownTarget)

/-- The checks of `schema_id`. -/
def schemaIdOf (entries : List (PyValue × PyValue)) : Except Raised PyStr :=
  match lookup entries "schema_id" with
  | .none => .error (failure
    (schemaIssue .requiredFieldMissing "schema_id is required" "/schema_id") unknownTarget)
  | .str [] => .error (failure
    (schemaIssue .constraintViolation "schema_id must be non-empty" "/schema_id") unknownTarget)
  | .str (c :: cs) => .ok (c :: cs)
  | _ => .error (failure
    (schemaIssue .typeMismatch "schema_id must be a string" "/schema_id") unknownTarget)

/-- The checks of `schema_version`. -/
def schemaVersionOf (entries : List (PyValue × PyValue)) : Except Raised Int :=
  match lookup entries "schema_version" with
  | .none => .error (failure
    (schemaIssue .requiredFieldMissing "schema_version is required" "/schema_version")
    unknownTarget)
  | .int version => .ok version
  | _ => .error (failure
    (schemaIssue .typeMismatch "schema_version must be an integer" "/schema_version")
    unknownTarget)

/-- The integers that print: more than 4300 digits are a `ValueError`. -/
def printable (number : Int) : Prop := number.natAbs < 10 ^ 4300

instance (number : Int) : Decidable (printable number) :=
  inferInstanceAs (Decidable (_ < _))

section
variable {Model Artifact : Type}

/-- `registry.get`, and the code for a contract that is not there. The error of the
registry prints the version. -/
def getModel (registry : Table (PyStr × Int) Model) (schemaId : PyStr) (schemaVersion : Int)
    (target : ValidationTarget) : Except Raised Model :=
  match registry.get? (schemaId, schemaVersion) with
  | some model => .ok model
  | none =>
    if printable schemaVersion then
      .error (failure (schemaIssue
        (if registry.rows.any (·.1.1 = schemaId) then .unsupportedSchemaVersion
          else .unknownSchema)
        "contract schema or version is unsupported" "") target)
    else .error .valueError

/-! ## Model validation -/

/-- A part of an error's location. -/
inductive LocItem where
  | field (name : PyStr)
  | index (i : Nat)

/-- The first error of a pydantic `ValidationError`. -/
structure ErrorDetail where
  type : String
  loc : List LocItem

/-- `_escape_pointer_token(str(part))` -/
def escapePointerToken : LocItem → PyStr
  | .field name => PyStr.replace (PyStr.replace name '~' "~0") '/' "~1"
  | .index i => PyStr.ofString (toString i)

/-- The JSON pointer of a location. -/
def instancePath (loc : List LocItem) : PyStr :=
  loc.flatMap fun part => PyStr.ofString "/" ++ escapePointerToken part

/-- `text.endswith(suffix)` -/
def endsWith (text suffix : String) : Bool := suffix.toList.isSuffixOf text.toList

/-- The code of a pydantic error type. -/
def codeOfType (type : String) : ErrorCode :=
  if type = "missing" then .requiredFieldMissing
  else if type = "extra_forbidden" then .unknownField
  else if endsWith type "_type" || endsWith type "_parsing" then .typeMismatch
  else .constraintViolation

/-- `_from_pydantic` -/
def fromPydantic (detail : ErrorDetail) (target : ValidationTarget) : Raised :=
  failure {
    category := .schema
    code := codeOfType detail.type
    message := .ofString "contract validation failed"
    instancePath := instancePath detail.loc
    context := [(.ofString "pydantic_error_type", .str (.ofString detail.type))] } target

/-- `validate_text`, for a registry, the models' `model_validate` and validators that
raise nothing but `RuleValidationError`. -/
def validateText (libraries : Libraries) (registry : Table (PyStr × Int) Model)
    (modelValidate : Model → PyValue → Except ErrorDetail Artifact)
    (validators : List (Artifact → Except ValidationIssue Unit)) (text : PyStr)
    (format : InputFormat) : Except Raised Artifact := do
  let value ← (parseText libraries text format).mapError parseFailure
  let entries ← objectOf value
  let schemaId ← schemaIdOf entries
  let schemaVersion ← schemaVersionOf entries
  let target ← makeTarget (PyStr.removePrefix schemaId "detailed-analysis.") schemaId
    (max schemaVersion 1)
  require (1 ≤ schemaVersion) (failure
    (schemaIssue .constraintViolation "schema_version must be at least 1" "/schema_version")
    target)
  let model ← getModel registry schemaId schemaVersion target
  let artifact ← (modelValidate model value).mapError (fromPydantic · target)
  (validators.forM (· artifact)).mapError (failure · target)
  pure artifact

/-! ## Containment -/

/-- The value declares a contract: an object with a `schema_id` and a `schema_version`. -/
def Declares (value : PyValue) (schemaId : PyStr) (schemaVersion : Int) : Prop :=
  ∃ entries, value = .dict entries ∧ lookup entries "schema_id" = .str schemaId ∧
    schemaId ≠ [] ∧ lookup entries "schema_version" = .int schemaVersion

/-- An error about the contract can name it: neither its identifier nor what follows the
prefix is empty, and both are Unicode text. -/
def Nameable (schemaId : PyStr) : Prop :=
  (nonEmptyString? (PyStr.removePrefix schemaId "detailed-analysis.")).isSome ∧
    (nonEmptyString? schemaId).isSome

/-- The issue can become an error artifact. -/
def Publishable (issue : ValidationIssue) : Prop :=
  (nonEmptyString? issue.message).isSome ∧ issue.instancePath.decode?.isSome ∧
    issue.code ∈ codesOf issue.category ∧ JsonValue.entriesAreText issue.context

/-- The exception is the wrapper's own. -/
def Raised.Own (raised : Raised) : Prop := ∃ artifact, raised = .contractValidation artifact

variable (libraries : Libraries) (registry : Table (PyStr × Int) Model)
  (modelValidate : Model → PyValue → Except ErrorDetail Artifact)
  (validators : List (Artifact → Except ValidationIssue Unit)) (text : PyStr)
  (format : InputFormat)

/-- The wrapper fails only with its own exception, and what it returns is an instance of
the model registered for exactly the declared contract, made from a clean value. -/
structure Contained : Prop where
  errors : ∀ raised,
    validateText libraries registry modelValidate validators text format = .error raised →
      raised.Own
  returns : ∀ artifact,
    validateText libraries registry modelValidate validators text format = .ok artifact →
      ∃ value schemaId schemaVersion model, parseText libraries text format = .ok value ∧
        Clean value ∧ Declares value schemaId schemaVersion ∧
        registry.get? (schemaId, schemaVersion) = some model ∧
        modelValidate model value = .ok artifact

/-- The accidents that let another exception out. -/
inductive Escapes : Prop where
  /-- A YAML mapping has a list or a mapping as a key. -/
  | unhashableKey (h : format = .yaml) (hkey : MeetsUnhashableKey libraries text)
  /-- The library gives up with an error that has no text to show. -/
  | libraryText (message : PyStr)
      (h : LibraryRaises libraries text (.valueError message) format)
      (htext : nonEmptyString? message = none)
  /-- The declared contract cannot be named. -/
  | target (value : PyValue) (schemaId : PyStr) (schemaVersion : Int)
      (h : parseText libraries text format = .ok value)
      (hdeclares : Declares value schemaId schemaVersion) (hname : ¬ Nameable schemaId)
  /-- The declared version is unknown and too long to print. -/
  | version (value : PyValue) (schemaId : PyStr) (schemaVersion : Int)
      (h : parseText libraries text format = .ok value)
      (hdeclares : Declares value schemaId schemaVersion) (hname : Nameable schemaId)
      (hpositive : 1 ≤ schemaVersion) (hunknown : registry.get? (schemaId, schemaVersion) = none)
      (hlong : ¬ printable schemaVersion)
  /-- The model's first error is at a place that is no Unicode text. -/
  | location (value : PyValue) (schemaId : PyStr) (schemaVersion : Int) (model : Model)
      (detail : ErrorDetail) (h : parseText libraries text format = .ok value)
      (hdeclares : Declares value schemaId schemaVersion) (hname : Nameable schemaId)
      (hpositive : 1 ≤ schemaVersion)
      (hmodel : registry.get? (schemaId, schemaVersion) = some model)
      (hinvalid : modelValidate model value = .error detail)
      (hpath : (instancePath detail.loc).decode? = none)
  /-- A validator raises an issue that is no valid error artifact. -/
  | issue (value : PyValue) (schemaId : PyStr) (schemaVersion : Int) (model : Model)
      (artifact : Artifact) (issue : ValidationIssue)
      (h : parseText libraries text format = .ok value)
      (hdeclares : Declares value schemaId schemaVersion) (hname : Nameable schemaId)
      (hpositive : 1 ≤ schemaVersion)
      (hmodel : registry.get? (schemaId, schemaVersion) = some model)
      (hvalid : modelValidate model value = .ok artifact)
      (hissue : validators.forM (· artifact) = .error issue) (hbad : ¬ Publishable issue)

/-! ## The exceptions of each stage -/

theorem not_own_validation : ¬ Raised.validation.Own := by
  rintro ⟨_, h⟩
  cases h

theorem not_own_typeError : ¬ Raised.typeError.Own := by
  rintro ⟨_, h⟩
  cases h

theorem not_own_valueError : ¬ Raised.valueError.Own := by
  rintro ⟨_, h⟩
  cases h

theorem failure_own_iff {issue : ValidationIssue} {target : ValidationTarget} :
    (failure issue target).Own ↔ Publishable issue := by
  unfold failure Publishable
  cases nonEmptyString? issue.message with
  | none => simp [not_own_validation]
  | some message =>
    cases issue.instancePath.decode? with
    | none => simp [not_own_validation]
    | some path =>
      simp only [Option.isSome_some, true_and]
      split
      · rename_i h
        exact ⟨fun _ => h, fun _ => ⟨_, rfl⟩⟩
      · rename_i h
        exact ⟨fun hown => absurd hown not_own_validation, fun hp => absurd hp h⟩

theorem nonEmptyString?_ofString {message : String} (h : message ≠ "") :
    (nonEmptyString? (.ofString message)).isSome := by
  simp [nonEmptyString?, h]

/-- The wrapper's own issues are publishable. -/
theorem schemaIssue_own {code : ErrorCode} {message instancePath : String}
    {target : ValidationTarget} (hcode : code ∈ codesOf .schema) (hmessage : message ≠ "") :
    (failure (schemaIssue code message instancePath) target).Own := by
  refine failure_own_iff.mpr ⟨nonEmptyString?_ofString hmessage, ?_, hcode, ?_⟩
  · simp [schemaIssue]
  · simp [schemaIssue, JsonValue.entriesAreText]

/-- The conversion of a parse error fails for two of them. -/
theorem parseFailure_own_iff {e : ParseError}
    (hmessage : ∀ message, e = .valueError message ∨ e = .invalidJsonValue message →
      message ≠ "") :
    (parseFailure e).Own ↔ e ≠ .typeError ∧
      ∀ message, e = .library (.valueError message) → (nonEmptyString? message).isSome := by
  -- All but two conversions are the wrapper's own issues.
  have hown : ∀ code message, code ∈ codesOf .schema → message ≠ "" →
      e ≠ .typeError → (∀ m, e ≠ .library (.valueError m)) →
      parseFailure e = failure (schemaIssue code message "") unknownTarget →
      ((parseFailure e).Own ↔ e ≠ .typeError ∧
        ∀ m, e = .library (.valueError m) → (nonEmptyString? m).isSome) := by
    intro code message hcode hne htype hlibrary heq
    rw [heq]
    exact ⟨fun _ => ⟨htype, fun m hm => absurd hm (hlibrary m)⟩,
      fun _ => schemaIssue_own hcode hne⟩
  cases e with
  | duplicateKey =>
    exact hown .duplicateYamlKey "duplicate YAML mapping key" (by simp [codesOf]) (by simp) nofun nofun (by rw [parseFailure])
  | invalidJsonValue message =>
    exact hown .invalidJson message (by simp [codesOf]) (hmessage message (.inr rfl)) nofun
      nofun (by rw [parseFailure])
  | unicodeError =>
    exact hown .invalidJson "input is not valid JSON" (by simp [codesOf]) (by simp) nofun nofun (by rw [parseFailure])
  | library error =>
    cases error with
    | jsonDecodeError =>
      exact hown .invalidJson "input is not valid JSON" (by simp [codesOf]) (by simp) nofun
        nofun (by rw [parseFailure])
    | yamlError =>
      exact hown .unsafeYaml "input is not safe YAML" (by simp [codesOf]) (by simp) nofun
        nofun (by rw [parseFailure])
    | valueError message =>
      rw [parseFailure, failure_own_iff]
      constructor
      · rintro ⟨htext, -⟩
        exact ⟨nofun, fun m hm => by cases hm; exact htext⟩
      · rintro ⟨-, htext⟩
        exact ⟨htext message rfl, rfl, by simp [codesOf], by simp [JsonValue.entriesAreText]⟩
  | valueError message =>
    exact hown .nonJsonYamlValue message (by simp [codesOf]) (hmessage message (.inl rfl))
      nofun nofun (by rw [parseFailure])
  | typeError =>
    constructor
    · exact fun hown => absurd hown not_own_typeError
    · rintro ⟨h, -⟩
      exact absurd rfl h

theorem objectOf_error {value : PyValue} {raised : Raised} (h : objectOf value = .error raised) :
    raised.Own := by
  unfold objectOf at h
  split at h
  · cases h
  · cases h
    exact schemaIssue_own (by simp [codesOf]) (by simp)

theorem schemaIdOf_error {entries : List (PyValue × PyValue)} {raised : Raised}
    (h : schemaIdOf entries = .error raised) : raised.Own := by
  unfold schemaIdOf at h
  split at h <;> cases h <;> exact schemaIssue_own (by simp [codesOf]) (by simp)

theorem schemaVersionOf_error {entries : List (PyValue × PyValue)} {raised : Raised}
    (h : schemaVersionOf entries = .error raised) : raised.Own := by
  unfold schemaVersionOf at h
  split at h <;> cases h <;> exact schemaIssue_own (by simp [codesOf]) (by simp)

theorem objectOf_eq_ok {value : PyValue} {entries : List (PyValue × PyValue)} :
    objectOf value = .ok entries ↔ value = .dict entries := by
  cases value <;> simp [objectOf]

theorem schemaIdOf_eq_ok {entries : List (PyValue × PyValue)} {schemaId : PyStr} :
    schemaIdOf entries = .ok schemaId ↔
      lookup entries "schema_id" = .str schemaId ∧ schemaId ≠ [] := by
  unfold schemaIdOf
  split
  · simp_all
  · rename_i hid
    rw [hid]
    constructor
    · nofun
    · rintro ⟨heq, hne⟩
      cases heq
      exact absurd rfl hne
  · rename_i c cs hid
    rw [hid]
    constructor
    · intro h
      cases h
      exact ⟨rfl, nofun⟩
    · rintro ⟨heq, -⟩
      cases heq
      rfl
  · rename_i hnone hempty hcons
    constructor
    · nofun
    · rintro ⟨heq, hne⟩
      obtain ⟨c, cs, rfl⟩ := List.exists_cons_of_ne_nil hne
      exact absurd heq (hcons c cs)

theorem schemaVersionOf_eq_ok {entries : List (PyValue × PyValue)} {schemaVersion : Int} :
    schemaVersionOf entries = .ok schemaVersion ↔
      lookup entries "schema_version" = .int schemaVersion := by
  unfold schemaVersionOf
  cases lookup entries "schema_version" <;> simp

/-- The target is built exactly when the contract can be named. -/
theorem makeTarget_iff {schemaId : PyStr} {schemaVersion : Int} :
    (∃ target, makeTarget (PyStr.removePrefix schemaId "detailed-analysis.") schemaId
      (max schemaVersion 1) = .ok target) ↔ Nameable schemaId := by
  unfold makeTarget Nameable
  cases nonEmptyString? (PyStr.removePrefix schemaId "detailed-analysis.") with
  | none => simp
  | some artifactType =>
    cases nonEmptyString? schemaId with
    | none => simp
    | some id => simp [show (1 : Int) ≤ max schemaVersion 1 from le_max_right _ _]

theorem makeTarget_error {artifactType schemaId : PyStr} {schemaVersion : Int} {raised : Raised}
    (h : makeTarget artifactType schemaId schemaVersion = .error raised) :
    raised = .validation := by
  unfold makeTarget at h
  split at h
  · split at h
    · cases h
    · exact (Except.error.inj h).symm
  · exact (Except.error.inj h).symm

theorem getModel_eq_ok {registry : Table (PyStr × Int) Model} {schemaId : PyStr}
    {schemaVersion : Int} {target : ValidationTarget} {model : Model} :
    getModel registry schemaId schemaVersion target = .ok model ↔
      registry.get? (schemaId, schemaVersion) = some model := by
  unfold getModel
  cases registry.get? (schemaId, schemaVersion) with
  | none => simp only [reduceCtorEq, iff_false]; split <;> exact nofun
  | some found => simp

/-- A missing contract is reported, if its version prints. -/
theorem getModel_error {registry : Table (PyStr × Int) Model} {schemaId : PyStr}
    {schemaVersion : Int} {target : ValidationTarget} {raised : Raised}
    (h : getModel registry schemaId schemaVersion target = .error raised) :
    registry.get? (schemaId, schemaVersion) = none ∧
      (raised.Own ↔ printable schemaVersion) := by
  unfold getModel at h
  split at h
  · cases h
  · rename_i hnone
    refine ⟨hnone, ?_⟩
    split at h
    · rename_i hprintable
      cases h
      refine ⟨fun _ => hprintable, fun _ => schemaIssue_own ?_ (by simp)⟩
      split <;> simp [codesOf]
    · rename_i hlong
      cases h
      exact ⟨fun hown => absurd hown not_own_valueError,
        fun hprintable => absurd hprintable hlong⟩

/-- A pydantic error is reported, if its place is Unicode text. -/
theorem fromPydantic_own_iff {detail : ErrorDetail} {target : ValidationTarget} :
    (fromPydantic detail target).Own ↔ (instancePath detail.loc).decode?.isSome := by
  have hcode : codeOfType detail.type ∈ codesOf .schema := by
    unfold codeOfType
    split
    · simp [codesOf]
    · split
      · simp [codesOf]
      · split <;> simp [codesOf]
  rw [fromPydantic, failure_own_iff]
  constructor
  · exact fun h => h.2.1
  · intro h
    refine ⟨nonEmptyString?_ofString (by simp), h, hcode, ?_⟩
    simp [JsonValue.entriesAreText, JsonValue.isText]

/-! ## The wrapper -/

variable {libraries : Libraries} {registry : Table (PyStr × Int) Model}
  {modelValidate : Model → PyValue → Except ErrorDetail Artifact}
  {validators : List (Artifact → Except ValidationIssue Unit)} {text : PyStr}
  {format : InputFormat} {value : PyValue} {schemaId : PyStr} {schemaVersion : Int}

/-- What is left of the wrapper once a contract is declared. -/
theorem validateText_declared (h : parseText libraries text format = .ok value)
    (hdeclares : Declares value schemaId schemaVersion) :
    validateText libraries registry modelValidate validators text format = (do
      let target ← makeTarget (PyStr.removePrefix schemaId "detailed-analysis.") schemaId
        (max schemaVersion 1)
      require (1 ≤ schemaVersion) (failure
        (schemaIssue .constraintViolation "schema_version must be at least 1" "/schema_version")
        target)
      let model ← getModel registry schemaId schemaVersion target
      let artifact ← (modelValidate model value).mapError (fromPydantic · target)
      (validators.forM (· artifact)).mapError (failure · target)
      pure artifact) := by
  obtain ⟨entries, rfl, hid, hne, hversion⟩ := hdeclares
  simp only [validateText, h, mapError_ok, ok_bind, objectOf_eq_ok.mpr rfl,
    schemaIdOf_eq_ok.mpr ⟨hid, hne⟩, schemaVersionOf_eq_ok.mpr hversion]

/-- What is left once the contract has a name and a version. -/
theorem validateText_named (h : parseText libraries text format = .ok value)
    (hdeclares : Declares value schemaId schemaVersion) (hname : Nameable schemaId)
    (hpositive : 1 ≤ schemaVersion) :
    ∃ target, validateText libraries registry modelValidate validators text format = (do
      let model ← getModel registry schemaId schemaVersion target
      let artifact ← (modelValidate model value).mapError (fromPydantic · target)
      (validators.forM (· artifact)).mapError (failure · target)
      pure artifact) := by
  obtain ⟨target, htarget⟩ := makeTarget_iff.mpr hname
  refine ⟨target, ?_⟩
  rw [validateText_declared h hdeclares, htarget]
  simp only [ok_bind, require, if_pos hpositive]


/-- A wrapper that meets none of the accidents raises nothing but its own. -/
theorem own_of_not_escapes
    (hn : ¬ Escapes libraries registry modelValidate validators text format) {raised : Raised}
    (h : validateText libraries registry modelValidate validators text format = .error raised) :
    raised.Own := by
  simp only [validateText, bind_eq_error, mapError_eq_error, mapError_eq_ok, require_eq_error,
    require_eq_ok] at h
  -- stage by stage, as the code runs: what is raised is its own, or an accident
  obtain ⟨e, hparse, rfl⟩ | ⟨value, hparse, h⟩ := h
  · refine (parseFailure_own_iff ?_).mpr ⟨?_, ?_⟩
    · rintro message (rfl | rfl)
      · exact parseText_message (.inl hparse)
      · exact parseText_message (.inr hparse)
    · rintro rfl
      obtain ⟨hyaml, hkey⟩ := parseText_typeError_iff.mp hparse
      exact hn (.unhashableKey hyaml hkey)
    · rintro message rfl
      by_contra htext
      exact hn (.libraryText message (parseText_library_iff.mp hparse) (by simpa using htext))
  obtain h | ⟨entries, hobject, h⟩ := h
  · exact objectOf_error h
  obtain h | ⟨schemaId, hid, h⟩ := h
  · exact schemaIdOf_error h
  obtain h | ⟨schemaVersion, hversion, h⟩ := h
  · exact schemaVersionOf_error h
  -- from here on the value has an id and a version
  have hdeclares : Declares value schemaId schemaVersion :=
    ⟨entries, objectOf_eq_ok.mp hobject, (schemaIdOf_eq_ok.mp hid).1, (schemaIdOf_eq_ok.mp hid).2,
      schemaVersionOf_eq_ok.mp hversion⟩
  have hname : Nameable schemaId := by
    by_contra hname
    exact hn (.target value schemaId schemaVersion hparse hdeclares hname)
  obtain h | ⟨target, -, h⟩ := h
  · obtain ⟨target, htarget⟩ := makeTarget_iff.mpr hname
    rw [htarget] at h
    cases h
  obtain ⟨-, rfl⟩ | ⟨-, hpositive, h⟩ := h
  · exact schemaIssue_own (by simp [codesOf]) (by simp)
  obtain h | ⟨model, hmodel, h⟩ := h
  · obtain ⟨hunknown, hown⟩ := getModel_error h
    refine hown.mpr ?_
    by_contra hlong
    exact hn (.version value schemaId schemaVersion hparse hdeclares hname hpositive hunknown
      hlong)
  rw [getModel_eq_ok] at hmodel
  -- the model and the validators
  obtain ⟨detail, hinvalid, rfl⟩ | ⟨artifact, hvalid, h⟩ := h
  · refine fromPydantic_own_iff.mpr ?_
    by_contra hpath
    exact hn (.location value schemaId schemaVersion model detail hparse hdeclares hname hpositive
      hmodel hinvalid (by simpa using hpath))
  obtain ⟨issue, hissue, rfl⟩ | ⟨-, -, h⟩ := h
  · refine failure_own_iff.mpr ?_
    by_contra hbad
    exact hn (.issue value schemaId schemaVersion model artifact issue hparse hdeclares hname
      hpositive hmodel hvalid hissue hbad)
  · cases h

/-- Each of the accidents lets an exception out that is not the wrapper's. -/
theorem exists_foreign_of_escapes
    (h : Escapes libraries registry modelValidate validators text format) :
    ∃ raised, validateText libraries registry modelValidate validators text format =
      .error raised ∧ ¬ raised.Own := by
  -- an error of the parser leaves the wrapper converted
  have hparsing : ∀ e, parseText libraries text format = .error e →
      validateText libraries registry modelValidate validators text format =
        .error (parseFailure e) := by
    intro e he
    simp only [validateText, bind_eq_error, mapError_eq_error]
    exact .inl ⟨e, he, rfl⟩
  cases h with
  | unhashableKey hyaml hkey =>
    exact ⟨_, hparsing _ (parseText_typeError_iff.mpr ⟨hyaml, hkey⟩), not_own_typeError⟩
  | libraryText message h htext =>
    refine ⟨_, hparsing _ (parseText_library_iff.mpr h), fun hown => ?_⟩
    have hsome : (nonEmptyString? message).isSome :=
      ((parseFailure_own_iff (by rintro _ (heq | heq) <;> cases heq)).mp hown).2 message rfl
    rw [htext] at hsome
    cases hsome
  -- the target cannot be made of the name
  | target value schemaId schemaVersion h hdeclares hname =>
    rw [validateText_declared h hdeclares]
    cases htarget : makeTarget (PyStr.removePrefix schemaId "detailed-analysis.") schemaId
        (max schemaVersion 1) with
    | ok target => exact absurd (makeTarget_iff.mp ⟨target, htarget⟩) hname
    | error raised =>
      refine ⟨raised, rfl, ?_⟩
      rw [makeTarget_error htarget]
      exact not_own_validation
  -- the version is too long to be printed
  | version value schemaId schemaVersion h hdeclares hname hpositive hunknown hlong =>
    obtain ⟨target, heq⟩ := validateText_named h hdeclares hname hpositive
    rw [heq]
    refine ⟨.valueError, ?_, not_own_valueError⟩
    simp only [getModel, hunknown, if_neg hlong]
    rfl
  -- the location is no text
  | location value schemaId schemaVersion model detail h hdeclares hname hpositive hmodel hinvalid
      hpath =>
    obtain ⟨target, heq⟩ := validateText_named h hdeclares hname hpositive
    rw [heq, getModel_eq_ok.mpr hmodel, ok_bind, hinvalid]
    refine ⟨fromPydantic detail target, rfl, fun hown => ?_⟩
    rw [fromPydantic_own_iff, hpath] at hown
    cases hown
  -- a validator's issue cannot be made a failure
  | issue value schemaId schemaVersion model artifact issue h hdeclares hname hpositive hmodel
      hvalid hissue hbad =>
    obtain ⟨target, heq⟩ := validateText_named h hdeclares hname hpositive
    rw [heq, getModel_eq_ok.mpr hmodel, ok_bind, hvalid, mapError_ok, ok_bind, hissue]
    exact ⟨failure issue target, rfl, fun hown => hbad (failure_own_iff.mp hown)⟩

/-- What is returned was made, by the model of exactly the declared contract, from a clean
value. -/
theorem validateText_returns {artifact : Artifact}
    (h : validateText libraries registry modelValidate validators text format = .ok artifact) :
    ∃ value schemaId schemaVersion model, parseText libraries text format = .ok value ∧
      Clean value ∧ Declares value schemaId schemaVersion ∧
      registry.get? (schemaId, schemaVersion) = some model ∧
      modelValidate model value = .ok artifact := by
  simp only [validateText, bind_eq_ok, mapError_eq_ok, pure_eq_ok] at h
  obtain ⟨value, hparse, entries, hobject, schemaId, hid, schemaVersion, hversion, target, -, -,
    -, model, hmodel, artifact, hvalid, -, -, rfl⟩ := h
  obtain ⟨hid, hne⟩ := schemaIdOf_eq_ok.mp hid
  exact ⟨value, schemaId, schemaVersion, model, hparse, parseText_clean hparse,
    ⟨entries, objectOf_eq_ok.mp hobject, hid, hne, schemaVersionOf_eq_ok.mp hversion⟩,
    getModel_eq_ok.mp hmodel, hvalid⟩

/-- The wrapper keeps its error contract exactly when none of the accidents happens. -/
theorem contained_iff (libraries : Libraries) (registry : Table (PyStr × Int) Model)
    (modelValidate : Model → PyValue → Except ErrorDetail Artifact)
    (validators : List (Artifact → Except ValidationIssue Unit)) (text : PyStr)
    (format : InputFormat) :
    Contained libraries registry modelValidate validators text format ↔
      ¬ Escapes libraries registry modelValidate validators text format := by
  constructor
  · intro hcontained hescapes
    obtain ⟨raised, heq, hforeign⟩ := exists_foreign_of_escapes hescapes
    exact hforeign (hcontained.errors raised heq)
  · intro hn
    exact ⟨fun raised h => own_of_not_escapes hn h, fun artifact h => validateText_returns h⟩


end

/-! ## A list as a key -/

/-- The libraries on the YAML text of one mapping from a list to `1`: the key is still
empty when the loader hands it over. -/
def listKeyLibraries : Libraries where
  jsonLoads _ := .raising .jsonDecodeError
  yamlScan _ := ([.other], none)
  yamlLoad _ := {
    calls := [.mapping [.list []]]
    error := none
    value := .dict [(.list [], .int 1)]
    complete := by
      rintro - p hp entries hentries
      simp only [PyValue.within, PyValue.entriesWithin, List.append_nil, List.mem_cons,
        List.not_mem_nil, or_false] at hp
      rcases hp with rfl | rfl
      · cases hentries
        exact ⟨_, List.mem_singleton.mpr rfl, rfl⟩
      · cases hentries }

/-- The `TypeError` of the dictionary leaves the wrapper. -/
theorem list_key_escapes :
    validateText listKeyLibraries Table.empty (fun (_ : Unit) _ => .ok ()) []
      (.ofString "? [a]\n: 1\n") .yaml = .error .typeError ∧
    ¬ Contained listKeyLibraries Table.empty (fun (_ : Unit) _ => .ok ()) []
      (.ofString "? [a]\n: 1\n") .yaml := by
  have hraised : validateText listKeyLibraries Table.empty (fun (_ : Unit) _ => .ok ()) []
      (.ofString "? [a]\n: 1\n") .yaml = (.error .typeError : Except Raised Unit) := by
    rfl
  refine ⟨hraised, fun h => ?_⟩
  obtain ⟨artifact, hartifact⟩ := h.errors _ hraised
  cases hartifact

end StockResearch.Contracts
