import StockResearch.Preparation.PriceFxRun

/-!
# Replay of price and FX runs

What a run publishes is its inputs, the conversion and the manifest. The validator evaluates
the run again from what was published, the two results among it.

- `SameInputs`: bundles that differ in the results of a run only.
- `evaluateRun_congr`: they have one evaluation.
- `published_run_validates`: inputs with two results are accepted exactly when these are theirs.
-/

namespace StockResearch.Preparation

open Contracts

variable {Bytes : Type}

/-! ## Files that are set -/

namespace Bundle

theorem get?_set (files : Bundle Bytes) (name : String) (body : Bytes) (other : String) :
    (files.set name body).get? other = if other = name then some body else files.get? other := by
  rw [set, Table.get?_upsert]
  cases files.get? name with
  | none => rfl
  | some old => rfl

/-- A file of another directory does not matter to a directory. -/
theorem subset_set {files : Bundle Bytes} {directory name : String}
    (h : below directory name = none) (body : Bytes) : (files.set name body).subset directory = files.subset directory := by
  refine Table.ext_rows ?_
  show rowsBelow directory (files.set name body).rows = rowsBelow directory files.rows
  unfold set Table.upsert
  split
  · rename_i habsent
    rw [Table.insert, dif_pos habsent]
    show rowsBelow directory (files.rows ++ [(name, body)]) = _
    unfold rowsBelow
    rw [List.filterMap_append]
    simp [h]
  · show rowsBelow directory (files.rows.map _) = _
    unfold rowsBelow
    rw [List.filterMap_map]
    refine List.filterMap_congr fun row _ => ?_
    show (below directory row.1).map _ = _
    by_cases hname : row.1 = name
    · rw [hname, h]
      rfl
    · simp [hname]

/-- A file that is deleted may be set before. -/
theorem deleteWhere_set {files : Bundle Bytes} {name : String} {names : List String}
    (h : name ∈ names) (body : Bytes) :
    (files.set name body).deleteWhere (fun other _ => decide (other ∈ names)) =
      files.deleteWhere fun other _ => decide (other ∈ names) := by
  refine Table.ext_rows ?_
  show (files.set name body).rows.filter _ = files.rows.filter _
  unfold set Table.upsert
  split
  · rename_i habsent
    rw [Table.insert, dif_pos habsent]
    show (files.rows ++ [(name, body)]).filter _ = _
    rw [List.filter_append]
    simp [h]
  · show (files.rows.map _).filter _ = _
    rw [List.filter_map]
    have hkept : ∀ row ∈ files.rows.filter (fun row => !decide (row.1 ∈ names)),
        row.1 ≠ name := by
      rintro row hrow rfl
      have hout := (List.mem_filter.mp hrow).2
      simp [h] at hout
    refine (List.map_congr_left fun row hrow => ?_).trans (List.map_id _)
    simp [hkept row hrow]

end Bundle

/-! ## One evaluation -/

/-- The names of the results of a run. -/
def runResults : List String := ["manifest.json", "conversion.json"]

/-- Bundles that differ in the results of a run only. -/
structure SameInputs (files other : Bundle Bytes) : Prop where
  get? : ∀ name, name ∉ runResults → other.get? name = files.get? name
  subset : ∀ directory, (∀ name ∈ runResults, below directory name = none) →
    other.subset directory = files.subset directory
  retained : ∀ conversion, retainedFiles other conversion = retainedFiles files conversion

/-- Setting a result leaves the inputs as they were. -/
theorem SameInputs.set {files other : Bundle Bytes} (h : SameInputs files other) {name : String}
    (hname : name ∈ runResults) (body : Bytes) : SameInputs files (other.set name body) where
  get? other' hother := by
    have hne : other' ≠ name := by
      rintro rfl
      exact hother hname
    rw [Bundle.get?_set, if_neg hne]
    exact h.get? other' hother
  subset directory hdirectory := by
    rw [Bundle.subset_set (hdirectory name hname)]
    exact h.subset directory hdirectory
  retained conversion := by
    rw [← h.retained, retainedFiles, retainedFiles]
    exact congrArg (fun files => Bundle.set files "conversion.json" conversion)
      (Bundle.deleteWhere_set hname body)

theorem SameInputs.refl (files : Bundle Bytes) : SameInputs files files where
  get? _ _ := rfl
  subset _ _ := rfl
  retained _ := rfl

section

variable {files other : Bundle Bytes} (h : SameInputs files other)
include h

theorem SameInputs.read {name : String} (hname : name ∉ runResults) :
    other.read name = files.read name := by
  rw [Bundle.read, Bundle.read, h.get? name hname]

theorem SameInputs.readModel {Model : Type} {parse : Bytes → Option Model} {name : String}
    (hname : name ∉ runResults) :
    Preparation.readModel parse other name = Preparation.readModel parse files name := by
  rw [Preparation.readModel, Preparation.readModel, h.read hname]

theorem sourceReasons_congr [DecidableEq Bytes] {readers : RunReaders Bytes} {checked : Timestamp}
    {source : String} {version : Nat}
    (happroval : "sources/" ++ source ++ "/approval.yaml" ∉ runResults)
    (hprofile : "sources/" ++ source ++ "/profile.yaml" ∉ runResults) :
    sourceReasons readers other checked source version =
      sourceReasons readers files checked source version := by
  have henabled : ∀ body approval, sourceEnabled readers other source version body approval =
      sourceEnabled readers files source version body approval := by
    intro body approval
    have hpolicy : other.read "sources/yfinance/native-policy.json" =
        files.read "sources/yfinance/native-policy.json" := h.read (by decide)
    rw [sourceEnabled, sourceEnabled, h.read hprofile, hpolicy]
  rw [sourceReasons, sourceReasons, h.read happroval]
  simp only [henabled]

theorem allSourceReasons_congr [DecidableEq Bytes] {readers : RunReaders Bytes}
    {checked : Timestamp} :
    allSourceReasons readers other checked = allSourceReasons readers files checked := by
  rw [allSourceReasons, allSourceReasons, sourceReasons_congr h (by decide) (by decide),
    sourceReasons_congr h (by decide) (by decide), sourceReasons_congr h (by decide) (by decide)]

theorem priceInputs_congr {readers : RunReaders Bytes} :
    priceInputs readers other = priceInputs readers files := by
  have hprice : priceFiles readers other (other.subset "price-input/") =
      priceFiles readers files (files.subset "price-input/") := by
    have hcalendar : other.read "requirements-input/calendar.json" =
        files.read "requirements-input/calendar.json" := h.read (by decide)
    have hmetadata : other.read "requirements-input/calendar-metadata.json" =
        files.read "requirements-input/calendar-metadata.json" := h.read (by decide)
    have hnote : other.read "requirements-input/research-note.md" =
        files.read "requirements-input/research-note.md" := h.read (by decide)
    rw [priceFiles, priceFiles, h.subset "price-input/" (by decide), hcalendar, hmetadata, hnote,
      h.subset "acquisition-approvals/" (by decide)]
  rw [priceInputs, priceInputs, hprice]

theorem readRun_congr [DecidableEq Bytes] {readers : RunReaders Bytes} :
    readRun readers other = readRun readers files := by
  have htask : readModel readers.task other "task.json" =
      readModel readers.task files "task.json" := h.readModel (by decide)
  have hcontrol : readModel readers.runControl other "control.json" =
      readModel readers.runControl files "control.json" := h.readModel (by decide)
  have hpolicy : readModel readers.evaluationPolicy other "evaluation-policy.yaml" =
      readModel readers.evaluationPolicy files "evaluation-policy.yaml" := h.readModel (by decide)
  rw [readRun, readRun, htask, hcontrol, hpolicy, h.subset "requirements-input/" (by decide),
    h.subset "price-input/" (by decide), h.subset "fx-input/" (by decide), priceInputs_congr h]
  simp only [allSourceReasons_congr h]

/-- An evaluation does not look at the results of a run. -/
theorem evaluateRun_congr [DecidableEq Bytes] {readers : RunReaders Bytes} :
    evaluateRun readers other = evaluateRun readers files := by
  have hconclude : ∀ input layers, concludeRun readers other input layers =
      concludeRun readers files input layers := by
    intro input layers
    rw [concludeRun, concludeRun, h.retained]
  rw [evaluateRun, evaluateRun, readRun_congr h]
  simp only [hconclude]

end

/-! ## Replay -/

/-- What a run publishes: its inputs with the conversion and the manifest. -/
def publishedFiles (files : Bundle Bytes) (conversion manifest : Bytes) : Bundle Bytes :=
  Bundle.set (Bundle.set files "conversion.json" conversion) "manifest.json" manifest

/-- **A published run validates.** The inputs of a run with some conversion and manifest are
accepted when they are replayed exactly when these two are the results of the inputs alone: what
`prepare_price_fx_run` publishes is accepted, and nothing else beside the same inputs. -/
theorem published_run_validates [DecidableEq Bytes] (readers : RunReaders Bytes)
    (files : Bundle Bytes) (conversion body : Bytes) :
    validatePriceFxRun readers (publishedFiles files conversion body) = .ok () ↔
      ∃ manifest expected, readers.manifest body = some manifest ∧
        evaluateRun readers files = .ok (expected, conversion) ∧
        sameManifest manifest expected = true := by
  -- the outputs are not among the inputs
  have hsame : SameInputs files (publishedFiles files conversion body) :=
    ((SameInputs.refl files).set (by decide) conversion).set (by decide) body
  have hmanifest : (publishedFiles files conversion body).get? "manifest.json" = some body := by
    rw [publishedFiles, Bundle.get?_set, if_pos rfl]
  have hconversion : (publishedFiles files conversion body).get? "conversion.json" =
      some conversion := by
    rw [publishedFiles, Bundle.get?_set, if_neg (by decide), Bundle.get?_set, if_pos rfl]
  have hread : (publishedFiles files conversion body).read "conversion.json" = .ok conversion := by
    rw [Bundle.read, hconversion]
    rfl
  rw [validatePriceFxRun, evaluateRun_congr hsame, bind_eq_ok]
  constructor
  · rintro ⟨manifest, hparsed, h⟩
    obtain ⟨⟨expected, result⟩, hevaluated, h⟩ := bind_eq_ok.mp h
    obtain ⟨⟨⟩, hequal, h⟩ := bind_eq_ok.mp h
    obtain ⟨stored, hstored, h⟩ := bind_eq_ok.mp h
    rw [hread] at hstored
    cases hstored
    obtain rfl := require_eq_ok.mp h
    rw [readModel_eq_ok, hmanifest] at hparsed
    exact ⟨manifest, expected, hparsed, hevaluated, require_eq_ok.mp hequal⟩
  · rintro ⟨manifest, expected, hparsed, hevaluated, hequal⟩
    refine ⟨manifest, readModel_eq_ok.mpr (by rw [hmanifest]; exact hparsed), ?_⟩
    rw [hevaluated]
    refine bind_eq_ok.mpr ⟨_, rfl, bind_eq_ok.mpr ⟨(), require_eq_ok.mpr hequal, ?_⟩⟩
    exact bind_eq_ok.mpr ⟨conversion, hread, require_eq_ok.mpr rfl⟩

end StockResearch.Preparation
