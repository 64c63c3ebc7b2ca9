import StockResearch.Contracts.Base
import StockResearch.Lib.Table
import StockResearch.Preparation.RunRequirements

/-!
# Bundles of files

The file mapping an offline step is given: bytes under names, each name once. A bundle
may hold other bundles under a directory.

- `Bundle`, `Bundle.read`, `Bundle.subset`: the mapping, and the part under a directory.
- `FileReference`: a reference to a file of a bundle, as its contract admits it.
- `jsonEqual`: equality of JSON values, by what their scalars are compared with.
-/

namespace StockResearch.Preparation

open Contracts

variable {Bytes : Type}

/-- A mapping of file names to bytes. -/
abbrev Bundle (Bytes : Type) := Table String Bytes

/-- What follows a directory in a name. -/
def below (directory name : String) : Option String :=
  if directory.toList.isPrefixOf name.toList then
    some (String.ofList (name.toList.drop directory.toList.length))
  else none

theorem below_eq_some {directory name rest : String} :
    below directory name = some rest ↔ name = directory ++ rest := by
  unfold below
  constructor
  · intro h
    split at h
    · rename_i hstart
      obtain ⟨tail, htail⟩ := List.isPrefixOf_iff_prefix.mp hstart
      cases h
      refine String.toList_inj.mp ?_
      rw [String.toList_append, String.toList_ofList, ← htail, List.drop_left]
    · cases h
  · rintro rfl
    rw [String.toList_append, if_pos (List.isPrefixOf_iff_prefix.mpr (List.prefix_append _ _)),
      List.drop_left, String.ofList_toList]

namespace Bundle

/-- `files[name]` -/
def read (files : Bundle Bytes) (name : String) : Except RunError Bytes :=
  fetch (files.get? name) (.keyError name)

/-- The names of the files. -/
def names (files : Bundle Bytes) : List String := files.rows.map Prod.fst

/-- The rows under a directory. -/
def rowsBelow (directory : String) (rows : List (String × Bytes)) : List (String × Bytes) :=
  rows.filterMap fun row => (below directory row.1).map (·, row.2)

theorem mem_rowsBelow {directory : String} {rows : List (String × Bytes)} {name : String}
    {body : Bytes} :
    (name, body) ∈ rowsBelow directory rows ↔ (directory ++ name, body) ∈ rows := by
  simp only [rowsBelow, List.mem_filterMap, Option.map_eq_some_iff, Prod.mk.injEq, below_eq_some]
  constructor
  · rintro ⟨⟨full, body'⟩, hmem, rest, hname, rfl, rfl⟩
    cases hname
    exact hmem
  · intro hmem
    exact ⟨_, hmem, name, rfl, rfl, rfl⟩

/-- Names that differ under a directory differ. -/
theorem nodup_rowsBelow {directory : String} {rows : List (String × Bytes)}
    (h : (rows.map Prod.fst).Nodup) : ((rowsBelow directory rows).map Prod.fst).Nodup := by
  induction rows with
  | nil => exact List.nodup_nil
  | cons row rows ih =>
    rw [List.map_cons, List.nodup_cons] at h
    have hrest := ih h.2
    cases hbelow : below directory row.1 with
    | none =>
      have hsame : rowsBelow directory (row :: rows) = rowsBelow directory rows := by
        simp [rowsBelow, hbelow]
      rw [hsame]
      exact hrest
    | some name =>
      have hcons : rowsBelow directory (row :: rows) = (name, row.2) :: rowsBelow directory rows := by
        simp [rowsBelow, hbelow]
      rw [hcons, List.map_cons, List.nodup_cons]
      refine ⟨fun hmem => h.1 ?_, hrest⟩
      obtain ⟨⟨name', body⟩, hrow, hname⟩ := List.mem_map.mp hmem
      cases hname
      rw [below_eq_some.mp hbelow]
      exact List.mem_map.mpr ⟨_, mem_rowsBelow.mp hrow, rfl⟩

/-- `_subset(files, directory)` -/
def subset (files : Bundle Bytes) (directory : String) : Bundle Bytes where
  rows := rowsBelow directory files.rows
  nodup := nodup_rowsBelow files.nodup

end Bundle

/-- `set(a) == set(b)` -/
def sameSet (a b : List String) : Bool := a ⊆ b ∧ b ⊆ a

/-! ## References to files -/

/-- `FileReferenceV1` -/
structure FileReference where
  artifactId : String
  relativePath : String
  mediaType : String
  sha256 : String
deriving DecidableEq

/-- `validate_relative_path` -/
def isRelativePath (path : String) : Bool :=
  let components := (path.toList.map fun c => if c = '\\' then '/' else c).splitOn '/'
  ¬ (path.toList.head? = some '/' ∨ path.toList.head? = some '\\') ∧ ['.', '.'] ∉ components

/-- `FileReferenceV1(...)` of a file of a bundle; its digest is a digest. -/
def fileReference (name mediaType sha256 : String) : Except RunError FileReference := do
  let artifactId := String.ofList (name.toList.map fun c => if c = '/' then ':' else c)
  require (isIdentifier artifactId ∧ name ≠ "") (.validationError "FileReferenceV1")
  require (isRelativePath name) (.validationError
    "file reference path must remain relative and must not traverse parents")
  pure ⟨artifactId, name, mediaType, sha256⟩

/-! ## JSON values -/

/-- The number a scalar equals: `True` is `1` and `1.0`. -/
def scalarNumber : JsonValue → Option (ℚ ⊕ Bool)
  | .bool value => some (.inl (if value then 1 else 0))
  | .int value => some (.inl value)
  | .float (.finite value) => some (.inl value)
  | .float .inf => some (.inr true)
  | .float .negInf => some (.inr false)
  | _ => none

/-- `a == b`, for scalars. -/
def scalarEq : JsonValue → JsonValue → Bool
  | .null, .null => true
  | .str s, .str t => s = t
  | a, b => (scalarNumber a).isSome && scalarNumber a = scalarNumber b

/-- `json.dumps(a) == json.dumps(b)`, for scalars: a number prints with its type. -/
def scalarSame : JsonValue → JsonValue → Bool
  | .null, .null => true
  | .bool a, .bool b => a = b
  | .int a, .int b => a = b
  | .float a, .float b => a = b
  | .str s, .str t => s = t
  | _, _ => false

mutual

/-- Two JSON values with equal scalars at equal places; the order of keys does not
matter. -/
def jsonEqual (scalar : JsonValue → JsonValue → Bool) : JsonValue → JsonValue → Bool
  | .list xs, .list ys => jsonItemsEqual scalar xs ys
  | .dict xs, .dict ys => xs.length = ys.length && jsonEntriesEqual scalar xs ys
  | .list _, _ => false
  | .dict _, _ => false
  | .null, b => scalar .null b
  | .bool value, b => scalar (.bool value) b
  | .int value, b => scalar (.int value) b
  | .float value, b => scalar (.float value) b
  | .str value, b => scalar (.str value) b

/-- So with the items of two lists. -/
def jsonItemsEqual (scalar : JsonValue → JsonValue → Bool) :
    List JsonValue → List JsonValue → Bool
  | [], [] => true
  | x :: xs, y :: ys => jsonEqual scalar x y && jsonItemsEqual scalar xs ys
  | _, _ => false

/-- So with the entries of a mapping and those of another under the same keys. -/
def jsonEntriesEqual (scalar : JsonValue → JsonValue → Bool) :
    List (PyStr × JsonValue) → List (PyStr × JsonValue) → Bool
  | [], _ => true
  | (key, x) :: xs, ys =>
    (match ys.find? (·.1 = key) with
      | some (_, y) => jsonEqual scalar x y
      | none => false) && jsonEntriesEqual scalar xs ys

end

/-- A JSON text. -/
def jsonText (text : String) : JsonValue := .str (.ofString text)

end StockResearch.Preparation
