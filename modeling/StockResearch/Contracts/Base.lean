import StockResearch.Clock.Tokyo
import StockResearch.Contracts.Values
import StockResearch.Lib.Outcome

/-!
# Contract primitives

What every contract of the detailed analysis is built from: texts that carry their
pattern, references to artifacts, and the reading of timestamps. A validator raises a
`ValueError`, which the model layer reports.

- `Identifier`, `SchemaIdentifier`, `Sha256Hex`, `NonEmptyString`: constrained texts.
- `ArtifactReference`: a reference to a stored artifact.
- `parseRfc3339`: the instant a timestamp names.
-/

namespace StockResearch.Contracts

/-- The text of the `ValueError` a validator raises. -/
abbrev ValueError := String

/-- The validators of a field that may be null. -/
def checkOptional {α : Type} (check : α → Except ValueError Unit) :
    Option α → Except ValueError Unit
  | some value => check value
  | none => pure ()

/-- A check that returns, returns nothing. -/
theorem eq_ok_of_isOk {ε : Type} {x : Except ε Unit} (h : x.isOk = true) : x = .ok () := by
  cases x with
  | ok => rfl
  | error e => cases h

/-! ## Texts -/

/-- `NonEmptyString` -/
abbrev NonEmptyString := { text : String // text ≠ "" }

/-- `[A-Za-z0-9._:-]` -/
def isIdentifierChar (c : Char) : Bool :=
  c.isAlphanum || c == '.' || c == '_' || c == ':' || c == '-'

/-- `^[A-Za-z0-9][A-Za-z0-9._:-]{0,127}$` -/
def isIdentifier (text : String) : Bool :=
  match text.toList with
  | first :: rest => first.isAlphanum && rest.length ≤ 127 && rest.all isIdentifierChar
  | [] => false

/-- `Identifier` -/
abbrev Identifier := { text : String // isIdentifier text }

instance Identifier.lawfulBEq : LawfulBEq Identifier := inferInstance

/-- `[a-z0-9]` -/
def isSchemaChar (c : Char) : Bool := c.isDigit || c.isLower

/-- `^detailed-analysis\.[a-z0-9]+(?:-[a-z0-9]+)*$` -/
def isSchemaIdentifier (text : String) : Bool :=
  "detailed-analysis.".toList.isPrefixOf text.toList &&
    ((text.toList.drop 18).splitOn '-').all fun part => part ≠ [] && part.all isSchemaChar

/-- `SchemaIdentifier` -/
abbrev SchemaIdentifier := { text : String // isSchemaIdentifier text }

/-- `^[0-9a-f]{64}$` -/
def isSha256Hex (text : String) : Bool :=
  text.toList.length = 64 && text.toList.all fun c => c.isDigit || 'a' ≤ c && c ≤ 'f'

/-- `Sha256Hex` -/
abbrev Sha256Hex := { text : String // isSha256Hex text }

/-! ## References -/

/-- `ArtifactReferenceV1` -/
structure ArtifactReference where
  artifactType : NonEmptyString
  artifactId : Identifier
  schemaId : SchemaIdentifier
  schemaVersion : Nat
  sha256 : Sha256Hex
  schemaVersion_pos : 1 ≤ schemaVersion
deriving DecidableEq

/-! ## Timestamps -/

/-- `datetime.fromisoformat`: a wall reading, and its offset when the text has one. -/
abbrev IsoReader := String → Option (DateTime × Option Int)

/-- `value.replace("Z", "+00:00")` -/
def replaceZulu (value : String) : String :=
  String.ofList (value.toList.flatMap fun c => if c = 'Z' then "+00:00".toList else [c])

/-- `_parse_rfc3339` -/
def parseRfc3339 (fromisoformat : IsoReader) (value fieldName : String) :
    Except ValueError Timestamp := do
  let (wall, utcoffset) ← fetch (fromisoformat (replaceZulu value))
    (fieldName ++ " must be a valid RFC 3339 timestamp")
  let utcoffset ← fetch utcoffset (fieldName ++ " must include a UTC offset")
  pure ⟨wall, utcoffset⟩

/-- The field validator of a timestamp that may be null. -/
def checkTimestamp (fromisoformat : IsoReader) (fieldName : String) :
    Option String → Except ValueError Unit :=
  checkOptional fun value => do
    let _ ← parseRfc3339 fromisoformat value fieldName
    pure ()

/-- A reader that knows the timestamps of the samples: midnight UTC on the 28th and
the 29th of September 2026. -/
def sampleIso : IsoReader := fun text =>
  if text = "2026-09-28T00:00:00+00:00" then some (⟨63926150400000000, by decide⟩, some 0)
  else if text = "2026-09-29T00:00:00+00:00" then some (⟨63926236800000000, by decide⟩, some 0)
  else none

/-- The digest of sixty-four zeros. -/
def zeroSha256 : Sha256Hex := ⟨String.ofList (List.replicate 64 '0'), by decide +kernel⟩

example : replaceZulu "2026-09-28T00:00:00Z" = "2026-09-28T00:00:00+00:00" := by decide

end StockResearch.Contracts
