import StockResearch.Sources.Transports

/-!
# The boundary of a source parser

What a parser of a source is given, and what is known of it once the bytes are committed.

- `BoundedSourceResponse`: exact bytes, with the hash they have.
- `PublishedSourceResult`: a parsed value and the reference of its raw bytes.
-/

namespace StockResearch.Sources

open Requests

/-- `BoundedSourceResponse`, whose hash is the one of its body. -/
structure BoundedSourceResponse (sha256 : List UInt8 → String) where
  physicalAttemptId : Identifier
  body : List UInt8
  mediaType : String
  encoding : String
  mediaType_ge : 1 ≤ mediaType.length
  mediaType_le : mediaType.length ≤ 128
  encoding_ge : 1 ≤ encoding.length
  encoding_le : encoding.length ≤ 64
  digest : String
  exactHash : sha256 body = digest

/-- `PublishedSourceResult` -/
structure PublishedSourceResult (α : Type) where
  reference : CommittedRawReference
  value : α
deriving DecidableEq

end StockResearch.Sources
