import StockResearch.Requests.Effects
import StockResearch.Requests.RawArtifacts

/-!
# The publication rows

Exactly when the repository begins, commits or fails a publication, and what it
leaves behind: only the row of that publication changes, and only while its state is
not final.

- `beginRawPublication_eq_ok`, `commitRawPublication_eq_ok`,
  `transitionRawPublication_eq_ok`: the successful calls.
- `relativePath_injective`: the destinations of two attempts differ.
-/

namespace StockResearch.Requests

/-! ## Successful calls -/

theorem beginRawPublication_eq_ok {intent : RawPublicationIntent} {lease : RuntimeLease}
    {now : DateTime} {db db' : Database} (h : beginRawPublication intent lease now db = (.ok (), db')) :
    (∀ id row, db.publications.get? id = some row →
        row.intent.physicalAttemptId ≠ intent.physicalAttemptId) ∧
      db.publications.get? intent.publicationId = none ∧
      db' = { db with
        publications := db.publications.insert intent.publicationId
          ⟨intent, none, .staging, now, none⟩ } := by
  have hbody := transaction_eq_ok.mp h
  simp only [bind_eq_ok, require_eq_ok, insertRow_eq_ok, pure_eq_ok, Prod.mk.injEq] at hbody
  obtain ⟨-, -, -, -, -, hunique, publications, ⟨hfresh, rfl⟩, -, rfl⟩ := hbody
  refine ⟨fun id row hrow => ?_, hfresh, rfl⟩
  have hother := Table.select_eq_nil_iff.mp hunique id row hrow
  exact of_decide_eq_false hother

/-- The reference names the row it commits. -/
def RefersTo (reference : CommittedRawReference) (intent : RawPublicationIntent) : Prop :=
  intent.taskId = reference.taskId ∧ intent.logicalRequestId = reference.logicalRequestId ∧
    intent.physicalAttemptId = reference.physicalAttemptId ∧
    intent.contentSha256 = reference.contentSha256 ∧ intent.byteCount = reference.byteCount ∧
    intent.rawSchemaId = reference.rawSchemaId ∧
    intent.rawSchemaVersion = reference.rawSchemaVersion ∧
    intent.publicationGeneration = reference.publicationGeneration

theorem commitRawPublication_eq_ok {reference : CommittedRawReference} {lease : RuntimeLease}
    {now : DateTime} {db db' : Database} :
    commitRawPublication reference lease now db = (.ok (), db') ↔
      assertFence db lease now = .ok () ∧
      (∃ row, db.publications.get? reference.publicationId = some row ∧
        RefersTo reference row.intent ∧ row.state.isOpen = true) ∧
      db' = { db with publications := db.publications.modify reference.publicationId fun row =>
        { row with
          relativePath := some reference.relativePath, state := .committed
          committedAt := some now } } := by
  rw [commitRawPublication, transaction_eq_ok]
  simp only [bind_eq_ok, require_eq_ok, pure_eq_ok, Prod.mk.injEq, true_and, Option.any_eq_true,
    Bool.and_eq_true, decide_eq_true_eq, RefersTo, and_assoc]
  constructor
  · rintro ⟨⟨⟩, hfence, ⟨⟩, hrow, rfl⟩
    exact ⟨hfence, hrow, rfl⟩
  · rintro ⟨hfence, hrow, rfl⟩
    exact ⟨(), hfence, (), hrow, rfl⟩

theorem transitionRawPublication_eq_ok {publicationId : Identifier} {target : RawPublicationState}
    {sources : List RawPublicationState} {lease : RuntimeLease} {now : DateTime}
    {db db' : Database} :
    transitionRawPublication publicationId target sources lease now db = (.ok (), db') ↔
      assertFence db lease now = .ok () ∧
      (∃ row, db.publications.get? publicationId = some row ∧ row.state ∈ sources) ∧
      db' = { db with publications := db.publications.modify publicationId fun row =>
        { row with state := target } } := by
  rw [transitionRawPublication, transaction_eq_ok]
  simp only [bind_eq_ok, require_eq_ok, pure_eq_ok, Prod.mk.injEq, true_and, Option.any_eq_true,
    decide_eq_true_eq]
  constructor
  · rintro ⟨⟨⟩, hfence, ⟨⟩, hrow, rfl⟩
    exact ⟨hfence, hrow, rfl⟩
  · rintro ⟨hfence, hrow, rfl⟩
    exact ⟨(), hfence, (), hrow, rfl⟩

theorem failRawPublication_eq_ok {publicationId : Identifier} {lease : RuntimeLease}
    {now : DateTime} {db db' : Database} :
    failRawPublication publicationId lease now db = (.ok (), db') ↔
      assertFence db lease now = .ok () ∧
      (∃ row, db.publications.get? publicationId = some row ∧ row.state.isOpen = true) ∧
      db' = { db with publications := db.publications.modify publicationId fun row =>
        { row with state := .failed } } := by
  rw [failRawPublication, transitionRawPublication_eq_ok]
  have hstates : ∀ state : RawPublicationState,
      state ∈ [RawPublicationState.staging, .reconciliationRequired] ↔ state.isOpen = true := by
    intro state
    cases state <;> decide
  simp only [hstates]

/-! ## Paths -/

/-- An identifier has no separator in it. -/
theorem separator_not_mem (id : Identifier) : '/' ∉ id.text.toList := by
  have hvalid := id.valid
  unfold isIdentifier at hvalid
  intro hmem
  split at hvalid
  · cases hvalid
  · rename_i c rest hchars
    rw [hchars] at hmem
    simp only [Bool.and_eq_true, List.all_eq_true] at hvalid
    rcases List.mem_cons.mp hmem with rfl | hmem
    · exact absurd hvalid.1.1 (by decide)
    · exact absurd (hvalid.2 '/' hmem) (by decide)

theorem relativePath_split (intent : RawPublicationIntent) :
    (relativePath intent).toList.splitOn '/' =
      ["acquisitions".toList, intent.logicalRequestId.text.toList,
        intent.physicalAttemptId.text.toList] := by
  rw [relativePath, String.toList_ofList]
  refine List.splitOn_intercalate _ ?_ (by simp)
  intro segment hsegment
  simp only [List.mem_cons, List.not_mem_nil, or_false] at hsegment
  rcases hsegment with rfl | rfl | rfl
  · decide
  · exact separator_not_mem _
  · exact separator_not_mem _

theorem Identifier.ext_text {a b : Identifier} (h : a.text.toList = b.text.toList) : a = b := by
  obtain ⟨text, valid⟩ := a
  obtain ⟨text', valid'⟩ := b
  obtain rfl : text = text' := String.toList_inj.mp h
  rfl

/-- Two attempts have two destinations. -/
theorem relativePath_injective {a b : RawPublicationIntent} (h : relativePath a = relativePath b) :
    a.logicalRequestId = b.logicalRequestId ∧ a.physicalAttemptId = b.physicalAttemptId := by
  have hsplit := relativePath_split a
  rw [h, relativePath_split b] at hsplit
  simp only [List.cons.injEq, and_true, true_and] at hsplit
  exact ⟨Identifier.ext_text hsplit.1.symm, Identifier.ext_text hsplit.2.symm⟩

/-- The identifiers of an intent that a committed path may be made of. -/
def RawPublicationIntent.PathSegments (intent : RawPublicationIntent) : Prop :=
  isPathSegment intent.logicalRequestId.text.toList = true ∧
    isPathSegment intent.physicalAttemptId.text.toList = true

instance (intent : RawPublicationIntent) : Decidable intent.PathSegments :=
  inferInstanceAs (Decidable (_ ∧ _))

/-- A reference can be made exactly from path segments. -/
theorem isReferencePath_iff (intent : RawPublicationIntent) :
    isReferencePath (relativePath intent) = true ↔ intent.PathSegments := by
  rw [isReferencePath, relativePath_split]
  simp [RawPublicationIntent.PathSegments]

/-- The reference of an intent. -/
def referenceOf (intent : RawPublicationIntent) : CommittedRawReference where
  publicationId := intent.publicationId
  taskId := intent.taskId
  logicalRequestId := intent.logicalRequestId
  physicalAttemptId := intent.physicalAttemptId
  relativePath := relativePath intent
  contentSha256 := intent.contentSha256
  byteCount := intent.byteCount
  rawSchemaId := intent.rawSchemaId
  rawSchemaVersion := intent.rawSchemaVersion
  publicationGeneration := intent.publicationGeneration

theorem reference_eq_ok {intent : RawPublicationIntent} {ref : CommittedRawReference} :
    reference intent (relativePath intent) = .ok ref ↔
      intent.PathSegments ∧ ref = referenceOf intent := by
  unfold reference
  split
  · rename_i hpath
    rw [isReferencePath_iff] at hpath
    simp only [Except.ok.injEq, hpath, true_and]
    exact eq_comm
  · rename_i hpath
    rw [isReferencePath_iff] at hpath
    simp [hpath]

theorem refersTo_referenceOf (intent : RawPublicationIntent) : RefersTo (referenceOf intent) intent :=
  ⟨rfl, rfl, rfl, rfl, rfl, rfl, rfl, rfl⟩

end StockResearch.Requests
