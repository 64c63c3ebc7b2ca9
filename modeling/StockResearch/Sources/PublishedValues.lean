import StockResearch.Requests.Reconciliation
import StockResearch.Sources.SourcePublication

/-!
# A published value is bound to its bytes

Whatever the call of `publish_source_candidate`, a value that is returned was parsed once,
from the bytes in the bundle of its reference. A parser that fails leaves a failed row and
neither directory; a candidate that is not the committed one is refused before the parser.

- `BindingLaw`: what is said of one call.
- `SourceCall.publishNewVia_triple`, `SourceCall.replay_triple`: the two paths.
- `published_value_bound`: the law, at any events.
-/

namespace StockResearch.Sources

open Requests

variable {sha256 : List UInt8 → Sha256Hex} {α : Type}

theorem sha256Hex_eq {a b : Sha256Hex} (h : a.text = b.text) : a = b := by
  cases a
  cases b
  cases h
  rfl

namespace SourceCall

variable {call : SourceCall sha256 α} {ev : PublishPoint → StockResearch.Event PublishError}

/-! ## States of a call -/

/-- The row is open, its destination is free and the lease is good for the commit. -/
structure Opened (call : SourceCall sha256 α) (disk : Disk) : Prop where
  row : ∃ row, disk.db.publications.get? call.intent.publicationId = some row ∧
    row.intent = call.intent ∧ row.state.isOpen = true
  free : disk.acquisitions.get? (destination call.intent) = none
  fence : assertFence disk.db call.lease call.committedAt = .ok ()

/-- The staged bundle holds the bytes of the candidate. -/
def Holds (call : SourceCall sha256 α) (disk : Disk) : Prop :=
  ∃ bundle, disk.staging.get? (stagingPath call.intent) = some bundle ∧
    bundle.body = some (.synced (.bytes call.candidate.body))

/-- The bundle of a reference is exposed, with the bytes of the candidate. -/
def Published (call : SourceCall sha256 α) (path : Identifier × String) (disk : Disk) : Prop :=
  ∃ bundle, disk.acquisitions.get? path = some bundle ∧
    bundle.body = some (.synced (.bytes call.candidate.body)) ∧
    bundle.Matches sha256 call.intent

/-- The row has failed and nothing is exposed. -/
def RowFailed (call : SourceCall sha256 α) (disk : Disk) : Prop :=
  disk.acquisitions.get? (destination call.intent) = none ∧
    ∃ row, disk.db.publications.get? call.intent.publicationId = some row ∧
      row.intent = call.intent ∧ row.state = .failed

/-- Every call of the parser returned. -/
def Fine (call : SourceCall sha256 α) (memory : Memory sha256 α) : Prop :=
  ∀ response ∈ memory.calls, (call.adapter.parse response).isSome

/-- The parser was called once, with the bytes of the candidate. -/
def Parsed (call : SourceCall sha256 α) (memory : Memory sha256 α) : Prop :=
  ∃ response value, call.response call.candidate.body = some response ∧
    call.adapter.parse response = some value ∧ memory = ⟨[response], [value]⟩

/-- Recording a failure and removing the staging directory meet no fault of their own. -/
structure Handles (ev : PublishPoint → StockResearch.Event PublishError) : Prop where
  fail : ev .fail = .proceeds
  cleanup : Publication.CleanupProceeds ev

/-- Nothing is said of the disk: the parser did not fail, or its failure is not handled. -/
def Excused (call : SourceCall sha256 α) (ev : PublishPoint → StockResearch.Event PublishError)
    (memory : Memory sha256 α) : Prop :=
  ¬ Handles ev ∨ call.Fine memory

theorem Parsed.fine {memory : Memory sha256 α} (h : call.Parsed memory) : call.Fine memory := by
  obtain ⟨response, value, -, hparse, rfl⟩ := h
  intro other hother
  rw [List.mem_singleton.mp hother, hparse]
  rfl

theorem fine_empty : call.Fine .empty := fun _ h => nomatch h

theorem Opened.restages : Restages call.Opened (stagingPath call.intent) :=
  fun _ _ h _ => ⟨h.row, h.free, h.fence⟩

theorem RowFailed.restages : Restages call.RowFailed (stagingPath call.intent) :=
  fun _ _ h _ => h

/-! ## The steps of a fresh publication -/

/-- A file other than the body leaves the body alone. -/
theorem setFile_holds {file : BundleFile} {stored : Option StoredFile} {point : PublishPoint}
    (hfile : file ≠ .body) :
    Proc.Keeps (fun disk => call.Opened disk ∧ call.Holds disk)
      (setFile point (stagingPath call.intent) file stored) := by
  refine .action fun disk a disk' ⟨hopened, bundle, hbundle, hbody⟩ hset => ?_
  rw [hbundle] at hset
  cases hset
  refine ⟨⟨hopened.row, hopened.free, hopened.fence⟩, bundle.set file stored, ?_, ?_⟩
  · show (disk.staging.modify _ _).get? _ = _
    rw [Table.get?_modify, if_pos rfl, hbundle]
    rfl
  · rw [← hbody]
    cases file with
    | body => exact absurd rfl hfile
    | request => rfl
    | response => rfl
    | receipt => rfl

/-- The body is written. -/
theorem writeBody_triple :
    Proc.Triple ev (fun _ => True) call.Opened
      (writeExact (stagingPath call.intent) .body (.bytes call.candidate.body))
      (fun _ disk => call.Opened disk ∧ call.Holds disk) (fun _ => call.Opened) := by
  refine .bind (M := fun _ => call.Opened)
    ((setFile_keeps Opened.restages ev).weaken (fun _ h => h) (fun _ _ => trivial)
      (fun _ _ h => h) (fun _ _ h => h)) fun _ => ?_
  refine .action (fun _ _ => trivial) ?_ (fun _ _ h => h)
  intro disk a disk' hopened hset
  split at hset
  · rename_i bundle hbundle
    cases hset
    refine ⟨⟨hopened.row, hopened.free, hopened.fence⟩,
      bundle.set .body (some (.synced (.bytes call.candidate.body))), ?_, rfl⟩
    show (disk.staging.modify _ _).get? _ = _
    rw [Table.get?_modify, if_pos rfl, hbundle]
    rfl
  · cases hset

/-- What is read back is what was written. -/
theorem fillStaging_triple :
    Proc.Triple ev (fun _ => True) call.Opened call.fillStaging
      (fun body disk => body = call.candidate.body ∧ call.Opened disk ∧ call.Holds disk)
      (fun _ => call.Opened) := by
  have hwrite : ∀ file content, file ≠ .body → Proc.Triple ev (fun _ => True)
      (fun disk => call.Opened disk ∧ call.Holds disk)
      (writeExact (stagingPath call.intent) file content)
      (fun _ disk => call.Opened disk ∧ call.Holds disk) (fun _ => call.Opened) :=
    fun file content hfile => (Proc.Keeps.bind (setFile_holds hfile)
      (fun _ => setFile_holds hfile) ev).weaken (fun _ h => h) (fun _ _ => trivial)
        (fun _ _ h => h) (fun _ _ h => h.1)
  refine .bind writeBody_triple fun _ => .bind (hwrite .request _ nofun) fun _ =>
    .bind (hwrite .response _ nofun) fun _ => .bind (hwrite .receipt _ nofun) fun _ => ?_
  refine .read (fun _ _ => trivial) ?_ (fun _ _ h => h.1)
  rintro disk body ⟨hopened, bundle, hbundle, hbody⟩ hread
  rw [hbundle, Option.bind_some, hbody] at hread
  cases hread
  exact ⟨rfl, hopened, bundle, hbundle, hbody⟩

/-- The validator on the bytes of the candidate, whatever is on the disk. -/
theorem validate_triple {P : Disk → Prop} :
    Proc.Triple ev (fun s => P s.1 ∧ call.Fine s.2) (fun s => P s.1 ∧ s.2 = .empty)
      (call.validate call.candidate.body) (fun _ s => P s.1 ∧ call.Parsed s.2)
      (fun e s => P s.1 ∧ (call.Fine s.2 ∨ e = .source)) := by
  have hempty : ∀ {s : Disk × Memory sha256 α}, s.2 = .empty → call.Fine s.2 := by
    intro s h
    rw [h]
    exact fine_empty
  refine .bind (M := fun _ s => P s.1 ∧ s.2 = .empty) (.beside fun memory =>
    .read (fun _ h => ⟨h.1, hempty h.2⟩) (fun _ _ h _ => h)
      (fun _ _ h => ⟨h.1, .inl (hempty h.2)⟩))
    fun _ => ?_
  cases hresponse : call.response call.candidate.body with
  | none => exact .raise fun s h => ⟨h.1, .inl (hempty h.2)⟩
  | some response =>
    refine .bind (M := fun _ s => P s.1 ∧ s.2 = ⟨[response], []⟩) (.modify fun s h => ?_)
      fun _ => ?_
    · refine ⟨h.1, ?_⟩
      rw [h.2]
      rfl
    · cases hparse : call.adapter.parse response with
      | none => exact .raise fun s h => ⟨h.1, .inr rfl⟩
      | some value =>
        refine .modify fun s h => ⟨h.1, response, value, hresponse, hparse, ?_⟩
        rw [h.2]
        rfl

/-- Bytes that are no response do not reach the parser. -/
theorem validate_unread {P : Disk → Prop} (h : call.response call.candidate.body = none) :
    Proc.Triple ev (fun s => P s.1 ∧ s.2 = .empty) (fun s => P s.1 ∧ s.2 = .empty)
      (call.validate call.candidate.body) (fun _ _ => False) (fun _ s => P s.1 ∧ s.2 = .empty) := by
  refine .bind (M := fun _ s => P s.1 ∧ s.2 = .empty) (.beside fun memory =>
    .read (fun _ h => h) (fun _ _ h _ => h) (fun _ _ h => h)) fun _ => ?_
  rw [h]
  exact .raise fun _ h => h

/-- The rename exposes the staged bundle, once it was verified. -/
theorem moveStaging_triple :
    Proc.Triple ev (fun _ => True) (fun disk => call.Opened disk ∧ call.Holds disk)
      call.moveStaging (fun _ => call.Published (destination call.intent))
      (fun _ => call.Opened) := by
  let Verified : Disk → Prop := fun disk => call.Opened disk ∧
    ∃ bundle, disk.staging.get? (stagingPath call.intent) = some bundle ∧
      bundle.body = some (.synced (.bytes call.candidate.body)) ∧
      bundle.Matches sha256 call.intent
  have hcheck : ∀ point, Proc.Triple ev (fun _ => True) Verified (checkStep point)
      (fun _ => Verified) (fun _ => call.Opened) :=
    fun point => .read (fun _ _ => trivial) (fun _ _ h _ => h) (fun _ _ h => h.1)
  refine .bind (M := fun _ => Verified) (.read (fun _ _ => trivial) ?_ (fun _ _ h => h.1))
    fun _ => .bind (hcheck _) fun _ => .bind (hcheck _) fun _ => ?_
  · rintro disk _ ⟨hopened, bundle, hbundle, hbody⟩ hverify
    rw [hbundle] at hverify
    exact ⟨hopened, bundle, hbundle, hbody, verifyStagedBundle_eq_ok.mp hverify⟩
  · refine .action (fun _ _ => trivial) ?_ (fun _ _ h => h.1)
    rintro disk _ disk' ⟨hopened, bundle, hbundle, hbody, hmatches⟩ hrename
    rw [hbundle, hopened.free] at hrename
    cases hrename
    exact ⟨bundle, Table.get?_insert_self hopened.free bundle, hbody, hmatches⟩

/-! ## The handlers -/

/-- What the disk is like matters only if the memory is not excused. -/
theorem beside_excused {pre : Disk × Memory sha256 α → Prop}
    {post : Unit → Disk × Memory sha256 α → Prop} {F : Disk → Prop}
    {m : Proc PublishPoint PublishError Disk Unit}
    (hany : Proc.Triple ev (fun _ => True) (fun _ => True) m
      (fun a disk => ∀ memory, call.Excused ev memory → post a (disk, memory)) (fun _ _ => True))
    (h : ∀ memory, Handles ev → ¬ call.Fine memory →
      Proc.Triple ev (fun _ => False) (fun disk => pre (disk, memory)) m
        (fun a disk => post a (disk, memory)) (fun _ => F)) :
    Proc.Triple ev (fun s => call.Excused ev s.2) pre (Proc.beside m) post
      (fun _ s => call.Excused ev s.2 ∨ F s.1) := by
  refine .beside fun memory => ?_
  by_cases hexcused : call.Excused ev memory
  · exact hany.weaken (fun _ _ => trivial) (fun _ _ => hexcused)
      (fun _ _ hpost => hpost memory hexcused) (fun _ _ _ => .inl hexcused)
  · have hhandles : Handles ev := by
      by_contra hnone
      exact hexcused (.inl hnone)
    exact (h memory hhandles fun hfine => hexcused (.inr hfine)).weaken (fun _ h => h)
      (fun _ h => h.elim) (fun _ _ h => h) (fun _ _ h => .inr h)

/-- Neither handler returns. -/
theorem recordFailure_raises (error : PublishError) :
    Proc.Triple ev (fun _ => True) (fun _ => True) (call.publication.recordFailure error)
      (fun _ _ => False) (fun _ _ => True) := by
  unfold Publication.recordFailure
  split
  · exact .bind (M := fun _ _ => True) (.const fun _ h => h) fun _ => .raise fun _ h => h
  · exact .raise fun _ h => h

theorem requireReconciliation_raises (error : PublishError) :
    Proc.Triple ev (fun _ => True) (fun _ => True) (call.publication.requireReconciliation error)
      (fun _ _ => False) (fun _ _ => True) := by
  unfold Publication.requireReconciliation
  split
  · exact .bind (M := fun _ _ => True) (.const fun _ h => h) fun _ => .raise fun _ h => h
  · exact .raise fun _ h => h

/-- A failure of the parser is recorded. -/
theorem recordFailure_triple (hhandles : Handles ev) :
    Proc.Triple ev (fun _ => False) call.Opened (call.publication.recordFailure .source)
      (fun _ _ => False) (fun _ => call.RowFailed) := by
  refine .bind (M := fun _ => call.RowFailed) (.step_proceeds hhandles.fail fun disk h => ?_)
    fun _ => .raise fun _ h => h
  obtain ⟨row, hrow, hintent, hopen⟩ := h.row
  let failed := disk.db.publications.modify call.intent.publicationId fun row =>
    { row with state := .failed }
  have hcall : failRawPublication call.intent.publicationId call.lease call.committedAt disk.db =
      (.ok (), { disk.db with publications := failed }) :=
    failRawPublication_eq_ok.mpr ⟨h.fence, ⟨row, hrow, hopen⟩, rfl⟩
  refine ⟨(), { disk with db := { disk.db with publications := failed } },
    by rw [publication, hcall], h.free, { row with state := .failed }, ?_, hintent, rfl⟩
  show (disk.db.publications.modify _ _).get? _ = _
  rw [Table.get?_modify, if_pos rfl, hrow]
  rfl

/-- The staging directory is removed. -/
theorem discardStaging_triple (hhandles : Handles ev) :
    Proc.Triple ev (fun _ => False) call.RowFailed call.publication.discardStaging
      (fun _ disk => call.RowFailed disk ∧ disk.staging.get? (stagingPath call.intent) = none)
      (fun _ _ => False) := by
  refine .bind (M := fun present disk => call.RowFailed disk ∧
    present = (disk.staging.get? (stagingPath call.intent)).isSome)
    (.read_proceeds hhandles.cleanup.isStaging fun disk h => ⟨_, rfl, h, rfl⟩) fun present => ?_
  cases present with
  | false =>
    refine .pure fun disk ⟨h, habsent⟩ => ⟨h, ?_⟩
    exact Option.isNone_iff_eq_none.mp (by simpa using habsent.symm)
  | true =>
    exact (removeBundle_returns RowFailed.restages hhandles.cleanup.listStaging
      hhandles.cleanup.unlink hhandles.cleanup.removeStaging).weaken (fun _ h => ⟨h.1, h.2.symm⟩)
        (fun _ h => h) (fun _ _ h => h) (fun _ _ h => h)

/-- The body of the `try`, on a memory that is still empty. -/
theorem stageVia_triple :
    Proc.Triple ev (fun s => call.Excused ev s.2) (fun s => call.Opened s.1 ∧ s.2 = .empty)
      call.stageVia (fun _ s => call.Published (destination call.intent) s.1 ∧ call.Parsed s.2)
      (fun e s => call.Opened s.1 ∧ (call.Fine s.2 ∨ e = .source)) := by
  have hempty : ∀ {memory : Memory sha256 α}, memory = .empty → call.Fine memory := by
    rintro _ rfl
    exact fine_empty
  have hmove : Proc.Triple ev (fun s => call.Excused ev s.2)
      (fun s => (call.Opened s.1 ∧ call.Holds s.1) ∧ s.2 = .empty)
      (do call.validate call.candidate.body; Proc.beside call.moveStaging)
      (fun _ s => call.Published (destination call.intent) s.1 ∧ call.Parsed s.2)
      (fun e s => call.Opened s.1 ∧ (call.Fine s.2 ∨ e = .source)) :=
    .bind ((validate_triple (P := fun disk => call.Opened disk ∧ call.Holds disk)).weaken
        (fun _ h => h)
        (fun _ h => .inr h.2) (fun _ _ h => h)
        (fun _ _ h => ⟨h.1.1, h.2⟩)) fun _ =>
      (moveStaging_triple.frame (Q := call.Parsed)).weaken (fun _ h => h)
        (fun _ h => .inr h.2.fine) (fun _ _ h => h) (fun _ _ h => ⟨h.1, .inl h.2.fine⟩)
  refine .bind (M := fun body s => (body = call.candidate.body ∧ call.Opened s.1 ∧
    call.Holds s.1) ∧ s.2 = .empty) ?_ fun body => ?_
  · exact (fillStaging_triple.frame (Q := (· = .empty))).weaken (fun _ h => h)
      (fun _ h => .inr (hempty h.2)) (fun _ _ h => h) (fun _ _ h => ⟨h.1, .inl (hempty h.2)⟩)
  · rintro s ⟨⟨rfl, hstaged⟩, hmemory⟩
    exact hmove s ⟨hstaged, hmemory⟩

/-- The two `try` statements. -/
theorem exposeVia_triple :
    Proc.Triple ev (fun s => call.Excused ev s.2) (fun s => call.Opened s.1 ∧ s.2 = .empty)
      call.exposeVia (fun _ s => call.Published (destination call.intent) s.1 ∧ call.Parsed s.2)
      (fun _ s => call.Excused ev s.2 ∨ call.RowFailed s.1 ∧
        s.1.staging.get? (stagingPath call.intent) = none) := by
  refine .bind (M := fun _ s => call.Published (destination call.intent) s.1 ∧ call.Parsed s.2)
    (.onRaise (M := fun _ s => call.Excused ev s.2 ∨ call.RowFailed s.1)
      (.tryExcept stageVia_triple fun e => ?_) fun e => ?_) fun _ => ?_
  · refine beside_excused ((recordFailure_raises e).weaken (fun _ h => h) (fun _ h => h)
      (fun _ _ h => h.elim) (fun _ _ h => h)) fun memory hhandles hfine => ?_
    rintro disk ⟨hopened, hcause⟩
    obtain rfl : e = .source := hcause.resolve_left hfine
    exact ((recordFailure_triple hhandles).weaken (fun _ h => h) (fun _ h => h)
      (fun _ _ h => h.elim) (fun _ _ h => h)) disk hopened
  · refine (beside_excused (F := fun _ => False) ((Proc.Triple.const fun _ h => h).weaken
      (fun _ h => h) (fun _ h => h) (fun _ _ _ memory hexcused => .inl hexcused) (fun _ _ h => h))
        fun memory hhandles hfine => ?_).weaken (fun _ h => h) (fun _ h => h) (fun _ _ h => h)
          (fun _ _ h => h.imp_right False.elim)
    have hexcused : ¬ call.Excused ev memory := fun h => h.elim (· hhandles) hfine
    exact (discardStaging_triple hhandles).weaken (fun _ h => h.resolve_left hexcused)
      (fun _ h => h) (fun _ _ h => .inr h) (fun _ _ h => h)
  · refine .tryExcept (M := fun _ s => call.Parsed s.2)
      (((Proc.Keeps.read (P := call.Published (destination call.intent)) ev).frame
        (Q := call.Parsed)).weaken (fun _ h => h) (fun _ h => .inr h.2.fine) (fun _ _ h => h)
          (fun _ _ h => h.2)) fun e => ?_
    exact ((requireReconciliation_raises e).frame (Q := call.Parsed)).weaken
      (fun _ h => ⟨trivial, h⟩) (fun _ h => .inr h.2.fine) (fun _ _ h => h.1.elim)
      (fun _ _ h => .inl (.inr h.2.fine))

/-! ## The two paths -/

theorem openStaging_triple :
    Proc.Triple ev (fun _ => True)
      (fun disk => assertFence disk.db call.lease call.committedAt = .ok ()) call.openStaging
      (fun _ => call.Opened) (fun _ _ => True) := by
  let Begun : Disk → Prop := fun disk => assertFence disk.db call.lease call.committedAt = .ok () ∧
    ∃ row, disk.db.publications.get? call.intent.publicationId = some row ∧
      row.intent = call.intent ∧ row.state.isOpen = true
  refine .bind (M := fun _ => Begun) (transactionStep_triple (fun _ _ => trivial) ?_
    (fun _ _ _ => trivial) (fun _ _ _ _ _ _ _ => trivial)) fun _ =>
    .bind (M := fun _ => Begun) (.read (fun _ _ => trivial) (fun _ _ h _ => h)
      (fun _ _ _ => trivial)) fun _ =>
    .bind (M := fun _ => call.Opened) (.read (fun _ _ => trivial) ?_ (fun _ _ _ => trivial))
      fun _ => ?_
  · intro _ disk _ db hfence hcall
    obtain ⟨-, hfresh, rfl⟩ := beginRawPublication_eq_ok hcall
    exact ⟨hfence, _, Table.get?_insert_self hfresh _, rfl, rfl⟩
  · intro disk _ ⟨hfence, hrow⟩ hpaths
    exact ⟨hrow, (require_eq_ok.mp hpaths).2, hfence⟩
  · exact (makeStaging_keeps Opened.restages ev).weaken (fun _ h => h) (fun _ _ => trivial)
      (fun _ _ h => h) (fun _ _ _ => trivial)

theorem commitReference_triple :
    Proc.Triple ev (fun _ => True) (call.Published (destination call.intent)) call.commitReference
      (fun ref => call.Published (ref.taskId, ref.relativePath)) (fun _ _ => True) := by
  refine .bind (M := fun ref => call.Published (ref.taskId, ref.relativePath))
    (.ofExcept (fun ref disk href h => ?_) (fun _ _ _ _ => trivial)) fun ref =>
    .bind (M := fun _ => call.Published (ref.taskId, ref.relativePath)) (.tryExcept
      (M := fun _ _ => True) (transactionStep_triple (fun _ _ => trivial)
        (fun _ _ _ _ h _ => h) (fun _ _ _ => trivial) (fun _ _ _ _ _ _ _ => trivial))
      fun e => (requireReconciliation_raises e).weaken (fun _ h => h) (fun _ h => h)
        (fun _ _ h => h.elim) (fun _ _ h => h)) fun _ => .pure fun _ h => h
  rw [(reference_eq_ok.mp href).2]
  exact h

/-- A publication with no row: it is published and parsed, or the failed parse is on record. -/
theorem publishNewVia_triple :
    Proc.Triple ev (fun s => call.Excused ev s.2)
      (fun s => assertFence s.1.db call.lease call.committedAt = .ok () ∧ s.2 = .empty)
      call.publishNewVia
      (fun ref s => call.Published (ref.taskId, ref.relativePath) s.1 ∧ call.Parsed s.2)
      (fun _ s => call.Excused ev s.2 ∨ call.RowFailed s.1 ∧
        s.1.staging.get? (stagingPath call.intent) = none) := by
  have hempty : ∀ {memory : Memory sha256 α}, memory = .empty → call.Excused ev memory := by
    rintro _ rfl
    exact .inr fine_empty
  refine .bind ((openStaging_triple.frame (Q := (· = .empty))).weaken (fun _ h => h)
    (fun _ h => hempty h.2) (fun _ _ h => h) (fun _ _ h => .inl (hempty h.2))) fun _ =>
    .bind exposeVia_triple fun _ => ?_
  exact (commitReference_triple.frame (Q := call.Parsed)).weaken (fun _ h => h)
    (fun _ h => .inr h.2.fine) (fun _ _ h => h) (fun _ _ h => .inl (.inr h.2.fine))

theorem lookUpRow_triple {start : Disk} :
    Proc.Triple ev (· = start) (· = start) call.lookUpRow
      (fun existing disk => disk = start ∧ call.candidate.AgreesWith call.intent ∧
        start.db.publications.get? call.intent.publicationId = existing)
      (fun _ disk => disk = start) := by
  refine .bind (M := fun _ disk => disk = start ∧ call.candidate.AgreesWith call.intent)
    (.ofExcept (fun _ _ hagrees h => ⟨h, require_eq_ok.mp hagrees⟩) (fun _ _ _ h => h)) fun _ =>
    .bind (M := fun _ disk => disk = start ∧ call.candidate.AgreesWith call.intent)
      (.read (fun _ h => h.1) (fun _ _ h _ => h) (fun _ _ h => h.1)) fun _ => ?_
  refine .read (fun _ h => h.1) ?_ (fun _ _ h => h.1)
  rintro disk existing ⟨rfl, hagrees⟩ hread
  exact ⟨rfl, hagrees, Except.ok.inj hread⟩

/-- A replay reads, and returns the reference of a bundle that matches the intent. -/
theorem replay_triple {start : Disk} {row : RawPublicationRow} :
    Proc.Triple ev (· = start) (· = start) (call.publication.replay sha256 row)
      (fun ref disk => disk = start ∧ row.intent = call.intent ∧
        ∃ bundle, start.acquisitions.get? (ref.taskId, ref.relativePath) = some bundle ∧
          bundle.Matches sha256 call.intent)
      (fun _ disk => disk = start) := by
  refine .bind (M := fun _ disk => disk = start ∧ row.intent = call.intent)
    (.ofExcept (fun _ _ hintent h => ⟨h, require_eq_ok.mp hintent⟩) (fun _ _ _ h => h)) fun _ =>
    .bind (M := fun _ disk => disk = start ∧ row.intent = call.intent)
      (.ofExcept (fun _ _ _ h => h) (fun _ _ _ h => h.1)) fun path =>
    .bind (M := fun ref disk => (disk = start ∧ row.intent = call.intent) ∧
        ref.taskId = row.intent.taskId)
      (.ofExcept ?_ (fun _ _ _ h => h.1)) fun ref =>
    .bind (M := fun _ disk => disk = start ∧ row.intent = call.intent ∧
        ∃ bundle, start.acquisitions.get? (ref.taskId, ref.relativePath) = some bundle ∧
          bundle.Matches sha256 call.intent)
      (.read (fun _ h => h.1.1) ?_ (fun _ _ h => h.1.1)) fun _ => .pure fun _ h => h
  · intro ref disk href h
    unfold reference at href
    split at href
    · cases href
      exact ⟨h, rfl⟩
    · cases href
  · rintro disk _ ⟨⟨rfl, hintent⟩, htask⟩ hverify
    obtain ⟨bundle, hbundle, hmatches⟩ := verifyCommitted_eq_ok.mp hverify
    rw [← htask] at hbundle
    exact ⟨rfl, hintent, bundle, hbundle, hintent ▸ hmatches⟩

/-! ## `publish_source_candidate` -/

/-- The candidate is the one that an intent describes, bytes and all. -/
def Describes (call : SourceCall sha256 α) (intent : RawPublicationIntent) : Prop :=
  intent = call.intent ∧ call.candidate.AgreesWith intent ∧
    sha256 call.candidate.body = intent.contentSha256

/-- What is known when the call returns. -/
def Bound (call : SourceCall sha256 α) (ref : CommittedRawReference)
    (s : Disk × Memory sha256 α) : Prop :=
  call.candidate.AgreesWith call.intent ∧
    call.Published (ref.taskId, ref.relativePath) s.1 ∧ call.Parsed s.2

/-- The second validation is skipped once a value is there. -/
theorem publishParsed_eq : call.publishParsed = (do
    let reference ← call.publishVia
    let parsed ← Proc.memory fun s => s.2.parsed
    if parsed.isEmpty then do
      call.validate call.candidate.body
      pure reference
    else pure reference) := rfl

theorem publishParsed_fresh {start : Disk}
    (hrow : start.db.publications.get? call.intent.publicationId = none)
    (hfence : assertFence start.db call.lease call.committedAt = .ok ()) :
    Proc.Triple ev (fun s => call.Excused ev s.2) (· = (start, .empty)) call.publishParsed
      call.Bound (fun _ s => call.Excused ev s.2 ∨ call.RowFailed s.1 ∧
        s.1.staging.get? (stagingPath call.intent) = none) := by
  -- before the validator runs nothing is remembered
  have hempty : ∀ {memory : Memory sha256 α}, memory = .empty → call.Excused ev memory := by
    rintro _ rfl
    exact .inr fine_empty
  rw [publishParsed_eq]
  refine .bind (M := call.Bound) (.bind (M := fun existing s => (s.1 = start ∧
      call.candidate.AgreesWith call.intent ∧
      start.db.publications.get? call.intent.publicationId = existing) ∧ s.2 = .empty)
    ((lookUpRow_triple.frame (Q := (· = .empty))).weaken (by rintro _ rfl; exact ⟨rfl, rfl⟩)
      (fun _ h => hempty h.2) (fun _ _ h => h) (fun _ _ h => .inl (hempty h.2)))
    fun existing => ?_) fun reference => ?_
  · cases existing with
    -- there is no row to replay
    | some row =>
      rintro s ⟨⟨-, -, hsome⟩, -⟩
      rw [hrow] at hsome
      cases hsome
    | none =>
      rintro s ⟨⟨hstart, hagrees, -⟩, hmemory⟩
      exact (publishNewVia_triple.weaken (fun _ h => h) (fun _ h => h)
        (fun _ _ h => ⟨hagrees, h⟩) (fun _ _ h => h)) s ⟨hstart ▸ hfence, hmemory⟩
  · -- the parsed value is the one the validator remembered
    refine .bind (M := fun parsed s => call.Bound reference s ∧ parsed = s.2.parsed)
      (.memory fun _ h => ⟨h, rfl⟩) fun parsed => ?_
    rintro s ⟨hbound, rfl⟩
    obtain ⟨response, value, -, -, hmemory⟩ := hbound.2.2
    rw [hmemory]
    exact hbound

theorem publishParsed_replay {start : Disk} {row : RawPublicationRow}
    (hrow : start.db.publications.get? call.intent.publicationId = some row)
    (hcollision : ∀ path bundle body, start.acquisitions.get? path = some bundle →
      bundle.body = some (.synced (.bytes body)) → sha256 body = sha256 call.candidate.body →
        body = call.candidate.body) :
    Proc.Triple ev (fun s => s.1 = start ∧ (call.Describes row.intent ∨ s.2 = .empty))
      (· = (start, .empty)) call.publishParsed
      (fun ref s => s.1 = start ∧ call.Describes row.intent ∧ call.Bound ref s)
      (fun _ s => s.1 = start ∧ (call.Describes row.intent ∨ s.2 = .empty)) := by
  rw [publishParsed_eq]
  let Found : CommittedRawReference → Disk → Prop := fun ref disk => disk = start ∧
    call.candidate.AgreesWith call.intent ∧ row.intent = call.intent ∧
    ∃ bundle, start.acquisitions.get? (ref.taskId, ref.relativePath) = some bundle ∧
      bundle.Matches sha256 call.intent
  -- the row is found and verified, with nothing remembered yet
  refine .bind (M := fun ref s => Found ref s.1 ∧ s.2 = .empty)
    (.bind (M := fun existing s => (s.1 = start ∧ call.candidate.AgreesWith call.intent ∧
        start.db.publications.get? call.intent.publicationId = existing) ∧ s.2 = .empty)
      ((lookUpRow_triple.frame (Q := (· = .empty))).weaken (by rintro _ rfl; exact ⟨rfl, rfl⟩)
        (fun _ h => ⟨h.1, .inr h.2⟩) (fun _ _ h => h) (fun _ _ h => ⟨h.1, .inr h.2⟩))
      fun existing => ?_) fun reference => ?_
  · rintro s ⟨⟨hstart, hagrees, hexisting⟩, hmemory⟩
    rw [hrow] at hexisting
    subst hexisting
    exact ((replay_triple.frame (Q := (· = .empty))).weaken (fun _ h => h)
      (fun _ h => ⟨h.1, .inr h.2⟩) (fun _ _ h => ⟨⟨h.1.1, hagrees, h.1.2⟩, h.2⟩)
      (fun _ _ h => ⟨h.1, .inr h.2⟩)) s ⟨hstart, hmemory⟩
  refine .bind (M := fun parsed s => (Found reference s.1 ∧ s.2 = .empty) ∧ parsed = s.2.parsed)
    (.memory fun _ h => ⟨h, rfl⟩) fun parsed => ?_
  rintro s ⟨⟨hfound, hmemory⟩, rfl⟩
  obtain ⟨hstart, hagrees, hintent, bundle, hbundle, hmatches⟩ := hfound
  -- the stored bytes are the candidate's, so parsing these is parsing those
  have hvalidate : Proc.Triple ev
      (fun s => s.1 = start ∧ (call.Describes row.intent ∨ s.2 = .empty))
      (fun s => s.1 = start ∧ s.2 = .empty) (call.validate call.candidate.body)
      (fun _ s => s.1 = start ∧ call.Describes row.intent ∧ call.Bound reference s)
      (fun _ s => s.1 = start ∧ (call.Describes row.intent ∨ s.2 = .empty)) := by
    cases hresponse : call.response call.candidate.body with
    | none =>
      exact (validate_unread (P := (· = start)) hresponse).weaken (fun _ h => h)
        (fun _ h => ⟨h.1, .inr h.2⟩) (fun _ _ h => h.elim) (fun _ _ h => ⟨h.1, .inr h.2⟩)
    | some response =>
      have hhash : sha256 call.candidate.body = call.intent.contentSha256 :=
        sha256Hex_eq ((fromCandidate_eq_some hresponse).2.2.2.trans hagrees.2.1)
      have hdescribes : call.Describes row.intent := by
        refine ⟨hintent, ?_, ?_⟩
        · rw [hintent]
          exact hagrees
        · rw [hintent]
          exact hhash
      obtain ⟨body, hbody, -, hsha⟩ := hmatches.1
      obtain rfl := hcollision _ bundle body hbundle hbody (hsha.trans hhash.symm)
      refine (validate_triple (P := (· = start))).weaken (fun _ h => h)
        (fun _ h => ⟨h.1, .inl hdescribes⟩) (fun _ s h => ?_) (fun _ _ h => ⟨h.1, .inl hdescribes⟩)
      refine ⟨h.1, hdescribes, hagrees, ⟨bundle, ?_, hbody, hmatches⟩, h.2⟩
      rw [h.1]
      exact hbundle
  rw [hmemory]
  exact (Proc.Triple.bind hvalidate fun _ => .pure fun _ h => h) s ⟨hstart, hmemory⟩

end SourceCall

/-! ## The law -/

/-- **The law of a published value.** -/
structure BindingLaw (call : SourceCall sha256 α) (start : Disk) : Prop where
  /-- A returned value was parsed, in one call, from the bytes and the metadata of the
  bundle its reference names, and the bytes are those of the candidate. -/
  bound : ∀ ev result disk memory, call.run ev start = (.ok result, disk, memory) →
    ∃ bundle metadata response,
      disk.acquisitions.get? (result.reference.taskId, result.reference.relativePath) =
        some bundle ∧
      bundle.body = some (.synced (.bytes call.candidate.body)) ∧
      bundle.response = some (.synced (.response metadata)) ∧
      response.body = call.candidate.body ∧ response.mediaType = metadata.mediaType ∧
      response.encoding = metadata.encoding ∧
      call.adapter.parse response = some result.value ∧ memory.calls = [response]
  /-- A fresh publication whose parse fails leaves neither directory and a failed row. -/
  failed : start.db.publications.get? call.intent.publicationId = none → ∀ ev,
    SourceCall.Handles ev → ∀ out disk memory, call.run ev start = (out, disk, memory) →
      ∀ response ∈ memory.calls, call.adapter.parse response = none →
        disk.acquisitions.get? (destination call.intent) = none ∧
        disk.staging.get? (stagingPath call.intent) = none ∧
        ∃ row, disk.db.publications.get? call.intent.publicationId = some row ∧
          row.intent = call.intent ∧ row.state = .failed
  /-- A candidate that the intent on record does not describe is refused unparsed. -/
  refused : ∀ row, start.db.publications.get? call.intent.publicationId = some row →
    ¬ call.Describes row.intent → ∀ ev out disk memory,
      call.run ev start = (out, disk, memory) →
        (∀ result, out ≠ .ok result) ∧ memory.calls = [] ∧ disk = start

namespace SourceCall

variable {call : SourceCall sha256 α} {ev : PublishPoint → StockResearch.Event PublishError}

/-- A call that returns has published, and parsed one value. -/
theorem run_returns {start disk : Disk} {memory : Memory sha256 α}
    {result : PublishedSourceResult α} (h : call.run ev start = (.ok result, disk, memory)) :
    call.publishParsed ev (start, .empty) = (.ok result.reference, disk, memory) ∧
      memory.parsed = [result.value] := by
  unfold run at h
  split at h
  · cases h
  · split at h
    · rename_i reference disk' memory' hout
      split at h
      · rename_i value hparsed
        cases h
        exact ⟨hout, hparsed⟩
      · cases h
    · cases h
    · cases h

/-- A call leaves what the publication leaves, or did not begin. -/
theorem run_leaves {start disk : Disk} {memory : Memory sha256 α}
    {out : Outcome SourceError (PublishedSourceResult α)}
    (h : call.run ev start = (out, disk, memory)) :
    (disk = start ∧ memory = .empty) ∨
      ∃ inner, call.publishParsed ev (start, .empty) = (inner, disk, memory) := by
  unfold run at h
  split at h
  · cases h
    exact .inl ⟨rfl, rfl⟩
  · refine .inr ?_
    split at h
    · rename_i reference disk' memory' hout
      split at h
      · cases h
        exact ⟨_, hout⟩
      · cases h
        exact ⟨_, hout⟩
    · rename_i hout
      cases h
      exact ⟨_, hout⟩
    · rename_i hout
      cases h
      exact ⟨_, hout⟩

/-- What is known of the value and of the bundle it came from. -/
theorem Bound.value {disk : Disk} {memory : Memory sha256 α} {ref : CommittedRawReference}
    {value : α} (h : call.Bound ref (disk, memory)) (hparsed : memory.parsed = [value]) :
    ∃ bundle metadata response,
      disk.acquisitions.get? (ref.taskId, ref.relativePath) = some bundle ∧
      bundle.body = some (.synced (.bytes call.candidate.body)) ∧
      bundle.response = some (.synced (.response metadata)) ∧
      response.body = call.candidate.body ∧ response.mediaType = metadata.mediaType ∧
      response.encoding = metadata.encoding ∧
      call.adapter.parse response = some value ∧ memory.calls = [response] := by
  obtain ⟨hagrees, ⟨bundle, hbundle, hbody, hmatches⟩, response, parsed, hresponse, hparse,
    hmemory⟩ := h
  have hmemory : memory = ⟨[response], [parsed]⟩ := hmemory
  subst hmemory
  obtain rfl : parsed = value := List.head_eq_of_cons_eq hparsed
  obtain ⟨hresponseBody, hmediaType, hencoding, -⟩ := fromCandidate_eq_some hresponse
  exact ⟨bundle, responseMetadata call.intent, response, hbundle, hbody, hmatches.2.2.1,
    hresponseBody, hmediaType.trans hagrees.2.2.2.1, hencoding.trans hagrees.2.2.2.2, hparse, rfl⟩

end SourceCall

/-- A published value is bound to its committed bytes, if no stored body has the digest of
the candidate and other bytes, and the lease is good for the commit. -/
theorem published_value_bound (call : SourceCall sha256 α) (start : Disk)
    (hcollision : ∀ path bundle body, start.acquisitions.get? path = some bundle →
      bundle.body = some (.synced (.bytes body)) → sha256 body = sha256 call.candidate.body →
        body = call.candidate.body)
    (hlease : assertFence start.db call.lease call.committedAt = .ok ()) :
    BindingLaw call start := by
  have hfresh : start.db.publications.get? call.intent.publicationId = none → ∀ ev,
      Proc.Ends (fun s => call.Excused ev s.2) call.Bound
        (fun _ s => call.Excused ev s.2 ∨ call.RowFailed s.1 ∧
          s.1.staging.get? (stagingPath call.intent) = none)
        (call.publishParsed ev (start, .empty)) :=
    fun hrow ev => SourceCall.publishParsed_fresh hrow hlease _ rfl
  have hreplay : ∀ row, start.db.publications.get? call.intent.publicationId = some row → ∀ ev,
      Proc.Ends (fun s => s.1 = start ∧ (call.Describes row.intent ∨ s.2 = .empty))
        (fun ref s => s.1 = start ∧ call.Describes row.intent ∧ call.Bound ref s)
        (fun _ s => s.1 = start ∧ (call.Describes row.intent ∨ s.2 = .empty))
        (call.publishParsed ev (start, .empty)) :=
    fun row hrow ev => SourceCall.publishParsed_replay hrow hcollision _ rfl
  refine ⟨fun ev result disk memory hrun => ?_, fun hrow ev hhandles out disk memory hrun => ?_,
    fun row hrow hother ev out disk memory hrun => ?_⟩
  · -- a result that is returned, from a new row or a replayed one
    obtain ⟨hout, hparsed⟩ := SourceCall.run_returns hrun
    cases hrow : start.db.publications.get? call.intent.publicationId with
    | none =>
      have hends := hfresh hrow ev
      rw [hout] at hends
      exact SourceCall.Bound.value hends hparsed
    | some row =>
      have hends := hreplay row hrow ev
      rw [hout] at hends
      exact hends.2.2.value hparsed
  · -- a parser that refuses: the row is failed and the staging removed
    intro response hresponse hparse
    have hfailed : ¬ call.Fine memory := by
      intro hfine
      have hsome := hfine response hresponse
      rw [hparse] at hsome
      cases hsome
    have hexcused : ¬ call.Excused ev memory := fun h => h.elim (· hhandles) hfailed
    obtain ⟨-, rfl⟩ | ⟨inner, hout⟩ := SourceCall.run_leaves hrun
    · exact absurd SourceCall.fine_empty hfailed
    have hends := hfresh hrow ev
    rw [hout] at hends
    match inner, hends with
    | .ok ref, hends => exact absurd hends.2.2.fine hfailed
    | .raised e, hends =>
      obtain ⟨⟨hfree, hrow⟩, hstaging⟩ := hends.resolve_left hexcused
      exact ⟨hfree, hstaging, hrow⟩
    | .crashed, hends => exact absurd hends hexcused
  · -- a row of another intent is never replayed, and the disk stays
    refine ⟨?_, ?_⟩
    · rintro result rfl
      have hends := hreplay row hrow ev
      rw [(SourceCall.run_returns hrun).1] at hends
      exact hother hends.2.1
    · obtain ⟨rfl, rfl⟩ | ⟨inner, hout⟩ := SourceCall.run_leaves hrun
      · exact ⟨rfl, rfl⟩
      have hends := hreplay row hrow ev
      rw [hout] at hends
      match inner, hends with
      | .ok ref, hends => exact absurd hends.2.1 hother
      | .raised e, ⟨hstart, hmemory⟩ =>
        have hmemory : memory = .empty := hmemory.resolve_left hother
        exact ⟨by rw [hmemory]; rfl, hstart⟩
      | .crashed, ⟨hstart, hmemory⟩ =>
        have hmemory : memory = .empty := hmemory.resolve_left hother
        exact ⟨by rw [hmemory]; rfl, hstart⟩

/-- The sample response, for a parser that keeps its bytes. -/
def sampleCall : SourceCall Sample.digest (List UInt8) where
  candidate := (Sample.publication Sample.request).candidate
  intent := (Sample.publication Sample.request).intent
  lease := Sample.lease
  startedAt := Sample.at_ 6
  committedAt := Sample.at_ 7
  adapter := ⟨Sample.request.sourceId.text, fun response => some response.body⟩

/-- The sample response is published, and its value is bound. -/
theorem published_value_bound_sample :
    (sampleCall.run (fun _ => .proceeds) (Sample.received Sample.request)).1 =
        .ok ⟨referenceOf sampleCall.intent, [123, 125]⟩ ∧
      BindingLaw sampleCall (Sample.received Sample.request) :=
  ⟨by decide +kernel,
    published_value_bound sampleCall _ (fun _ _ _ hget => by cases hget) (by decide +kernel)⟩

end StockResearch.Sources
