import StockResearch.Requests.PublicationRows

/-!
# Final publications stay as they are

Wherever a publication or a reconciliation stops, a publication row that was
committed or failed is what it was, and so is a bundle at its destination.

- `RowsKept`, `Frozen`: the relations.
- `Publication.publish_frozen`, `reconcile_frozen`: both programs keep them.
-/

namespace StockResearch.Requests

variable {π α : Type} {sha256 : List UInt8 → Sha256Hex}

/-! ## Transactions -/

section

variable {ev : π → StockResearch.Event PublishError} {inv pre : Disk → Prop} {post : α → Disk → Prop}
  {exc : PublishError → Disk → Prop} {point : π} {call : Database → Except Exn α × Database}

/-- A transaction commits what the call does to the database, or changes nothing. -/
theorem transactionStep_triple (hcrash : ∀ disk, pre disk → inv disk)
    (hok : ev point = .proceeds → ∀ disk a db, pre disk → call disk.db = (.ok a, db) →
      post a { disk with db := db })
    (hraise : ∀ disk e, pre disk → exc e disk)
    (happlied : ∀ e, ev point = .raises e true → ∀ disk a db, pre disk →
      call disk.db = (.ok a, db) → exc e { disk with db := db }) :
    Proc.Triple ev inv pre (transactionStep point call) post exc := by
  refine .step_event hcrash ?_ hraise ?_
  · intro hev disk a disk' hdisk hf
    split at hf
    · rename_i _ db hcall
      cases hf
      exact hok hev disk a db hdisk hcall
    · cases hf
  · intro e hev disk a disk' hdisk hf
    split at hf
    · rename_i _ db hcall
      cases hf
      exact happlied e hev disk a db hdisk hcall
    · cases hf

/-- A transaction that the events let proceed and the repository accepts. -/
theorem transactionStep_proceeds (hev : ev point = .proceeds)
    (hok : ∀ disk, pre disk → ∃ a db, call disk.db = (.ok a, db) ∧ post a { disk with db := db }) :
    Proc.Triple ev inv pre (transactionStep point call) post exc := by
  refine .step_proceeds hev fun disk hdisk => ?_
  obtain ⟨a, db, hcall, hpost⟩ := hok disk hdisk
  exact ⟨a, { disk with db := db }, by rw [hcall], hpost⟩

end

/-! ## Final rows and exposed bundles -/

/-- Final rows stay as they are. -/
def RowsKept (db db' : Database) : Prop :=
  ∀ id row, db.publications.get? id = some row → row.state.isOpen = false →
    db'.publications.get? id = some row

/-- Final rows and exposed bundles stay as they are. -/
structure Frozen (before after : Disk) : Prop where
  rows : RowsKept before.db after.db
  bundles : ∀ path bundle, before.acquisitions.get? path = some bundle →
    after.acquisitions.get? path = some bundle

theorem Frozen.refl (disk : Disk) : Frozen disk disk := ⟨fun _ _ h _ => h, fun _ _ h => h⟩

theorem Frozen.trans {a b c : Disk} (hab : Frozen a b) (hbc : Frozen b c) : Frozen a c where
  rows id row hrow hfinal := hbc.rows id row (hab.rows id row hrow hfinal) hfinal
  bundles path bundle hbundle := hbc.bundles path bundle (hab.bundles path bundle hbundle)

/-- A row that is not final may be changed. -/
theorem RowsKept.modify {db : Database} {id : Identifier} {row : RawPublicationRow}
    (hrow : db.publications.get? id = some row) (hopen : row.state.isOpen = true)
    (f : RawPublicationRow → RawPublicationRow) :
    RowsKept db { db with publications := db.publications.modify id f } := by
  intro id' row' hrow' hfinal
  show (db.publications.modify id f).get? id' = some row'
  rw [Table.get?_modify]
  split
  · rename_i heq
    rw [heq, hrow] at hrow'
    cases hrow'
    rw [hopen] at hfinal
    cases hfinal
  · exact hrow'

theorem beginRawPublication_rowsKept {intent : RawPublicationIntent} {lease : RuntimeLease}
    {now : DateTime} {db db' : Database} (h : beginRawPublication intent lease now db = (.ok (), db')) :
    RowsKept db db' := by
  obtain ⟨-, hfresh, rfl⟩ := beginRawPublication_eq_ok h
  intro id row hrow _
  show (db.publications.insert intent.publicationId _).get? id = some row
  rw [Table.get?_insert hfresh]
  split
  · rename_i heq
    rw [heq, hfresh] at hrow
    cases hrow
  · exact hrow

theorem commitRawPublication_rowsKept {reference : CommittedRawReference} {lease : RuntimeLease}
    {now : DateTime} {db db' : Database}
    (h : commitRawPublication reference lease now db = (.ok (), db')) : RowsKept db db' := by
  obtain ⟨-, ⟨row, hrow, -, hopen⟩, rfl⟩ := commitRawPublication_eq_ok.mp h
  exact RowsKept.modify hrow hopen _

theorem failRawPublication_rowsKept {id : Identifier} {lease : RuntimeLease} {now : DateTime}
    {db db' : Database} (h : failRawPublication id lease now db = (.ok (), db')) :
    RowsKept db db' := by
  obtain ⟨-, ⟨row, hrow, hopen⟩, rfl⟩ := failRawPublication_eq_ok.mp h
  exact RowsKept.modify hrow hopen _

theorem markRequired_rowsKept {id : Identifier} {lease : RuntimeLease} {now : DateTime}
    {db db' : Database}
    (h : markRawPublicationReconciliationRequired id lease now db = (.ok (), db')) :
    RowsKept db db' := by
  obtain ⟨-, ⟨row, hrow, hstate⟩, rfl⟩ := transitionRawPublication_eq_ok.mp h
  refine RowsKept.modify hrow ?_ _
  rw [List.mem_singleton.mp hstate]
  rfl

section

variable {before : Disk}

/-- A system call that leaves the destinations and the final rows alone. -/
theorem keeps_frozen {point : π} {f : Disk → Except PublishError (α × Disk)}
    (h : ∀ disk a disk', f disk = .ok (a, disk') → Frozen disk disk') :
    Proc.Keeps (Frozen before) (Proc.action point f) :=
  .action fun disk a disk' hbefore hf => hbefore.trans (h disk a disk' hf)

theorem transactionStep_frozen {point : π} {call : Database → Except Exn α × Database}
    (h : ∀ db a db', call db = (.ok a, db') → RowsKept db db') :
    Proc.Keeps (Frozen before) (transactionStep point call) :=
  fun _ => transactionStep_triple (fun _ h => h)
    (fun _ disk a db hbefore hcall => hbefore.trans ⟨h disk.db a db hcall, fun _ _ h => h⟩)
    (fun _ _ h => h)
    (fun _ _ disk a db hbefore hcall => hbefore.trans ⟨h disk.db a db hcall, fun _ _ h => h⟩)

theorem setFile_frozen {point : π} {path : Identifier × Identifier} {file : BundleFile}
    {stored : Option StoredFile} :
    Proc.Keeps (Frozen before) (setFile point path file stored) := by
  refine keeps_frozen fun disk a disk' hf => ?_
  split at hf
  · cases hf
    exact ⟨fun _ _ h _ => h, fun _ _ h => h⟩
  · cases hf

theorem makeStaging_frozen {point : π} {path : Identifier × Identifier} :
    Proc.Keeps (Frozen before) (makeStaging point path) := by
  refine keeps_frozen fun disk a disk' hf => ?_
  split at hf
  · cases hf
  · cases hf
    exact ⟨fun _ _ h _ => h, fun _ _ h => h⟩

/-- The rename takes a free destination. -/
theorem renameBundle_frozen {point : π} {intent : RawPublicationIntent} :
    Proc.Keeps (Frozen before) (renameBundle point intent) := by
  refine keeps_frozen fun disk a disk' hf => ?_
  split at hf
  · rename_i bundle _ hfree
    cases hf
    refine ⟨fun _ _ h _ => h, fun path other hother => ?_⟩
    show (disk.acquisitions.insert _ _).get? path = some other
    rw [Table.get?_insert hfree]
    split
    · rename_i heq
      rw [heq, hfree] at hother
      cases hother
    · exact hother
  · cases hf

theorem removeBundle_frozen {list : π} {unlink : BundleFile → π} {rmdir : π}
    {path : Identifier × Identifier} :
    Proc.Keeps (Frozen before) (removeBundle list unlink rmdir path) := by
  refine .bind .read fun files => .bind (.forM fun file => setFile_frozen) fun _ => ?_
  refine keeps_frozen fun disk a disk' hf => ?_
  cases hf
  exact ⟨fun _ _ h _ => h, fun _ _ h => h⟩

namespace Publication

variable {p : Publication}

theorem stage_frozen : Proc.Keeps (Frozen before) (p.stage sha256) := by
  have hwrite : ∀ file content,
      Proc.Keeps (Frozen before) (writeExact (stagingPath p.intent) file content) :=
    fun file content => .bind setFile_frozen fun _ => setFile_frozen
  refine .bind (hwrite _ _) fun _ => .bind (hwrite _ _) fun _ => .bind (hwrite _ _) fun _ =>
    .bind (hwrite _ _) fun _ => ?_
  exact .bind .read fun _ => .bind .read fun _ => .bind .read fun _ => .bind .read fun _ =>
    .bind .read fun _ => renameBundle_frozen

theorem recordFailure_frozen (error : PublishError) :
    Proc.Keeps (Frozen before) (p.recordFailure error) := by
  unfold recordFailure
  split
  · exact .bind (transactionStep_frozen fun _ _ _ h => failRawPublication_rowsKept h) fun _ => .raise
  · exact .raise

theorem discardStaging_frozen : Proc.Keeps (Frozen before) p.discardStaging := by
  refine .bind .read fun present => ?_
  split
  · exact removeBundle_frozen
  · exact .pure

theorem requireReconciliation_frozen (error : PublishError) :
    Proc.Keeps (Frozen before) (p.requireReconciliation error) := by
  unfold requireReconciliation
  split
  · refine .bind (.tryExcept (transactionStep_frozen fun _ _ _ h => markRequired_rowsKept h)
      fun e => ?_) fun _ => .raise
    split
    · exact .pure
    · exact .raise
  · exact .raise

theorem expose_frozen : Proc.Keeps (Frozen before) (p.expose sha256) :=
  .bind (.onRaise (.tryExcept stage_frozen recordFailure_frozen) discardStaging_frozen) fun _ =>
    .tryExcept .read requireReconciliation_frozen

theorem publishNew_frozen : Proc.Keeps (Frozen before) (p.publishNew sha256) := by
  refine .bind (transactionStep_frozen fun _ _ _ h => beginRawPublication_rowsKept h) fun _ =>
    .bind .read fun _ => .bind .read fun _ => .bind makeStaging_frozen fun _ =>
    .bind expose_frozen fun _ => .bind .ofExcept fun ref => .bind (.tryExcept ?_ ?_) fun _ => .pure
  · exact transactionStep_frozen fun _ _ _ h => commitRawPublication_rowsKept h
  · exact requireReconciliation_frozen

/-- **No publication touches a final row or an exposed bundle**, wherever it stops. -/
theorem publish_frozen : Proc.Keeps (Frozen before) (p.publish sha256) := by
  refine .bind .ofExcept fun _ => .bind .read fun _ => .bind .read fun existing => ?_
  cases existing with
  | some row =>
    exact .bind .ofExcept fun _ => .bind .ofExcept fun _ => .bind .ofExcept fun _ =>
      .bind .read fun _ => .pure
  | none => exact publishNew_frozen

end Publication

theorem reconcileRecord_frozen {lease : RuntimeLease} {now : DateTime} (row : RawPublicationRow) :
    Proc.Keeps (Frozen before) (reconcileRecord sha256 lease now row) := by
  have hfail : Proc.Keeps (Frozen before) (do
      transactionStep (ReconcilePoint.fail row.intent.publicationId)
        (failRawPublication row.intent.publicationId lease now)
      pure (none : Option CommittedRawReference)) :=
    .bind (transactionStep_frozen fun _ _ _ h => failRawPublication_rowsKept h) fun _ => .pure
  refine .bind .read fun (staged, exposed) => ?_
  match staged, exposed with
  | false, true =>
    exact .bind .ofExcept fun _ => .bind .read fun _ =>
      .bind (transactionStep_frozen fun _ _ _ h => commitRawPublication_rowsKept h) fun _ => .pure
  | true, false => exact .bind removeBundle_frozen fun _ => hfail
  | false, false => exact hfail
  | true, true => exact .raise

theorem reconcileRecords_frozen {lease : RuntimeLease} {now : DateTime}
    (rows : List RawPublicationRow) :
    Proc.Keeps (Frozen before) (reconcileRecords sha256 lease now rows) := by
  induction rows with
  | nil => exact .pure
  | cons row rest ih =>
    exact .bind (reconcileRecord_frozen row) fun _ => .bind ih fun _ => .pure

/-- **No reconciliation touches a final row or an exposed bundle**, wherever it stops. -/
theorem reconcile_frozen {lease : RuntimeLease} {now : DateTime} :
    Proc.Keeps (Frozen before) (reconcile sha256 lease now) := by
  refine .bind .read fun _ => .bind .read fun records => .bind (reconcileRecords_frozen records)
    fun _ => .bind .read fun committed => .bind (.forM fun row => ?_) fun _ => .pure
  exact .bind .ofExcept fun _ => .bind .ofExcept fun _ => .read

end

end StockResearch.Requests
