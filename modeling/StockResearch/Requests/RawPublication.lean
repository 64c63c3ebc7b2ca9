import StockResearch.Requests.FrozenPublications

/-!
# What a stopped publication leaves behind

Three pieces of durable state that must come to agree: the publication row, the
staging directory and the destination directory. The one invariant is `Consistent`:
a row that is not final explains whatever of the two directories is there, and a
final row says exactly what is left of them. Every step of `publish` keeps it, with
two exceptions that are defects of the code: a failed publication is recorded before
its staging directory is gone, and a bundle is exposed before its path is known to be
one that a reference can carry.

- `Exposed`, `Explained`, `Consistent`: the invariant.
- `Publication.RenamesPath`, `Publication.CleanFailure`: the rename happens only to a
  path that a reference can carry, and once a failure is recorded the removal of the
  staging directory is not stopped.
- `Publication.publish_consistent`: under both conditions `publish` keeps the
  invariant wherever it stops, and returns the reference of a committed row.
-/

namespace StockResearch.Requests

variable {π α : Type} {sha256 : List UInt8 → Sha256Hex}

/-! ## The invariant -/

/-- The bundle of an intent is at its destination, complete, and nowhere else. -/
def Exposed (sha256 : List UInt8 → Sha256Hex) (disk : Disk) (intent : RawPublicationIntent) :
    Prop :=
  disk.staging.get? (stagingPath intent) = none ∧ intent.PathSegments ∧
    ∃ bundle, disk.acquisitions.get? (destination intent) = some bundle ∧
      bundle.Matches sha256 intent

/-- What the state of a row says about its two directories. -/
def Explained (sha256 : List UInt8 → Sha256Hex) (disk : Disk) (row : RawPublicationRow) : Prop :=
  match row.state with
  | .failed => disk.staging.get? (stagingPath row.intent) = none ∧
      disk.acquisitions.get? (destination row.intent) = none
  | .committed => row.relativePath = some (relativePath row.intent) ∧
      Exposed sha256 disk row.intent
  | .staging | .reconciliationRequired =>
      disk.acquisitions.get? (destination row.intent) = none ∨ Exposed sha256 disk row.intent

/-- The publication rows and the directories agree. -/
structure Consistent (sha256 : List UInt8 → Sha256Hex) (disk : Disk) : Prop where
  keyed : ∀ id row, disk.db.publications.get? id = some row → row.intent.publicationId = id
  unique : ∀ id row id' row', disk.db.publications.get? id = some row →
    disk.db.publications.get? id' = some row' →
      row.intent.physicalAttemptId = row'.intent.physicalAttemptId → id = id'
  explained : ∀ id row, disk.db.publications.get? id = some row → Explained sha256 disk row
  stagingOwned : ∀ path bundle, disk.staging.get? path = some bundle →
    ∃ id row, disk.db.publications.get? id = some row ∧ stagingPath row.intent = path
  acquisitionOwned : ∀ path bundle, disk.acquisitions.get? path = some bundle →
    ∃ id row, disk.db.publications.get? id = some row ∧ destination row.intent = path

/-- An exposed bundle passes the check of its reference. -/
theorem Exposed.verifyCommitted {disk : Disk} {intent : RawPublicationIntent} (h : Exposed sha256 disk intent) :
    verifyCommitted sha256 disk intent (relativePath intent) = .ok () :=
  verifyCommitted_eq_ok.mpr h.2.2

theorem Exposed.reference {disk : Disk} {intent : RawPublicationIntent} (h : Exposed sha256 disk intent) :
    reference intent (relativePath intent) = .ok (referenceOf intent) :=
  reference_eq_ok.mpr ⟨h.2.1, rfl⟩

theorem Explained.of_open {disk : Disk} {row : RawPublicationRow} (hopen : row.state.isOpen = true)
    (h : disk.acquisitions.get? (destination row.intent) = none ∨ Exposed sha256 disk row.intent) :
    Explained sha256 disk row := by
  unfold Explained
  cases hstate : row.state with
  | staging => exact h
  | reconciliationRequired => exact h
  | committed => rw [hstate] at hopen; cases hopen
  | failed => rw [hstate] at hopen; cases hopen

theorem Explained.open_cases {disk : Disk} {row : RawPublicationRow}
    (h : Explained sha256 disk row) (hopen : row.state.isOpen = true) :
    disk.acquisitions.get? (destination row.intent) = none ∨ Exposed sha256 disk row.intent := by
  unfold Explained at h
  cases hstate : row.state with
  | staging => rw [hstate] at h; exact h
  | reconciliationRequired => rw [hstate] at h; exact h
  | committed => rw [hstate] at hopen; cases hopen
  | failed => rw [hstate] at hopen; cases hopen

/-- Only the directories of a row decide whether they are explained. -/
theorem Explained.congr {disk disk' : Disk} {row : RawPublicationRow}
    (h : Explained sha256 disk row)
    (hstaging : disk'.staging.get? (stagingPath row.intent) =
      disk.staging.get? (stagingPath row.intent))
    (hacquisition : disk'.acquisitions.get? (destination row.intent) =
      disk.acquisitions.get? (destination row.intent)) : Explained sha256 disk' row := by
  unfold Explained Exposed at *
  rw [hstaging, hacquisition]
  exact h

/-! ## Changes that keep it -/

namespace Consistent

variable {disk : Disk}

/-- Two rows with one staging path are one row. -/
theorem same_row (h : Consistent sha256 disk) {id id' : Identifier} {row row' : RawPublicationRow}
    (hrow : disk.db.publications.get? id = some row)
    (hrow' : disk.db.publications.get? id' = some row')
    (hattempt : row.intent.physicalAttemptId = row'.intent.physicalAttemptId) : id = id' :=
  h.unique id row id' row' hrow hrow' hattempt

/-- A row that is not final and has no destination explains any staging directory. -/
theorem restage (h : Consistent sha256 disk) {id : Identifier} {row : RawPublicationRow}
    (hrow : disk.db.publications.get? id = some row) (hopen : row.state.isOpen = true)
    (hnone : disk.acquisitions.get? (destination row.intent) = none)
    {staging : Table (Identifier × Identifier) Bundle}
    (hother : ∀ path, path ≠ stagingPath row.intent →
      staging.get? path = disk.staging.get? path) :
    Consistent sha256 { disk with staging := staging } where
  keyed := h.keyed
  unique := h.unique
  acquisitionOwned := h.acquisitionOwned
  explained := by
    intro id' row' hrow'
    by_cases hid : id' = id
    · subst hid
      have hsame : row' = row := Option.some.inj (hrow'.symm.trans hrow)
      subst hsame
      exact .of_open hopen (.inl hnone)
    · refine (h.explained id' row' hrow').congr (hother _ fun hpath => hid ?_) rfl
      exact h.same_row hrow' hrow (Prod.mk.inj hpath).2
  stagingOwned := by
    intro path bundle hbundle
    by_cases hpath : path = stagingPath row.intent
    · exact ⟨id, row, hrow, hpath.symm⟩
    · exact h.stagingOwned path bundle ((hother path hpath).symm.trans hbundle)

/-- A row may take another state that its directories explain. -/
theorem update (h : Consistent sha256 disk) {id : Identifier} {row : RawPublicationRow}
    (hrow : disk.db.publications.get? id = some row) {f : RawPublicationRow → RawPublicationRow}
    (hintent : ∀ r, (f r).intent = r.intent) (hexplained : Explained sha256 disk (f row)) :
    Consistent sha256 { disk with db := { disk.db with
      publications := disk.db.publications.modify id f } } := by
  -- the rows afterwards have the intents of the rows before
  have hget : ∀ id' row', (disk.db.publications.modify id f).get? id' = some row' →
      ∃ old, disk.db.publications.get? id' = some old ∧ row'.intent = old.intent ∧
        Explained sha256 disk row' := by
    intro id' row' hrow'
    rw [Table.get?_modify] at hrow'
    split at hrow'
    · rename_i hid
      subst hid
      rw [hrow, Option.map_some, Option.some.injEq] at hrow'
      subst hrow'
      exact ⟨row, hrow, hintent row, hexplained⟩
    · exact ⟨row', hrow', rfl, h.explained id' row' hrow'⟩
  have hkeep : ∀ id' row', disk.db.publications.get? id' = some row' →
      ∃ new, (disk.db.publications.modify id f).get? id' = some new ∧
        new.intent = row'.intent := by
    intro id' row' hrow'
    rw [Table.get?_modify, hrow']
    split
    · exact ⟨f row', rfl, hintent row'⟩
    · exact ⟨row', rfl, rfl⟩
  refine ⟨?_, ?_, ?_, ?_, ?_⟩
  · -- keyed by the publication
    intro id' row' hrow'
    obtain ⟨old, hold, heq, -⟩ := hget id' row' hrow'
    rw [heq]
    exact h.keyed id' old hold
  · -- one row for an attempt
    intro id₁ row₁ id₂ row₂ hrow₁ hrow₂ hattempt
    obtain ⟨old₁, hold₁, heq₁, -⟩ := hget id₁ row₁ hrow₁
    obtain ⟨old₂, hold₂, heq₂, -⟩ := hget id₂ row₂ hrow₂
    rw [heq₁, heq₂] at hattempt
    exact h.same_row hold₁ hold₂ hattempt
  · intro id' row' hrow'
    obtain ⟨-, -, -, hexplained'⟩ := hget id' row' hrow'
    exact hexplained'.congr rfl rfl
  · -- the directories have the owners they had
    intro path bundle hbundle
    obtain ⟨id', row', hrow', hpath⟩ := h.stagingOwned path bundle hbundle
    obtain ⟨new, hnew, heq⟩ := hkeep id' row' hrow'
    exact ⟨id', new, hnew, by rw [heq]; exact hpath⟩
  · intro path bundle hbundle
    obtain ⟨id', row', hrow', hpath⟩ := h.acquisitionOwned path bundle hbundle
    obtain ⟨new, hnew, heq⟩ := hkeep id' row' hrow'
    exact ⟨id', new, hnew, by rw [heq]; exact hpath⟩

/-- A new row for an attempt without a publication has no directories. -/
theorem begin_row (h : Consistent sha256 disk) {intent : RawPublicationIntent} {now : DateTime}
    (hunique : ∀ id row, disk.db.publications.get? id = some row →
      row.intent.physicalAttemptId ≠ intent.physicalAttemptId)
    (hfresh : disk.db.publications.get? intent.publicationId = none) :
    disk.acquisitions.get? (destination intent) = none ∧
      Consistent sha256 { disk with db := { disk.db with
        publications := disk.db.publications.insert intent.publicationId
          ⟨intent, none, .staging, now, none⟩ } } := by
  -- a directory at the destination would belong to a row of the same attempt
  have hnone : disk.acquisitions.get? (destination intent) = none := by
    cases hget : disk.acquisitions.get? (destination intent) with
    | none => rfl
    | some bundle =>
      obtain ⟨id, row, hrow, hpath⟩ := h.acquisitionOwned _ bundle hget
      exact absurd (relativePath_injective (Prod.mk.inj hpath).2).2 (hunique id row hrow)
  have hget : ∀ id row, (disk.db.publications.insert intent.publicationId
      ⟨intent, none, .staging, now, none⟩).get? id = some row →
      (id = intent.publicationId ∧ row = ⟨intent, none, .staging, now, none⟩) ∨
        (id ≠ intent.publicationId ∧ disk.db.publications.get? id = some row) := by
    intro id row hrow
    rw [Table.get?_insert hfresh] at hrow
    split at hrow
    · rename_i hid
      cases hrow
      exact .inl ⟨hid, rfl⟩
    · rename_i hid
      exact .inr ⟨hid, hrow⟩
  have hkeep : ∀ id row, disk.db.publications.get? id = some row →
      (disk.db.publications.insert intent.publicationId
        ⟨intent, none, .staging, now, none⟩).get? id = some row := by
    intro id row hrow
    rw [Table.get?_insert hfresh, if_neg]
    · exact hrow
    · rintro rfl
      rw [hfresh] at hrow
      cases hrow
  refine ⟨hnone, ⟨?_, ?_, ?_, ?_, ?_⟩⟩
  · intro id row hrow
    rcases hget id row hrow with ⟨rfl, rfl⟩ | ⟨-, hold⟩
    · rfl
    · exact h.keyed id row hold
  · -- one row for an attempt: the new row's has no other
    intro id row id' row' hrow hrow' hattempt
    rcases hget id row hrow with ⟨rfl, rfl⟩ | ⟨-, hold⟩
    · rcases hget id' row' hrow' with ⟨rfl, -⟩ | ⟨-, hold'⟩
      · rfl
      · exact absurd hattempt.symm (hunique id' row' hold')
    · rcases hget id' row' hrow' with ⟨rfl, rfl⟩ | ⟨-, hold'⟩
      · exact absurd hattempt (hunique id row hold)
      · exact h.same_row hold hold' hattempt
  · -- the new row explains that there are no directories
    intro id row hrow
    rcases hget id row hrow with ⟨rfl, rfl⟩ | ⟨-, hold⟩
    · exact .of_open rfl (.inl hnone)
    · exact (h.explained id row hold).congr rfl rfl
  · intro path bundle hbundle
    obtain ⟨id, row, hrow, hpath⟩ := h.stagingOwned path bundle hbundle
    exact ⟨id, row, hkeep id row hrow, hpath⟩
  · intro path bundle hbundle
    obtain ⟨id, row, hrow, hpath⟩ := h.acquisitionOwned path bundle hbundle
    exact ⟨id, row, hkeep id row hrow, hpath⟩

/-- Exposing a complete bundle of a row that is not final. -/
theorem rename (h : Consistent sha256 disk) {id : Identifier} {row : RawPublicationRow}
    {bundle : Bundle} (hrow : disk.db.publications.get? id = some row)
    (hopen : row.state.isOpen = true) (hsegments : row.intent.PathSegments)
    (hfree : disk.acquisitions.get? (destination row.intent) = none)
    (hmatches : bundle.Matches sha256 row.intent) :
    let moved : Disk := { disk with
      staging := disk.staging.deleteWhere fun key _ => decide (key = stagingPath row.intent)
      acquisitions := disk.acquisitions.insert (destination row.intent) bundle }
    Consistent sha256 moved ∧ Exposed sha256 moved row.intent := by
  intro moved
  have hstaging : ∀ path, moved.staging.get? path =
      if path = stagingPath row.intent then none else disk.staging.get? path :=
    disk.staging.get?_deleteKey _
  have hacquisition : ∀ path, moved.acquisitions.get? path =
      if path = destination row.intent then some bundle else disk.acquisitions.get? path :=
    Table.get?_insert hfree bundle
  -- the staging directory is gone, the acquisition is in its place
  have hexposed : Exposed sha256 moved row.intent :=
    ⟨by rw [hstaging, if_pos rfl], hsegments, bundle, by rw [hacquisition, if_pos rfl], hmatches⟩
  refine ⟨⟨h.keyed, h.unique, ?_, ?_, ?_⟩, hexposed⟩
  · -- the row itself is open, the paths of the others are different
    intro id' row' hrow'
    by_cases hid : id' = id
    · subst hid
      have hsame : row' = row := Option.some.inj (hrow'.symm.trans hrow)
      subst hsame
      exact .of_open hopen (.inr hexposed)
    · refine (h.explained id' row' hrow').congr ?_ ?_
      · rw [hstaging, if_neg]
        intro hpath
        exact hid (h.same_row hrow' hrow (Prod.mk.inj hpath).2)
      · rw [hacquisition, if_neg]
        intro hpath
        exact hid (h.same_row hrow' hrow (relativePath_injective (Prod.mk.inj hpath).2).2)
  · -- the staging directories that are left
    intro path other hother
    rw [hstaging] at hother
    split at hother
    · cases hother
    · exact h.stagingOwned path other hother
  · -- the new acquisition belongs to the row
    intro path other hother
    rw [hacquisition] at hother
    split at hother
    · rename_i hpath
      exact ⟨id, row, hrow, hpath.symm⟩
    · exact h.acquisitionOwned path other hother

end Consistent

/-! ## Work on a staging directory -/

/-- `P` does not depend on one staging directory. -/
def Restages (P : Disk → Prop) (path : Identifier × Identifier) : Prop :=
  ∀ (disk : Disk) (staging : Table (Identifier × Identifier) Bundle), P disk →
    (∀ other, other ≠ path → staging.get? other = disk.staging.get? other) →
      P { disk with staging := staging }

section

variable {P : Disk → Prop} {path : Identifier × Identifier}

theorem setFile_keeps (h : Restages P path) {point : π} {file : BundleFile}
    {stored : Option StoredFile} : Proc.Keeps P (setFile point path file stored) := by
  refine .action fun disk a disk' hdisk hf => ?_
  split at hf
  · cases hf
    refine h disk _ hdisk fun other hother => ?_
    rw [Table.get?_modify, if_neg hother]
  · cases hf

theorem writeExact_keeps (h : Restages P path) {file : BundleFile} {content : Content} :
    Proc.Keeps P (writeExact path file content) :=
  .bind (setFile_keeps h) fun _ => setFile_keeps h

theorem makeStaging_keeps (h : Restages P path) {point : π} :
    Proc.Keeps P (makeStaging point path) := by
  refine .action fun disk a disk' hdisk hf => ?_
  split at hf
  · cases hf
  · rename_i hnone
    cases hf
    refine h disk _ hdisk fun other hother => ?_
    rw [Table.get?_insert hnone, if_neg hother]

/-- Removing a bundle, wherever it stops; when it returns, the directory is gone. -/
theorem removeBundle_triple (h : Restages P path) {ev : π → StockResearch.Event PublishError} {list : π}
    {unlink : BundleFile → π} {rmdir : π} :
    Proc.Triple ev P P (removeBundle list unlink rmdir path)
      (fun _ disk => P disk ∧ disk.staging.get? path = none) (fun _ => P) := by
  refine .bind ((Proc.Keeps.read (P := P)) ev) fun files =>
    .bind ((Proc.Keeps.forM fun file => setFile_keeps h) ev) fun _ => ?_
  refine .action (fun _ h => h) ?_ (fun _ _ h => h)
  intro disk a disk' hdisk hf
  cases hf
  constructor
  · refine h disk _ hdisk fun other hother => ?_
    rw [Table.get?_deleteKey, if_neg hother]
  · show (disk.staging.deleteWhere _).get? path = none
    rw [Table.get?_deleteKey, if_pos rfl]

/-- Removing a bundle that is there, with nothing to stop it. -/
theorem removeBundle_returns (h : Restages P path) {ev : π → StockResearch.Event PublishError} {list : π}
    {unlink : BundleFile → π} {rmdir : π} {inv : Disk → Prop} {exc : PublishError → Disk → Prop}
    (hlist : ev list = .proceeds) (hunlink : ∀ file, ev (unlink file) = .proceeds)
    (hrmdir : ev rmdir = .proceeds) :
    Proc.Triple ev inv (fun disk => P disk ∧ (disk.staging.get? path).isSome = true)
      (removeBundle list unlink rmdir path)
      (fun _ disk => P disk ∧ disk.staging.get? path = none) exc := by
  let Present : Disk → Prop := fun disk => P disk ∧ (disk.staging.get? path).isSome = true
  refine .bind (M := fun _ => Present) (.read_proceeds hlist fun disk h => ⟨_, rfl, h⟩) fun files =>
    .bind (M := fun _ => Present) (.forM (fun _ => Present) fun file rest => ?_) fun _ => ?_
  · refine .action_proceeds (hunlink file) fun disk ⟨h', hpresent⟩ => ?_
    obtain ⟨bundle, hbundle⟩ := Option.isSome_iff_exists.mp hpresent
    let staging := disk.staging.modify path fun bundle => bundle.set file none
    refine ⟨(), { disk with staging := staging }, (by rw [hbundle]), ?_, ?_⟩
    · exact h disk _ h' fun other hother => (Table.get?_modify ..).trans (if_neg hother)
    · show ((disk.staging.modify _ _).get? _).isSome = true
      rw [Table.get?_modify, if_pos rfl, hbundle]
      rfl
  · refine .action_proceeds hrmdir fun disk ⟨h', _⟩ => ⟨(), _, rfl, ?_, ?_⟩
    · refine h disk _ h' fun other hother => ?_
      rw [Table.get?_deleteKey, if_neg hother]
    · rw [Table.get?_deleteKey, if_pos rfl]

end

/-! ## Publication -/

theorem assertFence_congr {db db' : Database} (h : db.lease = db'.lease) (lease : RuntimeLease)
    (now : DateTime) : assertFence db lease now = assertFence db' lease now := by
  unfold assertFence currentLease
  rw [h]

namespace Publication

variable {p : Publication} {ev : PublishPoint → StockResearch.Event PublishError}

/-- The removal of the staging directory is not stopped. -/
structure CleanupProceeds (ev : PublishPoint → StockResearch.Event PublishError) : Prop where
  isStaging : ev .isStaging = .proceeds
  listStaging : ev .listStaging = .proceeds
  unlink : ∀ file, ev (.unlink file) = .proceeds
  removeStaging : ev .removeStaging = .proceeds

/-- The failure handler would record the failure: the call takes effect, and the lease
is still good. -/
def RecordsFailure (p : Publication) (ev : PublishPoint → StockResearch.Event PublishError) (disk : Disk) :
    Prop :=
  (ev .fail = .proceeds ∨ ∃ e, ev .fail = .raises e true) ∧
    assertFence disk.db p.lease p.committedAt = .ok ()

/-- Once a failure is recorded, the removal of the staging directory is not stopped. -/
def CleanFailure (p : Publication) (ev : PublishPoint → StockResearch.Event PublishError) (disk : Disk) : Prop :=
  p.RecordsFailure ev disk → CleanupProceeds ev

/-- Only a bundle whose path a reference can carry is exposed. -/
def RenamesPath (p : Publication) (ev : PublishPoint → StockResearch.Event PublishError) : Prop :=
  ev .rename = .proceeds → p.intent.PathSegments

/-- The row is there and not final, and nothing is exposed yet. -/
structure Staged (sha256 : List UInt8 → Sha256Hex) (p : Publication)
    (lease : Option RuntimeLeaseRow) (disk : Disk) : Prop where
  consistent : Consistent sha256 disk
  row : ∃ row, disk.db.publications.get? p.intent.publicationId = some row ∧
    row.intent = p.intent ∧ row.state.isOpen = true
  free : disk.acquisitions.get? (destination p.intent) = none
  lease : disk.db.lease = lease

/-- The row is there and not final, and its bundle is exposed. -/
structure Shown (sha256 : List UInt8 → Sha256Hex) (p : Publication) (disk : Disk) : Prop where
  consistent : Consistent sha256 disk
  row : ∃ row, disk.db.publications.get? p.intent.publicationId = some row ∧
    row.intent = p.intent ∧ row.state.isOpen = true
  exposed : Exposed sha256 disk p.intent

/-- Once the staging directory is gone, the state is consistent. -/
def Discarding (sha256 : List UInt8 → Sha256Hex) (p : Publication) (disk : Disk) : Prop :=
  ∀ staging : Table (Identifier × Identifier) Bundle,
    staging.get? (stagingPath p.intent) = none →
    (∀ other, other ≠ stagingPath p.intent → staging.get? other = disk.staging.get? other) →
      Consistent sha256 { disk with staging := staging }

/-- The row of `p` is committed, to the path of `p`. -/
def Committed (p : Publication) (disk : Disk) : Prop :=
  ∃ row, disk.db.publications.get? p.intent.publicationId = some row ∧
    row.intent = p.intent ∧ row.state = .committed ∧ row.relativePath = some (relativePath p.intent)

theorem Staged.restages {lease : Option RuntimeLeaseRow} :
    Restages (Staged sha256 p lease) (stagingPath p.intent) := by
  intro disk staging h hother
  obtain ⟨row, hrow, hintent, hopen⟩ := h.row
  refine ⟨h.consistent.restage hrow hopen ?_ ?_, h.row, h.free, h.lease⟩
  · rw [hintent]
    exact h.free
  · rw [hintent]
    exact hother

theorem Discarding.restages : Restages (Discarding sha256 p) (stagingPath p.intent) :=
  fun _ _ h hother staging hnone hsame =>
    h staging hnone fun other hne => (hsame other hne).trans (hother other hne)

theorem Staged.discarding {lease : Option RuntimeLeaseRow} {disk : Disk} {db : Database}
    (h : Staged sha256 p lease disk)
    (hfail : failRawPublication p.intent.publicationId p.lease p.committedAt disk.db = (.ok (), db)) :
    Discarding sha256 p { disk with db := db } := by
  intro staging hnone hother
  obtain ⟨-, -, rfl⟩ := failRawPublication_eq_ok.mp hfail
  obtain ⟨row, hrow, hintent, -⟩ := h.row
  refine (restages disk staging h hother).consistent.update hrow (fun _ => rfl) ?_
  show _ ∧ _
  rw [hintent]
  exact ⟨hnone, h.free⟩

/-! ### The steps, in order -/

/-- Up to the rename, an exception leaves the row and no destination. -/
theorem stage_triple {lease : Option RuntimeLeaseRow} (hrenames : p.RenamesPath ev) :
    Proc.Triple ev (Consistent sha256) (Staged sha256 p lease) (p.stage sha256)
      (fun _ => Shown sha256 p) (fun _ => Staged sha256 p lease) := by
  have hkeep : ∀ {β : Type} {m : Proc PublishPoint PublishError Disk β},
      Proc.Keeps (Staged sha256 p lease) m →
        Proc.Triple ev (Consistent sha256) (Staged sha256 p lease) m
          (fun _ => Staged sha256 p lease) (fun _ => Staged sha256 p lease) :=
    fun h => (h ev).weaken (fun _ h => h) (fun _ h => h.consistent) (fun _ _ h => h) (fun _ _ h => h)
  have hwrite : ∀ file content, Proc.Keeps (Staged sha256 p lease)
      (writeExact (stagingPath p.intent) file content) :=
    fun _ _ => writeExact_keeps Staged.restages
  refine .bind (hkeep (hwrite _ _)) fun _ => .bind (hkeep (hwrite _ _)) fun _ =>
    .bind (hkeep (hwrite _ _)) fun _ => .bind (hkeep (hwrite _ _)) fun _ =>
    .bind (hkeep .read) fun body => .bind (hkeep .read) fun _ => ?_
  -- from the verification on, the staged bundle is the one the intent describes
  let Verified : Disk → Prop := fun disk => Staged sha256 p lease disk ∧
    ∃ bundle, disk.staging.get? (stagingPath p.intent) = some bundle ∧
      bundle.Matches sha256 p.intent
  have hcheck : ∀ point, Proc.Triple ev (Consistent sha256) Verified (checkStep point)
      (fun _ => Verified) (fun _ => Staged sha256 p lease) :=
    fun point => .read (fun _ h => h.1.consistent) (fun _ _ h _ => h) (fun _ _ h => h.1)
  refine .bind (M := fun _ => Verified) (.read (fun _ h => h.consistent) ?_ (fun _ _ h => h))
    fun _ => .bind (hcheck _) fun _ => .bind (hcheck _) fun _ => ?_
  · intro disk _ h hverify
    split at hverify
    · rename_i bundle hbundle
      exact ⟨h, bundle, hbundle, verifyStagedBundle_eq_ok.mp hverify⟩
    · cases hverify
  · refine .action_event (fun _ h => h.1.consistent) ?_ (fun _ _ h => h.1)
    intro hev disk _ disk' ⟨h, bundle, hbundle, hmatches⟩ hrename
    have hpath := hrenames hev
    obtain ⟨row, hrow, hintent, hopen⟩ := h.row
    rw [hbundle, h.free] at hrename
    cases hrename
    rw [← hintent] at hpath hmatches
    have hmoved := h.consistent.rename hrow hopen hpath (hintent ▸ h.free) hmatches
    rw [hintent] at hmoved
    exact ⟨hmoved.1, ⟨row, hrow, hintent, hopen⟩, hmoved.2⟩

/-- The failure handler: the failure is recorded, or nothing has changed. -/
theorem recordFailure_triple {start : Disk} (hclean : p.CleanFailure ev start)
    (error : PublishError) :
    Proc.Triple ev (Consistent sha256) (Staged sha256 p start.db.lease) (p.recordFailure error)
      (fun _ _ => False) (fun _ disk => Staged sha256 p start.db.lease disk ∨
        CleanupProceeds ev ∧ Discarding sha256 p disk) := by
  unfold recordFailure
  split
  · have hrecorded : ∀ {disk : Disk} {db : Database}, Staged sha256 p start.db.lease disk →
        (ev .fail = .proceeds ∨ ∃ e, ev .fail = .raises e true) →
        failRawPublication p.intent.publicationId p.lease p.committedAt disk.db = (.ok (), db) →
        CleanupProceeds ev ∧ Discarding sha256 p { disk with db := db } := by
      intro disk db h hevent hcall
      refine ⟨hclean ⟨hevent, ?_⟩, h.discarding hcall⟩
      rw [← assertFence_congr h.lease]
      exact (failRawPublication_eq_ok.mp hcall).1
    refine .bind (M := fun _ disk => CleanupProceeds ev ∧ Discarding sha256 p disk)
      (transactionStep_triple (fun _ h => h.consistent) ?_ (fun _ _ h => .inl h) ?_) fun _ =>
        .raise fun _ h => .inr h
    · exact fun hevent _ _ _ h hcall => hrecorded h (.inl hevent) hcall
    · exact fun e hevent _ _ _ h hcall => .inr (hrecorded h (.inr ⟨e, hevent⟩) hcall)
  · exact .raise fun _ h => .inl h

/-- The `finally` clause, for a failure that was not recorded. -/
theorem discardStaging_staged {lease : Option RuntimeLeaseRow} :
    Proc.Triple ev (Consistent sha256) (Staged sha256 p lease) p.discardStaging
      (fun _ => Consistent sha256) (fun _ => Consistent sha256) := by
  refine .bind ((Proc.Keeps.read (P := Staged sha256 p lease)) ev |>.weaken (fun _ h => h)
    (fun _ h => h.consistent) (fun _ _ h => h) (fun _ _ h => h.consistent)) fun present => ?_
  split
  · exact (removeBundle_triple Staged.restages).weaken (fun _ h => h) (fun _ h => h.consistent)
      (fun _ _ h => h.1.consistent) (fun _ _ h => h.consistent)
  · exact .pure fun _ h => h.consistent

/-- The `finally` clause, for a recorded failure: it is not stopped. -/
theorem discardStaging_recorded (hev : CleanupProceeds ev) :
    Proc.Triple ev (Consistent sha256) (Discarding sha256 p) p.discardStaging
      (fun _ => Consistent sha256) (fun _ => Consistent sha256) := by
  refine .bind (M := fun present disk => Discarding sha256 p disk ∧
    present = (disk.staging.get? (stagingPath p.intent)).isSome)
    (.read_proceeds hev.isStaging fun disk h => ⟨_, rfl, h, rfl⟩) fun present => ?_
  cases present with
  | false =>
    refine .pure fun disk ⟨h, habsent⟩ => ?_
    exact h disk.staging (Option.isNone_iff_eq_none.mp (by simpa using habsent.symm)) fun _ _ => rfl
  | true =>
    refine (removeBundle_returns Discarding.restages hev.listStaging hev.unlink
      hev.removeStaging).weaken (fun _ h => ⟨h.1, h.2.symm⟩) (fun _ h => h) ?_ (fun _ _ h => h)
    exact fun _ disk h => h.1 disk.staging h.2 fun _ _ => rfl

/-- Marking a publication keeps it one that is not final; then the handler raises. -/
theorem requireReconciliation_triple (error : PublishError) :
    Proc.Triple ev (Consistent sha256) (Consistent sha256) (p.requireReconciliation error)
      (fun _ _ => False) (fun _ => Consistent sha256) := by
  have hmark : ∀ {disk : Disk} {db : Database}, Consistent sha256 disk →
      markRawPublicationReconciliationRequired p.intent.publicationId p.lease p.committedAt disk.db =
        (.ok (), db) → Consistent sha256 { disk with db := db } := by
    intro disk db h hcall
    obtain ⟨-, ⟨row, hrow, hstate⟩, rfl⟩ := transitionRawPublication_eq_ok.mp hcall
    have hopen : row.state.isOpen = true := by
      rw [List.mem_singleton.mp hstate]
      rfl
    exact h.update hrow (fun _ => rfl) (.of_open rfl ((h.explained _ row hrow).open_cases hopen))
  unfold requireReconciliation
  split
  · refine .bind (M := fun _ => Consistent sha256) (.tryExcept (M := fun _ => Consistent sha256)
      (transactionStep_triple (fun _ h => h) (fun _ _ _ _ h hcall => hmark h hcall)
        (fun _ _ h => h) (fun _ _ _ _ _ h hcall => hmark h hcall)) fun e => ?_) fun _ =>
        .raise fun _ h => h
    split
    · exact .pure fun _ h => h
    · exact .raise fun _ h => h
  · exact .raise fun _ h => h

/-- From a staged row to an exposed bundle. -/
theorem expose_triple {start : Disk} (hrenames : p.RenamesPath ev)
    (hclean : p.CleanFailure ev start) :
    Proc.Triple ev (Consistent sha256) (Staged sha256 p start.db.lease) (p.expose sha256)
      (fun _ => Shown sha256 p) (fun _ => Consistent sha256) := by
  refine .bind (M := fun _ => Shown sha256 p) (.onRaise (.tryExcept (stage_triple hrenames)
    fun e => (recordFailure_triple hclean e).weaken (fun _ h => h) (fun _ h => h)
      (fun _ _ h => h.elim) (fun _ _ h => h)) fun e => ?_) fun _ => ?_
  · intro disk h
    rcases h with h | ⟨hev, h⟩
    · exact discardStaging_staged disk h
    · exact discardStaging_recorded hev disk h
  · exact .tryExcept (M := fun _ => Consistent sha256)
      (.read (fun _ h => h.consistent) (fun _ _ h _ => h) (fun _ _ h => h.consistent))
      fun e => (requireReconciliation_triple e).weaken (fun _ h => h) (fun _ h => h)
        (fun _ _ h => h.elim) (fun _ _ h => h)

/-- The row of a shown publication can be committed. -/
theorem Shown.commit {disk : Disk} {db : Database} (h : Shown sha256 p disk)
    (hcall : commitRawPublication (referenceOf p.intent) p.lease p.committedAt disk.db =
      (.ok (), db)) :
    Consistent sha256 { disk with db := db } ∧ p.Committed { disk with db := db } := by
  obtain ⟨-, -, rfl⟩ := commitRawPublication_eq_ok.mp hcall
  obtain ⟨row, hrow, hintent, -⟩ := h.row
  constructor
  · refine h.consistent.update hrow (fun _ => rfl) ?_
    show _ ∧ _
    rw [hintent]
    exact ⟨rfl, h.exposed⟩
  · refine ⟨{ row with
      relativePath := some (relativePath p.intent), state := .committed
      committedAt := some p.committedAt }, ?_, hintent, rfl, rfl⟩
    show (disk.db.publications.modify p.intent.publicationId _).get? p.intent.publicationId = _
    rw [Table.get?_modify, if_pos rfl, hrow]
    rfl

/-- A publication with no row. -/
theorem publishNew_triple {start : Disk} (hrenames : p.RenamesPath ev)
    (hclean : p.CleanFailure ev start) :
    Proc.Triple ev (Consistent sha256)
      (fun disk => Consistent sha256 disk ∧ disk.db.lease = start.db.lease) (p.publishNew sha256)
      (fun ref disk => Consistent sha256 disk ∧ ref = referenceOf p.intent ∧ p.Committed disk)
      (fun _ => Consistent sha256) := by
  -- the row is inserted with the lease the run has
  have hbegin : ∀ {disk : Disk} {db : Database}, Consistent sha256 disk →
      disk.db.lease = start.db.lease →
      beginRawPublication p.intent p.lease p.startedAt disk.db = (.ok (), db) →
        Staged sha256 p start.db.lease { disk with db := db } := by
    intro disk db h hlease hcall
    obtain ⟨hunique, hfresh, rfl⟩ := beginRawPublication_eq_ok hcall
    obtain ⟨hnone, hconsistent⟩ := h.begin_row hunique hfresh
    exact ⟨hconsistent, ⟨_, Table.get?_insert_self hfresh _, rfl, rfl⟩, hnone, hlease⟩
  have hkeep : ∀ {m : Proc PublishPoint PublishError Disk Unit},
      Proc.Keeps (Staged sha256 p start.db.lease) m →
        Proc.Triple ev (Consistent sha256) (Staged sha256 p start.db.lease) m
          (fun _ => Staged sha256 p start.db.lease) (fun _ => Consistent sha256) :=
    fun h => (h ev).weaken (fun _ h => h) (fun _ h => h.consistent) (fun _ _ h => h)
      (fun _ _ h => h.consistent)
  -- after the row: staging, the rename, then the commit
  refine .bind (M := fun _ => Staged sha256 p start.db.lease)
    (transactionStep_triple (fun _ h => h.1) (fun _ _ _ _ h hcall => hbegin h.1 h.2 hcall)
      (fun _ _ h => h.1) (fun _ _ _ _ _ h hcall => (hbegin h.1 h.2 hcall).consistent)) fun _ => ?_
  refine .bind (hkeep .read) fun _ => .bind (hkeep .read) fun _ =>
    .bind (hkeep (makeStaging_keeps Staged.restages)) fun _ =>
    .bind (expose_triple hrenames hclean) fun _ => ?_
  refine .bind (M := fun ref disk => Shown sha256 p disk ∧ ref = referenceOf p.intent)
    (.ofExcept (fun ref _ href h => ⟨h, (reference_eq_ok.mp href).2⟩) (fun _ _ _ h => h.consistent))
    fun ref => ?_
  -- a failing commit leaves the row to the reconciliation
  refine .bind (M := fun _ disk => Consistent sha256 disk ∧ ref = referenceOf p.intent ∧
    p.Committed disk) (.tryExcept (M := fun _ => Consistent sha256)
      (transactionStep_triple (fun _ h => h.1.consistent) ?_ (fun _ _ h => h.1.consistent) ?_)
      fun e => (requireReconciliation_triple e).weaken (fun _ h => h) (fun _ h => h)
        (fun _ _ h => h.elim) (fun _ _ h => h)) fun _ => .pure fun _ h => h
  · rintro - disk _ db ⟨h, rfl⟩ hcall
    exact ⟨(h.commit hcall).1, rfl, (h.commit hcall).2⟩
  · rintro e - disk _ db ⟨h, rfl⟩ hcall
    exact (h.commit hcall).1

/-- A publication that has a row returns the reference of a committed one. -/
theorem replay_triple {row : RawPublicationRow} :
    Proc.Triple ev (Consistent sha256)
      (fun disk => Consistent sha256 disk ∧
        disk.db.publications.get? p.intent.publicationId = some row) (p.replay sha256 row)
      (fun ref disk => Consistent sha256 disk ∧ ref = referenceOf p.intent ∧ p.Committed disk)
      (fun _ => Consistent sha256) := by
  refine .bind (M := fun _ disk => row.intent = p.intent ∧ Consistent sha256 disk ∧
      disk.db.publications.get? p.intent.publicationId = some row)
    (.ofExcept (fun _ _ heq h => ⟨require_eq_ok.mp heq, h⟩) (fun _ _ _ h => h.1)) fun _ => ?_
  refine .bind (M := fun path disk => path = relativePath p.intent ∧ Consistent sha256 disk ∧
      row.intent = p.intent ∧ p.Committed disk) (.ofExcept ?_ (fun _ _ _ h => h.2.1)) fun path => ?_
  · rintro path disk hfetch ⟨hintent, h, hrow⟩
    rw [fetch_eq_ok] at hfetch
    split at hfetch
    · rename_i hstate
      have hexplained := h.explained _ row hrow
      unfold Explained at hexplained
      rw [hstate] at hexplained
      have hpath := hexplained.1
      rw [hfetch, hintent] at hpath
      cases hpath
      exact ⟨rfl, h, hintent, row, hrow, hintent, hstate, hfetch⟩
    · cases hfetch
  · refine .bind (M := fun ref disk => Consistent sha256 disk ∧ ref = referenceOf p.intent ∧
      p.Committed disk) (.ofExcept ?_ (fun _ _ _ h => h.2.1)) fun ref =>
        .bind (.read (fun _ h => h.1) (fun _ _ h _ => h) (fun _ _ h => h.1)) fun _ => .pure fun _ h => h
    rintro ref disk href ⟨rfl, h, hintent, hcommitted⟩
    rw [hintent] at href
    exact ⟨h, (reference_eq_ok.mp href).2, hcommitted⟩

/-- **`publish` keeps the invariant wherever it stops**, and returns a reference only
of a committed row. -/
theorem publish_consistent {start : Disk} (h : Consistent sha256 start)
    (hrenames : p.RenamesPath ev) (hclean : p.CleanFailure ev start) :
    Proc.Ends (Consistent sha256)
      (fun ref disk => Consistent sha256 disk ∧ ref = referenceOf p.intent ∧ p.Committed disk)
      (fun _ => Consistent sha256) (p.publish sha256 ev start) := by
  have htriple : Proc.Triple ev (Consistent sha256)
      (fun disk => Consistent sha256 disk ∧ disk.db.lease = start.db.lease) (p.publish sha256)
      (fun ref disk => Consistent sha256 disk ∧ ref = referenceOf p.intent ∧ p.Committed disk)
      (fun _ => Consistent sha256) := by
    refine .bind (M := fun _ disk => Consistent sha256 disk ∧ disk.db.lease = start.db.lease)
      (.ofExcept (fun _ _ _ h => h) (fun _ _ _ h => h.1)) fun _ =>
      .bind (M := fun _ disk => Consistent sha256 disk ∧ disk.db.lease = start.db.lease)
        (.read (fun _ h => h.1) (fun _ _ h _ => h) (fun _ _ h => h.1)) fun _ =>
      .bind (M := fun existing disk => (Consistent sha256 disk ∧
          disk.db.lease = start.db.lease) ∧
          disk.db.publications.get? p.intent.publicationId = existing)
        (.read (fun _ h => h.1) (fun _ _ h hread => ⟨h, Except.ok.inj hread⟩) (fun _ _ h => h.1))
        fun existing => ?_
    cases existing with
    | some row =>
      show Proc.Triple ev _ _ (p.replay sha256 row) _ _
      exact replay_triple.weaken (fun _ h => ⟨h.1.1, h.2⟩) (fun _ h => h) (fun _ _ h => h)
        (fun _ _ h => h)
    | none =>
      show Proc.Triple ev _ _ (p.publishNew sha256) _ _
      exact (publishNew_triple hrenames hclean).weaken (fun _ h => h.1) (fun _ h => h)
        (fun _ _ h => h) (fun _ _ h => h)
  exact htriple start ⟨h, rfl⟩

/-- A publication whose row is committed is returned again, and nothing changes. -/
theorem publish_replays {disk : Disk} (h : Consistent sha256 disk) (hcommitted : p.Committed disk)
    (hagrees : p.candidate.AgreesWith p.intent) :
    p.publish sha256 (fun _ => .proceeds) disk = (.ok (referenceOf p.intent), disk) := by
  obtain ⟨row, hrow, hintent, hstate, hpath⟩ := hcommitted
  -- a committed row has its acquisition
  have hexposed : Exposed sha256 disk row.intent := by
    have hexplained := h.explained _ row hrow
    unfold Explained at hexplained
    rw [hstate] at hexplained
    exact hexplained.2
  have hfetch : fetch (if row.state = .committed then row.relativePath else none)
      (PublishError.runtime "raw_publication_reconciliation_required") =
        .ok (relativePath row.intent) := by
    rw [if_pos hstate, hpath, hintent]
    rfl
  have hroot : (checkStep PublishPoint.validateRunsRoot) (fun _ => .proceeds) disk =
      (.ok (), disk) := Proc.read_of_ok rfl rfl
  have hlookUp : (Proc.read .lookUpRecord fun disk =>
      .ok (disk.db.publications.get? p.intent.publicationId) :
        Proc PublishPoint PublishError Disk _) (fun _ => .proceeds) disk = (.ok (some row), disk) :=
    Proc.read_of_ok rfl (congrArg Except.ok hrow)
  have hverify : (Proc.read .verifyReplay fun disk =>
      verifyCommitted sha256 disk row.intent (referenceOf row.intent).relativePath :
        Proc PublishPoint PublishError Disk _) (fun _ => .proceeds) disk = (.ok (), disk) :=
    Proc.read_of_ok rfl hexposed.verifyCommitted
  -- the replay branch is taken and verifies what is there
  calc p.publish sha256 (fun _ => .proceeds) disk
      = p.replay sha256 row (fun _ => .proceeds) disk := by
        rw [publish, Proc.bind_of_ok (a := ()) (Proc.ofExcept_of_ok (require_eq_ok.mpr hagrees)),
          Proc.bind_of_ok hroot, Proc.bind_of_ok hlookUp]
    _ = (.ok (referenceOf row.intent), disk) := by
        rw [replay, Proc.bind_of_ok (a := ()) (Proc.ofExcept_of_ok (require_eq_ok.mpr hintent)),
          Proc.bind_of_ok (Proc.ofExcept_of_ok hfetch),
          Proc.bind_of_ok (Proc.ofExcept_of_ok hexposed.reference), Proc.bind_of_ok hverify]
        rfl
    _ = (.ok (referenceOf p.intent), disk) := by rw [hintent]

end Publication

end StockResearch.Requests
