import StockResearch.Lib.Run
import StockResearch.Requests.RawPublication
import StockResearch.Requests.TransferredAttempts

/-!
# Reconciliation of raw publications

`reconcile` takes the rows that are not final one by one and makes each final: a
bundle that was exposed is committed, anything else is removed and the row failed. It
keeps the invariant wherever it stops, and from a consistent state, with nothing to
stop it, it returns.

- `Remaining`: the rows the repair loop still has to visit are those not final.
- `Settled`: every row is final, and says what is on disk.
- `reconcile_settles`: what a reconciliation that is not stopped leaves behind.
- `Session`: runs of publications, reconciliations and other repository operations.
- `publication_crash_consistent`: the main result.
-/

namespace StockResearch.Requests

variable {α : Type} {sha256 : List UInt8 → Sha256Hex}

/-! ## The repair loop -/

/-- The rows still to come are those not final, each as it was read. -/
structure Remaining (sha256 : List UInt8 → Sha256Hex) (lease : Option RuntimeLeaseRow)
    (rows : List RawPublicationRow) (disk : Disk) : Prop where
  consistent : Consistent sha256 disk
  nodup : (rows.map fun row => row.intent.publicationId).Nodup
  read : ∀ row ∈ rows, disk.db.publications.get? row.intent.publicationId = some row ∧
    row.state.isOpen = true
  complete : ∀ id row, disk.db.publications.get? id = some row → row.state.isOpen = true → row ∈ rows
  lease : disk.db.lease = lease

section

variable {lease₀ : Option RuntimeLeaseRow} {lease : RuntimeLease} {now : DateTime}
  {row : RawPublicationRow} {rest : List RawPublicationRow} {disk : Disk}
  {ev : ReconcilePoint → StockResearch.Event PublishError}

/-- The first row becomes final. -/
theorem Remaining.finish (h : Remaining sha256 lease₀ (row :: rest) disk)
    {f : RawPublicationRow → RawPublicationRow} (hintent : ∀ r, (f r).intent = r.intent)
    (hfinal : (f row).state.isOpen = false) (hexplained : Explained sha256 disk (f row)) :
    Remaining sha256 lease₀ rest { disk with db := { disk.db with
      publications := disk.db.publications.modify row.intent.publicationId f } } := by
  obtain ⟨hrow, -⟩ := h.read row List.mem_cons_self
  have hnodup := h.nodup
  rw [List.map_cons, List.nodup_cons] at hnodup
  refine ⟨h.consistent.update hrow hintent hexplained, hnodup.2, ?_, ?_, h.lease⟩
  · intro other hother
    obtain ⟨hget, hopen⟩ := h.read other (List.mem_cons_of_mem _ hother)
    refine ⟨(Table.get?_modify ..).trans ?_, hopen⟩
    rw [if_neg]
    · exact hget
    · intro hid
      exact hnodup.1 (List.mem_map.mpr ⟨other, hother, hid⟩)
  · intro id other hother hopen
    have hget := (Table.get?_modify ..).symm.trans hother
    split at hget
    · rename_i hid
      rw [hid, hrow, Option.map_some, Option.some.injEq] at hget
      rw [← hget, hfinal] at hopen
      cases hopen
    · rename_i hid
      rcases List.mem_cons.mp (h.complete id other hget hopen) with rfl | hmem
      · exact absurd (h.consistent.keyed id other hget).symm hid
      · exact hmem

theorem Remaining.fail {db : Database} (h : Remaining sha256 lease₀ (row :: rest) disk)
    (hstaging : disk.staging.get? (stagingPath row.intent) = none)
    (hfree : disk.acquisitions.get? (destination row.intent) = none)
    (hcall : failRawPublication row.intent.publicationId lease now disk.db = (.ok (), db)) :
    Remaining sha256 lease₀ rest { disk with db := db } := by
  obtain ⟨-, -, rfl⟩ := failRawPublication_eq_ok.mp hcall
  exact h.finish (fun _ => rfl) rfl ⟨hstaging, hfree⟩

theorem Remaining.commit {db : Database} (h : Remaining sha256 lease₀ (row :: rest) disk)
    (hexposed : Exposed sha256 disk row.intent)
    (hcall : commitRawPublication (referenceOf row.intent) lease now disk.db = (.ok (), db)) :
    Remaining sha256 lease₀ rest { disk with db := db } := by
  obtain ⟨-, -, rfl⟩ := commitRawPublication_eq_ok.mp hcall
  exact h.finish (fun _ => rfl) rfl ⟨rfl, hexposed⟩

/-- The first row, with its destination still free. -/
def Unexposed (sha256 : List UInt8 → Sha256Hex) (lease₀ : Option RuntimeLeaseRow)
    (row : RawPublicationRow) (rest : List RawPublicationRow) (disk : Disk) : Prop :=
  Remaining sha256 lease₀ (row :: rest) disk ∧
    disk.acquisitions.get? (destination row.intent) = none

theorem Unexposed.restages :
    Restages (Unexposed sha256 lease₀ row rest) (stagingPath row.intent) := by
  intro disk staging ⟨h, hfree⟩ hother
  obtain ⟨hrow, hopen⟩ := h.read row List.mem_cons_self
  exact ⟨⟨h.consistent.restage hrow hopen hfree hother, h.nodup, h.read, h.complete, h.lease⟩, hfree⟩

/-- What `reconcileRecord` sees of the two directories of a row that is not final. -/
theorem Remaining.inspect (h : Remaining sha256 lease₀ (row :: rest) disk) :
    disk.acquisitions.get? (destination row.intent) = none ∨ Exposed sha256 disk row.intent := by
  obtain ⟨hrow, hopen⟩ := h.read row List.mem_cons_self
  exact (h.consistent.explained _ row hrow).open_cases hopen

/-- One round: when it returns, the row is final. -/
theorem reconcileRecord_triple :
    Proc.Triple ev (Consistent sha256) (Remaining sha256 lease₀ (row :: rest))
      (reconcileRecord sha256 lease now row) (fun _ => Remaining sha256 lease₀ rest)
      (fun _ => Consistent sha256) := by
  have hfail : Proc.Triple ev (Consistent sha256)
      (fun disk => Unexposed sha256 lease₀ row rest disk ∧
        disk.staging.get? (stagingPath row.intent) = none)
      (do
        transactionStep (ReconcilePoint.fail row.intent.publicationId)
          (failRawPublication row.intent.publicationId lease now)
        pure (none : Option CommittedRawReference))
      (fun _ => Remaining sha256 lease₀ rest) (fun _ => Consistent sha256) :=
    .bind (transactionStep_triple (fun _ h => h.1.1.consistent)
      (fun _ _ _ _ h hcall => h.1.1.fail h.2 h.1.2 hcall) (fun _ _ h => h.1.1.consistent)
      (fun _ _ _ _ _ h hcall => (h.1.1.fail h.2 h.1.2 hcall).consistent)) fun _ =>
        .pure fun _ h => h
  refine .bind (M := fun seen disk => Remaining sha256 lease₀ (row :: rest) disk ∧
      seen.1 = (disk.staging.get? (stagingPath row.intent)).isSome ∧
      seen.2 = (disk.acquisitions.get? (destination row.intent)).isSome)
    (.read (fun _ h => h.consistent) (fun _ _ h hread => ⟨h, by cases hread; exact ⟨rfl, rfl⟩⟩)
      (fun _ _ h => h.consistent)) fun (staged, exposed) => ?_
  have hnone : ∀ {β : Type} {o : Option β}, false = o.isSome → o = none := by
    intro β o h
    cases o with
    | none => rfl
    | some b => cases h
  match staged, exposed with
  | false, true =>
    -- the bundle was exposed: commit it
    let Shown : Disk → Prop := fun disk => Remaining sha256 lease₀ (row :: rest) disk ∧
      Exposed sha256 disk row.intent
    refine .bind (M := fun ref disk => Shown disk ∧ ref = referenceOf row.intent)
      (.ofExcept ?_ (fun _ _ _ h => h.1.consistent)) fun ref => ?_
    · rintro ref disk href ⟨h, -, hexposed⟩
      refine ⟨⟨h, ?_⟩, (reference_eq_ok.mp href).2⟩
      rcases h.inspect with hfree | hshown
      · rw [hfree] at hexposed
        cases hexposed
      · exact hshown
    · refine .bind (M := fun _ disk => Shown disk ∧ ref = referenceOf row.intent)
        (.read (fun _ h => h.1.1.consistent) (fun _ _ h _ => h) (fun _ _ h => h.1.1.consistent))
        fun _ => .bind (M := fun _ => Remaining sha256 lease₀ rest)
          (transactionStep_triple (fun _ h => h.1.1.consistent) ?_ (fun _ _ h => h.1.1.consistent)
            ?_) fun _ => .pure fun _ h => h
      · rintro - disk _ db ⟨h, rfl⟩ hcall
        exact h.1.commit h.2 hcall
      · rintro e - disk _ db ⟨h, rfl⟩ hcall
        exact (h.1.commit h.2 hcall).consistent
  | true, false =>
    refine .bind ((removeBundle_triple Unexposed.restages).weaken
      (fun _ h => ⟨h.1, hnone h.2.2⟩) (fun _ h => h.1.consistent) (fun _ _ h => h)
      (fun _ _ h => h.1.consistent)) fun _ => hfail
  | false, false =>
    exact hfail.weaken (fun _ h => ⟨⟨h.1, hnone h.2.2⟩, hnone h.2.1⟩) (fun _ h => h)
      (fun _ _ h => h) (fun _ _ h => h)
  | true, true => exact .raise fun _ h => h.1.consistent

theorem reconcileRecords_triple (rows : List RawPublicationRow) :
    Proc.Triple ev (Consistent sha256) (Remaining sha256 lease₀ rows)
      (reconcileRecords sha256 lease now rows) (fun _ => Remaining sha256 lease₀ [])
      (fun _ => Consistent sha256) := by
  induction rows with
  | nil => exact .pure fun _ h => h
  | cons row rest ih =>
    exact .bind reconcileRecord_triple fun _ => .bind ih fun _ => .pure fun _ h => h

/-- The rows `reconcile` reads are those not final, once each. -/
theorem Consistent.remaining (h : Consistent sha256 disk) :
    Remaining sha256 disk.db.lease (openRecords disk.db) disk := by
  have hmem : ∀ id row, (id, row) ∈ orderBy (fun a b => decide (a.1.text ≤ b.1.text))
      (disk.db.publications.select fun _ row => row.state.isOpen) ↔
        disk.db.publications.get? id = some row ∧ row.state.isOpen = true := by
    intro id row
    rw [mem_orderBy, Table.mem_select]
  refine ⟨h, ?_, ?_, ?_, rfl⟩
  · -- the identifiers of the rows are their keys
    have hkeys : (openRecords disk.db).map (fun row => row.intent.publicationId) =
        (orderBy (fun a b => decide (a.1.text ≤ b.1.text))
          (disk.db.publications.select fun _ row => row.state.isOpen)).map Prod.fst := by
      rw [openRecords, List.map_map]
      refine List.map_congr_left fun (id, row) hrow => ?_
      exact h.keyed id row ((hmem id row).mp hrow).1
    rw [hkeys]
    exact ((List.perm_insertionSort _ _).map Prod.fst).nodup_iff.mpr
      (Table.select_keys_nodup _ _)
  · intro row hrow
    obtain ⟨⟨id, row⟩, hentry, rfl⟩ := List.mem_map.mp hrow
    obtain ⟨hget, hopen⟩ := (hmem id row).mp hentry
    refine ⟨?_, hopen⟩
    show disk.db.publications.get? row.intent.publicationId = some row
    rw [h.keyed id row hget]
    exact hget
  · intro id row hget hopen
    exact List.mem_map.mpr ⟨(id, row), (hmem id row).mpr ⟨hget, hopen⟩, rfl⟩

/-- **`reconcile` keeps the invariant wherever it stops**, and when it returns no row
is left that is not final. -/
theorem reconcile_triple :
    Proc.Triple ev (Consistent sha256)
      (fun disk => Consistent sha256 disk ∧ disk.db.lease = lease₀) (reconcile sha256 lease now)
      (fun _ => Remaining sha256 lease₀ []) (fun _ => Consistent sha256) := by
  refine .bind (M := fun _ disk => Consistent sha256 disk ∧ disk.db.lease = lease₀)
    (.read (fun _ h => h.1) (fun _ _ h _ => h) (fun _ _ h => h.1)) fun _ => ?_
  refine .bind (M := fun records => Remaining sha256 lease₀ records)
    (.read (fun _ h => h.1) ?_ (fun _ _ h => h.1)) fun records =>
    .bind (reconcileRecords_triple records) fun repaired => ?_
  · rintro disk records ⟨h, rfl⟩ hread
    cases hread
    exact h.remaining
  · have hkeep : ∀ {β : Type} {m : Proc ReconcilePoint PublishError Disk β},
        Proc.Keeps (Remaining sha256 lease₀ []) m →
          Proc.Triple ev (Consistent sha256) (Remaining sha256 lease₀ []) m
            (fun _ => Remaining sha256 lease₀ []) (fun _ => Consistent sha256) :=
      fun h => (h ev).weaken (fun _ h => h) (fun _ h => h.consistent) (fun _ _ h => h)
        (fun _ _ h => h.consistent)
    refine .bind (hkeep .read) fun committed => .bind (hkeep (.forM fun row => ?_)) fun _ =>
      .pure fun _ h => h
    exact .bind .ofExcept fun _ => .bind .ofExcept fun _ => .read

/-! ## With nothing to stop it -/

/-- Nothing happens at any step. -/
def calm : ReconcilePoint → StockResearch.Event PublishError := fun _ => .proceeds

/-- The lease is good for the row the database holds of it. -/
def LeaseGood (lease₀ : Option RuntimeLeaseRow) (lease : RuntimeLease) (now : DateTime) : Prop :=
  ∀ db : Database, db.lease = lease₀ → assertFence db lease now = .ok ()

/-- One round returns. -/
theorem reconcileRecord_returns (hfence : LeaseGood lease₀ lease now) :
    Proc.Triple calm (fun _ => False) (Remaining sha256 lease₀ (row :: rest))
      (reconcileRecord sha256 lease now row) (fun _ => Remaining sha256 lease₀ rest)
      (fun _ _ => False) := by
  have hfail : Proc.Triple calm (fun _ => False)
      (fun disk => Unexposed sha256 lease₀ row rest disk ∧
        disk.staging.get? (stagingPath row.intent) = none)
      (do
        transactionStep (ReconcilePoint.fail row.intent.publicationId)
          (failRawPublication row.intent.publicationId lease now)
        pure (none : Option CommittedRawReference))
      (fun _ => Remaining sha256 lease₀ rest) (fun _ _ => False) := by
    refine .bind (M := fun _ => Remaining sha256 lease₀ rest)
      (transactionStep_proceeds rfl fun disk ⟨⟨h, hfree⟩, hnone⟩ => ?_) fun _ => .pure fun _ h => h
    have hcall := failRawPublication_eq_ok.mpr
      ⟨hfence disk.db h.lease, ⟨row, h.read row List.mem_cons_self⟩, rfl⟩
    exact ⟨(), _, hcall, h.fail hnone hfree hcall⟩
  refine .bind (M := fun seen disk => Remaining sha256 lease₀ (row :: rest) disk ∧
      seen.1 = (disk.staging.get? (stagingPath row.intent)).isSome ∧
      seen.2 = (disk.acquisitions.get? (destination row.intent)).isSome)
    (.read_proceeds rfl fun disk h => ⟨_, rfl, h, rfl, rfl⟩) fun (staged, exposed) => ?_
  have hnone : ∀ {β : Type} {o : Option β}, false = o.isSome → o = none := by
    intro β o h
    cases o with
    | none => rfl
    | some b => cases h
  -- a destination that is there is an exposed bundle
  have hshown : ∀ {disk : Disk}, Remaining sha256 lease₀ (row :: rest) disk →
      true = (disk.acquisitions.get? (destination row.intent)).isSome →
        Exposed sha256 disk row.intent := by
    intro disk h hexposed
    rcases h.inspect with hfree | hshown
    · rw [hfree] at hexposed
      cases hexposed
    · exact hshown
  match staged, exposed with
  | false, true =>
    let Shown : Disk → Prop := fun disk => Remaining sha256 lease₀ (row :: rest) disk ∧
      Exposed sha256 disk row.intent
    refine .bind (M := fun ref disk => Shown disk ∧ ref = referenceOf row.intent)
      (.ofExcept ?_ ?_) fun ref => ?_
    · rintro ref disk href ⟨h, -, hexposed⟩
      exact ⟨⟨h, hshown h hexposed⟩, (reference_eq_ok.mp href).2⟩
    · rintro e disk herror ⟨h, -, hexposed⟩
      rw [(hshown h hexposed).reference] at herror
      cases herror
    · refine .bind (M := fun _ disk => Shown disk ∧ ref = referenceOf row.intent)
        (.read_proceeds rfl ?_) fun _ => .bind (M := fun _ => Remaining sha256 lease₀ rest)
          (transactionStep_proceeds rfl ?_) fun _ => .pure fun _ h => h
      · rintro disk ⟨h, rfl⟩
        exact ⟨(), h.2.verifyCommitted, h, rfl⟩
      · rintro disk ⟨⟨h, hexposed⟩, rfl⟩
        obtain ⟨hrow, hopen⟩ := h.read row List.mem_cons_self
        have hcall := commitRawPublication_eq_ok.mpr
          ⟨hfence disk.db h.lease, ⟨row, hrow, refersTo_referenceOf row.intent, hopen⟩, rfl⟩
        exact ⟨(), _, hcall, h.commit hexposed hcall⟩
  | true, false =>
    exact .bind ((removeBundle_returns Unexposed.restages rfl (fun _ => rfl) rfl).weaken
      (fun _ h => ⟨⟨h.1, hnone h.2.2⟩, h.2.1.symm⟩) (fun _ h => h) (fun _ _ h => h)
      (fun _ _ h => h)) fun _ => hfail
  | false, false =>
    exact hfail.weaken (fun _ h => ⟨⟨h.1, hnone h.2.2⟩, hnone h.2.1⟩) (fun _ h => h)
      (fun _ _ h => h) (fun _ _ h => h)
  | true, true =>
    -- an exposed bundle leaves no staging directory
    refine .raise fun disk ⟨h, hstaged, hexposed⟩ => ?_
    rw [(hshown h hexposed).1] at hstaged
    cases hstaged

theorem reconcileRecords_returns (hfence : LeaseGood lease₀ lease now)
    (rows : List RawPublicationRow) :
    Proc.Triple calm (fun _ => False) (Remaining sha256 lease₀ rows)
      (reconcileRecords sha256 lease now rows) (fun _ => Remaining sha256 lease₀ [])
      (fun _ _ => False) := by
  induction rows with
  | nil => exact .pure fun _ h => h
  | cons row rest ih =>
    exact .bind (reconcileRecord_returns hfence) fun _ => .bind ih fun _ => .pure fun _ h => h

/-- Every committed row passes the integrity check. -/
theorem verifyRecord_returns {rows : List RawPublicationRow} :
    let Listed : List RawPublicationRow → Disk → Prop := fun rows disk =>
      Remaining sha256 lease₀ [] disk ∧ ∀ row ∈ rows, row.state = .committed ∧
        ∃ id, disk.db.publications.get? id = some row
    Proc.Triple calm (fun _ => False) (Listed rows) (rows.forM (verifyRecord sha256))
      (fun _ => Listed []) (fun _ _ => False) := by
  intro Listed
  refine .forM Listed fun row rest => ?_
  -- a committed row has its path and its acquisition
  have hexplained : ∀ {disk : Disk}, Listed (row :: rest) disk →
      row.relativePath = some (relativePath row.intent) ∧ Exposed sha256 disk row.intent := by
    intro disk h
    obtain ⟨hstate, id, hrow⟩ := h.2 row List.mem_cons_self
    have hexplained := h.1.consistent.explained id row hrow
    unfold Explained at hexplained
    rw [hstate] at hexplained
    exact hexplained
  -- so each of its three reads succeeds
  refine .bind (M := fun path disk => Listed (row :: rest) disk ∧ path = relativePath row.intent)
    (.ofExcept ?_ ?_) fun path =>
    .bind (M := fun ref disk => Listed (row :: rest) disk ∧ ref = referenceOf row.intent)
      (.ofExcept ?_ ?_) fun ref => .read_proceeds rfl ?_
  · intro path disk hpath h
    rw [(hexplained h).1, fetch_eq_ok] at hpath
    exact ⟨h, (Option.some.inj hpath).symm⟩
  · intro e disk herror h
    rw [(hexplained h).1] at herror
    cases herror
  · rintro ref disk href ⟨h, rfl⟩
    exact ⟨h, (reference_eq_ok.mp href).2⟩
  · rintro e disk herror ⟨h, rfl⟩
    rw [(hexplained h).2.reference] at herror
    cases herror
  · rintro disk ⟨h, rfl⟩
    exact ⟨(), (hexplained h).2.verifyCommitted, h.1, fun other hother =>
      h.2 other (List.mem_cons_of_mem _ hother)⟩

/-- **`reconcile` returns**, from a consistent state, with a good lease and nothing to
stop it. -/
theorem reconcile_returns (hfence : LeaseGood lease₀ lease now) :
    Proc.Triple calm (fun _ => False)
      (fun disk => Consistent sha256 disk ∧ disk.db.lease = lease₀) (reconcile sha256 lease now)
      (fun _ => Remaining sha256 lease₀ []) (fun _ _ => False) := by
  refine .bind (M := fun _ disk => Consistent sha256 disk ∧ disk.db.lease = lease₀)
    (.read_proceeds rfl fun _ h => ⟨(), rfl, h⟩) fun _ =>
    .bind (M := fun records => Remaining sha256 lease₀ records)
      (.read_proceeds rfl ?_) fun records =>
    .bind (reconcileRecords_returns hfence records) fun repaired => ?_
  · rintro disk ⟨h, rfl⟩
    exact ⟨_, rfl, h.remaining⟩
  · refine .bind (M := fun committed disk => Remaining sha256 lease₀ [] disk ∧
      ∀ row ∈ committed, row.state = .committed ∧ ∃ id, disk.db.publications.get? id = some row)
      (.read_proceeds rfl fun disk h => ⟨_, rfl, h, ?_⟩) fun committed =>
      .bind verifyRecord_returns fun _ => .pure fun _ h => h.1
    intro row hrow
    obtain ⟨⟨id, row⟩, hentry, rfl⟩ := List.mem_map.mp hrow
    rw [mem_orderBy, Table.mem_select, decide_eq_true_eq] at hentry
    exact ⟨hentry.2, id, hentry.1⟩

/-! ## Settled publications -/

/-- Every row is final, without a staging directory, and committed exactly when its
destination holds the bundle of its intent. -/
structure Settled (sha256 : List UInt8 → Sha256Hex) (disk : Disk) : Prop where
  final : ∀ id row, disk.db.publications.get? id = some row →
    row.state = .committed ∨ row.state = .failed
  unstaged : ∀ id row, disk.db.publications.get? id = some row →
    disk.staging.get? (stagingPath row.intent) = none
  committed_iff : ∀ id row, disk.db.publications.get? id = some row →
    (row.state = .committed ↔ ∃ bundle,
      disk.acquisitions.get? (destination row.intent) = some bundle ∧
        bundle.Matches sha256 row.intent)

/-- Once no row is left to visit, every row says what is on disk. -/
theorem Remaining.settled (h : Remaining sha256 lease₀ [] disk) : Settled sha256 disk := by
  have hfinal : ∀ id row, disk.db.publications.get? id = some row → row.state.isOpen = false := by
    intro id row hrow
    by_contra hopen
    rw [Bool.not_eq_false] at hopen
    cases h.complete id row hrow hopen
  -- a final row is committed and exposed, or failed and without directories
  have hcases : ∀ id row, disk.db.publications.get? id = some row →
      row.state = .committed ∧ Exposed sha256 disk row.intent ∨
      row.state = .failed ∧ disk.staging.get? (stagingPath row.intent) = none ∧
        disk.acquisitions.get? (destination row.intent) = none := by
    intro id row hrow
    have hexplained := h.consistent.explained id row hrow
    have hclosed := hfinal id row hrow
    unfold Explained at hexplained
    cases hstate : row.state with
    | committed => rw [hstate] at hexplained; exact .inl ⟨rfl, hexplained.2⟩
    | failed => rw [hstate] at hexplained; exact .inr ⟨rfl, hexplained⟩
    | staging => rw [hstate] at hclosed; cases hclosed
    | reconciliationRequired => rw [hstate] at hclosed; cases hclosed
  refine ⟨?_, ?_, ?_⟩
  · intro id row hrow
    exact (hcases id row hrow).imp And.left And.left
  · intro id row hrow
    rcases hcases id row hrow with ⟨-, hexposed⟩ | ⟨-, hstaging, -⟩
    · exact hexposed.1
    · exact hstaging
  · intro id row hrow
    rcases hcases id row hrow with ⟨hstate, hexposed⟩ | ⟨hstate, -, hfree⟩
    · exact ⟨fun _ => hexposed.2.2, fun _ => hstate⟩
    · rw [hstate, hfree]
      constructor
      · nofun
      · rintro ⟨bundle, hbundle, -⟩
        cases hbundle

end

/-! ## Runs -/

/-- What uses the runtime, one at a time. -/
inductive Session where
  | publish (p : Publication) (ev : PublishPoint → StockResearch.Event PublishError)
  | reconcile (lease : RuntimeLease) (now : DateTime) (ev : ReconcilePoint → StockResearch.Event PublishError)
  | operation (op : Operation)

/-- What a session leaves behind, wherever it stops. -/
def Session.next (sha256 : List UInt8 → Sha256Hex) : Session → Disk → Disk
  | .publish p ev, disk => (p.publish sha256 ev disk).2
  | .reconcile lease now ev, disk => (Requests.reconcile sha256 lease now ev disk).2
  | .operation op, disk => { disk with db := op.next disk.db }

/-- Publications rename to a path that a reference can carry and clean up behind a
recorded failure; publication rows are written by `publish` and `reconcile` only. -/
def Session.Clean : Session → Disk → Prop
  | .publish p ev, disk => p.RenamesPath ev ∧ p.CleanFailure ev disk
  | .reconcile .., _ => True
  | .operation op, _ => op.publishes = false

/-- No publication has been begun. -/
structure Fresh (disk : Disk) : Prop where
  publications : ∀ id, disk.db.publications.get? id = none
  staging : ∀ path, disk.staging.get? path = none
  acquisitions : ∀ path, disk.acquisitions.get? path = none

theorem Fresh.consistent {disk : Disk} (h : Fresh disk) : Consistent sha256 disk := by
  refine ⟨?_, ?_, ?_, ?_, ?_⟩
  · intro id row hrow
    rw [h.publications] at hrow
    cases hrow
  · intro id row id' row' hrow
    rw [h.publications] at hrow
    cases hrow
  · intro id row hrow
    rw [h.publications] at hrow
    cases hrow
  · intro path bundle hbundle
    rw [h.staging] at hbundle
    cases hbundle
  · intro path bundle hbundle
    rw [h.acquisitions] at hbundle
    cases hbundle

/-- Only the publication rows of the database matter. -/
theorem Consistent.of_publications {disk : Disk} {db : Database} (h : Consistent sha256 disk)
    (hsame : db.publications = disk.db.publications) :
    Consistent sha256 { disk with db := db } := by
  refine ⟨?_, ?_, ?_, ?_, ?_⟩
  all_goals simp only [hsame]
  · exact h.keyed
  · exact h.unique
  · exact fun id row hrow => (h.explained id row hrow).congr rfl rfl
  · exact h.stagingOwned
  · exact h.acquisitionOwned

/-- A clean session keeps the invariant. -/
theorem Session.Clean.consistent {session : Session} {disk : Disk} (hclean : session.Clean disk)
    (h : Consistent sha256 disk) : Consistent sha256 (session.next sha256 disk) := by
  cases session with
  | publish p ev =>
    have hends := Publication.publish_consistent h hclean.1 hclean.2
    show Consistent sha256 (p.publish sha256 ev disk).2
    match hout : p.publish sha256 ev disk, hends with
    | (.ok _, _), hends => exact hends.1
    | (.raised _, _), hends => exact hends
    | (.crashed, _), hends => exact hends
  | reconcile lease now ev =>
    have htriple : Proc.Triple ev _ (fun d => Consistent sha256 d ∧ d.db.lease = disk.db.lease)
        (Requests.reconcile sha256 lease now) _ _ := reconcile_triple
    have hends := htriple disk ⟨h, rfl⟩
    show Consistent sha256 (Requests.reconcile sha256 lease now ev disk).2
    match hout : Requests.reconcile sha256 lease now ev disk, hends with
    | (.ok _, _), hends => exact hends.consistent
    | (.raised _, _), hends => exact hends
    | (.crashed, _), hends => exact hends
  | operation op => exact h.of_publications ((op.transition disk.db).publications hclean)

/-- A clean session keeps final rows and exposed bundles. -/
theorem Session.Clean.frozen {session : Session} {disk : Disk} (hclean : session.Clean disk) :
    Frozen disk (session.next sha256 disk) := by
  cases session with
  | publish p ev => exact Publication.publish_frozen.apply ev (Frozen.refl disk)
  | reconcile lease now ev => exact reconcile_frozen.apply ev (Frozen.refl disk)
  | operation op =>
    refine ⟨fun id row hrow _ => ?_, fun _ _ h => h⟩
    show (op.next disk.db).publications.get? id = some row
    rw [(op.transition disk.db).publications hclean]
    exact hrow

/-- A committed row stays committed along a run of clean sessions. -/
theorem Publication.Committed.later {p : Publication} {disk later : Disk}
    (h : p.Committed disk)
    (hrun : Reaches (Session.next sha256) Session.Clean disk later) : p.Committed later := by
  have hfrozen : Frozen disk later :=
    Reaches.related (fun _ => True) Frozen Frozen.refl (fun _ _ _ => Frozen.trans)
      (fun _ _ _ _ => trivial) (fun _ _ hclean _ => hclean.frozen) trivial hrun
  obtain ⟨row, hrow, hintent, hstate, hpath⟩ := h
  exact ⟨row, hfrozen.rows _ row hrow (by rw [hstate]; rfl), hintent, hstate, hpath⟩

/-- What a publisher can count on in a state. -/
structure CrashConsistent (sha256 : List UInt8 → Sha256Hex) (disk : Disk) : Prop where
  /-- A reconciliation that nothing stops returns. -/
  reconciles : ∀ lease now, assertFence disk.db lease now = .ok () →
    ∃ refs after, reconcile sha256 lease now calm disk = (.ok refs, after)
  /-- When a reconciliation returns, every publication is settled. -/
  settled : ∀ lease now ev refs after,
    reconcile sha256 lease now ev disk = (.ok refs, after) → Settled sha256 after
  /-- Final rows and exposed bundles stay as they are, whatever stops a publication. -/
  publish_frozen : ∀ (p : Publication) ev, Frozen disk (p.publish sha256 ev disk).2
  reconcile_frozen : ∀ lease now ev, Frozen disk (Requests.reconcile sha256 lease now ev disk).2
  /-- They stay as they are in every later state. -/
  frozen : ∀ later, Reaches (Session.next sha256) Session.Clean disk later → Frozen disk later
  /-- A publication that returns has a committed row. -/
  committed : ∀ (p : Publication) ev ref after, p.RenamesPath ev → p.CleanFailure ev disk →
    p.publish sha256 ev disk = (.ok ref, after) → ref = referenceOf p.intent ∧ p.Committed after
  /-- Replaying it in any later state returns the same reference and changes nothing. -/
  replayed : ∀ (p : Publication) ev ref after, p.RenamesPath ev → p.CleanFailure ev disk →
    p.publish sha256 ev disk = (.ok ref, after) →
    ∀ (q : Publication) later, Reaches (Session.next sha256) Session.Clean after later →
      q.intent = p.intent → q.candidate.AgreesWith q.intent →
        q.publish sha256 (fun _ => .proceeds) later = (.ok ref, later)

/-- **Raw publication is crash-consistent**: it holds in every state of every run of
clean sessions. -/
theorem publication_crash_consistent {start disk : Disk} (hfresh : Fresh start)
    (hrun : Reaches (Session.next sha256) Session.Clean start disk) :
    CrashConsistent sha256 disk := by
  have hstep : ∀ (session : Session) (disk : Disk), session.Clean disk → Consistent sha256 disk →
      Consistent sha256 (session.next sha256 disk) := fun _ _ hclean h => hclean.consistent h
  have h := Reaches.invariant (Consistent sha256) hstep hfresh.consistent hrun
  -- a publication that returns has committed its row
  have hreturned : ∀ (p : Publication) ev ref after, p.RenamesPath ev → p.CleanFailure ev disk →
      p.publish sha256 ev disk = (.ok ref, after) →
        Consistent sha256 after ∧ ref = referenceOf p.intent ∧ p.Committed after := by
    intro p ev ref after hrenames hclean hout
    have hends := Publication.publish_consistent h hrenames hclean
    rw [hout] at hends
    exact hends
  refine ⟨?_, ?_, ?_, ?_, ?_, ?_, ?_⟩
  · -- a reconciliation under the lease returns
    intro lease now hfence
    have hgood : LeaseGood disk.db.lease lease now := fun db hlease => by
      rw [assertFence_congr hlease]
      exact hfence
    obtain ⟨refs, after, hout, -⟩ := (reconcile_returns hgood).returns ⟨h, rfl⟩
    exact ⟨refs, after, hout⟩
  · -- and leaves every row settled
    intro lease now ev refs after hout
    have htriple : Proc.Triple ev _ (fun d => Consistent sha256 d ∧ d.db.lease = disk.db.lease)
        (Requests.reconcile sha256 lease now) _ _ := reconcile_triple
    have hends := htriple disk ⟨h, rfl⟩
    rw [hout] at hends
    exact hends.settled
  · -- no call rewrites what is committed
    exact fun p ev => Publication.publish_frozen.apply ev (Frozen.refl disk)
  · exact fun lease now ev => reconcile_frozen.apply ev (Frozen.refl disk)
  · intro later hlater
    exact Reaches.related (fun _ => True) Frozen Frozen.refl (fun _ _ _ => Frozen.trans)
      (fun _ _ _ _ => trivial) (fun _ _ hclean _ => hclean.frozen) trivial hlater
  · exact fun p ev ref after hrenames hclean hout => (hreturned p ev ref after hrenames hclean hout).2
  · -- a publication that returned is replayed later
    intro p ev ref after hrenames hclean hout q later hlater hintent hagrees
    obtain ⟨hafter, rfl, hcommitted⟩ := hreturned p ev ref after hrenames hclean hout
    have hlater' := Reaches.invariant (Consistent sha256) hstep hafter hlater
    have hq : q.Committed later := by
      unfold Publication.Committed
      rw [hintent]
      exact hcommitted.later hlater
    rw [Publication.publish_replays hlater' hq hagrees, hintent]

namespace Sample

/-- The attempt of a request has ended with a response that may be published. -/
def received (request : ProductionLogicalRequest) : Disk where
  db := runAll Operation.next
    [.acquireLease owner (at_ 0) leasePolicy,
      .admitLogicalRequest request domain ⟨false⟩ lease (at_ 1) queuePolicy,
      .claimNextQueued domain lease (at_ 2),
      .acquireGates reservationId { attempt with logicalRequestId := request.logicalRequestId } keys
        policy lease (at_ 3),
      .markPhysicalAttemptStarted attempt.physicalAttemptId lease (at_ 4),
      .releaseGates ⟨reservationId, attempt.physicalAttemptId, request.logicalRequestId, 1, at_ 3⟩
        .succeeded lease (at_ 5) none] .initial
  staging := .empty
  acquisitions := .empty

/-- The digest of the sample body, `{}`. -/
def digest (_ : List UInt8) : Sha256Hex :=
  ⟨"44136fa355b3678a1146ad16f7e8649e94fb4fc21fe77e8310c060f61caaff8a", by decide⟩

/-- The publication of that response. -/
def publication (request : ProductionLogicalRequest) : Publication where
  candidate :=
    ⟨attempt.physicalAttemptId, [123, 125], (digest [123, 125]).text, "application/json", "utf-8"⟩
  intent :=
    { publicationId := ⟨"publication-1", by decide⟩, taskId := request.taskId
      logicalRequestId := request.logicalRequestId, physicalAttemptId := attempt.physicalAttemptId
      sourceId := request.sourceId, operation := request.operation
      contentSha256 := digest [123, 125], byteCount := 2, mediaType := "application/json"
      encoding := "utf-8", rawSchemaId := ⟨"schema-1", by decide⟩, rawSchemaVersion := 1
      publicationGeneration := 1 }
  lease := lease
  startedAt := at_ 6
  committedAt := at_ 7
  sourceValidator _ := none

/-- The source rejects the response. -/
def rejected : Publication := { publication request with sourceValidator := fun _ => some .source }

/-- A request whose identifier has a dot in it. -/
def dotted : ProductionLogicalRequest :=
  { request with logicalRequestId := ⟨"request.1", by decide⟩ }

/-- The publication stops before the commit. -/
def beforeCommit (point : PublishPoint) : StockResearch.Event PublishError :=
  if point = .commit then .crashes else .proceeds

/-- The failed publication stops before the first file of its staging directory is gone. -/
def beforeUnlink (point : PublishPoint) : StockResearch.Event PublishError :=
  if point = .unlink .body then .crashes else .proceeds

end Sample

theorem Sample.received_fresh : Fresh (Sample.received Sample.request) := by
  have hempty : (Sample.received Sample.request).db.publications = .empty := by decide +kernel
  refine ⟨fun id => ?_, fun _ => rfl, fun _ => rfl⟩
  rw [hempty]
  rfl

/-- The sample publication, stopped before its commit. -/
theorem publication_crash_consistent_sample :
    CrashConsistent Sample.digest (Session.next Sample.digest
      (.publish (Sample.publication Sample.request) Sample.beforeCommit)
      (Sample.received Sample.request)) :=
  publication_crash_consistent Sample.received_fresh (.single
    ⟨.publish (Sample.publication Sample.request) Sample.beforeCommit,
      ⟨fun _ => by decide +kernel, fun _ => ⟨rfl, rfl, fun _ => rfl, rfl⟩⟩, rfl⟩)

/-- A failure is recorded before its staging directory is gone: stopped in between, the
directory stays, and no reconciliation looks at a failed publication again. A bundle is
exposed before its path is known to be one a reference can carry: then `publish` and
every reconciliation raise. -/
theorem publication_not_reconciled :
    let stopped := (Sample.rejected.publish Sample.digest Sample.beforeUnlink
      (Sample.received Sample.request)).2
    let exposed := ((Sample.publication Sample.dotted).publish Sample.digest (fun _ => .proceeds)
      (Sample.received Sample.dotted)).2
    (assertFence stopped.db Sample.lease (Sample.at_ 8) = .ok () ∧
      (reconcile Sample.digest Sample.lease (Sample.at_ 8) calm stopped).1 = .ok [] ∧
      ¬ Settled Sample.digest
        (reconcile Sample.digest Sample.lease (Sample.at_ 8) calm stopped).2) ∧
    (reconcile Sample.digest Sample.lease (Sample.at_ 8) calm exposed).1 = .raised .validation ∧
      (reconcile Sample.digest Sample.lease (Sample.at_ 8) calm exposed).2.db = exposed.db := by
  intro stopped exposed
  refine ⟨⟨by decide +kernel, by decide +kernel, fun hsettled => ?_⟩, by decide +kernel,
    by decide +kernel⟩
  have hstaged := hsettled.unstaged Sample.rejected.intent.publicationId
    ⟨Sample.rejected.intent, none, .failed, Sample.at_ 6, none⟩ (by decide +kernel)
  exact absurd hstaged (by decide +kernel)

end StockResearch.Requests
