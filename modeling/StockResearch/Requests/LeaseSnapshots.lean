import StockResearch.Requests.Fencing

/-!
# Older copies of a lease

`heartbeat_lease` and `release_lease` check the clock against the caller's copy of the
lease, not against the row. An owner that keeps every copy its calls returned can present
an older one. The two checks agree with the fence exactly when the window of the copy lies
within the window of the row.

- `Leasing`: the runtime with the copies it has issued.
- `WithinRow`: the window of the copy lies within the window of the row.
-/

namespace StockResearch.Requests

/-! ## Issued copies -/

/-- The runtime and the leases that its calls have returned so far. -/
structure Leasing where
  database : Database
  issued : List RuntimeLease
deriving DecidableEq

/-- The lease a call returns. -/
def Operation.issues (op : Operation) (db : Database) : Option RuntimeLease :=
  match op with
  | .acquireLease ownerToken now policy => (Requests.acquireLease ownerToken now policy db).1.toOption
  | .heartbeatLease lease now policy => (Requests.heartbeatLease lease now policy db).1.toOption
  | .recoverExpiredLease ownerToken now policy =>
    (Requests.recoverExpiredLease ownerToken now policy db).1.toOption
  | _ => none

def Leasing.initial : Leasing := ⟨.initial, []⟩

def Leasing.next (op : Operation) (s : Leasing) : Leasing :=
  ⟨op.next s.database, s.issued ++ (op.issues s.database).toList⟩

/-- Heartbeats and releases present a copy that an earlier call returned. -/
def Leasing.Presents (op : Operation) (s : Leasing) : Prop :=
  match op with
  | .heartbeatLease lease _ _ | .releaseLease lease _ => lease ∈ s.issued
  | _ => True

instance : (op : Operation) → (s : Leasing) → Decidable (s.Presents op) := by
  rintro (_ | _) <;> unfold Leasing.Presents <;> infer_instance

/-- The window of the copy lies within the window of its row, if it still has one. -/
def WithinRow (db : Database) (lease : RuntimeLease) : Prop :=
  ∀ row ∈ currentLease db lease,
    row.heartbeatAt ≤ lease.heartbeatAt ∧ lease.expiresAt ≤ row.expiresAt

instance (db : Database) (lease : RuntimeLease) : Decidable (WithinRow db lease) :=
  inferInstanceAs (Decidable (∀ row ∈ currentLease db lease, _))

/-- As before, and the window of the copy lies within the window of the row. -/
def Leasing.PresentsWithin (op : Operation) (s : Leasing) : Prop :=
  s.Presents op ∧
    match op with
    | .heartbeatLease lease _ _ | .releaseLease lease _ => WithinRow s.database lease
    | _ => True

instance : (op : Operation) → (s : Leasing) → Decidable (s.PresentsWithin op) := by
  rintro (_ | _) <;> unfold Leasing.PresentsWithin <;> infer_instance

/-! ## What issued copies look like -/

/-- A lease lasts at least three seconds. -/
theorem leaseExpiry_later {now expires : DateTime} {policy : RuntimeLeasePolicy}
    (h : leaseExpiry now policy = .ok expires) : now < expires := by
  simp only [leaseExpiry, bind_eq_ok, fetch_eq_ok] at h
  obtain ⟨duration, hduration, hadd⟩ := h
  have hmicros := DateTime.add?_eq_some_iff.mp hadd
  have hlong := timedelta_ofNat_eq_some hduration
  have hpositive := policy.duration_ge
  rw [DateTime.lt_def]
  omega

/-- The window of every issued copy is not empty. -/
theorem Operation.issues_window {op : Operation} {db : Database} {lease : RuntimeLease}
    (h : op.issues db = some lease) : lease.heartbeatAt < lease.expiresAt := by
  cases op with
  | acquireLease ownerToken now policy =>
    rw [issues] at h
    rcases acquireLease_cases ownerToken now policy db with ⟨e, hr⟩ | ⟨_, _, _, hexpires, -, -, hr⟩
    · rw [hr] at h
      cases h
    · rw [hr] at h
      cases h
      exact leaseExpiry_later hexpires
  | heartbeatLease copy now policy =>
    rw [issues] at h
    rcases heartbeatLease_cases copy now policy db with ⟨e, hr⟩ | ⟨_, _, -, -, -, hexpires, hr⟩
    · rw [hr] at h
      cases h
    · rw [hr] at h
      cases h
      exact leaseExpiry_later hexpires
  | recoverExpiredLease ownerToken now policy =>
    rw [issues] at h
    rcases recoverExpiredLease_cases ownerToken now policy db with
      ⟨e, hr⟩ | ⟨_, _, _, _, hexpires, -, -, hr⟩
    · rw [hr] at h
      cases h
    · rw [hr] at h
      cases h
      exact leaseExpiry_later hexpires
  | _ => cases h

theorem Leasing.reaches_window {allowed : Operation → Leasing → Prop} {s : Leasing}
    (hrun : Reaches Leasing.next allowed .initial s) :
    ∀ lease ∈ s.issued, lease.heartbeatAt < lease.expiresAt := by
  refine Reaches.invariant (fun s => ∀ lease ∈ s.issued, lease.heartbeatAt < lease.expiresAt)
    (fun op s _ h => ?_) (by intro lease h; cases h) hrun
  intro lease hlease
  rcases List.mem_append.mp hlease with hold | hnew
  · exact h lease hold
  · exact Operation.issues_window (Option.mem_toList.mp hnew)

/-! ## The two checks -/

section

variable {db : Database} {lease : RuntimeLease} {now : DateTime}

/-- What a copy within its row passes, the fence passes. -/
theorem WithinRow.fence {row : RuntimeLeaseRow} (h : WithinRow db lease)
    (hrow : currentLease db lease = some row) (hheartbeat : lease.heartbeatAt ≤ now)
    (hunexpired : now < lease.expiresAt) : FenceHolds db lease now row := by
  obtain ⟨hlease, howner, hgeneration, hactive⟩ := currentLease_eq_some_iff.mp hrow
  obtain ⟨hle, hge⟩ := h row hrow
  exact ⟨hlease, howner, hgeneration, hactive, Nat.le_trans hle hheartbeat,
    Nat.lt_of_lt_of_le hunexpired hge⟩

/-- `release_lease` on the database of a current row succeeds in the window of the copy. -/
theorem releaseLease_succeeds {row : RuntimeLeaseRow} (hrow : currentLease db lease = some row)
    (hheartbeat : lease.heartbeatAt ≤ now) (hunexpired : now < lease.expiresAt) :
    ∃ db', releaseLease lease now db = (.ok (), db') := by
  refine ⟨{ db with lease := some { row with active := false } }, ?_⟩
  rw [releaseLease, transaction_eq_ok]
  simp only [bind_eq_ok, require_eq_ok, fetch_eq_ok, pure_eq_ok]
  exact ⟨(), hheartbeat, (), hunexpired, row, hrow, rfl⟩

/-- Heartbeat and release agree with the fence at every instant exactly for the copies
within their row. -/
theorem withinRow_iff (hwindow : lease.heartbeatAt < lease.expiresAt) :
    ((∀ now policy renewed db', heartbeatLease lease now policy db = (.ok renewed, db') →
        assertFence db lease now = .ok ()) ∧
      ∀ now db', releaseLease lease now db = (.ok (), db') → assertFence db lease now = .ok ()) ↔
      WithinRow db lease := by
  constructor
  · rintro ⟨-, hrelease⟩ row hrow
    have hfence : ∀ now, lease.heartbeatAt ≤ now → now < lease.expiresAt →
        row.heartbeatAt ≤ now ∧ now < row.expiresAt := by
      intro now hheartbeat hunexpired
      obtain ⟨db', hok⟩ := releaseLease_succeeds hrow hheartbeat hunexpired
      obtain ⟨row', hfence⟩ := assertFence_eq_ok.mp (hrelease now db' hok)
      obtain rfl := Option.some.inj (hrow.symm.trans hfence.current)
      exact ⟨hfence.heartbeat, hfence.unexpired⟩
    refine ⟨(hfence lease.heartbeatAt (Nat.le_refl _) hwindow).1, ?_⟩
    -- the last instant before the copy expires
    have hrange : lease.expiresAt.micros - 1 < maxMicros :=
      Nat.lt_of_le_of_lt (Nat.sub_le ..) lease.expiresAt.inRange
    rw [DateTime.lt_def] at hwindow
    have hlast := (hfence ⟨lease.expiresAt.micros - 1, hrange⟩
      (by rw [DateTime.le_def]; show _ ≤ lease.expiresAt.micros - 1; omega)
      (by rw [DateTime.lt_def]; show lease.expiresAt.micros - 1 < _; omega)).2
    rw [DateTime.lt_def] at hlast
    rw [DateTime.le_def]
    change lease.expiresAt.micros - 1 < _ at hlast
    omega
  · intro hwithin
    constructor
    · intro now policy renewed db' h
      rcases heartbeatLease_cases lease now policy db with
        hr | ⟨row, _, hrow, hheartbeat, hunexpired, -, -⟩
      · exact absurd h hr.ne_ok
      · exact assertFence_eq_ok.mpr ⟨row, hwithin.fence hrow hheartbeat hunexpired⟩
    · intro now db' h
      rcases releaseLease_cases lease now db with hr | ⟨row, hrow, hheartbeat, hunexpired, -⟩
      · exact absurd h hr.ne_ok
      · exact assertFence_eq_ok.mpr ⟨row, hwithin.fence hrow hheartbeat hunexpired⟩

end

/-! ## Runs -/

/-- The row of a later state belongs to a later generation, or its heartbeat is not
earlier. -/
def NotEarlier (old new : Option RuntimeLeaseRow) : Prop :=
  ∀ row ∈ old, ∃ row', new = some row' ∧
    (row.generation < row'.generation ∨
      row'.generation = row.generation ∧ row.heartbeatAt ≤ row'.heartbeatAt)

theorem NotEarlier.refl (row : Option RuntimeLeaseRow) : NotEarlier row row :=
  fun row hrow => ⟨row, hrow, .inr ⟨rfl, Nat.le_refl _⟩⟩

theorem NotEarlier.trans {a b c : Option RuntimeLeaseRow} (hab : NotEarlier a b)
    (hbc : NotEarlier b c) : NotEarlier a c := by
  intro row hrow
  obtain ⟨row', hrow', hle⟩ := hab row hrow
  obtain ⟨row'', hrow'', hle'⟩ := hbc row' hrow'
  refine ⟨row'', hrow'', ?_⟩
  rcases hle with hlt | ⟨hsame, hbefore⟩ <;> rcases hle' with hlt' | ⟨hsame', hbefore'⟩
  · exact .inl (hlt.trans hlt')
  · exact .inl (by omega)
  · exact .inl (by omega)
  · exact .inr ⟨hsame'.trans hsame, Nat.le_trans hbefore hbefore'⟩

theorem Leasing.PresentsWithin.notEarlier {op : Operation} {s : Leasing}
    (h : s.PresentsWithin op) : NotEarlier s.database.lease (s.next op).database.lease := by
  have hmove := op.lease_move s.database
  show NotEarlier _ (op.next s.database).lease
  generalize hnew : (op.next s.database).lease = new at hmove ⊢
  generalize hold : s.database.lease = old at hmove ⊢
  cases hmove with
  | stay => exact .refl _
  | renew howner hgeneration hactive hheartbeat hunexpired =>
    have hfence := h.2.fence (currentLease_eq_some_iff.mpr ⟨hold, howner, hgeneration, hactive⟩)
      hheartbeat hunexpired
    intro row hrow
    obtain rfl := Option.some.inj hrow
    exact ⟨_, rfl, .inr ⟨rfl, hfence.heartbeat⟩⟩
  | release =>
    intro row hrow
    obtain rfl := Option.some.inj hrow
    exact ⟨_, rfl, .inr ⟨rfl, Nat.le_refl _⟩⟩
  | grant _ hlater => exact fun row hrow => ⟨_, rfl, .inl (hlater row hrow)⟩

/-- The clock of a heartbeat or a release. -/
def Operation.tendedAt : Operation → Option DateTime
  | .heartbeatLease _ now _ | .releaseLease _ now => some now
  | _ => none

/-- Past the expiry, an owner that presents a copy within its row does not touch the row. -/
theorem Leasing.PresentsWithin.notRevived {op : Operation} {s : Leasing} {expired : DateTime}
    {row : RuntimeLeaseRow} (h : s.PresentsWithin op) (hrow : s.database.lease = some row)
    (hexpired : row.expiresAt ≤ expired) (hclock : ∀ now ∈ op.tendedAt, expired ≤ now) :
    (s.next op).database.lease = some row ∨
      ∃ row', (s.next op).database.lease = some row' ∧ row.generation < row'.generation := by
  have hmove := op.lease_move s.database
  show (op.next s.database).lease = some row ∨
    ∃ row', (op.next s.database).lease = some row' ∧ row.generation < row'.generation
  generalize hnew : (op.next s.database).lease = new at hmove ⊢
  rw [hrow] at hmove
  have hlate : ∀ {now : DateTime}, now ∈ op.tendedAt → ¬ now < row.expiresAt := fun hnow =>
    DateTime.not_lt.mpr (Nat.le_trans hexpired (hclock _ hnow))
  cases hmove with
  | stay => exact .inl rfl
  | renew howner hgeneration hactive hheartbeat hunexpired =>
    have hfence := h.2.fence (currentLease_eq_some_iff.mpr ⟨hrow, howner, hgeneration, hactive⟩)
      hheartbeat hunexpired
    exact absurd hfence.unexpired (hlate rfl)
  | release howner hgeneration hactive hheartbeat hunexpired =>
    have hfence := h.2.fence (currentLease_eq_some_iff.mpr ⟨hrow, howner, hgeneration, hactive⟩)
      hheartbeat hunexpired
    exact absurd hfence.unexpired (hlate rfl)
  | grant _ hlater => exact .inr ⟨_, rfl, hlater row rfl⟩

/-- What an owner does past the expiry of its lease is in vain, until the next grant. -/
theorem Leasing.expired_kept {s t : Leasing} {row : RuntimeLeaseRow} {expired : DateTime}
    (hrow : s.database.lease = some row) (hexpired : row.expiresAt ≤ expired)
    (hrun : Reaches Leasing.next
      (fun op s => s.PresentsWithin op ∧ ∀ now ∈ op.tendedAt, expired ≤ now) s t) :
    t.database.lease = some row ∨ Granted (row.generation + 1) t.database.lease := by
  refine Reaches.invariant
    (fun t => t.database.lease = some row ∨ Granted (row.generation + 1) t.database.lease)
    (fun op t hop h => ?_) (.inl hrow) hrun
  rcases h with hsame | hgranted
  · rcases hop.1.notRevived hsame hexpired hop.2 with h | ⟨row', hrow', hlater⟩
    · exact .inl h
    · exact .inr ⟨row', hrow', hlater⟩
  · exact .inr ((op.lease_move t.database).granted hgranted)

/-! ## The theorem -/

/-- **Heartbeat, release and the fence.** In every run whose owners present issued copies,
a heartbeat and a release with an issued copy agree with the fence at every instant if and
only if the window of the copy lies within the window of its row. In a run whose heartbeats
and releases all present such copies, the heartbeat of a generation never moves back; and
from the instant its lease expired on, the owner neither renews nor releases it. -/
theorem heartbeat_release_agree_with_fence (s : Leasing) :
    (Reaches Leasing.next (fun op s => s.Presents op) .initial s → ∀ lease ∈ s.issued,
      (((∀ now policy renewed db', heartbeatLease lease now policy s.database = (.ok renewed, db') →
          assertFence s.database lease now = .ok ()) ∧
        ∀ now db', releaseLease lease now s.database = (.ok (), db') →
          assertFence s.database lease now = .ok ()) ↔
        WithinRow s.database lease)) ∧
    (∀ t, Reaches Leasing.next (fun op s => s.PresentsWithin op) s t →
      ∀ row row', s.database.lease = some row → t.database.lease = some row' →
        row'.generation = row.generation → row.heartbeatAt ≤ row'.heartbeatAt) ∧
    ∀ t row expired, s.database.lease = some row → row.expiresAt ≤ expired →
      Reaches Leasing.next
        (fun op s => s.PresentsWithin op ∧ ∀ now ∈ op.tendedAt, expired ≤ now) s t →
      ∀ row', t.database.lease = some row' → row'.generation = row.generation → row' = row := by
  refine ⟨?_, ?_, ?_⟩
  · intro hrun lease hlease
    exact withinRow_iff (Leasing.reaches_window hrun lease hlease)
  · -- the heartbeat of a generation grows from state to state
    intro t hrun row row' hrow hrow' hsame
    have hlater : NotEarlier s.database.lease t.database.lease :=
      Reaches.related (fun _ => True) (fun s t => NotEarlier s.database.lease t.database.lease)
        (fun _ => .refl _) (fun _ _ _ => .trans) (fun _ _ _ _ => trivial)
        (fun _ _ hop _ => hop.notEarlier) trivial hrun
    obtain ⟨row'', hrow'', hlt | ⟨-, hle⟩⟩ := hlater row hrow
    · obtain rfl := Option.some.inj (hrow'.symm.trans hrow'')
      omega
    · obtain rfl := Option.some.inj (hrow'.symm.trans hrow'')
      exact hle
  · -- once expired, the row is kept or a later generation has it
    intro t row expired hrow hexpired hrun row' hrow' hsame
    rcases Leasing.expired_kept hrow hexpired hrun with h | ⟨row'', hrow'', hle⟩
    · exact Option.some.inj (hrow'.symm.trans h)
    · obtain rfl := Option.some.inj (hrow'.symm.trans hrow'')
      omega

namespace Sample

/-- The first heartbeat renews the lease until second 50. -/
def renewed : List Operation :=
  [.acquireLease owner (at_ 0) leasePolicy, .heartbeatLease lease (at_ 20) leasePolicy]

def tended : Leasing := runAll Leasing.next renewed .initial

/-- The copy the heartbeat returned. -/
def renewedLease : RuntimeLease := { lease with heartbeatAt := at_ 20, expiresAt := at_ 50 }

/-- A lease of one minute, and a heartbeat that shortens it to fifteen seconds. -/
def shortened : List Operation :=
  [.acquireLease owner (at_ 0) { leaseDurationSeconds := 60, heartbeat_ge := leasePolicy.heartbeat_ge },
    .heartbeatLease { lease with expiresAt := at_ 60 } (at_ 10)
      { leaseDurationSeconds := 15, heartbeatIntervalSeconds := 5 }]

def shortTended : Leasing := runAll Leasing.next shortened .initial

/-- The copy of one minute. -/
def longLease : RuntimeLease := { lease with expiresAt := at_ 60 }

end Sample

/-- The copy of the last heartbeat agrees with the fence. -/
theorem heartbeat_release_agree_with_fence_sample :
    ∀ now db', releaseLease Sample.renewedLease now Sample.tended.database = (.ok (), db') →
      assertFence Sample.tended.database Sample.renewedLease now = .ok () :=
  (((heartbeat_release_agree_with_fence Sample.tended).1 (Reaches.runAll (by decide +kernel))
    Sample.renewedLease (by decide +kernel)).mpr (by decide +kernel)).2

/-- After a heartbeat at second 20, the first copy renews the lease at second 10, which
moves its heartbeat back. After a heartbeat that let the lease expire at second 25, the
first copy renews it, or releases it, at second 40. The fence refuses both instants. -/
theorem older_copy_passes :
    (Reaches Leasing.next (fun op s => s.Presents op) .initial Sample.tended ∧
      Sample.lease ∈ Sample.tended.issued ∧
      Sample.tended.database.lease.map (·.heartbeatAt) = some (Sample.at_ 20) ∧
      assertFence Sample.tended.database Sample.lease (Sample.at_ 10) =
        .error (.storage .runtimeClockRollback) ∧
      ((heartbeatLease Sample.lease (Sample.at_ 10) {} Sample.tended.database).2.lease.map
        (·.heartbeatAt)) = some (Sample.at_ 10)) ∧
    Reaches Leasing.next (fun op s => s.Presents op) .initial Sample.shortTended ∧
      Sample.longLease ∈ Sample.shortTended.issued ∧
      Sample.shortTended.database.lease.map (·.expiresAt) = some (Sample.at_ 25) ∧
      assertFence Sample.shortTended.database Sample.longLease (Sample.at_ 40) =
        .error (.storage .runtimeLeaseExpired) ∧
      ((heartbeatLease Sample.longLease (Sample.at_ 40) {} Sample.shortTended.database).2.lease.map
        (·.expiresAt)) = some (Sample.at_ 70) ∧
      (releaseLease Sample.longLease (Sample.at_ 40) Sample.shortTended.database).1 = .ok () :=
  ⟨⟨Reaches.runAll (by decide +kernel), by decide +kernel, by decide +kernel, by decide +kernel,
    by decide +kernel⟩, Reaches.runAll (by decide +kernel), by decide +kernel, by decide +kernel,
    by decide +kernel, by decide +kernel, by decide +kernel⟩

end StockResearch.Requests
