import StockResearch.Requests.Schema

/-!
# The fence

Every fenced operation first asserts that the caller's lease generation is the
persisted, active one and that its clock lies between the last heartbeat and the
expiry. `heartbeat_lease` and `release_lease` check the caller's copy of these
instants instead.
-/

namespace StockResearch.Requests

/-- `now + timedelta(seconds=policy.lease_duration_seconds)` -/
def leaseExpiry (now : DateTime) (policy : RuntimeLeasePolicy) : Except Exn DateTime := do
  let duration ← fetch (timedelta (.ofNat policy.leaseDurationSeconds)) .overflow
  fetch (now.add? duration) .overflow

/-- The active row of this owner and generation. -/
def currentLease (db : Database) (lease : RuntimeLease) : Option RuntimeLeaseRow :=
  db.lease.filter fun row =>
    row.ownerToken = lease.ownerToken && row.generation = lease.generation && row.active

/-- `_assert_fence` -/
def assertFence (db : Database) (lease : RuntimeLease) (now : DateTime) : Except Exn Unit := do
  let row ← fetch (currentLease db lease) (.storage .staleRuntimeLease)
  require (row.heartbeatAt ≤ now) (.storage .runtimeClockRollback)
  require (now < row.expiresAt) (.storage .runtimeLeaseExpired)

/-- What `assertFence` accepts. -/
structure FenceHolds (db : Database) (lease : RuntimeLease) (now : DateTime)
    (row : RuntimeLeaseRow) : Prop where
  persisted : db.lease = some row
  owner : row.ownerToken = lease.ownerToken
  generation : row.generation = lease.generation
  active : row.active = true
  heartbeat : row.heartbeatAt ≤ now
  unexpired : now < row.expiresAt

theorem currentLease_eq_some_iff {db : Database} {lease : RuntimeLease} {row : RuntimeLeaseRow} :
    currentLease db lease = some row ↔
      db.lease = some row ∧ row.ownerToken = lease.ownerToken ∧
        row.generation = lease.generation ∧ row.active = true := by
  simp [currentLease, Option.filter_eq_some_iff, and_assoc]

theorem assertFence_eq_ok {db : Database} {lease : RuntimeLease} {now : DateTime} {u : Unit} :
    assertFence db lease now = .ok u ↔ ∃ row, FenceHolds db lease now row := by
  simp only [assertFence, bind_eq_ok, fetch_eq_ok, require_eq_ok, currentLease_eq_some_iff]
  constructor
  · rintro ⟨row, ⟨h₁, h₂, h₃, h₄⟩, -, h₅, h₆⟩
    exact ⟨row, h₁, h₂, h₃, h₄, h₅, h₆⟩
  · rintro ⟨row, h₁, h₂, h₃, h₄, h₅, h₆⟩
    exact ⟨row, ⟨h₁, h₂, h₃, h₄⟩, (), h₅, h₆⟩

/-- The fence raises only its own three errors. -/
theorem assertFence_eq_error {db : Database} {lease : RuntimeLease} {now : DateTime} {e : Exn}
    (h : assertFence db lease now = .error e) :
    e = .storage .staleRuntimeLease ∨ e = .storage .runtimeClockRollback ∨
      e = .storage .runtimeLeaseExpired := by
  simp only [assertFence, bind_eq_error, fetch_eq_error, require_eq_error] at h
  grind

/-- `heartbeat_lease` -/
def heartbeatLease (lease : RuntimeLease) (now : DateTime) (policy : RuntimeLeasePolicy) :
    Database → Except Exn RuntimeLease × Database :=
  transaction .runtimeLeaseHeartbeatFailed fun db => do
    require (lease.heartbeatAt ≤ now) (.storage .runtimeClockRollback)
    require (now < lease.expiresAt) (.storage .runtimeLeaseExpired)
    let expires ← leaseExpiry now policy
    let row ← fetch (currentLease db lease) (.storage .staleRuntimeLease)
    pure (.ok { lease with heartbeatAt := now, expiresAt := expires },
      { db with lease := some { row with heartbeatAt := now, expiresAt := expires } })

/-- `release_lease` -/
def releaseLease (lease : RuntimeLease) (now : DateTime) : Database → Except Exn Unit × Database :=
  transaction .runtimeLeaseReleaseFailed fun db => do
    require (lease.heartbeatAt ≤ now) (.storage .runtimeClockRollback)
    require (now < lease.expiresAt) (.storage .runtimeLeaseExpired)
    let row ← fetch (currentLease db lease) (.storage .staleRuntimeLease)
    pure (.ok (), { db with lease := some { row with active := false } })

end StockResearch.Requests
