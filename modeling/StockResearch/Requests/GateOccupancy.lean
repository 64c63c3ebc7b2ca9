import StockResearch.Requests.GateSteps

/-!
# Gate occupancy is exact

`gate_state.active_count` is a cache: it must equal the number of active
reservations that hold the gate. `GatesExact` says so, together with the shape of
reservations that the release paths rely on (eight scopes each, no stray scope
row), and every step of the gate tables keeps it.

- `Reachable.gatesExact`: the invariant on every run of the repository.
- `recoverReservations_succeed`: the release loops cannot fail on exact gates.
- `gate_occupancy_exact`: the run theorem.
-/

namespace StockResearch.Requests

open Relation (ReflTransGen)

/-- `active_count`, zero for a gate that was never used. -/
def GateTables.activeCount (gates : GateTables) (gate : GateScope × Identifier) : Nat :=
  ((gates.state.get? gate).map (·.activeCount)).getD 0

/-- Whether a reservation is active and holds the gate. -/
def GateTables.holds (gates : GateTables) (gate : GateScope × Identifier)
    (reservationId : Identifier) (row : GateReservationRow) : Bool :=
  row.state = .active && gates.reservationScopes.get? (reservationId, gate.1) = some gate.2

/-- The number of active reservations that hold the gate. -/
def GateTables.occupancy (gates : GateTables) (gate : GateScope × Identifier) : Nat :=
  gates.reservations.count (gates.holds gate)

/-- The counters are exact and every reservation has its eight scopes. -/
structure GatesExact (gates : GateTables) : Prop where
  counted : ∀ gate, gates.activeCount gate = gates.occupancy gate
  eightScopes : ∀ reservationId row, gates.reservations.get? reservationId = some row →
    ∀ scope, ∃ key, gates.reservationScopes.get? (reservationId, scope) = some key
  owned : ∀ reservationId scope key,
    gates.reservationScopes.get? (reservationId, scope) = some key →
      gates.reservations.get? reservationId ≠ none

theorem gatesExact_init : GatesExact Database.initial.gates :=
  ⟨fun _ => rfl, fun _ _ h => (nomatch h), fun _ _ _ h => (nomatch h)⟩

/-! ## What the loops do to the counters -/

theorem GatesTaken.activeCount {reservationId : Identifier} {now : DateTime}
    {taken : List (GateScope × Identifier)} {gates gates' : GateTables}
    (h : GatesTaken reservationId now taken gates gates') (gate : GateScope × Identifier) :
    gates'.activeCount gate = gates.activeCount gate + if gate ∈ taken then 1 else 0 := by
  simp only [GateTables.activeCount, h.state]
  by_cases hg : gate ∈ taken
  · cases gates.state.get? gate <;> simp [hg, acquiredRow]
  · simp [hg]

theorem GatesReturned.activeCount {returned : List (GateScope × Identifier)} {gates gates' : GateTables}
    (h : GatesReturned returned gates.state gates'.state) (gate : GateScope × Identifier) :
    gates'.activeCount gate = gates.activeCount gate - if gate ∈ returned then 1 else 0 := by
  simp only [GateTables.activeCount, h.state]
  by_cases hg : gate ∈ returned
  · cases gates.state.get? gate <;> simp [hg]
  · simp [hg]

theorem activeCount_cooldown {gates gates' : GateTables} {gate : GateScope × Identifier}
    {deadline : DateTime}
    (h : gates'.state = gates.state.modify gate fun row =>
      { row with cooldownUntil := extendCooldown row.cooldownUntil deadline })
    (gate' : GateScope × Identifier) : gates'.activeCount gate' = gates.activeCount gate' := by
  simp only [GateTables.activeCount, h, Table.get?_modify]
  by_cases hg : gate' = gate
  · subst hg
    cases gates.state.get? gate' <;> simp
  · simp [hg]

/-! ## Steps -/

theorem insertReservation_eq_ok {reservations reservations' : Table Identifier GateReservationRow}
    {reservationId : Identifier} {row : GateReservationRow} :
    insertReservation reservations reservationId row = .ok reservations' ↔
      (reservations.select fun _ other => other.physicalAttemptId = row.physicalAttemptId) = [] ∧
        reservations.get? reservationId = none ∧
        reservations' = reservations.insert reservationId row := by
  simp only [insertReservation, bind_eq_ok, require_eq_ok, insertRow_eq_ok]
  constructor
  · rintro ⟨_, h₁, h₂⟩
    exact ⟨h₁, h₂⟩
  · rintro ⟨h₁, h₂⟩
    exact ⟨(), h₁, h₂⟩

/-- An acquisition adds one to the count and one to the counter of each of its gates. -/
theorem GatesExact.acquire {gates gates' : GateTables} {keys : GateKeys} {now : DateTime}
    {reservationId : Identifier} {row : GateReservationRow} (hexact : GatesExact gates)
    (hfresh : gates.reservations.get? reservationId = none) (hactive : row.state = .active)
    (htaken : GatesTaken reservationId now keys.ordered
      { gates with reservations := gates.reservations.insert reservationId row } gates') :
    GatesExact gates' := by
  have hget : ∀ rid, gates'.reservations.get? rid =
      if rid = reservationId then some row else gates.reservations.get? rid := fun rid => by
    rw [htaken.reservations, Table.get?_insert hfresh]
  have hnone : ∀ scope key, gates.reservationScopes.get? (reservationId, scope) ≠ some key :=
    fun scope key h => hexact.owned _ _ _ h hfresh
  have hscopes : ∀ rid scope key, gates'.reservationScopes.get? (rid, scope) = some key ↔
      rid = reservationId ∧ keys.key scope = key ∨
        gates.reservationScopes.get? (rid, scope) = some key := fun rid scope key => by
    rw [htaken.scopes, mem_ordered]
  refine ⟨fun gate => ?_, fun rid r hr scope => ?_, fun rid scope key hkey => ?_⟩
  · -- both sides grow by one exactly on the acquired gates
    have hcount : gates'.activeCount gate =
        gates.activeCount gate + if gate ∈ keys.ordered then 1 else 0 := htaken.activeCount gate
    have hold : gates.reservations.count (gates'.holds gate) = gates.occupancy gate := by
      refine Table.count_congr fun rid r hr => ?_
      have hne : rid ≠ reservationId := by
        rintro rfl
        rw [hfresh] at hr
        cases hr
      have hsame : gates'.reservationScopes.get? (rid, gate.1) = some gate.2 ↔
          gates.reservationScopes.get? (rid, gate.1) = some gate.2 := by
        rw [hscopes]
        exact ⟨fun h => h.resolve_left fun h => hne h.1, .inr⟩
      simp only [GateTables.holds, hsame]
    have hnew : gates'.holds gate reservationId row = decide (gate ∈ keys.ordered) := by
      have hmem : gates'.reservationScopes.get? (reservationId, gate.1) = some gate.2 ↔
          gate ∈ keys.ordered := by
        rw [hscopes, mem_ordered]
        exact ⟨fun h => (h.resolve_right (hnone _ _)).2, fun h => .inl ⟨rfl, h⟩⟩
      simp only [GateTables.holds, hactive, hmem, decide_true, Bool.true_and]
    have hgrown : gates'.occupancy gate =
        gates.occupancy gate + if gate ∈ keys.ordered then 1 else 0 := by
      rw [GateTables.occupancy, htaken.reservations, Table.count_insert hfresh, hnew, hold]
      simp
    rw [hcount, hexact.counted, hgrown]
  · -- the new reservation has its eight scopes, the others keep theirs
    rw [hget] at hr
    by_cases hrid : rid = reservationId
    · exact ⟨keys.key scope, (hscopes _ _ _).mpr (.inl ⟨hrid, rfl⟩)⟩
    · rw [if_neg hrid] at hr
      obtain ⟨key, hkey⟩ := hexact.eightScopes rid r hr scope
      exact ⟨key, (hscopes _ _ _).mpr (.inr hkey)⟩
  · -- every scope belongs to a reservation
    rw [hget]
    by_cases hrid : rid = reservationId
    · simp [hrid]
    · rw [if_neg hrid]
      exact hexact.owned rid scope key (((hscopes _ _ _).mp hkey).resolve_left fun h => hrid h.1)

/-- Giving a reservation back takes one off the count and one off the counter of each of
its gates. -/
theorem GatesExact.giveBack {gates : GateTables} {reservationId : Identifier}
    {row : GateReservationRow} {returned : List (GateScope × Identifier)}
    {state : Table (GateScope × Identifier) GateStateRow} {final : GateReservationState}
    (hexact : GatesExact gates) (hrow : gates.reservations.get? reservationId = some row)
    (hactive : row.state = .active) (hfinal : final ≠ .active)
    (hscopes : ∀ gate, gate ∈ returned ↔ gate ∈ gates.scopesOf reservationId)
    (hreturned : GatesReturned returned gates.state state) :
    GatesExact { gates with
      state := state
      reservations := gates.reservations.modify reservationId fun row =>
        { row with state := final } } := by
  refine ⟨fun gate => ?_, fun rid r hr scope => ?_, fun rid scope key hkey => ?_⟩
  · -- the count loses the reservation exactly on the gates it held
    have hmem : gate ∈ returned ↔
        gates.reservationScopes.get? (reservationId, gate.1) = some gate.2 := by
      rw [hscopes, mem_scopesOf]
    have hcounter : (({ gates with state := state } : GateTables)).activeCount gate =
        gates.activeCount gate - if gate ∈ returned then 1 else 0 := hreturned.activeCount gate
    change (({ gates with state := state } : GateTables)).activeCount gate =
      (gates.reservations.modify reservationId fun row => { row with state := final }).count
        (gates.holds gate)
    rw [hcounter, hexact.counted, GateTables.occupancy, Table.modify, Table.count_updateWhere]
    by_cases hg : gate ∈ returned
    · rw [if_pos hg]
      refine Nat.sub_eq_of_eq_add (Table.count_eq_succ_of_differ hrow ?_ ?_ ?_)
      · simp [GateTables.holds, hactive, hmem.mp hg]
      · simp [GateTables.holds, hfinal]
      · intro rid r _ hne
        simp [hne]
    · rw [if_neg hg, Nat.sub_zero]
      refine Table.count_congr fun rid r _ => ?_
      by_cases hrid : rid = reservationId
      · subst hrid
        have hnot : gates.reservationScopes.get? (rid, gate.1) ≠ some gate.2 := fun h =>
          hg (hmem.mpr h)
        simp [GateTables.holds, hnot]
      · simp [hrid]
  · -- all reservations keep their eight scopes
    simp only [Table.get?_modify] at hr
    refine hexact.eightScopes rid (if rid = reservationId then row else r) ?_ scope
    split at hr
    · rename_i hrid
      rw [if_pos hrid, hrid, hrow]
    · rename_i hrid
      rw [if_neg hrid, hr]
  · -- and the scopes keep their reservation
    have hold := hexact.owned rid scope key hkey
    change (gates.reservations.modify _ _).get? rid ≠ none
    rw [Table.get?_modify]
    by_cases hrid : rid = reservationId
    · simp [hrid, hrow]
    · simpa [hrid] using hold

theorem GatesExact.cooldown {gates : GateTables} (hexact : GatesExact gates)
    (gate : GateScope × Identifier) (deadline : DateTime) :
    GatesExact { gates with state := gates.state.modify gate fun row =>
      { row with cooldownUntil := extendCooldown row.cooldownUntil deadline } } := by
  exact ⟨fun gate' => (activeCount_cooldown rfl gate').trans (hexact.counted gate'),
    hexact.eightScopes, hexact.owned⟩

/-- Every step of the gate tables keeps the counters exact. -/
theorem GatesExact.step {used : HierarchicalGatePolicy → GateKeys → Prop} {gates gates' : GateTables}
    (hexact : GatesExact gates) (h : GateStep used gates gates') : GatesExact gates' := by
  cases h with
  | audit => exact ⟨hexact.counted, hexact.eightScopes, hexact.owned⟩
  | acquire _ _ hreserve hactive htaken =>
    obtain ⟨-, hfresh, rfl⟩ := insertReservation_eq_ok.mp hreserve
    exact hexact.acquire hfresh hactive htaken
  | giveBack final hrow hactive hfinal _ hscopes hreturned =>
    exact hexact.giveBack hrow hactive hfinal hscopes hreturned
  | cooldown gate deadline => exact hexact.cooldown gate deadline

theorem GatesExact.steps {used : HierarchicalGatePolicy → GateKeys → Prop} {gates gates' : GateTables}
    (hexact : GatesExact gates) (h : ReflTransGen (GateStep used) gates gates') :
    GatesExact gates' := by
  induction h with
  | refl => exact hexact
  | tail _ hstep ih => exact ih.step hstep

/-- The counters are exact in every reachable database. -/
theorem Reachable.gatesExact {allowed : Operation → Database → Prop} {db : Database}
    (h : Reachable allowed db) : GatesExact db.gates := by
  refine Reaches.invariant (fun db => GatesExact db.gates) (fun op s _ hexact => ?_)
    gatesExact_init h
  exact hexact.steps ((op.transition s).gate_steps op.uses_any)

/-! ## The release loops cannot fail -/

/-- Every reservation of exact gates has the eight scopes, each once. -/
theorem GatesExact.scopes_perm {gates : GateTables} (hexact : GatesExact gates)
    {reservationId : Identifier} {row : GateReservationRow}
    (hrow : gates.reservations.get? reservationId = some row) :
    ((gates.scopesOf reservationId).map Prod.fst).Perm GateScope.all := by
  refine (List.perm_ext_iff_of_nodup (scopesOf_nodup _ _) GateScope.all_nodup).mpr fun scope => ?_
  refine ⟨fun _ => GateScope.mem_all scope, fun _ => ?_⟩
  obtain ⟨key, hkey⟩ := hexact.eightScopes _ _ hrow scope
  exact List.mem_map.mpr ⟨(scope, key), mem_scopesOf.mpr hkey, rfl⟩

theorem GatesExact.scopes_length {gates : GateTables} (hexact : GatesExact gates)
    {reservationId : Identifier} {row : GateReservationRow}
    (hrow : gates.reservations.get? reservationId = some row) :
    (gates.scopesOf reservationId).length = 8 := by
  have hlength := (hexact.scopes_perm hrow).length_eq
  rw [List.length_map] at hlength
  exact hlength

/-- A gate of an active reservation has a positive counter. -/
theorem GatesExact.held {gates : GateTables} (hexact : GatesExact gates)
    {reservationId : Identifier} {row : GateReservationRow}
    (hrow : gates.reservations.get? reservationId = some row) (hactive : row.state = .active)
    {gate : GateScope × Identifier} (hgate : gate ∈ gates.scopesOf reservationId) :
    ∃ state, gates.state.get? gate = some state ∧ 0 < state.activeCount := by
  have hpos : 0 < gates.activeCount gate := by
    rw [hexact.counted, GateTables.occupancy]
    exact Table.count_pos_iff.mpr ⟨reservationId, row, hrow, by
      simp [GateTables.holds, hactive, mem_scopesOf.mp hgate]⟩
  cases h : gates.state.get? gate with
  | none => simp [GateTables.activeCount, h] at hpos
  | some state => exact ⟨state, rfl, by simpa [GateTables.activeCount, h] using hpos⟩

/-- The guarded decrement of an active reservation never fails. -/
theorem GatesExact.decrement {gates : GateTables} (hexact : GatesExact gates)
    {reservationId : Identifier} {row : GateReservationRow}
    (hrow : gates.reservations.get? reservationId = some row) (hactive : row.state = .active)
    (error : RuntimeStorageError) {returned : List (GateScope × Identifier)}
    (hnodup : returned.Nodup) (hscopes : ∀ gate ∈ returned, gate ∈ gates.scopesOf reservationId) :
    ∃ state, decrementGates error returned gates.state = .ok state :=
  decrementGates_succeeds hnodup fun gate hm => hexact.held hrow hactive (hscopes gate hm)

/-- A loop that gives back active reservations succeeds. -/
theorem recoverReservations_succeed {error : RuntimeStorageError} {eventType : GateEventType}
    {reason : GateEventReason} {now : DateTime} {gates : GateTables}
    {pending : List (Identifier × GateReservationRow)} (hexact : GatesExact gates)
    (hpending : PendingReturns pending gates) :
    ∃ gates', pending.foldlM (recoverReservation error eventType reason now) gates =
      .ok gates' := by
  obtain ⟨gates', h, -⟩ := foldlM_succeeds (f := recoverReservation error eventType reason now)
    (fun (pending : List (Identifier × GateReservationRow)) gates =>
      PendingReturns pending gates ∧ GatesExact gates) (by
      rintro entry rest gates ⟨hpending, hexact⟩
      obtain ⟨hrow, hactive⟩ := hpending.2 entry List.mem_cons_self
      obtain ⟨state, hstate⟩ := hexact.decrement hrow hactive error
        (scopesOf_nodup gates entry.1).of_map fun _ hm => hm
      have hstep : ∃ gates', recoverReservation error eventType reason now gates entry =
          .ok gates' := by
        simp only [recoverReservation, bind_eq_ok, require_eq_ok, pure_eq_ok]
        exact ⟨_, (), hexact.scopes_length hrow, state, hstate, rfl⟩
      obtain ⟨gates', hstep⟩ := hstep
      obtain ⟨_, _, -, hgates'⟩ := recoverReservation_eq_ok hstep
      exact ⟨gates', hstep, hpending.tail (by rw [hgates']),
        hexact.steps (recoverReservation_steps (fun _ _ => True) hrow hactive hstep)⟩)
    ⟨hpending, hexact⟩
  exact ⟨gates', h⟩

theorem GatesExact.releaseGateOccupancy_succeeds {gates : GateTables} (hexact : GatesExact gates)
    (logicalRequestId : Identifier) (now : DateTime) (reason : GateEventReason) :
    ∃ gates', releaseGateOccupancy logicalRequestId now reason gates = .ok gates' :=
  recoverReservations_succeed hexact (pendingReturns_select fun _ _ h => by simp_all)

theorem GatesExact.recoverGateReservations_succeeds {gates : GateTables}
    (hexact : GatesExact gates) (generation : Nat) (now : DateTime) :
    ∃ gates', recoverGateReservations generation now gates = .ok gates' :=
  recoverReservations_succeed hexact (pendingReturns_select fun _ _ h => by simp_all)

/-! ## No release path reports inconsistent gates -/

theorem finishGateReservation_consistent {db : Database} (hexact : GatesExact db.gates)
    (reservation : GateReservation) (outcome : PhysicalAttemptState) (retryAfter : Option Seconds)
    (rawEligible : Bool) (lease : RuntimeLease) (now : DateTime) :
    (finishGateReservation reservation outcome retryAfter rawEligible lease now db).1 ≠
      .error (.storage .gateStateInconsistent) := by
  refine transaction_excludes nofun (.bind (assertFence_avoids nofun nofun nofun) fun _ _ =>
    .bind (avoids_require (.inl nofun)) fun _ hcurrent => ?_)
  simp only [require_eq_ok, Option.any_eq_true, Bool.and_eq_true, decide_eq_true_eq] at hcurrent
  obtain ⟨row, hrow, ⟨⟨⟨hactive, -⟩, -⟩, -⟩, -⟩ := hcurrent
  have hnodup := sortedScopes_nodup db.gates reservation.reservationId
  obtain ⟨state, hstate⟩ := hexact.decrement hrow hactive .gateStateInconsistent hnodup
    fun _ hm => mem_sortedScopes.mp hm
  refine .bind (fun h => nomatch hstate.symm.trans h) fun state' _ => ?_
  cases retryAfter with
  | none => exact excludes_pure
  | some seconds =>
    -- a reservation with all eight scopes has a provider gate
    obtain ⟨key, hkey⟩ := hexact.eightScopes _ _ hrow .provider
    have hmem : (GateScope.provider, key) ∈ sortedScopes db.gates reservation.reservationId :=
      mem_sortedScopes.mpr (mem_scopesOf.mpr hkey)
    refine .bind (.bind (avoids_fetch (.inr ?_)) fun _ _ => .bind (avoids_fetch (.inl nofun))
      fun _ _ => .bind (avoids_fetch (.inl nofun)) fun _ _ => avoids_pure) fun _ _ => excludes_pure
    rw [Ne, List.find?_eq_none]
    exact fun hnone => hnone _ hmem (decide_eq_true rfl)

theorem cancelStartedFlight_consistent {db : Database} (hexact : GatesExact db.gates)
    (fingerprint : Sha256Hex) (now : DateTime) (reason : Identifier) :
    Avoids (.storage .gateStateInconsistent) (cancelStartedFlight fingerprint now reason db) := by
  refine .bind (avoids_fetch (.inl nofun)) fun row _ => .bind (fun h => ?_) fun _ _ =>
    .bind (foldlM_avoids (fun _ _ => True) (fun consumer _ s _ => ⟨?_, fun _ _ => trivial⟩) trivial)
      fun _ _ => avoids_pure
  · obtain ⟨gates, hgates⟩ := hexact.releaseGateOccupancy_succeeds row.leaderLogicalRequestId now
      .inFlightCancelled
    exact nomatch hgates.symm.trans h
  · exact Avoids.bind (closeRequest_avoids nofun) fun _ _ => avoids_pure

theorem cancelAdmittedRequest_consistent {db : Database} (hexact : GatesExact db.gates)
    (logicalRequestId reason : Identifier) (lease : RuntimeLease) (now : DateTime) :
    (cancelAdmittedRequest logicalRequestId reason lease now db).1 ≠
      .error (.storage .gateStateInconsistent) := by
  refine transaction_excludes nofun (.bind (assertFence_avoids nofun nofun nofun) fun _ _ =>
    .bind (avoids_fetch (.inl nofun)) fun consumer _ => ?_)
  -- a follower holds no gate
  cases consumer.role with
  | follower => exact .bind (closeRequest_avoids nofun) fun _ _ => excludes_pure
  | leader =>
    refine .bind (cancelLeader_avoids nofun (fun h => ?_)
      (cancelStartedFlight_consistent hexact _ now reason) fun dropped hdrop => ?_)
      fun _ _ => excludes_pure
    · -- giving the gates of the reserved attempt back cannot fail
      cases hactive : activeAttempt db logicalRequestId with
      | none =>
        rw [hactive] at h
        cases h
      | some entry =>
        obtain ⟨gates, hgates⟩ := hexact.releaseGateOccupancy_succeeds logicalRequestId now
          .leaderCancelled
        simp [hactive, dropReservedAttempt, bind_eq_error, hgates, pure, Except.pure] at h
    · have hdropped : GatesExact dropped.gates := by
        rcases dropReservedAttempt_eq_ok hdrop with ⟨-, rfl⟩ | ⟨_, _, gates, -, -, hgates, rfl⟩
        · exact hexact
        · exact hexact.steps (releaseGateOccupancy_steps (fun _ _ => True) hgates)
      refine ⟨cancelStartedFlight_consistent hdropped _ now reason,
        .bind (closeRequest_avoids nofun) fun _ _ => .bind ?_ fun _ _ => avoids_pure⟩
      cases nextLeader dropped consumer.requestFingerprint with
      | none => exact avoids_pure
      | some => exact .bind insertRow_avoids fun _ _ => avoids_pure

/-! ## The run theorem -/

/-- **Gate occupancy is exact over whole runs.** In every database that any sequence
of operations reaches, every counter is the number of active reservations of its gate
and every reservation has exactly the eight scopes; so the guarded decrements of the
four release paths never fail. -/
theorem gate_occupancy_exact {db : Database} (hrun : Reachable (fun _ _ => True) db) :
    (∀ gate, db.gates.activeCount gate = db.gates.occupancy gate) ∧
      (∀ reservationId row, db.gates.reservations.get? reservationId = some row →
        ((db.gates.scopesOf reservationId).map Prod.fst).Perm GateScope.all) ∧
      (∀ reservation outcome retryAfter rawEligible lease now,
        (finishGateReservation reservation outcome retryAfter rawEligible lease now db).1 ≠
          .error (.storage .gateStateInconsistent)) ∧
      (∀ logicalRequestId reason lease now,
        (cancelAdmittedRequest logicalRequestId reason lease now db).1 ≠
          .error (.storage .gateStateInconsistent)) ∧
      ∀ generation now, ∃ gates, recoverGateReservations generation now db.gates = .ok gates :=
  have hexact := Reachable.gatesExact hrun
  ⟨hexact.counted, fun _ _ hrow => hexact.scopes_perm hrow,
    finishGateReservation_consistent hexact, cancelAdmittedRequest_consistent hexact,
    hexact.recoverGateReservations_succeeds⟩

/-- After the sample acquisition the provider gate is held once. -/
theorem gate_occupancy_exact_sample :
    (runAll Operation.next Sample.acquired Database.initial).gates.occupancy
      (.provider, Sample.keys.provider) = 1 :=
  ((gate_occupancy_exact (reachable_runAll (by decide))).1 _).symm.trans (by decide)

end StockResearch.Requests
