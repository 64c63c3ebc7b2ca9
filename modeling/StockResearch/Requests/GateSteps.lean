import StockResearch.Requests.Transition

/-!
# The gates as a machine of their own

Whatever the repository does, its gate tables move by four kinds of steps: an
audit event, an acquisition of eight free gates by a new reservation, the return
of the gates of one active reservation, and a cooldown.

- `GatesTaken`, `GatesReturned`: what the two loops over the eight scopes do.
- `GateStep`: the four steps.
- `Transition.gate_steps`: every operation is a chain of them.
-/

namespace StockResearch.Requests

open Relation (ReflTransGen)

/-! ## Scopes of a reservation -/

theorem mem_scopesOf {gates : GateTables} {reservationId : Identifier}
    {gate : GateScope × Identifier} :
    gate ∈ gates.scopesOf reservationId ↔
      gates.reservationScopes.get? (reservationId, gate.1) = some gate.2 := by
  unfold GateTables.scopesOf
  rw [List.mem_map]
  constructor
  · rintro ⟨⟨⟨rid, scope⟩, key⟩, hmem, rfl⟩
    rw [Table.mem_select, decide_eq_true_eq] at hmem
    obtain ⟨hget, rfl⟩ := hmem
    exact hget
  · intro h
    exact ⟨((reservationId, gate.1), gate.2), Table.mem_select.mpr ⟨h, decide_eq_true rfl⟩, rfl⟩

/-- A reservation holds one key of each scope. -/
theorem scopesOf_nodup (gates : GateTables) (reservationId : Identifier) :
    ((gates.scopesOf reservationId).map Prod.fst).Nodup := by
  have hkeys := Table.select_keys_nodup gates.reservationScopes
    fun k _ => decide (k.1 = reservationId)
  have heq : (gates.scopesOf reservationId).map Prod.fst =
      ((gates.reservationScopes.select fun k _ => decide (k.1 = reservationId)).map
        Prod.fst).map Prod.snd := by
    simp only [GateTables.scopesOf, List.map_map]
    rfl
  rw [heq]
  refine hkeys.map_on ?_
  intro a ha b hb hab
  obtain ⟨⟨a', va⟩, hma, rfl⟩ := List.mem_map.mp ha
  obtain ⟨⟨b', vb⟩, hmb, rfl⟩ := List.mem_map.mp hb
  rw [Table.mem_select, decide_eq_true_eq] at hma hmb
  exact Prod.ext (hma.2.trans hmb.2.symm) hab

theorem mem_sortedScopes {gates : GateTables} {reservationId : Identifier}
    {gate : GateScope × Identifier} :
    gate ∈ sortedScopes gates reservationId ↔ gate ∈ gates.scopesOf reservationId :=
  mem_orderBy

theorem sortedScopes_nodup (gates : GateTables) (reservationId : Identifier) :
    (sortedScopes gates reservationId).Nodup :=
  (List.perm_insertionSort _ _).nodup_iff.mpr (scopesOf_nodup gates reservationId).of_map

theorem mem_ordered {keys : GateKeys} {gate : GateScope × Identifier} :
    gate ∈ keys.ordered ↔ keys.key gate.1 = gate.2 := by
  unfold GateKeys.ordered
  rw [List.mem_map]
  constructor
  · rintro ⟨scope, -, rfl⟩
    rfl
  · intro h
    exact ⟨gate.1, GateScope.mem_all _, Prod.ext rfl h⟩

theorem ordered_scopes (keys : GateKeys) : keys.ordered.map Prod.fst = GateScope.all := by
  unfold GateKeys.ordered
  rw [List.map_map]
  exact List.map_id _

theorem ordered_nodup (keys : GateKeys) : keys.ordered.Nodup := by
  refine List.Nodup.of_map Prod.fst ?_
  rw [ordered_scopes]
  exact GateScope.all_nodup

/-! ## Taking the gates -/

/-- The row of a gate after one more acquisition. -/
def acquiredRow (now : DateTime) (row : Option GateStateRow) : GateStateRow :=
  (row.map fun row => { row with activeCount := row.activeCount + 1, lastStartedAt := some now }).getD
    ⟨1, some now, none⟩

/-- What taking a list of gates for one reservation does to the tables. -/
structure GatesTaken (reservationId : Identifier) (now : DateTime)
    (taken : List (GateScope × Identifier)) (gates gates' : GateTables) : Prop where
  reservations : gates'.reservations = gates.reservations
  starts : gates'.starts =
    gates.starts ++ taken.map fun gate => ⟨reservationId, gate.1, gate.2, now⟩
  state : ∀ gate, gates'.state.get? gate =
    if gate ∈ taken then some (acquiredRow now (gates.state.get? gate)) else gates.state.get? gate
  scopes : ∀ rid scope key, gates'.reservationScopes.get? (rid, scope) = some key ↔
    rid = reservationId ∧ (scope, key) ∈ taken ∨
      gates.reservationScopes.get? (rid, scope) = some key

theorem acquireGate_taken {reservationId logicalRequestId : Identifier} {now : DateTime}
    {gates gates' : GateTables} {gate : GateScope × Identifier}
    (h : acquireGate reservationId logicalRequestId now gates gate = .ok gates') :
    GatesTaken reservationId now [gate] gates gates' := by
  simp only [acquireGate, bind_eq_ok, insertRow_eq_ok, pure_eq_ok] at h
  obtain ⟨scopes, ⟨hfresh, rfl⟩, rfl⟩ := h
  refine ⟨rfl, rfl, fun gate' => ?_, fun rid scope key => ?_⟩
  · simp only [Table.get?_upsert, List.mem_singleton, acquiredRow]
    by_cases hg : gate' = gate
    · subst hg; simp only [if_true]
    · simp only [hg, if_false]
  · rw [Table.get?_insert hfresh, List.mem_singleton]
    obtain ⟨scope', key'⟩ := gate
    by_cases hk : (rid, scope) = (reservationId, scope')
    · rw [if_pos hk]
      simp only [Prod.mk.injEq] at hk
      obtain ⟨rfl, rfl⟩ := hk
      rw [hfresh]
      simp [eq_comm]
    · rw [if_neg hk]
      simp only [Prod.mk.injEq, not_and] at hk ⊢
      exact ⟨.inr, fun h => h.resolve_left fun ⟨h₁, h₂, _⟩ => hk h₁ h₂⟩

/-- The acquisition loop takes every gate of its list once. -/
theorem acquireGates_taken {reservationId logicalRequestId : Identifier} {now : DateTime} :
    ∀ {taken : List (GateScope × Identifier)} {gates gates' : GateTables}, taken.Nodup →
      taken.foldlM (acquireGate reservationId logicalRequestId now) gates = .ok gates' →
        GatesTaken reservationId now taken gates gates'
  | [], gates, gates', _, h => by
    rw [List.foldlM_nil, pure_eq_ok] at h
    subst h
    exact ⟨rfl, by simp, by simp, by simp⟩
  | gate :: rest, gates, gates', hnodup, h => by
    rw [List.foldlM_cons, bind_eq_ok] at h
    obtain ⟨mid, hstep, hrest⟩ := h
    obtain ⟨hfresh, hnodup⟩ := List.nodup_cons.mp hnodup
    have hone := acquireGate_taken hstep
    have hmore := acquireGates_taken hnodup hrest
    refine ⟨hmore.reservations.trans hone.reservations, ?_, fun gate' => ?_, fun rid scope key => ?_⟩
    · rw [hmore.starts, hone.starts, List.append_assoc]
      rfl
    · rw [hmore.state, hone.state]
      by_cases hg : gate' = gate
      · subst hg
        simp [hfresh]
      · simp [hg]
    · rw [hmore.scopes, hone.scopes]
      simp only [List.mem_cons, List.not_mem_nil, or_false]
      tauto

/-! ## Returning the gates -/

/-- What returning a list of gates does to their counters. -/
structure GatesReturned (returned : List (GateScope × Identifier))
    (state state' : Table (GateScope × Identifier) GateStateRow) : Prop where
  held : ∀ gate ∈ returned, ∃ row, state.get? gate = some row ∧ 0 < row.activeCount
  state : ∀ gate, state'.get? gate =
    if gate ∈ returned then
      (state.get? gate).map fun row => { row with activeCount := row.activeCount - 1 }
    else state.get? gate

theorem decrementGate_eq_ok {error : RuntimeStorageError}
    {state state' : Table (GateScope × Identifier) GateStateRow} {gate : GateScope × Identifier} :
    decrementGate error state gate = .ok state' ↔
      (∃ row, state.get? gate = some row ∧ 0 < row.activeCount) ∧
        state' = state.modify gate fun row => { row with activeCount := row.activeCount - 1 } := by
  simp only [decrementGate, bind_eq_ok, require_eq_ok, pure_eq_ok, Option.any_eq_true,
    decide_eq_true_eq]
  constructor
  · rintro ⟨_, h, rfl⟩
    exact ⟨h, rfl⟩
  · rintro ⟨h, rfl⟩
    exact ⟨(), h, rfl⟩

theorem decrementGates_returned {error : RuntimeStorageError} :
    ∀ {returned : List (GateScope × Identifier)}
      {state state' : Table (GateScope × Identifier) GateStateRow}, returned.Nodup →
      decrementGates error returned state = .ok state' → GatesReturned returned state state'
  | [], state, state', _, h => by
    rw [decrementGates, List.foldlM_nil, pure_eq_ok] at h
    subst h
    exact ⟨by simp, by simp⟩
  | gate :: rest, state, state', hnodup, h => by
    rw [decrementGates, List.foldlM_cons, bind_eq_ok] at h
    obtain ⟨mid, hstep, hrest⟩ := h
    obtain ⟨hfresh, hnodup⟩ := List.nodup_cons.mp hnodup
    obtain ⟨hheld, rfl⟩ := decrementGate_eq_ok.mp hstep
    have hmore := decrementGates_returned hnodup hrest
    have hother : ∀ gate' ∈ rest, gate' ≠ gate := fun _ hm he => hfresh (he ▸ hm)
    refine ⟨fun gate' hm => ?_, fun gate' => ?_⟩
    · rcases List.mem_cons.mp hm with rfl | hm
      · exact hheld
      · have := hmore.held gate' hm
        rwa [Table.get?_modify, if_neg (hother gate' hm)] at this
    · rw [hmore.state, Table.get?_modify]
      by_cases hg : gate' = gate
      · subst hg
        simp [hfresh]
      · simp [hg]

/-- The loop cannot fail while every gate of the list is held. -/
theorem decrementGates_succeeds {error : RuntimeStorageError}
    {returned : List (GateScope × Identifier)}
    {state : Table (GateScope × Identifier) GateStateRow} (hnodup : returned.Nodup)
    (hheld : ∀ gate ∈ returned, ∃ row, state.get? gate = some row ∧ 0 < row.activeCount) :
    ∃ state', decrementGates error returned state = .ok state' := by
  obtain ⟨state', h, -⟩ := foldlM_succeeds (f := decrementGate error)
    (fun (rest : List (GateScope × Identifier)) state => rest.Nodup ∧
      ∀ gate ∈ rest, ∃ row, state.get? gate = some row ∧ 0 < row.activeCount) (by
      rintro gate rest s ⟨hnodup, hheld⟩
      obtain ⟨hfresh, hnodup⟩ := List.nodup_cons.mp hnodup
      refine ⟨_, decrementGate_eq_ok.mpr ⟨hheld gate List.mem_cons_self, rfl⟩, hnodup, ?_⟩
      intro gate' hm
      have hne : gate' ≠ gate := by rintro rfl; exact hfresh hm
      rw [Table.get?_modify, if_neg hne]
      exact hheld gate' (List.mem_cons_of_mem _ hm)) ⟨hnodup, hheld⟩
  exact ⟨state', h⟩

/-! ## Steps -/

/-- The steps of the gate tables. `used` are the policies and keys acquisitions may
use. -/
inductive GateStep (used : HierarchicalGatePolicy → GateKeys → Prop) :
    GateTables → GateTables → Prop
  | audit (gates : GateTables) (event : GateEventRow) :
    GateStep used gates { gates with events := gates.events ++ [event] }
  | acquire {gates gates' : GateTables} {policy : HierarchicalGatePolicy} {keys : GateKeys}
      {now : DateTime} {reservationId : Identifier} {row : GateReservationRow}
      {reservations : Table Identifier GateReservationRow} (hused : used policy keys)
      (hfree : firstBlocked gates policy now keys.ordered = .ok none)
      (hreserve : insertReservation gates.reservations reservationId row = .ok reservations)
      (hactive : row.state = .active)
      (htaken : GatesTaken reservationId now keys.ordered
        { gates with reservations := reservations } gates') :
    GateStep used gates gates'
  | giveBack {gates : GateTables} {reservationId : Identifier} {row : GateReservationRow}
      {returned : List (GateScope × Identifier)}
      {state : Table (GateScope × Identifier) GateStateRow} (final : GateReservationState)
      (hrow : gates.reservations.get? reservationId = some row) (hactive : row.state = .active)
      (hfinal : final ≠ .active) (hnodup : returned.Nodup)
      (hscopes : ∀ gate, gate ∈ returned ↔ gate ∈ gates.scopesOf reservationId)
      (hreturned : GatesReturned returned gates.state state) :
    GateStep used gates
      { gates with
        state := state
        reservations := gates.reservations.modify reservationId fun row =>
          { row with state := final } }
  | cooldown (gates : GateTables) (gate : GateScope × Identifier) (deadline : DateTime) :
    GateStep used gates
      { gates with state := gates.state.modify gate fun row =>
        { row with cooldownUntil := extendCooldown row.cooldownUntil deadline } }

variable (used : HierarchicalGatePolicy → GateKeys → Prop)

theorem recordCooldown_eq_ok {reservation : GateReservation} {scopes : List (GateScope × Identifier)}
    {retryAfter : Seconds} {now : DateTime} {gates gates' : GateTables}
    (h : recordCooldown reservation scopes retryAfter now gates = .ok gates') :
    ∃ provider delay deadline event, provider ∈ scopes ∧ provider.1 = .provider ∧
      timedelta retryAfter = some delay ∧ now.add? delay = some deadline ∧
      gates' = { gates with
        state := gates.state.modify provider fun row =>
          { row with cooldownUntil := extendCooldown row.cooldownUntil deadline }
        events := gates.events ++ [event] } := by
  simp only [recordCooldown, bind_eq_ok, fetch_eq_ok, pure_eq_ok] at h
  obtain ⟨provider, hprovider, delay, hdelay, deadline, hdeadline, rfl⟩ := h
  exact ⟨provider, delay, deadline, _, List.mem_of_find?_eq_some hprovider,
    by simpa using List.find?_some hprovider, hdelay, hdeadline, rfl⟩

theorem recoverReservation_eq_ok {error : RuntimeStorageError} {eventType : GateEventType}
    {reason : GateEventReason} {now : DateTime} {gates gates' : GateTables}
    {entry : Identifier × GateReservationRow}
    (h : recoverReservation error eventType reason now gates entry = .ok gates') :
    ∃ state event, decrementGates error (gates.scopesOf entry.1) gates.state = .ok state ∧
      gates' = { gates with
        state := state
        reservations := gates.reservations.modify entry.1 fun row =>
          { row with state := .recovered }
        events := gates.events ++ [event] } := by
  simp only [recoverReservation, bind_eq_ok, require_eq_ok, pure_eq_ok] at h
  obtain ⟨-, -, state, hstate, rfl⟩ := h
  exact ⟨state, _, hstate, rfl⟩

/-- The rows a recovery loop still has to process are active, each once. -/
def PendingReturns (pending : List (Identifier × GateReservationRow)) (gates : GateTables) : Prop :=
  (pending.map Prod.fst).Nodup ∧ ∀ entry ∈ pending,
    gates.reservations.get? entry.1 = some entry.2 ∧ entry.2.state = .active

theorem pendingReturns_select {gates : GateTables} {p : Identifier → GateReservationRow → Bool}
    (hp : ∀ id row, p id row = true → row.state = .active) :
    PendingReturns (gates.reservations.select p) gates :=
  ⟨Table.select_keys_nodup _ _, fun _ hm =>
    ⟨(Table.mem_select.mp hm).1, hp _ _ (Table.mem_select.mp hm).2⟩⟩

theorem PendingReturns.tail {entry : Identifier × GateReservationRow}
    {pending : List (Identifier × GateReservationRow)} {gates gates' : GateTables}
    (h : PendingReturns (entry :: pending) gates)
    (hrows : gates'.reservations = gates.reservations.modify entry.1 fun row =>
      { row with state := .recovered }) : PendingReturns pending gates' := by
  obtain ⟨hnodup, hactive⟩ := h
  rw [List.map_cons, List.nodup_cons] at hnodup
  refine ⟨hnodup.2, fun other hm => ?_⟩
  have hne : other.1 ≠ entry.1 := fun he =>
    hnodup.1 (he ▸ List.mem_map.mpr ⟨other, hm, rfl⟩)
  rw [hrows, Table.get?_modify, if_neg hne]
  exact hactive other (List.mem_cons_of_mem _ hm)

theorem recoverReservation_steps {error : RuntimeStorageError} {eventType : GateEventType}
    {reason : GateEventReason} {now : DateTime} {gates gates' : GateTables}
    {entry : Identifier × GateReservationRow}
    (hrow : gates.reservations.get? entry.1 = some entry.2) (hactive : entry.2.state = .active)
    (h : recoverReservation error eventType reason now gates entry = .ok gates') :
    ReflTransGen (GateStep used) gates gates' := by
  obtain ⟨state, event, hstate, rfl⟩ := recoverReservation_eq_ok h
  have hnodup := (scopesOf_nodup gates entry.1).of_map
  exact .head (.giveBack .recovered hrow hactive nofun hnodup (fun _ => .rfl)
    (decrementGates_returned hnodup hstate)) (.single (.audit _ event))

/-- A recovery loop gives back the gates of every row it selected. -/
theorem recoverReservations_steps {error : RuntimeStorageError} {eventType : GateEventType}
    {reason : GateEventReason} {now : DateTime} {gates gates' : GateTables}
    {pending : List (Identifier × GateReservationRow)} (hpending : PendingReturns pending gates)
    (h : pending.foldlM (recoverReservation error eventType reason now) gates = .ok gates') :
    ReflTransGen (GateStep used) gates gates' := by
  refine (foldlM_invariant (fun pending g => PendingReturns pending g ∧
    ReflTransGen (GateStep used) gates g) ?_ ⟨hpending, .refl⟩ h).2
  rintro entry rest g g' ⟨hpending, hsteps⟩ hstep
  obtain ⟨hrow, hactive⟩ := hpending.2 entry List.mem_cons_self
  obtain ⟨state, event, -, hg'⟩ := recoverReservation_eq_ok hstep
  exact ⟨hpending.tail (by rw [hg']),
    hsteps.trans (recoverReservation_steps used hrow hactive hstep)⟩

theorem releaseGateOccupancy_steps {logicalRequestId : Identifier} {now : DateTime}
    {reason : GateEventReason} {gates gates' : GateTables}
    (h : releaseGateOccupancy logicalRequestId now reason gates = .ok gates') :
    ReflTransGen (GateStep used) gates gates' :=
  recoverReservations_steps used (pendingReturns_select fun _ _ h => by simp_all) h

theorem recoverGateReservations_steps {generation : Nat} {now : DateTime}
    {gates gates' : GateTables} (h : recoverGateReservations generation now gates = .ok gates') :
    ReflTransGen (GateStep used) gates gates' :=
  recoverReservations_steps used (pendingReturns_select fun _ _ h => by simp_all) h

/-! ## Every operation is a chain of steps -/

theorem cancelInFlight_frame {now : DateTime} {reason : Identifier} {db db' : Database}
    {consumer : Identifier × ConsumerRow} (h : cancelInFlight now reason db consumer = .ok db') :
    DeliveryFrame db db' := by
  simp only [cancelInFlight, bind_eq_ok, pure_eq_ok] at h
  obtain ⟨ledger, -, rfl⟩ := h
  exact ⟨rfl, rfl, rfl, rfl⟩

/-- What cancelling a started flight does outside the ledger and the flights. -/
theorem cancelStartedFlight_frame {fingerprint : Sha256Hex} {now : DateTime} {reason : Identifier}
    {db db' : Database} (h : cancelStartedFlight fingerprint now reason db = .ok db') :
    ∃ leaderId, db.flight.flights.get? fingerprint = some ⟨leaderId, .active⟩ ∧
      releaseGateOccupancy leaderId now .inFlightCancelled db.gates = .ok db'.gates ∧
      db'.attempts = (db.attempts.updateWhere
        (fun _ attempt => attempt.logicalRequestId = leaderId && attempt.state = .started)
        fun attempt => { attempt with state := .unknown }) ∧
      db'.lease = db.lease ∧ db'.publications = db.publications := by
  obtain ⟨leaderId, gates, cancelled, hflight, hgates, hfold, rfl⟩ := cancelStartedFlight_eq_ok h
  have hframe := foldlM_invariant (fun _ db' => DeliveryFrame _ db')
    (fun _ _ _ _ hs hstep => hs.trans (cancelInFlight_frame hstep)) (.refl _) hfold
  refine ⟨leaderId, hflight, ?_, hframe.attempts, hframe.lease, hframe.publications⟩
  rw [hgates]
  exact congrArg Except.ok hframe.gates.symm

/-- Handing a flight over touches the ledger, the flights and the queue only. -/
theorem cancelUnsentLeader_frame {logicalRequestId : Identifier} {fingerprint : Sha256Hex}
    {now : DateTime} {reason : Identifier} {db db' : Database} {promoted : Option Identifier}
    (h : cancelUnsentLeader logicalRequestId fingerprint now reason db = .ok (promoted, db')) :
    DeliveryFrame db db' := by
  obtain ⟨ledger, handed, -, hhanded, -, rfl⟩ := cancelUnsentLeader_eq_ok h
  rcases promoteFollower_eq_ok hhanded with ⟨-, rfl⟩ | ⟨_, _, _, _, -, -, rfl⟩
  · exact ⟨rfl, rfl, rfl, rfl⟩
  · exact ⟨rfl, rfl, rfl, rfl⟩

theorem cancelLeader_gate_steps {logicalRequestId : Identifier} {fingerprint : Sha256Hex}
    {now : DateTime} {reason : Identifier} {db db' : Database} {promoted : Option Identifier}
    (h : cancelLeader logicalRequestId fingerprint now reason db = .ok (promoted, db')) :
    ReflTransGen (GateStep used) db.gates db'.gates := by
  have hstarted : ∀ {db : Database}, cancelStartedFlight fingerprint now reason db = .ok db' →
      ReflTransGen (GateStep used) db.gates db'.gates := fun h => by
    obtain ⟨_, -, hgates, -⟩ := cancelStartedFlight_frame h
    exact releaseGateOccupancy_steps used hgates
  rcases cancelLeader_eq_ok h with ⟨-, -, hcancel⟩ | ⟨dropped, -, -, hdrop, hrest⟩
  · exact hstarted hcancel
  · have hdropped : ReflTransGen (GateStep used) db.gates dropped.gates := by
      rcases dropReservedAttempt_eq_ok hdrop with ⟨-, rfl⟩ | ⟨_, _, gates, -, -, hgates, rfl⟩
      · exact .refl
      · exact releaseGateOccupancy_steps used hgates
    rcases hrest with ⟨-, -, hcancel⟩ | ⟨-, hcancel⟩
    · exact hdropped.trans (hstarted hcancel)
    · rw [(cancelUnsentLeader_frame hcancel).gates]
      exact hdropped

variable {used}

/-- The policy and keys of an acquisition are among the used ones. -/
def Operation.Uses (used : HierarchicalGatePolicy → GateKeys → Prop) : Operation → Prop
  | .acquireGates _ _ keys policy _ _ => used policy keys
  | _ => True

theorem Operation.uses_any (op : Operation) : op.Uses fun _ _ => True := by
  cases op <;> trivial

/-- Every operation moves the gate tables by a chain of steps. -/
theorem Transition.gate_steps {op : Operation} {db db' : Database} (h : Transition op db db')
    (hused : op.Uses used) : ReflTransGen (GateStep used) db.gates db'.gates := by
  cases h with
  -- these leave the gate tables as they are
  | unchanged | publish | heartbeat | release | submit | enqueue | rejectEnqueue | claim
  | cancelFollower | addAttempt | reserveAttempt | discardAttempt | startAttempt => exact .refl
  | admitLeader _ _ hreconcile _ _ _ hqueue =>
    have hgates : db'.gates = db.gates :=
      (queueLeader_frame hqueue).gates.trans (reconcileTerminalFlights_frame hreconcile).gates
    rw [hgates]
  | admitFollower _ _ hreconcile =>
    rw [(reconcileTerminalFlights_frame hreconcile).gates]
  | cancelLeader _ _ _ _ hcancel => exact cancelLeader_gate_steps used hcancel
  -- a closed gate leaves an audit event
  | blocked _ event => exact .single (.audit _ event)
  | @acquire _ _ keys _ _ _ _ _ _ _ _ _ _ _ _ hfree _ hreserve hgates =>
    exact .single
      (.acquire hused hfree hreserve rfl (acquireGates_taken (ordered_nodup keys) hgates))
  -- the gates are given back, then the cooldown is set, then the release is recorded
  | @finish _ reservation _ _ _ _ _ _ _ state _ _ _ _ hcurrent hactive _ _ _ hstate hcooldown event =>
    have hnodup := sortedScopes_nodup db.gates reservation.reservationId
    have hback : GateStep used db.gates (releasedGates reservation.reservationId state db.gates) :=
      .giveBack .released hcurrent hactive nofun hnodup (fun _ => mem_sortedScopes)
        (decrementGates_returned hnodup hstate)
    rcases hcooldown with ⟨-, rfl⟩ | ⟨seconds, -, hrecord⟩
    · exact .head hback (.single (.audit _ _))
    · obtain ⟨provider, delay, deadline, cooled, -, -, -, -, rfl⟩ := recordCooldown_eq_ok hrecord
      exact .head hback (.head (.cooldown _ provider deadline)
        (.head (.audit _ cooled) (.single (.audit _ _))))
  -- what else closes or takes over touches the gates in a recovery only
  | close _ _ _ hfinish => rw [(finishSingleFlight_frame hfinish).gates]
  | acquireLease _ _ hreconcile => rw [(reconcileTerminalFlights_frame hreconcile).gates]
  | recover _ hrepairs hreconcile =>
    obtain ⟨-, -, gates, _, _, hgates, -, -, rfl⟩ := hrepairs
    have hframe := (reconcileTerminalFlights_frame hreconcile).gates
    change ReflTransGen (GateStep used) db.gates _
    rw [hframe]
    exact recoverGateReservations_steps used hgates

end StockResearch.Requests
