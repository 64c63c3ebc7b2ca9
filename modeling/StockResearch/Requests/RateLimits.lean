import StockResearch.Lib.SlidingWindow
import StockResearch.Requests.GateOccupancy

/-!
# Rate limits hold over whole runs

An acquisition checks the past of a gate at one point in time: the last start, the
number of starts in the window that ends now, and the cooldown. `PacedGate` is what
the starts of one gate satisfy in consequence, and `GatesLater` what every later
state keeps of an earlier one.

- `blockedReason_eq_none`: what an unblocked gate means.
- `PacedGate`, `GatesLater`: the two invariants, kept by every step of the gates.
- `rate_limits_hold`: the run theorem.
-/

namespace StockResearch.Requests

open Relation (ReflTransGen)

/-! ## An unblocked gate -/

/-- `last_started_at` of a gate. -/
def GateTables.lastStarted (gates : GateTables) (gate : GateScope × Identifier) :
    Option DateTime :=
  (gates.state.get? gate).bind (·.lastStartedAt)

/-- `cooldown_until` of a gate. -/
def GateTables.cooldown (gates : GateTables) (gate : GateScope × Identifier) : Option DateTime :=
  (gates.state.get? gate).bind (·.cooldownUntil)

/-- The checks a gate passed when it did not block. -/
structure Unblocked (gates : GateTables) (limit : GateLimit) (gate : GateScope × Identifier)
    (now : DateTime) : Prop where
  cooled : ∀ until_, gates.cooldown gate = some until_ → until_ ≤ now
  paced : ∀ last, gates.lastStarted gate = some last →
    ∃ interval, timedelta limit.minIntervalSeconds = some interval ∧
      last.micros + interval ≤ now.micros
  windowed : ∃ window cutoff, timedelta limit.windowSeconds = some window ∧
    now.sub? window = some cutoff ∧
    ((gates.startsOf gate).countP fun t => decide (cutoff < t)) < limit.requestsPerWindow

theorem blockedReason_eq_none {gates : GateTables} {limit : GateLimit}
    {gate : GateScope × Identifier} {now : DateTime}
    (h : blockedReason gates limit gate now = .ok none) : Unblocked gates limit gate now := by
  -- the last two checks, once it is known whether the last start is too recent
  have hrest : ∀ {tooSoon : Bool} {starts : Nat},
      (if tooSoon then pure (some .minimumInterval)
        else if limit.requestsPerWindow ≤ starts then pure (some .rollingWindow) else pure none :
        Except Exn (Option BlockedReason)) = .ok none →
        tooSoon = false ∧ starts < limit.requestsPerWindow := by
    intro tooSoon starts h
    cases tooSoon with
    | true => simp [pure, Except.pure] at h
    | false =>
      by_cases hroom : limit.requestsPerWindow ≤ starts
      · simp [hroom, pure, Except.pure] at h
      · exact ⟨rfl, Nat.lt_of_not_le hroom⟩
  have htext : ∀ cutoff t, decide (isoformat cutoff < isoformat t) = decide (cutoff < t) :=
    fun cutoff t => by rw [decide_eq_decide]; exact isoformat_lt_iff
  simp only [blockedReason, bind_eq_ok, fetch_eq_ok, htext] at h
  obtain ⟨window, hwindow, cutoff, hcutoff, h⟩ := h
  change (if (gates.cooldown gate).any _ = true then _ else _) = _ at h
  split at h
  · simp [pure, Except.pure] at h
  rename_i hcooled
  have hcooled : ∀ until_, gates.cooldown gate = some until_ → until_ ≤ now := fun until_ hu => by
    rw [hu, Option.any_some, decide_eq_true_eq] at hcooled
    exact DateTime.not_lt.mp hcooled
  split at h
  · simp [pure, Except.pure] at h
  have hlast : (gates.state.get? gate).bind (·.lastStartedAt) = gates.lastStarted gate := rfl
  rw [hlast] at h
  cases hl : gates.lastStarted gate with
  | none =>
    simp only [hl, bind_eq_ok, pure_eq_ok, exists_eq_left'] at h
    refine ⟨hcooled, fun last hlast => ?_, window, cutoff, hwindow, hcutoff, (hrest h).2⟩
    rw [hl] at hlast
    cases hlast
  | some last =>
    simp only [hl, bind_eq_ok, fetch_eq_ok, pure_eq_ok] at h
    obtain ⟨interval, hinterval, next, hnext, tooSoon, rfl, h⟩ := h
    obtain ⟨hpaced, hroom⟩ := hrest h
    refine ⟨hcooled, fun last' hlast' => ⟨interval, hinterval, ?_⟩,
      window, cutoff, hwindow, hcutoff, hroom⟩
    rw [hl, Option.some.injEq] at hlast'
    rw [← hlast', ← DateTime.add?_eq_some_iff.mp hnext]
    exact DateTime.not_lt.mp (of_decide_eq_false hpaced)

/-- When no gate of a list blocks, each of them passed its checks. -/
theorem firstBlocked_eq_none {gates : GateTables} {policy : HierarchicalGatePolicy}
    {now : DateTime} :
    ∀ {checked : List (GateScope × Identifier)},
      firstBlocked gates policy now checked = .ok none →
        ∀ gate ∈ checked, Unblocked gates (policy.limits gate.1) gate now
  | [], _, _, hm => by simp at hm
  | first :: rest, h, gate, hm => by
    rw [firstBlocked, bind_eq_ok] at h
    obtain ⟨reason, hfirst, h⟩ := h
    cases reason with
    | some reason => simp [pure, Except.pure] at h
    | none =>
      rcases List.mem_cons.mp hm with rfl | hm
      · exact blockedReason_eq_none hfirst
      · exact firstBlocked_eq_none h gate hm

/-! ## What a step records -/

/-- The starts of a gate after an acquisition: one more on each acquired gate. -/
theorem GatesTaken.startsOf {reservationId : Identifier} {now : DateTime}
    {taken : List (GateScope × Identifier)} {gates gates' : GateTables}
    (h : GatesTaken reservationId now taken gates gates') (hnodup : taken.Nodup)
    (gate : GateScope × Identifier) :
    gates'.startsOf gate = gates.startsOf gate ++ if gate ∈ taken then [now] else [] := by
  have hone : (taken.filter fun g => g.1 = gate.1 && g.2 = gate.2) =
      if gate ∈ taken then [gate] else [] := by
    have heq : (fun g : GateScope × Identifier => g.1 = gate.1 && g.2 = gate.2) =
        fun g => decide (g = gate) := by
      funext g
      simp [Prod.ext_iff, Bool.decide_and]
    rw [heq, List.filter_eq]
    split
    · rename_i hm
      rw [List.count_eq_one_of_mem hnodup hm]
      rfl
    · rename_i hm
      rw [List.count_eq_zero_of_not_mem hm]
      rfl
  simp only [GateTables.startsOf, h.starts, List.filter_append, List.map_append,
    List.append_cancel_left_eq]
  rw [List.filter_map, List.map_map]
  change (taken.filter fun g => g.1 = gate.1 && g.2 = gate.2).map _ = _
  rw [hone]
  split <;> rfl

theorem GatesTaken.lastStarted {reservationId : Identifier} {now : DateTime}
    {taken : List (GateScope × Identifier)} {gates gates' : GateTables}
    (h : GatesTaken reservationId now taken gates gates') (gate : GateScope × Identifier) :
    gates'.lastStarted gate = if gate ∈ taken then some now else gates.lastStarted gate := by
  simp only [GateTables.lastStarted, h.state]
  split
  · cases gates.state.get? gate <;> rfl
  · rfl

theorem GatesTaken.cooldown {reservationId : Identifier} {now : DateTime}
    {taken : List (GateScope × Identifier)} {gates gates' : GateTables}
    (h : GatesTaken reservationId now taken gates gates') (gate : GateScope × Identifier) :
    gates'.cooldown gate = gates.cooldown gate := by
  simp only [GateTables.cooldown, h.state]
  split
  · cases gates.state.get? gate <;> rfl
  · rfl

theorem GatesReturned.same {α : Type} {returned : List (GateScope × Identifier)}
    {state state' : Table (GateScope × Identifier) GateStateRow}
    (h : GatesReturned returned state state') (f : GateStateRow → Option α)
    (hf : ∀ row n, f { row with activeCount := n } = f row) (gate : GateScope × Identifier) :
    (state'.get? gate).bind f = (state.get? gate).bind f := by
  rw [h.state]
  split
  · cases state.get? gate with
    | none => rfl
    | some row => exact hf row _
  · rfl

/-! ## One gate under a fixed limit -/

/-- The starts of a gate, in microseconds. -/
def GateTables.startTimes (gates : GateTables) (gate : GateScope × Identifier) : List ℤ :=
  (gates.startsOf gate).map fun t => (t.micros : ℤ)

/-- The acquisitions that take `gate` do so under `limit`. -/
def UsesLimit (gate : GateScope × Identifier) (limit : GateLimit) (policy : HierarchicalGatePolicy)
    (keys : GateKeys) : Prop :=
  keys.key gate.1 = gate.2 → policy.limits gate.1 = limit

/-- The laws of the starts of one gate under one limit. -/
structure PacedGate (gate : GateScope × Identifier) (limit : GateLimit) (gates : GateTables) :
    Prop where
  last : gates.lastStarted gate = (gates.startsOf gate).getLast?
  sorted : (gates.startTimes gate).IsChain (· ≤ ·)
  paced : ∀ interval, timedelta limit.minIntervalSeconds = some interval →
    Paced (interval : ℤ) (gates.startTimes gate)
  windowed : ∀ window, timedelta limit.windowSeconds = some window →
    Windowed (window : ℤ) limit.requestsPerWindow (gates.startTimes gate)

theorem pacedGate_init (gate : GateScope × Identifier) (limit : GateLimit) :
    PacedGate gate limit Database.initial.gates :=
  ⟨rfl, .nil, fun _ _ => List.IsChain.nil, fun _ _ => windowed_nil⟩

/-- One more start on an unblocked gate. -/
theorem PacedGate.start {gate : GateScope × Identifier} {limit : GateLimit}
    {gates gates' : GateTables} {now : DateTime} (h : PacedGate gate limit gates)
    (hfree : Unblocked gates limit gate now)
    (hstarts : gates'.startsOf gate = gates.startsOf gate ++ [now])
    (hlast : gates'.lastStarted gate = some now) : PacedGate gate limit gates' := by
  have htimes : gates'.startTimes gate = gates.startTimes gate ++ [(now.micros : ℤ)] := by
    rw [GateTables.startTimes, hstarts, List.map_append]
    rfl
  -- the last start is an interval ago
  have hprevious : ∀ time ∈ (gates.startTimes gate).getLast?,
      ∃ interval : Nat, timedelta limit.minIntervalSeconds = some interval ∧
        time + (interval : ℤ) ≤ now.micros := by
    intro time hm
    rw [GateTables.startTimes, List.getLast?_map, ← h.last] at hm
    obtain ⟨last, hlast, rfl⟩ := Option.mem_map.mp hm
    obtain ⟨interval, hinterval, hle⟩ := hfree.paced last hlast
    exact ⟨interval, hinterval, by exact_mod_cast hle⟩
  refine ⟨by rw [hlast, hstarts, List.getLast?_concat], ?_, fun interval hi => ?_,
    fun window hw => ?_⟩
  · -- in order
    rw [htimes]
    refine isChain_append_last h.sorted fun time hm => ?_
    obtain ⟨interval, -, hle⟩ := hprevious time hm
    omega
  · -- an interval apart
    rw [htimes]
    refine (h.paced interval hi).append fun time hm => ?_
    obtain ⟨interval', hi', hle⟩ := hprevious time hm
    rw [hi, Option.some.injEq] at hi'
    exact hi' ▸ hle
  · -- the starts inside the window left room for one more
    rw [htimes]
    refine (h.windowed window hw).append ?_
    obtain ⟨window', cutoff, hw', hcutoff, hroom⟩ := hfree.windowed
    rw [hw, Option.some.injEq] at hw'
    subst hw'
    rw [DateTime.sub?_eq_some_iff] at hcutoff
    rw [GateTables.startTimes, List.countP_map]
    refine Nat.lt_of_le_of_lt (Nat.le_of_eq (List.countP_congr fun t _ => ?_)) hroom
    simp only [Function.comp_apply, decide_eq_true_eq, DateTime.lt_def]
    omega

theorem PacedGate.step {gate : GateScope × Identifier} {limit : GateLimit}
    {gates gates' : GateTables} (h : PacedGate gate limit gates)
    (hstep : GateStep (UsesLimit gate limit) gates gates') : PacedGate gate limit gates' := by
  cases hstep with
  | audit => exact ⟨h.last, h.sorted, h.paced, h.windowed⟩
  -- the gate is one of those taken, and was unblocked under the limit, or keeps its starts
  | @acquire _ _ keys _ _ _ _ hused hfree _ _ htaken =>
    have hnodup : keys.ordered.Nodup := ordered_nodup keys
    have hstarts := htaken.startsOf hnodup gate
    have hlast := htaken.lastStarted gate
    by_cases hg : gate ∈ keys.ordered
    · rw [if_pos hg] at hstarts hlast
      have hunblocked := firstBlocked_eq_none hfree gate hg
      rw [hused (mem_ordered.mp hg)] at hunblocked
      exact h.start hunblocked hstarts hlast
    · rw [if_neg hg, List.append_nil] at hstarts
      rw [if_neg hg] at hlast
      have hsame : gates'.startTimes gate = gates.startTimes gate := congrArg (List.map _) hstarts
      refine ⟨hlast.trans (h.last.trans (congrArg _ hstarts.symm)), ?_, ?_, ?_⟩
      · rw [hsame]
        exact h.sorted
      · rw [hsame]
        exact h.paced
      · rw [hsame]
        exact h.windowed
  | giveBack _ _ _ _ _ _ hreturned =>
    refine ⟨?_, h.sorted, h.paced, h.windowed⟩
    exact (hreturned.same (·.lastStartedAt) (fun _ _ => rfl) gate).trans h.last
  -- a cooldown writes no start
  | cooldown gate' deadline =>
    refine ⟨Eq.trans ?_ h.last, h.sorted, h.paced, h.windowed⟩
    simp only [GateTables.lastStarted, Table.get?_modify]
    by_cases hg : gate = gate'
    · subst hg
      cases gates.state.get? gate <;> simp
    · simp [hg]

/-! ## Cooldowns along a run -/

/-- What a later state keeps of an earlier one: cooldowns never end sooner, and starts
recorded since respect the cooldowns of then. -/
structure GatesLater (gates later : GateTables) : Prop where
  cooldown : ∀ gate until_, gates.cooldown gate = some until_ →
    ∃ until', later.cooldown gate = some until' ∧ until_ ≤ until'
  starts : ∀ gate, ∃ since, later.startsOf gate = gates.startsOf gate ++ since ∧
    ∀ until_, gates.cooldown gate = some until_ → ∀ t ∈ since, until_ ≤ t

theorem GatesLater.refl (gates : GateTables) : GatesLater gates gates :=
  ⟨fun _ until_ h => ⟨until_, h, Nat.le_refl _⟩,
    fun _ => ⟨[], (List.append_nil _).symm, fun _ _ _ hm => by simp at hm⟩⟩

theorem GatesLater.trans {a b c : GateTables} (hab : GatesLater a b) (hbc : GatesLater b c) :
    GatesLater a c := by
  refine ⟨fun gate until_ h => ?_, fun gate => ?_⟩
  · obtain ⟨until', h', hle⟩ := hab.cooldown gate until_ h
    obtain ⟨until'', h'', hle'⟩ := hbc.cooldown gate until' h'
    exact ⟨until'', h'', Nat.le_trans hle hle'⟩
  · obtain ⟨since, hsince, hearlier⟩ := hab.starts gate
    obtain ⟨since', hsince', hlater⟩ := hbc.starts gate
    refine ⟨since ++ since', by rw [hsince', hsince, List.append_assoc], fun until_ h t hm => ?_⟩
    rcases List.mem_append.mp hm with hm | hm
    · exact hearlier until_ h t hm
    · obtain ⟨until', h', hle⟩ := hab.cooldown gate until_ h
      exact Nat.le_trans hle (hlater until' h' t hm)

/-- A state with the same starts, and cooldowns that do not end sooner, is later. -/
theorem GatesLater.of_cooldown {gates later : GateTables}
    (hstarts : ∀ gate, later.startsOf gate = gates.startsOf gate)
    (hcooldown : ∀ gate until_, gates.cooldown gate = some until_ →
      ∃ until', later.cooldown gate = some until' ∧ until_ ≤ until') : GatesLater gates later :=
  ⟨hcooldown, fun gate => ⟨[], by rw [hstarts, List.append_nil], fun _ _ _ hm => by simp at hm⟩⟩

/-- A longer cooldown replaces a shorter one, never the other way round. -/
theorem extendCooldown_ge (cooldown : Option DateTime) (deadline : DateTime) :
    ∃ until_, extendCooldown cooldown deadline = some until_ ∧ deadline ≤ until_ ∧
      ∀ current, cooldown = some current → current ≤ until_ := by
  cases cooldown with
  | none => exact ⟨deadline, rfl, Nat.le_refl _, fun _ h => (nomatch h)⟩
  | some current =>
    simp only [extendCooldown, isoformat_lt_iff]
    split
    · rename_i hlt
      exact ⟨deadline, rfl, Nat.le_refl _, fun c h => Option.some.inj h ▸ Nat.le_of_lt hlt⟩
    · rename_i hge
      exact ⟨current, rfl, DateTime.not_lt.mp hge, fun c h => Option.some.inj h ▸ Nat.le_refl _⟩

theorem GatesLater.step {used : HierarchicalGatePolicy → GateKeys → Prop}
    {gates gates' : GateTables} (h : GateStep used gates gates') : GatesLater gates gates' := by
  cases h with
  | audit => exact .of_cooldown (fun _ => rfl) fun _ until_ h => ⟨until_, h, Nat.le_refl _⟩
  | @acquire _ _ keys now _ _ _ _ hfree _ _ htaken =>
    refine ⟨fun gate until_ h => ⟨until_, ?_, Nat.le_refl _⟩, fun gate => ?_⟩
    · rw [htaken.cooldown]
      exact h
    · refine ⟨_, htaken.startsOf (ordered_nodup keys) gate, fun until_ h t hm => ?_⟩
      split at hm
      · rename_i hg
        rw [List.mem_singleton.mp hm]
        exact (firstBlocked_eq_none hfree gate hg).cooled until_ h
      · simp at hm
  | giveBack _ _ _ _ _ _ hreturned =>
    refine .of_cooldown (fun _ => rfl) fun gate until_ h => ⟨until_, ?_, Nat.le_refl _⟩
    exact (hreturned.same (·.cooldownUntil) (fun _ _ => rfl) gate).trans h
  | cooldown gate' deadline =>
    refine .of_cooldown (fun _ => rfl) fun gate until_ h => ?_
    simp only [GateTables.cooldown, Table.get?_modify] at h ⊢
    by_cases hg : gate = gate'
    · subst hg
      obtain ⟨row, hrow, hcooldown⟩ := Option.bind_eq_some_iff.mp h
      obtain ⟨until', h', -, hle⟩ := extendCooldown_ge row.cooldownUntil deadline
      exact ⟨until', by simp [hrow, h'], hle until_ hcooldown⟩
    · rw [if_neg hg]
      exact ⟨until_, h, Nat.le_refl _⟩

theorem GatesLater.steps {used : HierarchicalGatePolicy → GateKeys → Prop}
    {gates gates' : GateTables} (h : ReflTransGen (GateStep used) gates gates') :
    GatesLater gates gates' := by
  induction h with
  | refl => exact .refl gates
  | tail _ hstep ih => exact ih.trans (.step hstep)

/-- Along every run the gates only move to later states. -/
theorem Reaches.gatesLater {allowed : Operation → Database → Prop} {db later : Database}
    (hrun : Reaches Operation.next allowed db later) : GatesLater db.gates later.gates := by
  exact GatesLater.steps (Reaches.project (·.gates)
    (fun op s _ => (op.transition s).gate_steps op.uses_any) hrun)

/-- A recorded `Retry-After` leaves a cooldown at least up to its deadline. -/
theorem recordRetryAfter_cooldown {reservation : GateReservation} {seconds : Seconds}
    {lease : RuntimeLease} {now : DateTime} {db db' : Database} {key : Identifier}
    (hkey : db.gates.reservationScopes.get? (reservation.reservationId, .provider) = some key)
    (hstate : db.gates.state.get? (.provider, key) ≠ none)
    (h : recordRetryAfter reservation seconds lease now db = (.ok (), db')) :
    ∃ delay deadline until_, timedelta seconds = some delay ∧ now.add? delay = some deadline ∧
      db'.gates.cooldown (.provider, key) = some until_ ∧ deadline ≤ until_ := by
  unfold recordRetryAfter at h
  rcases finishGateReservation_cases reservation .failed (some seconds) true lease now db with
    hr | ⟨_, _, state, gates, -, -, -, -, -, -, hreturned, hcooldown, hfinish⟩
  · exact absurd h hr.ne_ok
  rw [hfinish, Prod.mk.injEq] at h
  obtain ⟨-, rfl⟩ := h
  obtain ⟨hnone, -⟩ | ⟨s, hs, hrecord⟩ := hcooldown
  · cases hnone
  rw [Option.some.injEq] at hs
  subst hs
  obtain ⟨provider, delay, deadline, event, hprovider, hscope, hdelay, hdeadline, rfl⟩ :=
    recordCooldown_eq_ok hrecord
  -- the provider gate of the reservation is the one its scope row names
  have hgate : provider = (.provider, key) := by
    rw [mem_sortedScopes, mem_scopesOf, hscope, hkey, Option.some.injEq] at hprovider
    exact Prod.ext hscope hprovider.symm
  subst hgate
  have hback := decrementGates_returned (sortedScopes_nodup _ _) hreturned
  obtain ⟨row, hrow⟩ : ∃ row, state.get? (.provider, key) = some row := by
    obtain ⟨row, hrow⟩ := Option.ne_none_iff_exists'.mp hstate
    rw [hback.state, hrow]
    by_cases hm : (GateScope.provider, key) ∈ sortedScopes db.gates reservation.reservationId
    · exact ⟨_, if_pos hm⟩
    · exact ⟨row, if_neg hm⟩
  obtain ⟨until_, huntil, hle, -⟩ := extendCooldown_ge row.cooldownUntil deadline
  refine ⟨delay, deadline, until_, hdelay, hdeadline, ?_, hle⟩
  simp [GateTables.cooldown, releasedGates, hrow, huntil]

/-! ## The run theorem -/

/-- **Rate limits hold over whole runs.** While every acquisition of a gate uses one
fixed limit, its recorded starts are in order and at least the minimum interval apart,
no half-open window has more of them than the limit allows, and after a recorded
`Retry-After` no later start of that provider precedes its deadline, whatever else is
recorded in between. -/
theorem rate_limits_hold {gate : GateScope × Identifier} {limit : GateLimit} {db : Database}
    (hrun : Reachable (fun op _ => op.Uses (UsesLimit gate limit)) db) :
    (db.gates.startTimes gate).Pairwise (· ≤ ·) ∧
      (∀ interval, timedelta limit.minIntervalSeconds = some interval →
        Paced (interval : ℤ) (db.gates.startTimes gate)) ∧
      (∀ window, timedelta limit.windowSeconds = some window →
        Windowed (window : ℤ) limit.requestsPerWindow (db.gates.startTimes gate)) ∧
      ∀ reservation seconds lease now db',
        recordRetryAfter reservation seconds lease now db = (.ok (), db') →
          ∃ key delay deadline,
            db.gates.reservationScopes.get? (reservation.reservationId, .provider) = some key ∧
            timedelta seconds = some delay ∧ now.add? delay = some deadline ∧
            ∀ later, Reaches Operation.next (fun _ _ => True) db' later →
              (∃ until_, later.gates.cooldown (.provider, key) = some until_ ∧ deadline ≤ until_) ∧
                ∃ since, later.gates.startsOf (.provider, key) =
                    db'.gates.startsOf (.provider, key) ++ since ∧ ∀ t ∈ since, deadline ≤ t := by
  -- pacing is kept by every operation of the run
  have hpaced : PacedGate gate limit db.gates := by
    refine Reaches.invariant (fun db => PacedGate gate limit db.gates)
      (fun op s hop h => ?_) (pacedGate_init gate limit) hrun
    have hsteps := (op.transition s).gate_steps hop
    generalize (op.next s).gates = gates at hsteps
    induction hsteps with
    | refl => exact h
    | tail _ hstep ih => exact ih.step hstep
  refine ⟨List.isChain_iff_pairwise.mp hpaced.sorted, hpaced.paced, hpaced.windowed, ?_⟩
  intro reservation seconds lease now db' h
  have hexact := Reachable.gatesExact hrun
  -- the reservation has a provider gate, whose cooldown is set
  obtain ⟨key, hkey, hstate⟩ : ∃ key,
      db.gates.reservationScopes.get? (reservation.reservationId, .provider) = some key ∧
        db.gates.state.get? (.provider, key) ≠ none := by
    rcases finishGateReservation_cases reservation .failed (some seconds) true lease now db with
      hr | ⟨_, _, _, _, -, hrow, hactive, -⟩
    · exact absurd h hr.ne_ok
    · obtain ⟨key, hkey⟩ := hexact.eightScopes _ _ hrow .provider
      have hmem : (GateScope.provider, key) ∈ db.gates.scopesOf reservation.reservationId :=
        mem_scopesOf.mpr hkey
      obtain ⟨row, hrow, -⟩ := hexact.held hrow hactive hmem
      exact ⟨key, hkey, by simp [hrow]⟩
  obtain ⟨delay, deadline, until_, hdelay, hdeadline, huntil, hle⟩ :=
    recordRetryAfter_cooldown hkey hstate h
  refine ⟨key, delay, deadline, hkey, hdelay, hdeadline, fun later hlater => ?_⟩
  -- from here on the cooldown only grows, and no start precedes it
  have hmono := Reaches.gatesLater hlater
  obtain ⟨until', h', hle'⟩ := hmono.cooldown _ until_ huntil
  obtain ⟨since, hsince, hstarts⟩ := hmono.starts (.provider, key)
  exact ⟨⟨until', h', Nat.le_trans hle hle'⟩, since, hsince,
    fun t hm => Nat.le_trans hle (hstarts until_ huntil t hm)⟩

/-! ## A sample run -/

namespace Sample

theorem one_request : 1 ≤ 1 := Nat.le_refl 1
theorem two_requests : 1 ≤ 2 := by decide
theorem ten_seconds : 0 < (Seconds.ofNat 10).num := by decide
theorem limitedId_valid : isIdentifier "attempt-2" = true := by decide
theorem resumedId_valid : isIdentifier "attempt-3" = true := by decide
theorem limitedReservationId_valid : isIdentifier "reservation-2" = true := by decide
theorem resumedReservationId_valid : isIdentifier "reservation-3" = true := by decide

/-- One request at a time, two of them in ten seconds, two seconds apart. -/
def spacedLimit : GateLimit where
  maxConcurrency := 1
  minIntervalSeconds := .ofNat 2
  requestsPerWindow := 2
  windowSeconds := .ofNat 10
  concurrency_ge := one_request
  requests_ge := two_requests
  window_pos := ten_seconds

def providerGate : GateScope × Identifier := (.provider, keys.provider)

def limitedId : Identifier := ⟨"attempt-2", limitedId_valid⟩
def resumedId : Identifier := ⟨"attempt-3", resumedId_valid⟩
def limitedReservationId : Identifier := ⟨"reservation-2", limitedReservationId_valid⟩
def resumedReservationId : Identifier := ⟨"reservation-3", resumedReservationId_valid⟩

/-- The acquisition of the attempt with a number. -/
def spacedAcquire (id reservationId : Identifier) (number : Nat) (now : DateTime) : Operation :=
  .acquireGates reservationId
    { attempt with physicalAttemptId := id, sequenceNumber := number } keys
    ⟨fun _ => spacedLimit⟩ lease now

/-- A first start at second 3 and a second at 5, the one at 4 being refused as too early. -/
def spaced : List Operation :=
  claimed ++ [spacedAcquire attempt.physicalAttemptId reservationId 1 (at_ 3),
    .markPhysicalAttemptStarted attempt.physicalAttemptId lease (at_ 3),
    .releaseGates ⟨reservationId, attempt.physicalAttemptId, attempt.logicalRequestId, 1, at_ 3⟩
      .succeeded lease (at_ 3) none,
    spacedAcquire limitedId limitedReservationId 2 (at_ 4),
    spacedAcquire limitedId limitedReservationId 2 (at_ 5),
    .markPhysicalAttemptStarted limitedId lease (at_ 5)]

/-- The reservation of the second start. -/
def limitedReservation : GateReservation :=
  ⟨limitedReservationId, limitedId, attempt.logicalRequestId, 1, at_ 5⟩

/-- A third start is refused at second 25 and made at 26. -/
def resumed : List Operation :=
  [spacedAcquire resumedId resumedReservationId 3 (at_ 25),
    spacedAcquire resumedId resumedReservationId 3 (at_ 26)]

def spacedDatabase : Database := runAll Operation.next spaced Database.initial

/-- Its answer at second 6, which asks for 20 seconds. -/
def limitation : Operation := .recordRetryAfter limitedReservation (.ofNat 20) lease (at_ 6)

def limitedDatabase : Database := limitation.next spacedDatabase

def resumedDatabase : Database := runAll Operation.next resumed limitedDatabase

end Sample

set_option maxRecDepth 4096 in
theorem Sample.limited_eq : recordRetryAfter Sample.limitedReservation (.ofNat 20) Sample.lease
    (Sample.at_ 6) Sample.spacedDatabase = (.ok (), Sample.limitedDatabase) := by
  refine Prod.ext (by decide +kernel) ?_
  simp only [Sample.limitedDatabase, Sample.limitation, Operation.next, Operation.run]

theorem Sample.limited_key : Sample.spacedDatabase.gates.reservationScopes.get?
    (Sample.limitedReservation.reservationId, .provider) = some Sample.keys.provider := by
  decide +kernel

/-- The three starts of the sample are spaced, no window has more than two of them, and the third
one waits for the `Retry-After` of the second. -/
theorem rate_limits_hold_sample :
    Sample.resumedDatabase.gates.startsOf Sample.providerGate =
        [Sample.at_ 3, Sample.at_ 5, Sample.at_ 26] ∧
      (Sample.resumedDatabase.gates.startTimes Sample.providerGate).Pairwise (· ≤ ·) ∧
      Paced (2000000 : ℤ) (Sample.resumedDatabase.gates.startTimes Sample.providerGate) ∧
      Windowed (10000000 : ℤ) 2 (Sample.resumedDatabase.gates.startTimes Sample.providerGate) ∧
      ∃ since, Sample.resumedDatabase.gates.startsOf Sample.providerGate =
          Sample.limitedDatabase.gates.startsOf Sample.providerGate ++ since ∧
        ∀ t ∈ since, Sample.at_ 26 ≤ t := by
  have hspaced : Reachable
      (fun op _ => op.Uses (UsesLimit Sample.providerGate Sample.spacedLimit))
      Sample.spacedDatabase :=
    reachable_runAll ⟨trivial, trivial, trivial, fun _ => rfl, trivial, trivial, fun _ => rfl,
      fun _ => rfl, trivial, trivial⟩
  have hlimited : Reachable
      (fun op _ => op.Uses (UsesLimit Sample.providerGate Sample.spacedLimit))
      Sample.limitedDatabase := .tail hspaced ⟨Sample.limitation, trivial, rfl⟩
  have hresumed : Reachable
      (fun op _ => op.Uses (UsesLimit Sample.providerGate Sample.spacedLimit))
      Sample.resumedDatabase :=
    hlimited.trans (Reaches.runAll ⟨fun _ => rfl, fun _ => rfl, trivial⟩)
  obtain ⟨hsorted, hpaced, hwindowed, -⟩ := rate_limits_hold hresumed
  refine ⟨by decide +kernel, hsorted, hpaced 2000000 (by decide), hwindowed 10000000 (by decide), ?_⟩
  -- the deadline is twenty seconds after the answer of the second start
  obtain ⟨key, delay, deadline, hkey, hdelay, hdeadline, hlater⟩ :=
    (rate_limits_hold hspaced).2.2.2 Sample.limitedReservation (.ofNat 20) Sample.lease
      (Sample.at_ 6) Sample.limitedDatabase Sample.limited_eq
  obtain rfl := Option.some.inj (Sample.limited_key.symm.trans hkey)
  have htwenty : timedelta (.ofNat 20) = some 20000000 := by decide
  obtain rfl := Option.some.inj (htwenty.symm.trans hdelay)
  have hsum : (Sample.at_ 6).add? 20000000 = some (Sample.at_ 26) := by decide +kernel
  obtain rfl := Option.some.inj (hsum.symm.trans hdeadline)
  exact (hlater Sample.resumedDatabase (Reaches.runAll ⟨trivial, trivial, trivial⟩)).2

end StockResearch.Requests
