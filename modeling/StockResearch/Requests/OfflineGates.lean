import StockResearch.Lib.SlidingWindow
import StockResearch.Requests.OfflineCoordinator

/-!
# The gates of the offline coordinator

The gates of a rate domain open at one point in time, which only a send in that domain
moves: the latest of its cooldown, its last start and one interval, and its start as many
sends ago as a window allows and one window. A call before that point is blocked and told
how long it lasts, and a call from then on is sent.

- `Domain.opensAt`: that point in time.
- `DomainSound`, `SessionSound`: what a run keeps.
- `offline_gates_hold`: the laws.
-/

namespace StockResearch.Requests.Offline

open Contracts (PyFloat)

/-! ## Restrictions as points in time -/

/-- Of a sorted list, an upward closed test keeps the end. -/
theorem filter_upward {xs : List ℚ} {p : ℚ → Bool} (hsorted : xs.Pairwise (· ≤ ·))
    (hup : ∀ a b, a ≤ b → p a = true → p b = true) :
    ∃ ys, xs = ys ++ xs.filter p ∧ ∀ y ∈ ys, p y = false := by
  induction xs with
  | nil => exact ⟨[], rfl, nofun⟩
  | cons x xs ih =>
    obtain ⟨hle, hsorted⟩ := List.pairwise_cons.mp hsorted
    cases hp : p x with
    | true =>
      have hall : xs.filter p = xs :=
        List.filter_eq_self.mpr fun y hy => hup x y (hle y hy) hp
      exact ⟨[], by rw [List.filter_cons_of_pos hp, hall, List.nil_append], nofun⟩
    | false =>
      obtain ⟨ys, hxs, hys⟩ := ih hsorted
      refine ⟨x :: ys, ?_, List.forall_mem_cons.mpr ⟨hp, hys⟩⟩
      rw [List.filter_cons_of_neg (by simp [hp]), List.cons_append, ← hxs]

/-- The start `n` sends ago is among the active ones, or there are fewer of them and it
is not active. -/
theorem fromEnd_filter {xs : List ℚ} {p : ℚ → Bool} {n : Int} (hn : 0 < n)
    (hsorted : xs.Pairwise (· ≤ ·)) (hup : ∀ a b, a ≤ b → p a = true → p b = true) :
    if n ≤ (xs.filter p).length then fromEnd (xs.filter p) n = fromEnd xs n
    else ∀ a ∈ fromEnd xs n, p a = false := by
  obtain ⟨ys, hxs, hys⟩ := filter_upward hsorted hup
  generalize xs.filter p = zs at hxs
  subst hxs
  split
  · rename_i hle
    have hlong : n ≤ (ys ++ zs).length := by
      rw [List.length_append]
      omega
    rw [fromEnd, fromEnd, if_pos hn, if_pos hn, if_pos hle, if_pos hlong, List.length_append,
      List.getElem?_append_right (by omega)]
    congr 1
    omega
  · rename_i hlt
    intro a ha
    rw [fromEnd, if_pos hn] at ha
    split at ha
    · rename_i hlong
      rw [List.length_append] at ha hlong
      rw [List.getElem?_append_left (by omega)] at ha
      exact hys a (List.mem_of_getElem? ha)
    · cases ha

/-- The point in time from which the gates of a domain without a send in progress are
open. -/
def Domain.opensAt (domain : Domain) : ℚ :=
  max (max domain.cooldown (domain.lastStart.elim 0 (· + domain.limits.interval)))
    ((fromEnd domain.starts domain.limits.requests).elim 0 (· + domain.limits.window))

/-- What remains of a restriction that ends at a point in time. -/
def remains (until_ now : ℚ) : ℚ := max 0 (until_ - now)

theorem remains_max {a b now : ℚ} : max (remains a now) (remains b now) = remains (max a b) now := by
  rcases le_total a b with hab | hab
  · rw [max_eq_right hab, max_eq_right]
    exact max_le_max le_rfl (sub_le_sub_right hab now)
  · rw [max_eq_left hab, max_eq_left]
    exact max_le_max le_rfl (sub_le_sub_right hab now)

theorem remains_eq_zero {until_ now : ℚ} : remains until_ now = 0 ↔ until_ ≤ now := by
  rw [remains, max_eq_left_iff, sub_nonpos]

theorem remains_of_lt {until_ now : ℚ} (h : now < until_) : remains until_ now = until_ - now :=
  max_eq_right (sub_nonneg.mpr h.le)

/-- The restrictions of a domain, as points in time. -/
structure Domain.Restricts (domain : Domain) (now : ℚ) (r : Remaining) : Prop where
  cooldown : r.cooldown = remains domain.cooldown now
  occupancy : r.occupancy = if domain.occupied then 1 else 0
  interval : r.interval = remains (domain.lastStart.elim 0 (· + domain.limits.interval)) now
  window : r.window =
    remains ((fromEnd domain.starts domain.limits.requests).elim 0 (· + domain.limits.window)) now

/-- The window opens one window after its start as many sends ago as it allows. -/
theorem Domain.windowWait_eq {domain : Domain} {now : ℚ} (hsorted : domain.starts.Pairwise (· ≤ ·))
    (hrequests : 0 < domain.limits.requests) (hnow : 0 ≤ now) :
    domain.windowWait now = some (remains
      ((fromEnd domain.starts domain.limits.requests).elim 0 (· + domain.limits.window)) now) := by
  -- starts are in order, so the active ones are a suffix
  have hup : ∀ a b, a ≤ b → decide (now - a < domain.limits.window) = true →
      decide (now - b < domain.limits.window) = true := by
    intro a b hab ha
    rw [decide_eq_true_eq] at ha ⊢
    linarith
  have hfilter := fromEnd_filter hrequests hsorted hup
  rw [← Domain.active] at hfilter
  rw [Domain.windowWait]
  split at hfilter
  · -- the window is full: the wait runs from the start as many sends ago
    rename_i hfull
    have hsome : ∃ start, fromEnd (domain.active now) domain.limits.requests = some start := by
      rw [fromEnd, if_pos hrequests, if_pos hfull]
      exact ⟨_, List.getElem?_eq_getElem (by omega)⟩
    obtain ⟨start, hstart⟩ := hsome
    rw [if_pos hfull, ← hfilter, hstart]
    rfl
  · -- there is room: that start is older than the window, or there is none
    rename_i hroom
    rw [if_neg hroom]
    congr 1
    symm
    cases hstart : fromEnd domain.starts domain.limits.requests with
    | none => exact remains_eq_zero.mpr hnow
    | some start =>
      have hold := hfilter start hstart
      rw [decide_eq_false_iff_not] at hold
      exact remains_eq_zero.mpr (show start + domain.limits.window ≤ now by linarith)

theorem Domain.remaining_eq {domain : Domain} {now : ℚ} (hsorted : domain.starts.Pairwise (· ≤ ·))
    (hrequests : 0 < domain.limits.requests) (hnow : 0 ≤ now) :
    ∃ r, domain.remaining now = some r ∧ domain.Restricts now r := by
  rw [Domain.remaining, Domain.windowWait_eq hsorted hrequests hnow]
  refine ⟨_, rfl, rfl, rfl, ?_, rfl⟩
  cases domain.lastStart with
  | none => exact (remains_eq_zero.mpr hnow).symm
  | some last => rfl

theorem Domain.Restricts.blocked {domain : Domain} {now : ℚ} {r : Remaining}
    (h : domain.Restricts now r) :
    r.blocked = true ↔ domain.occupied = true ∨ now < domain.opensAt := by
  rw [Remaining.blocked, decide_eq_true_eq, h.cooldown, h.occupancy, h.interval, h.window, ne_eq,
    ne_eq, ne_eq, ne_eq, remains_eq_zero, remains_eq_zero, remains_eq_zero, Domain.opensAt,
    lt_max_iff, lt_max_iff]
  cases domain.occupied <;> simp [or_assoc]

theorem Domain.Restricts.maximum {domain : Domain} {now : ℚ} {r : Remaining}
    (h : domain.Restricts now r) (hfree : domain.occupied = false) :
    r.maximum = remains domain.opensAt now := by
  have hzero : r.occupancy = 0 := by rw [h.occupancy, hfree]; rfl
  have hnonneg : 0 ≤ r.cooldown := by rw [h.cooldown]; exact le_max_left _ _
  rw [Remaining.maximum, hzero, max_eq_left hnonneg, h.cooldown, h.interval, h.window, remains_max,
    remains_max, Domain.opensAt]

/-! ## Calls -/

/-- The limits of a binding are positive. -/
theorem limits_positive {binding : SourceBinding} {limits : Limits}
    (h : binding.limits exactFloat = .ok limits) :
    0 < limits.interval ∧ 0 < limits.requests ∧ 0 < limits.window := by
  -- a setting passes `positive` with its exact value
  have hpositive : ∀ {setting : Contracts.QuantitativeSetting} {unit : String} {value : ℚ},
      positive exactFloat setting unit = .ok value → 0 < value ∧
        ∀ n, setting.value = some (.int n) → value = n := by
    intro setting unit value h
    simp only [positive, bind_eq_ok, require_eq_ok, fetch_eq_ok] at h
    obtain ⟨-, -, -, -, found, hfound, float, hfloat, h⟩ := h
    cases float with
    | finite number =>
      simp only [bind_eq_ok, require_eq_ok, pure_eq_ok] at h
      obtain ⟨-, hpos, rfl⟩ := h
      refine ⟨hpos, fun n hn => ?_⟩
      obtain rfl := Option.some.inj (hfound.symm.trans hn)
      simp only [SettingValue.toFloat, exactFloat, bind_eq_ok, fetch_eq_ok, pure_eq_ok] at hfloat
      obtain ⟨_, hrounded, hnumber⟩ := hfloat
      cases hrounded
      exact (PyFloat.finite.inj hnumber).symm
    | nan | inf | negInf => cases h
  simp only [SourceBinding.limits, bind_eq_ok, require_eq_ok] at h
  obtain ⟨-, -, interval, hinterval, window, hwindow, count, hcount, h⟩ := h
  split at h
  · -- the request count must be an integer
    rename_i n hvalue
    rw [pure_eq_ok] at h
    subst h
    obtain ⟨hpos, hint⟩ := hpositive hcount
    rw [hint n hvalue] at hpos
    refine ⟨(hpositive hinterval).1, ?_, (hpositive hwindow).1⟩
    rw [Limits.requests, hint n hvalue, Rat.floor_intCast]
    exact_mod_cast hpos
  · cases h

/-- The coordinator's record of the domain, or a new one for the limits. -/
def Coordinator.domainFor (coordinator : Coordinator) (rateDomain : Contracts.Identifier)
    (limits : Limits) : Domain :=
  (coordinator.domains.get? rateDomain).getD { limits := limits }

/-- A usable clock reading. -/
theorem clock_eq_some {coordinator : Coordinator} {reading : ClockReading} {now : ℚ}
    {utc : DateTime} : coordinator.clock reading = some (now, utc) ↔
      reading = ⟨some (.finite now), some utc⟩ ∧ 0 ≤ now ∧
        ∀ last ∈ coordinator.lastClock, last ≤ now := by
  obtain ⟨monotonic, utcnow⟩ := reading
  rw [Coordinator.clock]
  split
  · rename_i found utc' hmonotonic hutc
    simp only at hmonotonic hutc
    subst hmonotonic hutc
    split
    · rename_i hok
      simp only [Option.some.injEq, Prod.mk.injEq, ClockReading.mk.injEq, PyFloat.finite.injEq]
      constructor
      · rintro ⟨rfl, rfl⟩
        exact ⟨⟨rfl, rfl⟩, hok⟩
      · exact fun h => h.1
    · rename_i hbad
      refine ⟨nofun, ?_⟩
      rintro ⟨h, hok⟩
      simp only [ClockReading.mk.injEq, Option.some.injEq, PyFloat.finite.injEq] at h
      obtain ⟨rfl, rfl⟩ := h
      exact absurd hok hbad
  · rename_i hnone
    refine ⟨nofun, ?_⟩
    rintro ⟨h, -⟩
    simp only [ClockReading.mk.injEq] at h
    exact absurd h.2 (hnone now utc h.1)

/-- What an evaluation rests on. -/
structure Evaluates (coordinator : Coordinator) (inputs : AttemptInputs) (e : Evaluation) : Prop where
  binding_eq : inputs.binding = some e.binding
  request_eq : inputs.request = some e.request
  limits_eq : e.binding.limits exactFloat = .ok e.domain.limits
  domain_eq : e.domain = coordinator.domainFor e.binding.rateDomain e.domain.limits
  reading : inputs.clock = ⟨some (.finite e.now), some e.utc⟩
  now_nonneg : 0 ≤ e.now
  now_monotone : ∀ last ∈ coordinator.lastClock, last ≤ e.now
  remaining_eq : e.domain.remaining e.now = some e.remaining

theorem evaluate_eq_ok {coordinator : Coordinator} {inputs : AttemptInputs} {e : Evaluation} :
    evaluate coordinator inputs = .ok e ↔ Evaluates coordinator inputs e := by
  have htoOption : ∀ {binding : CoordinatorBinding} {limits : Limits},
      (binding.limits exactFloat).toOption = some limits ↔ binding.limits exactFloat = .ok limits := by
    intro binding limits
    cases binding.limits exactFloat <;> simp [Except.toOption]
  simp only [evaluate, bind_eq_ok, fetch_eq_ok, require_eq_ok, pure_eq_ok, htoOption]
  constructor
  · rintro ⟨binding, hbinding, request, hrequest, limits, hlimits, ⟨now, utc⟩, hclock, -, hdomain, r,
      hr, rfl⟩
    obtain ⟨hreading, hnonneg, hmonotone⟩ := clock_eq_some.mp hclock
    exact ⟨hbinding, hrequest, by rw [hdomain, hlimits], by rw [hdomain]; rfl, hreading, hnonneg,
      hmonotone, hr⟩
  · intro h
    have hdomain := h.domain_eq.symm
    rw [Coordinator.domainFor] at hdomain
    refine ⟨e.binding, h.binding_eq, e.request, h.request_eq, e.domain.limits, h.limits_eq,
      (e.now, e.utc), clock_eq_some.mpr ⟨h.reading, h.now_nonneg, h.now_monotone⟩, ?_⟩
    simp only [hdomain]
    exact ⟨(), trivial, e.remaining, h.remaining_eq, rfl⟩

/-- An evaluation that fails rejects the call. -/
theorem evaluate_eq_error {coordinator : Coordinator} {inputs : AttemptInputs}
    {result : AttemptResult} (h : evaluate coordinator inputs = .error result) :
    result.status = .rejected := by
  simp only [evaluate, bind_eq_error, fetch_eq_error, require_eq_error] at h
  rcases h with ⟨-, rfl⟩ | ⟨_, -, ⟨-, rfl⟩ | ⟨_, -, ⟨-, rfl⟩ | ⟨_, -, ⟨-, rfl⟩ | ⟨_, -, ⟨-, rfl⟩ |
    ⟨_, -, ⟨-, rfl⟩ | ⟨_, -, h⟩⟩⟩⟩⟩⟩
  all_goals first | rfl | cases h

/-- A reservation that fails rejects the call. -/
theorem reserve_eq_error {digest : RequestIdentity → Contracts.Sha256Hex} {inputs : AttemptInputs}
    {e : Evaluation} {result : AttemptResult} (h : e.reserve digest inputs = .error result) :
    result.status = .rejected := by
  simp only [Evaluation.reserve, bind_eq_error, require_eq_error] at h
  rcases h with h | ⟨_, -, h | ⟨_, -, ⟨-, rfl⟩ | ⟨_, -, h⟩⟩⟩
  · simp only [AttemptInputs.eventIds, bind_eq_error, require_eq_error] at h
    rcases h with h | ⟨_, -, ⟨-, rfl⟩ | ⟨_, -, h⟩⟩
    · obtain ⟨_, _, _, -, -, hraise⟩ := mapM_eq_error.mp h
      obtain ⟨-, rfl⟩ := fetch_eq_error.mp hraise
      rfl
    · rfl
    · cases h
  · rw [AttemptInputs.physical] at h
    split at h
    · cases h
    · cases hid : inputs.physicalId.bind identifier? with
      | none =>
        rw [hid] at h
        cases h
        rfl
      | some id =>
        rw [hid] at h
        cases h
  · rfl
  · cases h

/-- A call that is sent found its gates open. -/
theorem prepare_eq_ok {digest : RequestIdentity → Contracts.Sha256Hex} {coordinator : Coordinator}
    {inputs : AttemptInputs} {call : PendingCall} (h : prepare digest coordinator inputs = .ok call) :
    ∃ e, Evaluates coordinator inputs e ∧ e.remaining.blocked = false ∧
      e.reserve digest inputs = .ok call := by
  simp only [prepare, bind_eq_ok, require_eq_ok, pure_eq_ok] at h
  obtain ⟨e, he, call, hcall, -, hfree, rfl⟩ := h
  exact ⟨e, evaluate_eq_ok.mp he, hfree, hcall⟩

/-- A call that is blocked found a gate closed. -/
theorem prepare_eq_blocked {digest : RequestIdentity → Contracts.Sha256Hex} {coordinator : Coordinator}
    {inputs : AttemptInputs} {result : AttemptResult}
    (h : prepare digest coordinator inputs = .error result) (hblocked : result.status = .blocked) :
    ∃ e call, Evaluates coordinator inputs e ∧ e.remaining.blocked = true ∧
      e.reserve digest inputs = .ok call ∧ result = e.blockedResult call := by
  simp only [prepare, bind_eq_error, require_eq_error] at h
  rcases h with h | ⟨e, he, h | ⟨call, hcall, ⟨hclosed, rfl⟩ | ⟨_, -, h⟩⟩⟩
  · rw [evaluate_eq_error h] at hblocked
    cases hblocked
  · rw [reserve_eq_error h] at hblocked
    cases hblocked
  · exact ⟨e, call, evaluate_eq_ok.mp he, by simpa using hclosed, hcall, rfl⟩
  · cases h

/-- With gates that are open there is room for one more start in the window. -/
theorem Domain.active_lt {domain : Domain} {now : ℚ} {r : Remaining}
    (hr : domain.remaining now = some r) (hfree : r.blocked = false)
    (hrequests : 0 < domain.limits.requests) :
    (domain.active now).length < domain.limits.requests := by
  by_contra hfull
  rw [not_lt] at hfull
  have hlength : domain.limits.requests ≤ (domain.active now).length := hfull
  have hindex : (domain.active now).length - domain.limits.requests.toNat <
      (domain.active now).length := by omega
  have hstart : fromEnd (domain.active now) domain.limits.requests =
      some (domain.active now)[(domain.active now).length - domain.limits.requests.toNat] := by
    rw [fromEnd, if_pos hrequests, if_pos hlength, List.getElem?_eq_getElem hindex]
  have hactive := (List.mem_filter.mp (List.getElem_mem hindex)).2
  rw [decide_eq_true_eq] at hactive
  rw [Domain.remaining, Domain.windowWait, if_pos hlength, hstart] at hr
  obtain rfl := Option.some.inj hr
  rw [Remaining.blocked, decide_eq_false_iff_not] at hfree
  refine hfree (.inr (.inr (.inr (ne_of_gt ?_))))
  refine lt_max_of_lt_right ?_
  linarith

/-! ## What a run keeps -/

/-- The starts of a rate domain, with the limits they were checked against. -/
def startsOf (rateDomain : Contracts.Identifier) (log : List Entry) : List (Limits × ℚ) :=
  log.filterMap fun entry =>
    match entry with
    | .started d limits now => if d = rateDomain then some (limits, now) else none
    | _ => none

/-- Their times. -/
def timesOf (rateDomain : Contracts.Identifier) (log : List Entry) : List ℚ :=
  (startsOf rateDomain log).map (·.2)

/-- The cooldown deadlines recorded for a rate domain. -/
def deadlinesOf (rateDomain : Contracts.Identifier) (log : List Entry) : List ℚ :=
  log.filterMap fun entry =>
    match entry with
    | .cooled d deadline => if d = rateDomain then some deadline else none
    | _ => none

/-- No send starts before a cooldown deadline that was recorded before it. -/
def CooldownsKept (rateDomain : Contracts.Identifier) (log : List Entry) : Prop :=
  log.Pairwise fun earlier later => ∀ deadline limits now,
    earlier = .cooled rateDomain deadline → later = .started rateDomain limits now → deadline ≤ now

/-- The clock of the coordinator does not go back. -/
def ClockLater (before after : Option ℚ) : Prop := ∀ last ∈ before, ∃ last' ∈ after, last ≤ last'

/-- The record of a domain agrees with the log. -/
structure DomainSound (rateDomain : Contracts.Identifier) (log : List Entry) (lastClock : Option ℚ)
    (domain : Domain) : Prop where
  requests_pos : 0 < domain.limits.requests
  interval_pos : 0 < domain.limits.interval
  limits_eq : ∀ start ∈ startsOf rateDomain log, start.1 = domain.limits
  last : (timesOf rateDomain log).getLast? = domain.lastStart
  clocked : ∀ t ∈ domain.starts, ∃ last ∈ lastClock, t ≤ last
  sorted : domain.starts.Pairwise (· ≤ ·)
  -- pruned starts lie outside every window that a later reading looks at
  recent : ∀ now, (∀ last ∈ lastClock, last ≤ now) →
    ((timesOf rateDomain log).countP fun t => decide (now - domain.limits.window < t)) =
      (domain.active now).length
  paced : Paced domain.limits.interval (timesOf rateDomain log)
  windowed : Windowed domain.limits.window domain.limits.requests.toNat (timesOf rateDomain log)
  deadlines : ∀ deadline ∈ deadlinesOf rateDomain log, deadline ≤ domain.cooldown

/-- What holds in every session. -/
structure SessionSound (s : Session) : Prop where
  known : ∀ d domain, s.coordinator.domains.get? d = some domain →
    DomainSound d s.log s.coordinator.lastClock domain
  unknown : ∀ d, s.coordinator.domains.get? d = none →
    startsOf d s.log = [] ∧ deadlinesOf d s.log = []
  occupied : ∀ d domain, s.coordinator.domains.get? d = some domain →
    (domain.occupied = true ↔ d ∈ s.sending.map (·.rateDomain))
  recorded : ∀ call ∈ s.sending, s.coordinator.domains.get? call.rateDomain ≠ none
  exclusive : (s.sending.map (·.rateDomain)).Nodup
  cooled : ∀ d, CooldownsKept d s.log

/-- A record that did not change stays sound when the log grows elsewhere. -/
theorem DomainSound.later {d : Contracts.Identifier} {log log' : List Entry}
    {lastClock lastClock' : Option ℚ} {domain : Domain} (h : DomainSound d log lastClock domain)
    (hstarts : startsOf d log' = startsOf d log) (hdeadlines : deadlinesOf d log' = deadlinesOf d log)
    (hclock : ClockLater lastClock lastClock') : DomainSound d log' lastClock' domain := by
  have htimes : timesOf d log' = timesOf d log := by rw [timesOf, timesOf, hstarts]
  refine ⟨h.requests_pos, h.interval_pos, by rw [hstarts]; exact h.limits_eq,
    by rw [htimes]; exact h.last, ?_, h.sorted, ?_, by rw [htimes]; exact h.paced,
    by rw [htimes]; exact h.windowed, by rw [hdeadlines]; exact h.deadlines⟩
  · intro t ht
    obtain ⟨last, hlast, hle⟩ := h.clocked t ht
    obtain ⟨last', hlast', hle'⟩ := hclock last hlast
    exact ⟨last', hlast', hle.trans hle'⟩
  · intro now hnow
    rw [htimes]
    refine h.recent now fun last hlast => ?_
    obtain ⟨last', hlast', hle⟩ := hclock last hlast
    exact hle.trans (hnow last' hlast')

section

variable {d : Contracts.Identifier} {log : List Entry} {lastClock : Option ℚ} {limits : Limits}
  {domain : Domain} {now : ℚ} {r : Remaining}

/-- The record a domain starts with. -/
theorem DomainSound.new (hinterval : 0 < limits.interval) (hrequests : 0 < limits.requests)
    (hstarts : startsOf d log = []) (hdeadlines : deadlinesOf d log = []) :
    DomainSound d log lastClock { limits := limits } := by
  have htimes : timesOf d log = [] := by rw [timesOf, hstarts, List.map_nil]
  refine ⟨hrequests, hinterval, by rw [hstarts]; exact nofun, by rw [htimes]; rfl, nofun,
    List.Pairwise.nil, fun _ _ => by rw [htimes]; rfl, by rw [htimes]; exact .nil,
    by rw [htimes]; exact windowed_nil, by rw [hdeadlines]; exact nofun⟩

/-- A domain whose gates are open has been open since it was due. -/
theorem Domain.Restricts.open (h : domain.Restricts now r) (hfree : r.blocked = false) :
    domain.occupied = false ∧ domain.opensAt ≤ now := by
  have hblocked := h.blocked
  rw [hfree] at hblocked
  simpa [not_or] using hblocked

theorem startsOf_append_started : startsOf d (log ++ [.started d limits now]) =
    startsOf d log ++ [(limits, now)] := by
  simp [startsOf]

theorem startsOf_append_other {entry : Entry} (h : ∀ limits now, entry ≠ .started d limits now) :
    startsOf d (log ++ [entry]) = startsOf d log := by
  cases entry with
  | started d' limits now =>
    have hne : d' ≠ d := fun heq => h limits now (by rw [heq])
    simp [startsOf, hne]
  | cooled | ended => simp [startsOf]

theorem deadlinesOf_append_other {entry : Entry} (h : ∀ deadline, entry ≠ .cooled d deadline) :
    deadlinesOf d (log ++ [entry]) = deadlinesOf d log := by
  cases entry with
  | cooled d' deadline =>
    have hne : d' ≠ d := fun heq => h deadline (by rw [heq])
    simp [deadlinesOf, hne]
  | started | ended => simp [deadlinesOf]

/-- A send that starts when the gates are open keeps the record sound. -/
theorem DomainSound.started (h : DomainSound d log lastClock domain)
    (hmonotone : ∀ last ∈ lastClock, last ≤ now) (hnow : 0 ≤ now)
    (hremaining : domain.remaining now = some r) (hfree : r.blocked = false) :
    DomainSound d (log ++ [.started d domain.limits now]) (some now)
      { domain with
        occupied := true
        lastStart := some now
        starts := domain.active now ++ [now] } := by
  obtain ⟨r', hr', hrestricts⟩ := Domain.remaining_eq h.sorted h.requests_pos hnow
  obtain rfl := Option.some.inj (hremaining.symm.trans hr')
  obtain ⟨-, hopen⟩ := hrestricts.open hfree
  have htimes : timesOf d (log ++ [.started d domain.limits now]) = timesOf d log ++ [now] := by
    rw [timesOf, startsOf_append_started, List.map_append]
    rfl
  -- the active starts are not after now
  have hpast : ∀ t ∈ domain.active now, t ≤ now := by
    intro t ht
    obtain ⟨last, hlast, hle⟩ := h.clocked t (List.mem_filter.mp ht).1
    exact hle.trans (hmonotone last hlast)
  refine ⟨h.requests_pos, h.interval_pos, ?_, by rw [htimes, List.getLast?_concat], ?_, ?_, ?_, ?_, ?_,
    ?_⟩
  · -- the limits are the same for every start
    rw [startsOf_append_started]
    intro start hstart
    rcases List.mem_append.mp hstart with hstart | hstart
    · exact h.limits_eq start hstart
    · rw [List.mem_singleton.mp hstart]
  · -- no start is ahead of the clock
    intro t ht
    refine ⟨now, rfl, ?_⟩
    rcases List.mem_append.mp ht with ht | ht
    · exact hpast t ht
    · exact (List.mem_singleton.mp ht).le
  · -- the starts stay in order
    refine List.pairwise_append.mpr ⟨h.sorted.filter _, List.pairwise_singleton _ _, ?_⟩
    intro t ht t' ht'
    rw [List.mem_singleton.mp ht']
    exact hpast t ht
  · -- a later reading counts no start that an earlier one has pruned
    intro later hlater
    have hle : now ≤ later := hlater now rfl
    have hbefore := h.recent later fun last hlast => (hmonotone last hlast).trans hle
    rw [htimes, List.countP_append, hbefore, Domain.active, Domain.active, Domain.active,
      List.filter_append, List.length_append, List.filter_filter, List.countP_eq_length_filter]
    congr 2
    · refine List.filter_congr fun t _ => ?_
      rw [← Bool.decide_and, decide_eq_decide]
      constructor
      · exact fun ht => ⟨ht, by linarith⟩
      · exact fun ht => ht.1
    · refine List.filter_congr fun t _ => ?_
      rw [decide_eq_decide]
      exact sub_lt_comm
  · rw [htimes]
    -- the last start is an interval ago, for the gate was open
    refine h.paced.append fun last hlast => ?_
    rw [h.last] at hlast
    have hinterval := (le_max_right _ _).trans ((le_max_left _ _).trans hopen)
    rw [Option.mem_def.mp hlast] at hinterval
    exact hinterval
  · rw [htimes]
    -- the window had room for this start
    refine h.windowed.append ?_
    rw [h.recent now hmonotone]
    have hroom := Domain.active_lt hremaining hfree h.requests_pos
    show (domain.active now).length < domain.limits.requests.toNat
    omega
  · rw [deadlinesOf_append_other (by rintro _ ⟨⟩)]
    exact h.deadlines

/-- The end of a send keeps the record sound. -/
theorem DomainSound.ended {deadline : Option ℚ} {lastClock' : Option ℚ}
    (h : DomainSound d log lastClock domain) (hclock : ClockLater lastClock lastClock')
    (hdeadline : ∀ value ∈ deadline, domain.cooldown ≤ value) :
    DomainSound d (log ++ (deadline.map (Entry.cooled d)).toList ++ [.ended d]) lastClock'
      { domain with occupied := false, cooldown := deadline.getD domain.cooldown } := by
  have hstarts : startsOf d (log ++ (deadline.map (Entry.cooled d)).toList ++ [.ended d]) =
      startsOf d log := by
    rw [startsOf_append_other (by rintro _ _ ⟨⟩)]
    cases deadline with
    | none => rw [Option.map_none, Option.toList_none, List.append_nil]
    | some value => exact startsOf_append_other (by rintro _ _ ⟨⟩)
  have hsound : DomainSound d log lastClock' domain := h.later rfl rfl hclock
  have htimes : timesOf d (log ++ (deadline.map (Entry.cooled d)).toList ++ [.ended d]) =
      timesOf d log := by rw [timesOf, timesOf, hstarts]
  refine ⟨h.requests_pos, h.interval_pos, by rw [hstarts]; exact h.limits_eq,
    by rw [htimes]; exact h.last, hsound.clocked, h.sorted, by rw [htimes]; exact hsound.recent,
    by rw [htimes]; exact h.paced, by rw [htimes]; exact h.windowed, ?_⟩
  rw [deadlinesOf_append_other (by rintro _ ⟨⟩)]
  cases deadline with
  | none => simpa using h.deadlines
  | some value =>
    intro deadline hmem
    simp only [Option.map_some, Option.toList_some, deadlinesOf, List.filterMap_append,
      List.mem_append] at hmem
    rcases hmem with hmem | hmem
    · exact (h.deadlines deadline hmem).trans (hdeadline value rfl)
    · simp at hmem
      exact hmem.le

end

/-! ## Steps -/

/-- What the end of a send does to the coordinator. -/
structure Ended (coordinator : Coordinator) (call : PendingCall) (deadline : Option ℚ)
    (after : Coordinator) : Prop where
  clock : ClockLater coordinator.lastClock after.lastClock
  domains : ∀ d, after.domains.get? d =
    if d = call.rateDomain then
      (coordinator.domains.get? d).map fun domain =>
        { domain with occupied := false, cooldown := deadline.getD domain.cooldown }
    else coordinator.domains.get? d
  deadline : ∀ value ∈ deadline, ∀ domain, coordinator.domains.get? call.rateDomain = some domain →
    domain.cooldown ≤ value

theorem ClockLater.refl (clock : Option ℚ) : ClockLater clock clock :=
  fun last hlast => ⟨last, hlast, le_rfl⟩

/-- A release alone. -/
theorem ended_release {coordinator : Coordinator} {call : PendingCall} {lastClock : Option ℚ}
    (hclock : ClockLater coordinator.lastClock lastClock) :
    Ended coordinator call none
      (Coordinator.release { coordinator with lastClock := lastClock } call.rateDomain) := by
  refine ⟨hclock, fun d => ?_, nofun⟩
  simp only [Coordinator.release, Table.get?_modify, Option.getD_none]

/-- A recorded cooldown is never earlier than the one before. -/
theorem Coordinator.cool_ended {coordinator cooled : Coordinator} {call : PendingCall}
    {received retry deadline : ℚ} {receivedUtc : DateTime} {text : String} {before : Option ℚ}
    (hcool : Coordinator.cool { coordinator with lastClock := some received } call received receivedUtc
      retry = some (deadline, text, cooled))
    (hclock : ClockLater coordinator.lastClock (some received)) (hbefore : before = some deadline) :
    Ended coordinator call before (cooled.release call.rateDomain) := by
  subst hbefore
  obtain ⟨_, -, hcooled⟩ := Option.map_eq_some_iff.mp hcool
  simp only [Prod.mk.injEq] at hcooled
  obtain ⟨hdeadline, -, rfl⟩ := hcooled
  rw [hdeadline]
  refine ⟨hclock, fun d => ?_, fun value hvalue domain hdomain => ?_⟩
  · simp only [Coordinator.release, Table.get?_modify, Option.getD_some]
    split
    · rw [Option.map_map]
      rfl
    · rfl
  · obtain rfl := Option.mem_some.mp hvalue
    rw [← hdeadline, hdomain]
    exact le_max_left _ _

theorem Coordinator.settle_ended (coordinator : Coordinator) (call : PendingCall)
    (outcome : SendOutcome) (reading : ClockReading) :
    Ended coordinator call (coordinator.settle call outcome reading).1.deadline
      ((coordinator.settle call outcome reading).2.release call.rateDomain) := by
  cases hclock : coordinator.clock reading with
  | none =>
    simp only [Coordinator.settle, hclock]
    exact ended_release (ClockLater.refl _)
  | some pair =>
    obtain ⟨received, receivedUtc⟩ := pair
    obtain ⟨-, -, hmonotone⟩ := clock_eq_some.mp hclock
    have hlater : ClockLater coordinator.lastClock (some received) :=
      fun last hlast => ⟨received, rfl, hmonotone last hlast⟩
    cases hretry : outcome.received.2.bind (·.retryDelay?) with
    | none =>
      simp only [Coordinator.settle, hclock, hretry]
      exact ended_release hlater
    | some retry =>
      simp only [Coordinator.settle, hclock, hretry]
      generalize hcool : Coordinator.cool { coordinator with lastClock := some received } call received
        receivedUtc retry = cooled
      cases cooled with
      | none => exact ended_release hlater
      | some cooled => exact Coordinator.cool_ended hcool hlater rfl

theorem Coordinator.ends_ended (coordinator : Coordinator) (call : PendingCall)
    (outcome : SendOutcome) (reading : ClockReading) :
    Ended coordinator call
      ((coordinator.ends call outcome reading).1.bind fun result => result.2.deadline)
      (coordinator.ends call outcome reading).2 := by
  cases outcome with
  | interrupted => exact ended_release (ClockLater.refl _)
  | raised => exact coordinator.settle_ended call .raised reading
  | returned response => exact coordinator.settle_ended call (.returned response) reading

theorem reserve_eq_ok {digest : RequestIdentity → Contracts.Sha256Hex} {inputs : AttemptInputs}
    {e : Evaluation} {call : PendingCall} (h : e.reserve digest inputs = .ok call) :
    call.binding = e.binding ∧ call.domain = e.domain ∧ call.now = e.now := by
  simp only [Evaluation.reserve, bind_eq_ok, require_eq_ok, pure_eq_ok] at h
  obtain ⟨_, -, _, -, -, -, rfl⟩ := h
  exact ⟨rfl, rfl, rfl⟩

/-- The record a call is evaluated against is sound. -/
theorem SessionSound.domainFor {s : Session} {binding : SourceBinding} {d : Contracts.Identifier}
    {domain : Domain} (h : SessionSound s) (hlimits : binding.limits exactFloat = .ok domain.limits)
    (hdomain : domain = s.coordinator.domainFor d domain.limits) :
    DomainSound d s.log s.coordinator.lastClock domain ∧
      (domain.occupied = true ↔ d ∈ s.sending.map (·.rateDomain)) := by
  rw [Coordinator.domainFor] at hdomain
  cases hget : s.coordinator.domains.get? d with
  | some found =>
    rw [hget, Option.getD_some] at hdomain
    rw [hdomain]
    exact ⟨h.known d found hget, h.occupied d found hget⟩
  | none =>
    rw [hget, Option.getD_none] at hdomain
    obtain ⟨hinterval, hrequests, -⟩ := limits_positive hlimits
    obtain ⟨hstarts, hdeadlines⟩ := h.unknown d hget
    rw [hdomain]
    refine ⟨.new hinterval hrequests hstarts hdeadlines, ⟨nofun, fun hmem => ?_⟩⟩
    obtain ⟨call, hcall, hrate⟩ := List.mem_map.mp hmem
    exact absurd (hrate ▸ hget) (h.recorded call hcall)

/-- A call that is blocked or rejected changes nothing. -/
theorem next_of_error {digest : RequestIdentity → Contracts.Sha256Hex} {s : Session} {inputs : AttemptInputs}
    {result : AttemptResult} (h : prepare digest s.coordinator inputs = .error result) :
    s.next digest (.attempt inputs) = s := by
  rw [Session.next, h]

/-- The start of a send replaces the record of its domain. -/
theorem Coordinator.begins_get? (coordinator : Coordinator) (call : PendingCall)
    (d : Contracts.Identifier) :
    (coordinator.begins call).domains.get? d =
      if d = call.rateDomain then some { call.domain with
        occupied := true
        lastStart := some call.now
        starts := call.domain.active call.now ++ [call.now] }
      else coordinator.domains.get? d := by
  rw [Coordinator.begins, Table.get?_upsert]
  cases coordinator.domains.get? call.rateDomain <;> rfl

theorem SessionSound.started {digest : RequestIdentity → Contracts.Sha256Hex} {s : Session}
    {inputs : AttemptInputs} {call : PendingCall} (h : SessionSound s)
    (hcall : prepare digest s.coordinator inputs = .ok call) :
    SessionSound
      { coordinator := s.coordinator.begins call
        sending := call :: s.sending
        log := s.log ++ [.started call.rateDomain call.domain.limits call.now] } := by
  obtain ⟨e, he, hfree, hreserve⟩ := prepare_eq_ok hcall
  obtain ⟨hbinding, hdomain, hnow⟩ := reserve_eq_ok hreserve
  obtain ⟨hsound, hoccupied⟩ := h.domainFor he.limits_eq he.domain_eq
  obtain ⟨r, hr, hrestricts⟩ :=
    Domain.remaining_eq hsound.sorted hsound.requests_pos he.now_nonneg
  obtain rfl := Option.some.inj (he.remaining_eq.symm.trans hr)
  obtain ⟨hidle, hopen⟩ := hrestricts.open hfree
  have hstarted := hsound.started he.now_monotone he.now_nonneg he.remaining_eq hfree
  have hrate : call.rateDomain = e.binding.rateDomain := by rw [PendingCall.rateDomain, hbinding]
  rw [← hrate, ← hdomain, ← hnow] at hstarted
  have hfresh : call.rateDomain ∉ s.sending.map (·.rateDomain) := by
    rw [hrate, ← hoccupied, hidle]
    exact Bool.false_ne_true
  have hget := fun d => s.coordinator.begins_get? call d
  have hclock : ClockLater s.coordinator.lastClock (some call.now) := fun last hlast =>
    ⟨call.now, rfl, hnow ▸ he.now_monotone last hlast⟩
  have hother : ∀ d, d ≠ call.rateDomain →
      startsOf d (s.log ++ [.started call.rateDomain call.domain.limits call.now]) =
        startsOf d s.log := by
    intro d hne
    refine startsOf_append_other ?_
    rintro _ _ ⟨⟩
    exact hne rfl
  have hdeadlines : ∀ d,
      deadlinesOf d (s.log ++ [.started call.rateDomain call.domain.limits call.now]) =
        deadlinesOf d s.log :=
    fun d => deadlinesOf_append_other (by rintro _ ⟨⟩)
  refine ⟨fun d domain hd => ?_, fun d hd => ?_, fun d domain hd => ?_, ?_, ?_, fun d => ?_⟩
  · rw [hget] at hd
    split at hd
    · rename_i heq
      subst heq
      obtain rfl := Option.some.inj hd
      exact hstarted
    · rename_i hne
      exact (h.known d domain hd).later (hother d hne) (hdeadlines d) hclock
  · rw [hget] at hd
    split at hd
    · cases hd
    · rename_i hne
      rw [hother d hne, hdeadlines d]
      exact h.unknown d hd
  · rw [hget] at hd
    rw [List.map_cons, List.mem_cons]
    split at hd
    · rename_i heq
      obtain rfl := Option.some.inj hd
      exact ⟨fun _ => .inl heq, fun _ => rfl⟩
    · rename_i hne
      rw [h.occupied d domain hd, or_iff_right hne]
  · intro other hmem
    rw [hget]
    split
    · exact Option.some_ne_none _
    · rename_i hne
      rcases List.mem_cons.mp hmem with rfl | hmem
      · exact absurd rfl hne
      · exact h.recorded other hmem
  · rw [List.map_cons]
    exact List.nodup_cons.mpr ⟨hfresh, h.exclusive⟩
  · refine List.pairwise_append.mpr ⟨h.cooled d, List.pairwise_singleton _ _, ?_⟩
    intro entry hentry last hlast deadline limits now hcooled hstart
    obtain rfl := List.mem_singleton.mp hlast
    cases hstart
    -- the deadline is part of what the gates waited for
    have hmem : deadline ∈ deadlinesOf call.rateDomain s.log := by
      refine List.mem_filterMap.mpr ⟨entry, hentry, ?_⟩
      rw [hcooled]
      exact if_pos rfl
    rw [hrate] at hmem
    have hcooldown := hsound.deadlines deadline hmem
    rw [hnow]
    exact hcooldown.trans ((le_max_left _ _).trans ((le_max_left _ _).trans hopen))

theorem SessionSound.ended {s : Session} {call : PendingCall} {rest : List PendingCall}
    {deadline : Option ℚ} {after : Coordinator} (h : SessionSound s)
    (hsending : s.sending = call :: rest) (hended : Ended s.coordinator call deadline after) :
    SessionSound
      { coordinator := after
        sending := rest
        log := s.log ++ (deadline.map (Entry.cooled call.rateDomain)).toList ++
          [.ended call.rateDomain] } := by
  have hexclusive := h.exclusive
  rw [hsending, List.map_cons, List.nodup_cons] at hexclusive
  -- ending a send writes no start
  have hstarts : ∀ d, startsOf d (s.log ++ (deadline.map (Entry.cooled call.rateDomain)).toList ++
      [.ended call.rateDomain]) = startsOf d s.log := by
    intro d
    rw [startsOf_append_other (by rintro _ _ ⟨⟩)]
    cases deadline with
    | none => rw [Option.map_none, Option.toList_none, List.append_nil]
    | some value => exact startsOf_append_other (by rintro _ _ ⟨⟩)
  -- and a deadline only for its own domain
  have hdeadlines : ∀ d, d ≠ call.rateDomain →
      deadlinesOf d (s.log ++ (deadline.map (Entry.cooled call.rateDomain)).toList ++
        [.ended call.rateDomain]) = deadlinesOf d s.log := by
    intro d hne
    rw [deadlinesOf_append_other (by rintro _ ⟨⟩)]
    cases deadline with
    | none => rw [Option.map_none, Option.toList_none, List.append_nil]
    | some value =>
      refine deadlinesOf_append_other ?_
      rintro _ ⟨⟩
      exact hne rfl
  have hmem : ∀ d, d ≠ call.rateDomain →
      (d ∈ s.sending.map (·.rateDomain) ↔ d ∈ rest.map (·.rateDomain)) := by
    intro d hne
    rw [hsending, List.map_cons, List.mem_cons, or_iff_right hne]
  refine ⟨fun d domain hd => ?_, fun d hd => ?_, fun d domain hd => ?_, ?_, hexclusive.2, fun d => ?_⟩
  · -- the domain whose send ended takes the new deadline, the others age
    rw [hended.domains] at hd
    split at hd
    · rename_i heq
      subst heq
      obtain ⟨before, hbefore, rfl⟩ := Option.map_eq_some_iff.mp hd
      exact (h.known _ before hbefore).ended hended.clock
        fun value hvalue => hended.deadline value hvalue before hbefore
    · rename_i hne
      exact (h.known d domain hd).later (hstarts d) (hdeadlines d hne) hended.clock
  · -- an unknown domain is not the one that was sending
    rw [hended.domains] at hd
    split at hd
    · rename_i heq
      subst heq
      have hrecorded := h.recorded call (by rw [hsending]; exact List.mem_cons_self)
      exact absurd (Option.map_eq_none_iff.mp hd) hrecorded
    · rename_i hne
      rw [hstarts d, hdeadlines d hne]
      exact h.unknown d hd
  · -- its occupancy is given back, the others are still sending
    rw [hended.domains] at hd
    split at hd
    · rename_i heq
      subst heq
      obtain ⟨before, -, rfl⟩ := Option.map_eq_some_iff.mp hd
      refine ⟨fun h => ?_, fun hin => absurd hin hexclusive.1⟩
      cases h
    · rename_i hne
      rw [h.occupied d domain hd, hmem d hne]
  · -- the domains of the sends that go on are known
    intro other hother
    rw [hended.domains]
    have hrecorded := h.recorded other (by rw [hsending]; exact List.mem_cons_of_mem _ hother)
    split
    · rw [ne_eq, Option.map_eq_none_iff]
      exact hrecorded
    · exact hrecorded
  · -- no start follows the new deadline
    rw [List.append_assoc]
    refine List.pairwise_append.mpr ⟨h.cooled d, ?_, ?_⟩
    · refine List.pairwise_append.mpr ⟨?_, List.pairwise_singleton _ _, ?_⟩
      · cases deadline <;> simp
      · rintro _ - last hlast _ _ _ - hstart
        rw [List.mem_singleton.mp hlast] at hstart
        cases hstart
    · rintro _ - last hlast _ _ _ - rfl
      cases deadline <;> simp at hlast

theorem SessionSound.initial : SessionSound .initial where
  known d domain hd := absurd hd (by rw [Session.initial, Table.get?_empty]; exact nofun)
  unknown _ _ := ⟨rfl, rfl⟩
  occupied d domain hd := absurd hd (by rw [Session.initial, Table.get?_empty]; exact nofun)
  recorded _ hcall := nomatch hcall
  exclusive := List.nodup_nil
  cooled _ := List.Pairwise.nil

/-- A step keeps a session sound. -/
theorem SessionSound.next {digest : RequestIdentity → Contracts.Sha256Hex} {s : Session} (step : SessionStep)
    (h : SessionSound s) : SessionSound (s.next digest step) := by
  cases step with
  | attempt inputs =>
    cases hcall : prepare digest s.coordinator inputs with
    | error result =>
      rw [next_of_error hcall]
      exact h
    | ok call =>
      rw [Session.next, hcall]
      exact h.started hcall
  | sendEnds outcome reading =>
    rw [Session.next]
    cases hsending : s.sending with
    | nil => exact h
    | cons call rest => exact h.ended hsending (s.coordinator.ends_ended call outcome reading)

theorem Session.Reachable.sound {digest : RequestIdentity → Contracts.Sha256Hex} {s : Session}
    (hrun : Session.Reachable digest s) : SessionSound s :=
  Reaches.invariant SessionSound (fun step _ _ h => h.next step) .initial hrun

/-! ## The reported wait -/

/-- A call in another rate domain, or the end of a send. -/
def SessionStep.Elsewhere (rateDomain : Contracts.Identifier) : SessionStep → Prop
  | .attempt inputs => ∀ binding ∈ inputs.binding, binding.rateDomain ≠ rateDomain
  | .sendEnds _ _ => True

/-- A later call with the same arguments at the time `t`, whose clocks and factories
return what `attempt` accepts. -/
structure Repeats (coordinator : Coordinator) (inputs later : AttemptInputs) (t : ℚ) : Prop where
  request : later.request = inputs.request
  binding : later.binding = inputs.binding
  reading : ∃ utc, later.clock = ⟨some (.finite t), some utc⟩
  nonneg : 0 ≤ t
  monotone : ∀ last ∈ coordinator.lastClock, last ≤ t
  eventIds : ∃ ids, later.eventIds 5 = .ok ids
  physical : ∃ id, later.physicalId.bind identifier? = some id

/-- Nothing that happens elsewhere touches the record of a domain that is not sending. -/
theorem elsewhere_domain {digest : RequestIdentity → Contracts.Sha256Hex} {d : Contracts.Identifier}
    {s s' : Session} (hidle : d ∉ s.sending.map (·.rateDomain))
    (hrun : Reaches (Session.next digest) (fun step _ => step.Elsewhere d) s s') :
    s'.coordinator.domains.get? d = s.coordinator.domains.get? d ∧
      d ∉ s'.sending.map (·.rateDomain) := by
  refine Reaches.invariant (fun s' => s'.coordinator.domains.get? d = s.coordinator.domains.get? d ∧
    d ∉ s'.sending.map (·.rateDomain)) ?_ ⟨rfl, hidle⟩ hrun
  rintro step s' helse ⟨hsame, hidle⟩
  cases step with
  -- an attempt changes its own domain only, when it begins
  | attempt inputs =>
    cases hcall : prepare digest s'.coordinator inputs with
    | error result =>
      rw [next_of_error hcall]
      exact ⟨hsame, hidle⟩
    | ok call =>
      obtain ⟨e, he, -, hreserve⟩ := prepare_eq_ok hcall
      have hne : call.rateDomain ≠ d := by
        rw [PendingCall.rateDomain, (reserve_eq_ok hreserve).1]
        exact helse _ he.binding_eq
      rw [Session.next, hcall]
      refine ⟨?_, ?_⟩
      · rw [Coordinator.begins_get?, if_neg hne.symm]
        exact hsame
      · rw [List.map_cons, List.mem_cons, not_or]
        exact ⟨hne.symm, hidle⟩
  -- the send that ends is of another domain
  | sendEnds outcome reading =>
    rw [Session.next]
    cases hsending : s'.sending with
    | nil => exact ⟨hsame, hidle⟩
    | cons call rest =>
      rw [hsending, List.map_cons, List.mem_cons, not_or] at hidle
      refine ⟨?_, hidle.2⟩
      rw [(s'.coordinator.ends_ended call outcome reading).domains, if_neg hidle.1]
      exact hsame

/-- Factories that can serve five events can serve two. -/
theorem eventIds_two {inputs : AttemptInputs} {ids : List Contracts.Identifier}
    (h : inputs.eventIds 5 = .ok ids) : inputs.eventIds 2 = .ok (ids.take 2) := by
  simp only [AttemptInputs.eventIds, bind_eq_ok, require_eq_ok, pure_eq_ok, mapM_eq_ok] at h ⊢
  obtain ⟨_, hids, -, hnodup, rfl⟩ := h
  exact ⟨_, List.forall₂_take 2 hids, (), hnodup.sublist (List.take_sublist 2 _), rfl⟩

/-- A repeated call is blocked exactly until the gates open. -/
theorem Repeats.prepare {digest : RequestIdentity → Contracts.Sha256Hex} {s s' : Session}
    {inputs later : AttemptInputs} {e : Evaluation} {call : PendingCall} {t : ℚ}
    (hsound : SessionSound s') (he : Evaluates s.coordinator inputs e)
    (hreserve : e.reserve digest inputs = .ok call)
    (hsame : s'.coordinator.domains.get? e.binding.rateDomain =
      s.coordinator.domains.get? e.binding.rateDomain)
    (hidle : e.domain.occupied = false) (h : Repeats s'.coordinator inputs later t) :
    (t < e.domain.opensAt → ∃ result,
        prepare digest s'.coordinator later = .error result ∧ result.status = .blocked) ∧
      (e.domain.opensAt ≤ t → ∃ call, prepare digest s'.coordinator later = .ok call) := by
  have hvalid : e.binding.referencesValid = true := by
    simp only [Evaluation.reserve, bind_eq_ok, require_eq_ok, pure_eq_ok] at hreserve
    obtain ⟨_, -, _, -, -, hvalid, -⟩ := hreserve
    exact hvalid
  obtain ⟨utc, hreading⟩ := h.reading
  obtain ⟨ids, hids⟩ := h.eventIds
  obtain ⟨id, hid⟩ := h.physical
  have hdomain : e.domain = s'.coordinator.domainFor e.binding.rateDomain e.domain.limits := by
    rw [Coordinator.domainFor, hsame]
    exact he.domain_eq
  -- the repeated call reads the same record, so it evaluates as the blocked one did
  have hevaluates : ∀ r, e.domain.remaining t = some r →
      Evaluates s'.coordinator later ⟨e.request, e.binding, e.domain, t, utc, r⟩ := fun r hr =>
    ⟨h.binding.trans he.binding_eq, h.request.trans he.request_eq, he.limits_eq, hdomain, hreading,
      h.nonneg, h.monotone, hr⟩
  obtain ⟨hrecord, -⟩ := hsound.domainFor he.limits_eq hdomain
  obtain ⟨r, hr, hrestricts⟩ := Domain.remaining_eq hrecord.sorted hrecord.requests_pos h.nonneg
  have hevaluate := evaluate_eq_ok.mpr (hevaluates r hr)
  have hblocked := hrestricts.blocked
  rw [hidle] at hblocked
  constructor
  · -- before the gates open it is blocked again
    intro hlt
    have hclosed : r.blocked = true := hblocked.mpr (.inr hlt)
    have hreserved : ∃ call, Evaluation.reserve digest later
        ⟨e.request, e.binding, e.domain, t, utc, r⟩ = .ok call := by
      simp only [Evaluation.reserve, hclosed, if_true, bind_eq_ok, require_eq_ok, pure_eq_ok,
        eventIds_two hids, AttemptInputs.physical]
      exact ⟨_, _, rfl, _, rfl, (), hvalid, rfl⟩
    obtain ⟨call, hcall⟩ := hreserved
    refine ⟨Evaluation.blockedResult ⟨e.request, e.binding, e.domain, t, utc, r⟩ call, ?_, rfl⟩
    simp only [Offline.prepare, hevaluate, bind_eq_error, require_eq_error]
    exact .inr ⟨_, rfl, .inr ⟨call, hcall, .inl ⟨by simp [hclosed], rfl⟩⟩⟩
  · -- from then on it begins
    intro hle
    have hopen : r.blocked = false := by
      cases hr : r.blocked with
      | false => rfl
      | true => exact absurd (hblocked.mp hr) (by simp [hle])
    have hreserved : ∃ call, Evaluation.reserve digest later
        ⟨e.request, e.binding, e.domain, t, utc, r⟩ = .ok call := by
      simp only [Evaluation.reserve, hopen, Bool.false_eq_true, if_false, bind_eq_ok, require_eq_ok,
        pure_eq_ok, hids, AttemptInputs.physical, hid, fetch]
      exact ⟨_, _, rfl, _, rfl, (), hvalid, rfl⟩
    obtain ⟨call, hcall⟩ := hreserved
    refine ⟨call, ?_⟩
    simp only [Offline.prepare, hevaluate, bind_eq_ok, require_eq_ok, pure_eq_ok]
    exact ⟨_, rfl, call, hcall, (), hopen, rfl⟩

/-! ## The laws -/

/-- **Gates of the offline coordinator.** In every run, with calls from inside the transport
and in any rate domains: the sends of a domain do not overlap, keep the interval and the
window they were checked against, and start after every cooldown recorded before. A call
that is blocked or rejected changes nothing; the wait it reports while its domain is not
sending is exact. -/
theorem offline_gates_hold {digest : RequestIdentity → Contracts.Sha256Hex} {s : Session}
    (hrun : Session.Reachable digest s) :
    (s.sending.map (·.rateDomain)).Nodup ∧
    (∀ d, ∀ start ∈ startsOf d s.log,
      (∀ other ∈ startsOf d s.log, other.1 = start.1) ∧
        Paced start.1.interval (timesOf d s.log) ∧
        Windowed start.1.window start.1.requests.toNat (timesOf d s.log)) ∧
    (∀ d, CooldownsKept d s.log) ∧
    ∀ inputs result, prepare digest s.coordinator inputs = .error result →
      s.next digest (.attempt inputs) = s ∧
      (result.status = .blocked →
        ∃ binding now, inputs.binding = some binding ∧
          inputs.clock.monotonic = some (.finite now) ∧
          (binding.rateDomain ∉ s.sending.map (·.rateDomain) →
            ∃ r, result.retryAfterSeconds = some r ∧ 0 < r ∧
              ∀ s', Reaches (Session.next digest)
                  (fun step _ => step.Elsewhere binding.rateDomain) s s' →
                ∀ later t, Repeats s'.coordinator inputs later t →
                  (t < now + r → ∃ result', prepare digest s'.coordinator later = .error result' ∧
                    result'.status = .blocked) ∧
                  (now + r ≤ t → ∃ call, prepare digest s'.coordinator later = .ok call))) := by
  have hsound := hrun.sound
  refine ⟨hsound.exclusive, fun d start hstart => ?_, hsound.cooled, fun inputs result hresult =>
    ⟨next_of_error hresult, fun hblocked => ?_⟩⟩
  · -- the starts of a domain: their gaps and windows are in its record
    cases hget : s.coordinator.domains.get? d with
    | none =>
      rw [(hsound.unknown d hget).1] at hstart
      cases hstart
    | some domain =>
      have hdomain := hsound.known d domain hget
      rw [hdomain.limits_eq start hstart]
      exact ⟨hdomain.limits_eq, hdomain.paced, hdomain.windowed⟩
  · -- a blocked call waits for the later of its two gates
    obtain ⟨e, call, he, hclosed, hreserve, rfl⟩ := prepare_eq_blocked hresult hblocked
    refine ⟨e.binding, e.now, he.binding_eq, by rw [he.reading], fun hidle => ?_⟩
    obtain ⟨hrecord, hoccupied⟩ := hsound.domainFor he.limits_eq he.domain_eq
    have hfree : e.domain.occupied = false := by
      rw [Bool.eq_false_iff, ne_eq, hoccupied]
      exact hidle
    obtain ⟨r, hr, hrestricts⟩ :=
      Domain.remaining_eq hrecord.sorted hrecord.requests_pos he.now_nonneg
    obtain rfl := Option.some.inj (he.remaining_eq.symm.trans hr)
    have hlt : e.now < e.domain.opensAt := by
      rcases hrestricts.blocked.mp hclosed with hocc | hlt
      · rw [hfree] at hocc
        cases hocc
      · exact hlt
    have hwait : e.remaining.maximum = e.domain.opensAt - e.now := by
      rw [hrestricts.maximum hfree, remains_of_lt hlt]
    refine ⟨e.domain.opensAt - e.now, by rw [← hwait, Evaluation.blockedResult, hfree]; rfl,
      sub_pos.mpr hlt, fun s' hlater later t hrepeats => ?_⟩
    have hsound' : SessionSound s' :=
      Reaches.invariant SessionSound (fun step _ _ h => h.next step) hsound hlater
    obtain ⟨hsame, -⟩ := elsewhere_domain hidle hlater
    rw [add_sub_cancel]
    exact hrepeats.prepare hsound' he hreserve hsame hfree

namespace Sample

open Contracts (ArtifactReference QuantitativeSetting SourceApproval SourceProfile)

/-- A known setting. -/
def setting (value : Contracts.SettingValue) (hvalue : value.isNegative = false)
    (unit : Contracts.Identifier) : QuantitativeSetting where
  knowledgeStatus := .known
  value := some value
  unit := unit
  known_value := by simp
  nonnegative _ h := Option.some.inj h ▸ hvalue

/-- A setting the source does not have. -/
def unsupported : QuantitativeSetting where
  knowledgeStatus := .unsupported
  value := none
  unit := ⟨"second", .refl true⟩
  known_value := by simp
  nonnegative _ h := nomatch h

def reference (id : Contracts.Identifier) (schema : Contracts.SchemaIdentifier) :
    ArtifactReference where
  artifactType := ⟨"source", by decide⟩
  artifactId := id
  schemaId := schema
  schemaVersion := 1
  sha256 := Contracts.zeroSha256
  schemaVersion_pos := Nat.one_pos

def approvalReference : ArtifactReference :=
  reference ⟨"fixture-approval", by decide⟩
    ⟨"detailed-analysis.source-approval", by decide +kernel⟩

def approval : SourceApproval where
  artifactId := ⟨"fixture-approval", by decide⟩
  approvalVersion := 1
  sourceId := ⟨"fixture", by decide⟩
  status := .approved
  effectiveOn := some ⟨"2026-09-20", ⟨739878, by decide⟩, by decide +kernel⟩
  recheckDueOn := some ⟨"2026-12-24", ⟨739973, by decide⟩, by decide +kernel⟩
  usageEntity := ⟨"fixture", by decide⟩
  credentialScopeAlias := none
  onlineUseAllowed := true
  externalAgentTransferAllowed := false
  approved_dates _ := ⟨rfl, rfl⟩
  online_approved _ := rfl
  transfer_online _ := rfl

def profile : SourceProfile where
  artifactId := ⟨"fixture-profile", by decide⟩
  sourceId := ⟨"fixture", by decide⟩
  profileVersion := 1
  sourceApprovalReference := approvalReference
  sourceApprovalStatus := .approved
  enabled := true
  credentialScopeAlias := none
  maxConcurrency := 1
  minIntervalSeconds := setting (.float (.finite (5 / 2))) (by decide +kernel) ⟨"second", .refl true⟩
  rateRequests := setting (.int 2) (by decide) ⟨"request", by decide⟩
  rateWindowSeconds := setting (.int 10) (by decide) ⟨"second", .refl true⟩
  burst := 1
  cacheEnabled := false
  batchSupportStatus := .unsupported
  maxBatchSize := unsupported
  defaultCooldownSeconds := unsupported
  enabled_approved _ := rfl
  reference_schema := rfl

/-- One start every two and a half seconds, and two in ten seconds. -/
def binding : CoordinatorBinding where
  approval := approval
  profile := profile
  approvalReference := approvalReference
  profileReference := reference ⟨"fixture-profile", by decide⟩
    ⟨"detailed-analysis.source-profile", by decide +kernel⟩
  evaluationDate := ⟨739890, by decide⟩
  hasFactoryToken := true
  rateDomain := ⟨"fixture", by decide⟩
  policyVersion := 1

def request : CoordinatorRequest where
  taskId := ⟨"task-1", .refl true⟩
  consumerRole := .codexWorker
  operation := ⟨"fixture-read", by decide⟩
  origin := ⟨"fixture-origin", by decide⟩
  resourceKey := ⟨"private-fixture-key", by decide⟩
  logicalRequestId := ⟨"logical-1", by decide⟩
  applicablePeriod := ⟨"2026-09", by decide⟩
  freshnessIdentity := ⟨"snapshot-1", by decide⟩

/-- A call with these arguments at the time `t`. -/
def inputs (t : ℚ) : AttemptInputs where
  request := some request
  binding := some binding
  clock := ⟨some (.finite t), some ⟨739886 * dayMicros, by decide⟩⟩
  eventId index := some (String.ofList (List.replicate (index + 1) 'e'))
  physicalId := some "physical-1"

def digest (_ : RequestIdentity) : Contracts.Sha256Hex := Contracts.zeroSha256

/-- The coordinator after a send that starts and ends at time zero. -/
def sent : Session :=
  runAll (Session.next digest)
    [.attempt (inputs 0), .sendEnds (.returned (some ⟨true, some [], .ok, none⟩)) (inputs 0).clock]
    .initial

theorem repeats : Repeats sent.coordinator (inputs 1) (inputs (5 / 2)) (5 / 2) where
  request := rfl
  binding := rfl
  reading := ⟨_, rfl⟩
  nonneg := by norm_num
  monotone := by decide +kernel
  eventIds := ⟨_, rfl⟩
  physical := ⟨_, rfl⟩

/-- The status of an attempt that is not sent, and its wait. -/
def answered : Except AttemptResult PendingCall → Option (AttemptStatus × Option ℚ)
  | .error result => some (result.status, result.retryAfterSeconds)
  | .ok _ => none

end Sample

/-- A second after a send the wait is a second and a half, and after that a call is sent. -/
theorem offline_gates_hold_sample :
    ∃ result, prepare Sample.digest Sample.sent.coordinator (Sample.inputs 1) = .error result ∧
      result.retryAfterSeconds = some (3 / 2) ∧
      ∃ call, prepare Sample.digest Sample.sent.coordinator (Sample.inputs (5 / 2)) = .ok call := by
  have hrun : Session.Reachable Sample.digest Sample.sent :=
    Reaches.runAll ⟨trivial, trivial, trivial⟩
  have hwait : Sample.answered (prepare Sample.digest Sample.sent.coordinator (Sample.inputs 1)) =
      some (.blocked, some (3 / 2)) := by decide +kernel
  cases hresult : prepare Sample.digest Sample.sent.coordinator (Sample.inputs 1) with
  | ok call => simp [hresult, Sample.answered] at hwait
  | error result =>
    simp only [hresult, Sample.answered, Option.some.injEq, Prod.mk.injEq] at hwait
    obtain ⟨hblocked, hretry⟩ := hwait
    obtain ⟨-, -, -, hcalls⟩ := offline_gates_hold hrun
    obtain ⟨binding, now, hbinding, hnow, hexact⟩ := (hcalls _ _ hresult).2 hblocked
    obtain rfl : Sample.binding = binding := Option.some.inj hbinding
    obtain ⟨r, hr, -, hlater⟩ := hexact (by decide +kernel)
    obtain rfl : r = 3 / 2 := Option.some.inj (hr.symm.trans hretry)
    obtain rfl : 1 = now := PyFloat.finite.inj (Option.some.inj hnow)
    have hopen := (hlater Sample.sent .refl (Sample.inputs (5 / 2)) (5 / 2) Sample.repeats).2
      (by norm_num)
    exact ⟨result, rfl, hretry, hopen⟩

end StockResearch.Requests.Offline
