import Mathlib.Tactic.Linarith
import StockResearch.Lib.Outcome
import StockResearch.Sources.NativeHistory

/-!
# The throttle of the native history client

Calls of the provider never overlap and keep their distance, whatever the clocks read and
wherever a process dies. The times in the file only grow, as far as they are of calls that
ended; a reservation that outlives its call costs the next admission its turn, and the
cooldown runs from there.

- `ThrottleLaw`: what holds of the log of a run, and of the next step.
- `Bounded`, `FileBound`, `PhaseBound`: the times behind the file and behind a call.
- `AwaitsRejection`, `CooledSince`: what follows a call that never ended.
- `throttle_law`: every reachable state obeys the law.
-/

namespace StockResearch.Sources.NativeHistory

open Contracts (PyValue PyFloat PyStr)

variable {P : Type} [DecidableEq P] {float : PyStr → Option PyFloat}

/-! ## The law -/

/-- A step that ends an admission without a call. -/
inductive RejectingStep (float : PyStr → Option PyFloat) (s : System P) : Action P → Prop
  | permit (p : P) (now : ℚ) (hphase : s.phase p = .locked)
      (h : admission float now s.file ≠ .reserve) : RejectingStep float s (.permit p now)
  | save (p : P) (now clock : ℚ) (hphase : s.phase p = .cooling now) :
      RejectingStep float s (.save p clock)

/-- Entries that say nothing of what the provider may be asked. -/
def LogEntry.isQuiet : LogEntry → Bool
  | .saved _ _ | .orphaned => true
  | .admitted _ | .rejected _ | .started _ => false

/-- What holds of a system. -/
structure ThrottleLaw (float : PyStr → Option PyFloat) (s : System P) : Prop where
  exclusive : ∀ p q now now', s.phase p = .calling now → s.phase q = .calling now' → p = q
  spaced : ∀ before now after, s.log = before ++ .started now :: after →
    ∀ recordedAt, (.saved recordedAt .success ∈ before → recordedAt + minInterval ≤ now) ∧
      (.saved recordedAt .failure ∈ before → recordedAt + failureCooldown ≤ now) ∧
      (.saved recordedAt .rejection ∈ before → recordedAt + failureCooldown ≤ now)
  orphans : ∀ before after, s.log = before ++ .orphaned :: after →
    (∀ e ∈ after, e.isQuiet) ∨
      ∃ quiet now rest, after = quiet ++ .rejected now :: rest ∧ (∀ e ∈ quiet, e.isQuiet) ∧
        ∀ now', .started now' ∈ rest → now + failureCooldown ≤ now'
  forward : ∀ before now after, s.log = before ++ .admitted now :: after →
    ∀ recordedAt kind, .saved recordedAt kind ∈ before → recordedAt ≤ now
  backwards : ∀ state now, s.file.recorded float = some state → now < state.recordedAt →
    ∃ error, admission float now s.file = .reject error
  deadline : ∀ a, RejectingStep float s a → ∀ state, s.file.recorded float = some state →
    ∃ state', (next float a s).file.recorded float = some state' ∧ state.nextAt ≤ state'.nextAt
  malformed : Malformed float s.file → ∀ now, ∃ error, admission float now s.file = .reject error

/-! ## Reading the file -/

@[simp] theorem recorded_savedState (now interval : ℚ) (running : Bool) (h : 0 ≤ interval) :
    (savedState now interval running).recorded float =
      some ⟨now, now + interval, running⟩ := by
  have hle : now ≤ now + interval := le_add_of_nonneg_right h
  show (readState float (.dict _)).toOption = _
  unfold readState
  show (if (PyValue.int 1).number? = some 1 ∧ now ≤ now + interval then
    Except.ok (Recorded.mk now (now + interval) running) else Except.error ReadError.invalid).toOption
      = _
  rw [if_pos ⟨by simp [PyValue.number?], hle⟩]
  rfl

theorem SaveKind.interval_nonneg (kind : SaveKind) : 0 ≤ kind.interval := by
  cases kind <;> norm_num [interval, minInterval, failureCooldown]

/-- What is decided of a valid state. -/
theorem admission_of_recorded {file : StateFile} {state : Recorded} {now : ℚ}
    (h : file.recorded float = some state) :
    admission float now file =
      if now < state.recordedAt then
        .reject (.throttled "yfinance_clock_moved_backwards" state.nextAt)
      else if state.running then .cooldown
      else if now < state.nextAt then .reject (.throttled "yfinance_cooldown" state.nextAt)
      else .reserve := by
  cases file with
  | absent | unreadable => cases h
  | json value =>
    cases hread : readState float value with
    | error e =>
      rw [StateFile.recorded, hread] at h
      cases h
    | ok found =>
      rw [StateFile.recorded, hread] at h
      cases h
      simp only [admission, hread]

/-- A file that is there without a valid state admits nothing. -/
theorem admission_of_not_recorded {file : StateFile} (hpresent : file ≠ .absent)
    (h : file.recorded float = none) (now : ℚ) : ∃ error, admission float now file = .reject error := by
  cases file with
  | absent => exact absurd rfl hpresent
  | unreadable => exact ⟨_, rfl⟩
  | json value =>
    cases hread : readState float value with
    | error e =>
      cases e <;> exact ⟨_, by simp only [admission, hread]; rfl⟩
    | ok found =>
      rw [StateFile.recorded, hread] at h
      cases h

/-- A state is valid only if it has the three entries, finite and in order. -/
theorem readState_eq_ok {value : PyValue} {state : Recorded}
    (h : readState float value = .ok state) :
    floatEntry float value "next_at" = .ok (.finite state.nextAt) ∧
      floatEntry float value "recorded_at" = .ok (.finite state.recordedAt) ∧
      (∃ version, entry value "version" = some version ∧ version.number? = some 1) ∧
      state.recordedAt ≤ state.nextAt := by
  simp only [readState, bind_eq_ok] at h
  obtain ⟨nextAt, hnext, recordedAt, hrecorded, h⟩ := h
  split at h
  · rename_i version nextAt recordedAt hversion
    split at h
    · rename_i hvalid
      cases h
      exact ⟨hnext, hrecorded, ⟨version, hversion, hvalid.1⟩, hvalid.2⟩
    · cases h
  · cases h

theorem Malformed.not_recorded {file : StateFile} (h : Malformed float file) :
    file ≠ .absent ∧ file.recorded float = none := by
  have hread : ∀ {value : PyValue}, (∀ state, readState float value ≠ .ok state) →
      (StateFile.json value).recorded float = none := by
    intro value hnot
    cases hresult : readState float value with
    | error e => rw [StateFile.recorded, hresult]; rfl
    | ok state => exact absurd hresult (hnot state)
  cases h with
  | unreadable => exact ⟨nofun, rfl⟩
  -- a key is missing
  | lacks value name hname hentry =>
    refine ⟨nofun, hread fun state hstate => ?_⟩
    obtain ⟨hnext, hrecorded, ⟨version, hversion, -⟩, -⟩ := readState_eq_ok hstate
    simp only [List.mem_cons, List.not_mem_nil, or_false] at hname
    obtain rfl | rfl | rfl := hname
    · rw [hentry] at hversion
      cases hversion
    · rw [floatEntry, hentry] at hrecorded
      cases hrecorded
    · rw [floatEntry, hentry] at hnext
      cases hnext
  -- of another version
  | version value version hentry hother =>
    refine ⟨nofun, hread fun state hstate => ?_⟩
    obtain ⟨-, -, ⟨found, hfound, hone⟩, -⟩ := readState_eq_ok hstate
    rw [hentry] at hfound
    cases hfound
    exact hother hone
  -- a time that is not finite
  | nonFinite value name hname number hentry hnumber =>
    refine ⟨nofun, hread fun state hstate => ?_⟩
    obtain ⟨hnext, hrecorded, -, -⟩ := readState_eq_ok hstate
    simp only [List.mem_cons, List.not_mem_nil, or_false] at hname
    obtain rfl | rfl := hname
    · rw [hentry] at hrecorded
      cases hrecorded
      cases hnumber
    · rw [hentry] at hnext
      cases hnext
      cases hnumber
  -- the deadline is before the recorded time
  | reversed value recordedAt nextAt hrecorded hnext hlt =>
    refine ⟨nofun, hread fun state hstate => ?_⟩
    obtain ⟨hnext', hrecorded', -, hle⟩ := readState_eq_ok hstate
    rw [hrecorded] at hrecorded'
    rw [hnext] at hnext'
    cases hrecorded'
    cases hnext'
    exact absurd hle (not_le.mpr hlt)

/-! ## Times -/

/-- Every recorded time is at most a bound, and so is every deadline but a reservation's. -/
def Bounded (log : List LogEntry) (recorded deadline : ℚ) : Prop :=
  ∀ recordedAt kind, .saved recordedAt kind ∈ log →
    recordedAt ≤ recorded ∧ (kind ≠ .reservation → recordedAt + kind.interval ≤ deadline)

/-- The times in the log are behind those in the file. A reservation stands for its own
time until the call ends. -/
structure FileBound (float : PyStr → Option PyFloat) (s : System P) : Prop where
  absent : s.file = .absent → ∀ recordedAt kind, .saved recordedAt kind ∉ s.log
  behind : ∀ state, s.file.recorded float = some state →
    Bounded s.log state.recordedAt (if state.running then state.recordedAt else state.nextAt)
  reservation : ∀ state, s.file.recorded float = some state → state.running = true →
    state.nextAt = state.recordedAt + failureCooldown

/-- The time a call was admitted at. -/
def Phase.admittedAt : Phase → Option ℚ
  | .reserving now | .reserved now | .calling now | .ending now _ => some now
  | .idle | .locked | .cooling _ | .leaving => none

/-- The times in the log are behind the time of a call, and while the call is live the file
holds its reservation, if any state. -/
structure PhaseBound (float : PyStr → Option PyFloat) (s : System P) (phase : Phase) : Prop where
  admitted : ∀ now, phase.admittedAt = some now → Bounded s.log now now
  live : phase.isLive = true → ∀ now, phase.admittedAt = some now → s.file ≠ .absent ∧
    ∀ state, s.file.recorded float = some state → state.running = true ∧ state.recordedAt = now
  cooling : ∀ now, phase = .cooling now → s.file ≠ .absent ∧ Bounded s.log now now ∧
    ∀ state, s.file.recorded float = some state → state.running = true ∧ state.recordedAt ≤ now

theorem bounded_append {log events : List LogEntry} {recorded deadline : ℚ} :
    Bounded (log ++ events) recorded deadline ↔
      Bounded log recorded deadline ∧ Bounded events recorded deadline := by
  simp only [Bounded, List.mem_append]
  constructor
  · intro h
    exact ⟨fun _ _ hmem => h _ _ (.inl hmem), fun _ _ hmem => h _ _ (.inr hmem)⟩
  · rintro ⟨hlog, hevents⟩ recordedAt kind (hmem | hmem)
    · exact hlog _ _ hmem
    · exact hevents _ _ hmem

theorem Bounded.mono {log : List LogEntry} {recorded deadline recorded' deadline' : ℚ}
    (h : Bounded log recorded deadline) (hrecorded : recorded ≤ recorded')
    (hdeadline : deadline ≤ deadline') : Bounded log recorded' deadline' := by
  intro recordedAt kind hmem
  obtain ⟨hle, hkind⟩ := h recordedAt kind hmem
  exact ⟨hle.trans hrecorded, fun hne => (hkind hne).trans hdeadline⟩

/-- An entry that is no save is behind everything. -/
theorem bounded_singleton {e : LogEntry} {recorded deadline : ℚ}
    (h : ∀ recordedAt kind, e ≠ .saved recordedAt kind) : Bounded [e] recorded deadline := by
  intro recordedAt kind hmem
  exact absurd (List.mem_singleton.mp hmem).symm (h recordedAt kind)

theorem bounded_saved {recordedAt recorded deadline : ℚ} {kind : SaveKind}
    (hrecorded : recordedAt ≤ recorded)
    (hdeadline : kind ≠ .reservation → recordedAt + kind.interval ≤ deadline) :
    Bounded [.saved recordedAt kind] recorded deadline := by
  intro recordedAt' kind' hmem
  cases List.mem_singleton.mp hmem
  exact ⟨hrecorded, hdeadline⟩

/-! ## The log -/

/-- What the entries before an entry say of it. -/
def EntryLaw (before : List LogEntry) : LogEntry → Prop
  | .started now => Bounded before now now
  | .admitted now => Bounded before now now
  | .rejected _ | .saved _ _ | .orphaned => True

/-- The law of every entry and those before it. -/
def LogLaw (log : List LogEntry) : Prop :=
  ∀ before e after, log = before ++ e :: after → EntryLaw before e

/-- A split of a log with one more entry: in front of it, or at it. -/
theorem split_concat {log before after : List LogEntry} {e x : LogEntry}
    (h : log ++ [e] = before ++ x :: after) :
    (∃ rest, log = before ++ x :: rest ∧ after = rest ++ [e]) ∨
      (before = log ∧ x = e ∧ after = []) := by
  obtain rfl | ⟨rest, last, rfl⟩ := List.eq_nil_or_concat' after
  · obtain ⟨rfl, hlast⟩ := List.append_inj' h rfl
    exact .inr ⟨rfl, (List.cons.inj hlast).1.symm, rfl⟩
  · have heq : log ++ [e] = (before ++ x :: rest) ++ [last] := by
      rw [h, List.append_assoc, List.cons_append]
    obtain ⟨rfl, hlast⟩ := List.append_inj' heq rfl
    cases hlast
    exact .inl ⟨rest, rfl, rfl⟩

theorem LogLaw.concat {log : List LogEntry} {e : LogEntry} (h : LogLaw log)
    (he : EntryLaw log e) : LogLaw (log ++ [e]) := by
  intro before x after heq
  obtain ⟨rest, hlog, -⟩ | ⟨rfl, rfl, -⟩ := split_concat heq
  · exact h before x rest hlog
  · exact he

/-- What holds of all that follows a call that never ended, some entries further. -/
theorem orphans_append {R R' : List LogEntry → Prop} {log events : List LogEntry}
    (h : ∀ before after, log = before ++ .orphaned :: after → R after)
    (hstep : ∀ after, R after → R' (after ++ events))
    (hnew : ∀ before after, events = before ++ .orphaned :: after → R' after) :
    ∀ before after, log ++ events = before ++ .orphaned :: after → R' after := by
  intro before after heq
  obtain ⟨inner, rfl, hinner⟩ | ⟨inner, hlog, hinner⟩ := List.append_eq_append_iff.mp heq
  · exact hnew inner after hinner
  · cases inner with
    | nil => exact hnew [] after hinner.symm
    | cons e rest =>
      obtain ⟨rfl, rfl⟩ := List.cons.inj hinner
      exact hstep rest (h before rest hlog)

/-! ## After a call that never ended -/

/-- No admission has read the reservation to an end. -/
structure AwaitsRejection (float : PyStr → Option PyFloat) (s : System P)
    (after : List LogEntry) : Prop where
  quiet : ∀ e ∈ after, e.isQuiet
  present : s.file ≠ .absent
  running : ∀ state, s.file.recorded float = some state → state.running = true
  unclaimed : ∀ p, (s.phase p).admittedAt = none

/-- The system since the rejection at a time. -/
structure Cooled (float : PyStr → Option PyFloat) (now : ℚ) (s : System P) : Prop where
  present : s.file ≠ .absent
  running : ∀ state, s.file.recorded float = some state → state.running = true →
    now ≤ state.recordedAt
  ended : ∀ state, s.file.recorded float = some state → state.running = false →
    now + failureCooldown ≤ state.nextAt
  admitted : ∀ p now', (s.phase p).admittedAt = some now' → now + failureCooldown ≤ now'
  cooling : ∀ p now', s.phase p = .cooling now' → now ≤ now'

/-- The first admission that read the reservation to an end was rejected. -/
def CooledSince (float : PyStr → Option PyFloat) (s : System P) (after : List LogEntry) : Prop :=
  ∃ quiet now rest, after = quiet ++ .rejected now :: rest ∧ (∀ e ∈ quiet, e.isQuiet) ∧
    (∀ now', .started now' ∈ rest → now + failureCooldown ≤ now') ∧ Cooled float now s

/-- What follows a call that never ended. -/
def Follows (float : PyStr → Option PyFloat) (s : System P) (after : List LogEntry) : Prop :=
  AwaitsRejection float s after ∨ CooledSince float s after

/-! ## The invariant -/

/-- What every step keeps. -/
structure ThrottleInvariant (float : PyStr → Option PyFloat) (s : System P) : Prop where
  lockHeld : ∀ p, s.phase p ≠ .idle → s.lock = some p
  file : FileBound float s
  phases : ∀ p, PhaseBound float s (s.phase p)
  log : LogLaw s.log
  orphans : ∀ before after, s.log = before ++ .orphaned :: after → Follows float s after

/-- The steps, by what they do. -/
inductive Transition (float : PyStr → Option PyFloat) (s : System P) : System P → Prop
  | stay : Transition float s s
  | lock (p : P) (hidle : s.phase p = .idle) (hfree : s.lock = none) :
      Transition float s { s.move p .locked [] with lock := some p }
  | reserve (p : P) (now : ℚ) (hphase : s.phase p = .locked)
      (h : admission float now s.file = .reserve) :
      Transition float s (s.move p (.reserving now) [.admitted now])
  | cool (p : P) (now : ℚ) (hphase : s.phase p = .locked)
      (h : admission float now s.file = .cooldown) :
      Transition float s (s.move p (.cooling now) [])
  | refuse (p : P) (now : ℚ) (hphase : s.phase p = .locked) (error : HistoryError)
      (h : admission float now s.file = .reject error) :
      Transition float s (s.move p .leaving [.rejected now])
  | saveCooldown (p : P) (now : ℚ) (hphase : s.phase p = .cooling now) :
      Transition float s ((s.saveDeadline now .rejection).move p .leaving [.rejected now])
  | saveReservation (p : P) (now : ℚ) (hphase : s.phase p = .reserving now) :
      Transition float s ((s.saveDeadline now .reservation).move p (.reserved now) [])
  | saveEnd (p : P) (now clock : ℚ) (succeeded : Bool) (hphase : s.phase p = .ending now succeeded) :
      Transition float s ((s.saveDeadline (max now clock)
        (if succeeded then .success else .failure)).move p .leaving [])
  | call (p : P) (now : ℚ) (hphase : s.phase p = .reserved now) :
      Transition float s (s.move p (.calling now) [.started now])
  | finish (p : P) (now : ℚ) (succeeded : Bool)
      (hphase : s.phase p = .reserved now ∨ s.phase p = .calling now) :
      Transition float s (s.move p (.ending now succeeded) [])
  | unlock (p : P) (hphase : s.phase p = .leaving) :
      Transition float s { s.move p .idle [] with lock := none }
  | crash (p : P) (hphase : s.phase p ≠ .idle) :
      Transition float s { s.move p .idle (if (s.phase p).isLive then [.orphaned] else []) with
        lock := if s.lock = some p then none else s.lock }
  | corrupt (file : StateFile) (hpresent : file ≠ .absent) (h : file.recorded float = none) :
      Transition float s { s with file }

theorem next_transition {a : Action P} {s : System P} (ha : Allowed float a) :
    Transition float s (next float a s) := by
  cases a with
  | lock p =>
    simp only [next]
    split
    · rename_i h
      -- the lock is free
      exact .lock p h.1 h.2
    · exact .stay
  | permit p now =>
    simp only [next]
    split
    · rename_i hphase
      split
      · exact .reserve p now hphase ‹_›
      · exact .cool p now hphase ‹_›
      · -- the state file is refused, and nothing is saved
        exact .refuse p now hphase _ ‹_›
    · exact .stay
  -- what is saved depends on the phase
  | save p clock =>
    simp only [next]
    split
    · exact .saveCooldown p _ ‹_›
    · exact .saveReservation p _ ‹_›
    · exact .saveEnd p _ clock _ ‹_›
    · exact .stay
  | call p =>
    simp only [next]
    split
    · exact .call p _ ‹_›
    · exact .stay
  | finish p succeeded =>
    simp only [next]
    split
    · exact .finish p _ false (.inl ‹_›)
    · exact .finish p _ succeeded (.inr ‹_›)
    · exact .stay
  | unlock p =>
    simp only [next]
    split
    · exact .unlock p ‹_›
    · exact .stay
  | crash p =>
    simp only [next]
    split
    · exact .stay
    · exact .crash p ‹_›
  | corrupt file => exact .corrupt file ha.1 ha.2

/-! ## What a step keeps -/

section

variable {s t : System P}

omit [DecidableEq P] in
/-- While a process is inside, the others are outside. -/
theorem ThrottleInvariant.others (h : ThrottleInvariant float s) {p : P}
    (hphase : s.phase p ≠ .idle) {q : P} (hne : q ≠ p) : s.phase q = .idle := by
  by_contra hbusy
  exact hne (Option.some.inj ((h.lockHeld q hbusy).symm.trans (h.lockHeld p hphase)))

theorem ThrottleInvariant.nextLock (h : ThrottleInvariant float s) (ht : Transition float s t) :
    ∀ p, t.phase p ≠ .idle → t.lock = some p := by
  -- a process inside moves on: it still holds the lock, and nobody else is inside
  have hmove : ∀ {p : P} {phase : Phase}, s.phase p ≠ .idle →
      ∀ q, Function.update s.phase p phase q ≠ .idle → s.lock = some q := by
    intro p phase hphase q hq
    by_cases hqp : q = p
    · exact hqp ▸ h.lockHeld p hphase
    · rw [Function.update_of_ne hqp] at hq
      exact absurd (h.others hphase hqp) hq
  cases ht with
  | stay => exact h.lockHeld
  | lock p hidle hfree =>
    intro q hq
    by_cases hqp : q = p
    · rw [hqp]
    · have hbusy : s.phase q ≠ .idle := by
        simpa only [System.move, Function.update_of_ne hqp] using hq
      rw [h.lockHeld q hbusy] at hfree
      cases hfree
  | reserve p now hphase | cool p now hphase | refuse p now hphase | call p now hphase
  | saveCooldown p now hphase | saveReservation p now hphase
  | saveEnd p now clock succeeded hphase =>
    exact hmove (by rw [hphase]; exact nofun)
  | finish p now succeeded hphase =>
    exact hmove (by obtain hphase | hphase := hphase <;> rw [hphase] <;> exact nofun)
  | unlock p hphase | crash p hphase =>
    intro q hq
    have hbusy : s.phase p ≠ .idle := by simp_all
    by_cases hqp : q = p
    · rw [hqp] at hq
      exact absurd (Function.update_self ..) hq
    · have hq : s.phase q ≠ .idle := by
        simpa only [System.move, Function.update_of_ne hqp] using hq
      exact absurd (h.others hbusy hqp) hq
  | corrupt => exact h.lockHeld

/-- What an admission that reserves has read. -/
theorem admission_eq_reserve {file : StateFile} {now : ℚ}
    (h : admission float now file = .reserve) : file = .absent ∨
      ∃ state, file.recorded float = some state ∧ state.recordedAt ≤ now ∧
        state.running = false ∧ state.nextAt ≤ now := by
  by_cases habsent : file = .absent
  · exact .inl habsent
  · cases hstate : file.recorded float with
    | none =>
      obtain ⟨error, herror⟩ := admission_of_not_recorded habsent hstate now
      rw [h] at herror
      cases herror
    | some state =>
      rw [admission_of_recorded hstate] at h
      split_ifs at h with hback hrunning hearly
      exact .inr ⟨state, rfl, not_lt.mp hback, by simpa using hrunning, not_lt.mp hearly⟩

/-- What an admission that saves a cooldown has read. -/
theorem admission_eq_cooldown {file : StateFile} {now : ℚ}
    (h : admission float now file = .cooldown) : file ≠ .absent ∧
      ∃ state, file.recorded float = some state ∧ state.recordedAt ≤ now ∧
        state.running = true := by
  have hpresent : file ≠ .absent := by
    rintro rfl
    cases h
  cases hstate : file.recorded float with
  | none =>
    obtain ⟨error, herror⟩ := admission_of_not_recorded hpresent hstate now
    rw [h] at herror
    cases herror
  | some state =>
    rw [admission_of_recorded hstate] at h
    split_ifs at h with hback hrunning
    exact ⟨hpresent, state, rfl, not_lt.mp hback, hrunning⟩

omit [DecidableEq P] in
/-- An admitted reading is behind none of the times in the log. -/
theorem ThrottleInvariant.bounded_of_reserve (h : ThrottleInvariant float s) {now : ℚ}
    (hreserve : admission float now s.file = .reserve) : Bounded s.log now now := by
  obtain habsent | ⟨state, hstate, hrecorded, hrunning, hnext⟩ := admission_eq_reserve hreserve
  · intro recordedAt kind hmem
    exact absurd hmem (h.file.absent habsent recordedAt kind)
  · have hbehind := h.file.behind state hstate
    rw [hrunning] at hbehind
    exact hbehind.mono hrecorded hnext

omit [DecidableEq P] in
/-- Neither is one that meets a call which never ended. -/
theorem ThrottleInvariant.bounded_of_cooldown (h : ThrottleInvariant float s) {now : ℚ}
    (hcooldown : admission float now s.file = .cooldown) : Bounded s.log now now := by
  obtain ⟨-, state, hstate, hrecorded, hrunning⟩ := admission_eq_cooldown hcooldown
  have hbehind := h.file.behind state hstate
  rw [hrunning] at hbehind
  exact hbehind.mono hrecorded hrecorded

/-! ### The file -/

omit [DecidableEq P] in
/-- Entries that are no saves leave the bounds of a file. -/
theorem FileBound.append {events : List LogEntry} (h : FileBound float s)
    (hfile : t.file = s.file) (hlog : t.log = s.log ++ events)
    (hevents : ∀ recordedAt kind, .saved recordedAt kind ∉ events) : FileBound float t where
  absent := by
    intro habsent recordedAt kind hmem
    rw [hlog, List.mem_append] at hmem
    obtain hmem | hmem := hmem
    · exact h.absent (hfile ▸ habsent) recordedAt kind hmem
    · exact hevents recordedAt kind hmem
  behind := by
    intro state hstate
    rw [hlog, bounded_append]
    exact ⟨h.behind state (hfile ▸ hstate),
      fun recordedAt kind hmem => absurd hmem (hevents recordedAt kind)⟩
  reservation := fun state hstate => h.reservation state (hfile ▸ hstate)

omit [DecidableEq P] in
/-- What a file holds after a save, if the times behind it are behind the save. -/
theorem FileBound.saved {now : ℚ} (kind : SaveKind)
    (hfile : t.file = savedState now kind.interval (kind = .reservation))
    (hbound : Bounded t.log now (if kind = .reservation then now else now + kind.interval)) :
    FileBound float t where
  absent := fun habsent => by rw [hfile] at habsent; cases habsent
  behind := by
    intro state hstate
    rw [hfile, recorded_savedState _ _ _ kind.interval_nonneg] at hstate
    cases hstate
    simpa using hbound
  reservation := by
    intro state hstate hrunning
    rw [hfile, recorded_savedState _ _ _ kind.interval_nonneg] at hstate
    cases hstate
    have hkind : kind = .reservation := by simpa using hrunning
    rw [hkind]
    rfl

/-- A time at which a call ended has the times behind it that its admission had. -/
theorem bounded_saveEnd {log : List LogEntry} {now : ℚ} (clock : ℚ) (kind : SaveKind)
    (h : Bounded log now now) : Bounded (log ++ [.saved (max now clock) kind])
      (max now clock) (max now clock + kind.interval) := by
  have hmax : now ≤ max now clock := le_max_left _ _
  have hinterval := kind.interval_nonneg
  exact bounded_append.mpr
    ⟨h.mono hmax (by linarith), bounded_saved le_rfl fun _ => le_rfl⟩

theorem ThrottleInvariant.nextFile (h : ThrottleInvariant float s) (ht : Transition float s t) :
    FileBound float t := by
  cases ht with
  | stay => exact h.file
  | lock | cool | finish | unlock => exact h.file.append rfl rfl (by simp)
  | reserve | refuse | call => exact h.file.append rfl rfl (by simp)
  | crash p => exact h.file.append rfl rfl (by split <;> simp)
  -- the running cooldown is extended from the later of the two times
  | saveCooldown p now hphase =>
    have hbound := ((h.phases p).cooling now hphase).2.1
    refine .saved .rejection rfl (bounded_append.mpr ⟨?_, bounded_singleton nofun⟩)
    have hend := bounded_saveEnd now .rejection hbound
    rwa [max_self] at hend
  -- a reservation is the first save at its time
  | saveReservation p now hphase =>
    have hbound := (h.phases p).admitted now (by rw [hphase]; rfl)
    refine .saved .reservation rfl ?_
    show Bounded (s.log ++ [.saved now .reservation] ++ []) now now
    rw [List.append_nil]
    exact bounded_append.mpr ⟨hbound, bounded_saved le_rfl fun hne => absurd rfl hne⟩
  | saveEnd p now clock succeeded hphase =>
    have hbound := (h.phases p).admitted now (by rw [hphase]; rfl)
    have hkind : (if succeeded then SaveKind.success else .failure) ≠ .reservation := by
      cases succeeded <;> exact nofun
    refine .saved (if succeeded then .success else .failure) rfl ?_
    rw [if_neg hkind]
    show Bounded (s.log ++ [.saved (max now clock) _] ++ []) _ _
    rw [List.append_nil]
    exact bounded_saveEnd clock _ hbound
  -- nothing is claimed of a file that cannot be read
  | corrupt file hpresent hnone =>
    have hvacuous : ∀ {Q : Recorded → Prop} (state : Recorded),
        file.recorded float = some state → Q state := by
      intro Q state hstate
      rw [hnone] at hstate
      cases hstate
    exact ⟨fun habsent => absurd habsent hpresent, hvacuous, hvacuous⟩

/-! ### The phases -/

omit [DecidableEq P] in
/-- A call that holds no time is bound by nothing. -/
theorem PhaseBound.of_none {phase : Phase} (h : phase.admittedAt = none)
    (hcooling : ∀ now, phase ≠ .cooling now) : PhaseBound float s phase where
  admitted := fun now hnow => by rw [h] at hnow; cases hnow
  live := fun _ now hnow => by rw [h] at hnow; cases hnow
  cooling := fun now hnow => absurd hnow (hcooling now)

omit [DecidableEq P] in
/-- A call that was admitted is bound by its time. -/
theorem PhaseBound.of_admitted {phase : Phase} {now : ℚ} (h : phase.admittedAt = some now)
    (hbound : Bounded s.log now now)
    (hlive : phase.isLive = true → s.file ≠ .absent ∧
      ∀ state, s.file.recorded float = some state → state.running = true ∧ state.recordedAt = now) :
    PhaseBound float s phase where
  admitted := fun now' hnow => by cases h.symm.trans hnow; exact hbound
  live := fun hphase now' hnow => by cases h.symm.trans hnow; exact hlive hphase
  cooling := fun now' hcooling => by rw [hcooling] at h; cases h

theorem ThrottleInvariant.nextPhases (h : ThrottleInvariant float s) (ht : Transition float s t) :
    ∀ q, PhaseBound float t (t.phase q) := by
  have hmove : ∀ {p : P} {phase : Phase}, s.phase p ≠ .idle → PhaseBound float t phase →
      t.phase = Function.update s.phase p phase → ∀ q, PhaseBound float t (t.phase q) := by
    intro p phase hbusy hbound hupdate q
    rw [hupdate]
    by_cases hqp : q = p
    · rw [hqp, Function.update_self]
      exact hbound
    · rw [Function.update_of_ne hqp, h.others hbusy hqp]
      exact .of_none rfl fun _ heq => by cases heq
  cases ht with
  | stay => exact h.phases
  -- the lock was free, so every process is idle
  | lock p hidle hfree =>
    intro q
    by_cases hqp : q = p
    · subst hqp
      simp only [System.move, Function.update_self]
      exact .of_none rfl fun _ heq => by cases heq
    · have hidle : s.phase q = .idle := by
        by_contra hbusy
        rw [h.lockHeld q hbusy] at hfree
        cases hfree
      simp only [System.move, Function.update_of_ne hqp, hidle]
      exact .of_none rfl fun _ heq => by cases heq
  -- admitted: the bound of the file becomes the bound of the process
  | reserve p now hphase hreserve =>
    refine hmove (by rw [hphase]; exact nofun)
      (.of_admitted rfl ?_ fun hlive => by cases hlive) rfl
    exact bounded_append.mpr ⟨h.bounded_of_reserve hreserve, bounded_singleton nofun⟩
  | cool p now hphase hcooldown =>
    refine hmove (by rw [hphase]; exact nofun)
      ⟨fun _ heq => (by cases heq), fun hlive => (by cases hlive), ?_⟩ rfl
    rintro _ ⟨⟩
    obtain ⟨hpresent, state, hstate, hrecorded, hrunning⟩ := admission_eq_cooldown hcooldown
    refine ⟨hpresent, ?_, fun state' hstate' => ?_⟩
    · simpa [System.move] using h.bounded_of_cooldown hcooldown
    · obtain rfl := Option.some.inj (hstate.symm.trans hstate')
      exact ⟨hrunning, hrecorded⟩
  | refuse p now hphase | saveCooldown p now hphase | saveEnd p now clock succeeded hphase
  | unlock p hphase =>
    exact hmove (by rw [hphase]; exact nofun) (.of_none rfl fun _ heq => by cases heq) rfl
  | crash p hphase => exact hmove hphase (.of_none rfl fun _ heq => by cases heq) rfl
  -- the file holds this reservation until the call has ended
  | saveReservation p now hphase =>
    have hbound := (h.phases p).admitted now (by rw [hphase]; rfl)
    refine hmove (by rw [hphase]; exact nofun) (.of_admitted rfl ?_ fun _ => ?_) rfl
    · refine bounded_append.mpr ⟨bounded_append.mpr ⟨hbound, ?_⟩, fun _ _ hmem => nomatch hmem⟩
      exact bounded_saved le_rfl fun hne => absurd rfl hne
    · refine ⟨nofun, fun state hstate => ?_⟩
      have hsaved := @recorded_savedState float now failureCooldown true
        SaveKind.reservation.interval_nonneg
      cases hsaved.symm.trans hstate
      exact ⟨rfl, rfl⟩
  | call p now hphase =>
    refine hmove (by rw [hphase]; exact nofun) (.of_admitted rfl ?_ fun _ => ?_) rfl
    · exact bounded_append.mpr
        ⟨(h.phases p).admitted now (by rw [hphase]; rfl), bounded_singleton nofun⟩
    · exact (h.phases p).live (by rw [hphase]; rfl) now (by rw [hphase]; rfl)
  | finish p now succeeded hphase =>
    have hadmitted : (s.phase p).admittedAt = some now ∧ (s.phase p).isLive = true := by
      obtain hphase | hphase := hphase <;> rw [hphase] <;> exact ⟨rfl, rfl⟩
    refine hmove (fun hidle => by rw [hidle] at hadmitted; cases hadmitted.1)
      (.of_admitted rfl ?_ fun _ => ?_) rfl
    · simpa [System.move] using (h.phases p).admitted now hadmitted.1
    · exact (h.phases p).live hadmitted.2 now hadmitted.1
  -- a corrupt file satisfies every bound on what it records
  | corrupt file hpresent hnone =>
    intro q
    have hvacuous : ∀ {Q : Recorded → Prop} (state : Recorded),
        file.recorded float = some state → Q state := by
      intro Q state hstate
      rw [hnone] at hstate
      cases hstate
    exact ⟨(h.phases q).admitted, fun _ _ _ => ⟨hpresent, hvacuous⟩,
      fun now hcooling => ⟨hpresent, ((h.phases q).cooling now hcooling).2.1, hvacuous⟩⟩

/-! ### The log -/

theorem ThrottleInvariant.nextLog (h : ThrottleInvariant float s) (ht : Transition float s t) :
    LogLaw t.log := by
  have hsilent : LogLaw (s.log ++ []) := by
    rw [List.append_nil]
    exact h.log
  cases ht with
  | stay | corrupt => exact h.log
  | lock | cool | finish | unlock => exact hsilent
  | reserve p now hphase hreserve => exact h.log.concat (h.bounded_of_reserve hreserve)
  | refuse p now =>
    have hlaw : LogLaw (s.log ++ [.rejected now]) := h.log.concat trivial
    exact hlaw
  | saveCooldown p now =>
    have hlaw : LogLaw (s.log ++ [.saved now .rejection]) := h.log.concat trivial
    exact hlaw.concat (e := .rejected now) trivial
  | saveReservation p now =>
    have hlaw : LogLaw (s.log ++ [.saved now .reservation]) := h.log.concat trivial
    simpa [System.move, System.saveDeadline] using hlaw
  | saveEnd p now clock succeeded =>
    have hlaw : LogLaw (s.log ++ [.saved (max now clock)
        (if succeeded then .success else .failure)]) := h.log.concat trivial
    simpa [System.move, System.saveDeadline] using hlaw
  | call p now hphase => exact h.log.concat ((h.phases p).admitted now (by rw [hphase]; rfl))
  | crash p hphase =>
    show LogLaw (s.log ++ if (s.phase p).isLive then [.orphaned] else [])
    split
    · have hlaw : EntryLaw s.log .orphaned := trivial
      exact h.log.concat hlaw
    · exact hsilent

/-! ### After a call that never ended -/

/-- One process moves on, and no time goes behind the rejection. -/
theorem Cooled.move {now : ℚ} {p : P} {phase : Phase} (h : Cooled float now s)
    (hphase : t.phase = Function.update s.phase p phase) (hpresent : t.file ≠ .absent)
    (hrunning : ∀ state, t.file.recorded float = some state → state.running = true →
      now ≤ state.recordedAt)
    (hended : ∀ state, t.file.recorded float = some state → state.running = false →
      now + failureCooldown ≤ state.nextAt)
    (hadmitted : ∀ now', phase.admittedAt = some now' → now + failureCooldown ≤ now')
    (hcooling : ∀ now', phase = .cooling now' → now ≤ now') : Cooled float now t where
  present := hpresent
  running := hrunning
  ended := hended
  admitted := by
    intro q now' hq
    rw [hphase] at hq
    by_cases hqp : q = p
    · rw [hqp, Function.update_self] at hq
      exact hadmitted now' hq
    · rw [Function.update_of_ne hqp] at hq
      exact h.admitted q now' hq
  cooling := by
    intro q now' hq
    rw [hphase] at hq
    by_cases hqp : q = p
    · rw [hqp, Function.update_self] at hq
      exact hcooling now' hq
    · rw [Function.update_of_ne hqp] at hq
      exact h.cooling q now' hq

/-- The same with the file as it was. -/
theorem Cooled.moveOn {now : ℚ} {p : P} {phase : Phase} (h : Cooled float now s)
    (hphase : t.phase = Function.update s.phase p phase) (hfile : t.file = s.file)
    (hadmitted : ∀ now', phase.admittedAt = some now' → now + failureCooldown ≤ now')
    (hcooling : ∀ now', phase = .cooling now' → now ≤ now') : Cooled float now t :=
  h.move hphase (hfile ▸ h.present) (fun state hstate => h.running state (hfile ▸ hstate))
    (fun state hstate => h.ended state (hfile ▸ hstate)) hadmitted hcooling

theorem failureCooldown_pos : 0 < failureCooldown := by norm_num [failureCooldown]

/-- Every step keeps what follows the rejection. -/
theorem Cooled.next {now : ℚ} (h : Cooled float now s) (ht : Transition float s t) :
    Cooled float now t ∧ ∀ events, t.log = s.log ++ events →
      ∀ now', .started now' ∈ events → now + failureCooldown ≤ now' := by
  -- a step without a start says nothing about starts
  have hnone : ∀ {events events' : List LogEntry}, (∀ now', .started now' ∉ events') →
      s.log ++ events' = s.log ++ events → ∀ now', .started now' ∈ events →
      now + failureCooldown ≤ now' := by
    intro events events' hfree heq now' hmem
    rw [← List.append_cancel_left heq] at hmem
    exact absurd hmem (hfree now')
  cases ht with
  | stay =>
    refine ⟨h, fun events heq now' hmem => ?_⟩
    rw [List.self_eq_append_right.mp heq] at hmem
    cases hmem
  | lock | unlock =>
    exact ⟨h.moveOn rfl rfl (fun _ heq => by cases heq) (fun _ heq => by cases heq),
      fun events => hnone (by simp)⟩
  | crash p hphase =>
    refine ⟨h.moveOn rfl rfl (fun _ heq => by cases heq) (fun _ heq => by cases heq), ?_⟩
    exact fun events => hnone (by split <;> simp)
  -- admission waits for the deadline, which is after the cooldown
  | reserve p now' hphase hreserve =>
    refine ⟨h.moveOn rfl rfl ?_ (fun _ heq => by cases heq), fun events => hnone (by simp)⟩
    rintro _ ⟨⟩
    obtain habsent | ⟨state, hstate, -, hrunning, hnext⟩ := admission_eq_reserve hreserve
    · exact absurd habsent h.present
    · exact (h.ended state hstate hrunning).trans hnext
  | cool p now' hphase hcooldown =>
    refine ⟨h.moveOn rfl rfl (fun _ heq => by cases heq) ?_, fun events => hnone (by simp)⟩
    rintro _ ⟨⟩
    obtain ⟨-, state, hstate, hrecorded, hrunning⟩ := admission_eq_cooldown hcooldown
    exact (h.running state hstate hrunning).trans hrecorded
  | refuse =>
    exact ⟨h.moveOn rfl rfl (fun _ heq => by cases heq) (fun _ heq => by cases heq),
      fun events => hnone (by simp)⟩
  -- the new deadline is a cooldown after a later time
  | saveCooldown p now' hphase =>
    have hle := h.cooling p now' hphase
    refine ⟨h.move rfl nofun ?_ ?_ (fun _ heq => by cases heq) (fun _ heq => by cases heq), ?_⟩
    · intro state hstate hrunning
      cases (recorded_savedState _ _ _ SaveKind.rejection.interval_nonneg).symm.trans hstate
      cases hrunning
    · intro state hstate hrunning
      cases (recorded_savedState _ _ _ SaveKind.rejection.interval_nonneg).symm.trans hstate
      exact add_le_add_left hle failureCooldown
    · intro events heq
      rw [show ((s.saveDeadline now' .rejection).move p .leaving [.rejected now']).log =
        s.log ++ [.saved now' .rejection, .rejected now'] by simp [System.move, System.saveDeadline]]
        at heq
      exact hnone (by simp) heq
  -- the reservation was admitted after the cooldown
  | saveReservation p now' hphase =>
    have hle := h.admitted p now' (by rw [hphase]; rfl)
    have hpos := failureCooldown_pos
    refine ⟨h.move rfl nofun ?_ ?_ ?_ (fun _ heq => by cases heq), ?_⟩
    · intro state hstate hrunning
      cases (recorded_savedState _ _ _ SaveKind.reservation.interval_nonneg).symm.trans hstate
      show now ≤ now'
      linarith
    · intro state hstate hrunning
      cases (recorded_savedState _ _ _ SaveKind.reservation.interval_nonneg).symm.trans hstate
      cases hrunning
    · rintro _ ⟨⟩
      exact hle
    · intro events heq
      rw [show ((s.saveDeadline now' .reservation).move p (.reserved now') []).log =
        s.log ++ [.saved now' .reservation] by simp [System.move, System.saveDeadline]] at heq
      exact hnone (by simp) heq
  -- so is its end
  | saveEnd p now' clock succeeded hphase =>
    have hle := h.admitted p now' (by rw [hphase]; rfl)
    have hkind : ∀ kind : SaveKind, 0 ≤ kind.interval := SaveKind.interval_nonneg
    refine ⟨h.move rfl nofun ?_ ?_ (fun _ heq => by cases heq) (fun _ heq => by cases heq), ?_⟩
    · intro state hstate hrunning
      cases (recorded_savedState _ _ _ (hkind _)).symm.trans hstate
      cases succeeded <;> cases hrunning
    · intro state hstate hrunning
      cases (recorded_savedState _ _ _ (hkind _)).symm.trans hstate
      have hmax : now' ≤ max now' clock := le_max_left _ _
      have hinterval := hkind (if succeeded then .success else .failure)
      show now + failureCooldown ≤ max now' clock + _
      linarith
    · intro events heq
      rw [show ((s.saveDeadline (max now' clock) (if succeeded then .success else .failure)).move p
        .leaving []).log = s.log ++ [.saved (max now' clock)
          (if succeeded then .success else .failure)] by simp [System.move, System.saveDeadline]]
        at heq
      exact hnone (by simp) heq
  -- the start itself
  | call p now' hphase =>
    have hle := h.admitted p now' (by rw [hphase]; rfl)
    refine ⟨h.moveOn rfl rfl ?_ (fun _ heq => by cases heq), fun events heq started hmem => ?_⟩
    · rintro _ ⟨⟩
      exact hle
    · rw [← List.append_cancel_left heq, List.mem_singleton] at hmem
      cases hmem
      exact hle
  | finish p now' succeeded hphase =>
    have hle := h.admitted p now' (by obtain hphase | hphase := hphase <;> rw [hphase] <;> rfl)
    refine ⟨h.moveOn rfl rfl ?_ (fun _ heq => by cases heq), fun events => hnone (by simp)⟩
    rintro _ ⟨⟩
    exact hle
  | corrupt file hpresent hinvalid =>
    refine ⟨⟨hpresent, fun state hstate => ?_, fun state hstate => ?_, h.admitted, h.cooling⟩, ?_⟩
    · rw [hinvalid] at hstate
      cases hstate
    · rw [hinvalid] at hstate
      cases hstate
    · intro events heq now' hmem
      rw [List.self_eq_append_right.mp heq] at hmem
      cases hmem

omit [DecidableEq P] in
/-- An admission that was rejected by a reservation starts the cooldown. -/
theorem AwaitsRejection.cooled {after : List LogEntry} {now : ℚ}
    (h : AwaitsRejection float s after) (quiet : List LogEntry) (hquiet : ∀ e ∈ quiet, e.isQuiet)
    (hcooled : Cooled float now t) :
    Follows float t (after ++ (quiet ++ [.rejected now])) := by
  refine .inr ⟨after ++ quiet, now, [], by simp, fun e he => ?_, (fun _ hmem => nomatch hmem), hcooled⟩
  obtain he | he := List.mem_append.mp he
  · exact h.quiet e he
  · exact hquiet e he

omit [DecidableEq P] in
/-- A call that is admitted after one that never ended has been rejected before. -/
theorem AwaitsRejection.not_claimed {after : List LogEntry} (h : AwaitsRejection float s after)
    {p : P} {phase : Phase} (hphase : s.phase p = phase) : phase.admittedAt = none :=
  hphase ▸ h.unclaimed p

theorem Phase.admittedAt_of_isLive {phase : Phase} (h : phase.isLive = true) :
    ∃ now, phase.admittedAt = some now := by
  cases phase <;> first | exact ⟨_, rfl⟩ | cases h

/-- What follows a call that never ended and nobody has been rejected for, one step further. -/
theorem ThrottleInvariant.followsAwaiting (h : ThrottleInvariant float s)
    (ht : Transition float s t) {after events : List LogEntry} (hlog : t.log = s.log ++ events)
    (hafter : AwaitsRejection float s after) :
    Follows float t (after ++ events) := by
  have hunclaimed : ∀ {p : P} {phase : Phase}, phase.admittedAt = none →
      ∀ q, (Function.update s.phase p phase q).admittedAt = none := by
    intro p phase hphase q
    by_cases hqp : q = p
    · rw [hqp, Function.update_self]
      exact hphase
    · rw [Function.update_of_ne hqp]
      exact hafter.unclaimed q
  -- the steps that log nothing
  have hsilent : ∀ {u : System P}, u.log = s.log ++ [] → u.log = s.log ++ events →
      u.file = s.file → (∀ p, (u.phase p).admittedAt = none) →
      Follows float u (after ++ events) := by
    intro u hnone hlog hfile hphases
    rw [← List.append_cancel_left (hnone.symm.trans hlog), List.append_nil]
    exact .inl ⟨hafter.quiet, hfile ▸ hafter.present, fun state hstate =>
      hafter.running state (hfile ▸ hstate), hphases⟩
  have houtside : ∀ {p : P}, s.phase p ≠ .idle → ∀ q now,
      (Function.update s.phase p Phase.leaving q).admittedAt ≠ some now ∧
        Function.update s.phase p Phase.leaving q ≠ .cooling now := by
    intro p hbusy q now
    refine ⟨fun hadmitted => ?_, fun hcooling => ?_⟩
    · rw [hunclaimed rfl q] at hadmitted
      cases hadmitted
    · by_cases hqp : q = p
      · rw [hqp, Function.update_self] at hcooling
        cases hcooling
      · rw [Function.update_of_ne hqp, h.others hbusy hqp] at hcooling
        cases hcooling
  cases ht with
  | stay => exact hsilent (List.append_nil _).symm hlog rfl hafter.unclaimed
  | lock | cool | unlock => exact hsilent rfl hlog rfl (hunclaimed rfl)
  | crash p hphase =>
    have hnone : ¬ (s.phase p).isLive = true := fun hlive => by
      obtain ⟨now, hnow⟩ := Phase.admittedAt_of_isLive hlive
      rw [hafter.unclaimed p] at hnow
      cases hnow
    exact hsilent (by simp only [System.move, if_neg hnone]) hlog rfl (hunclaimed rfl)
  | reserve p now hphase hreserve =>
    obtain habsent | ⟨state, hstate, -, hrunning, -⟩ := admission_eq_reserve hreserve
    · exact absurd habsent hafter.present
    · rw [hafter.running state hstate] at hrunning
      cases hrunning
  | refuse p now hphase error herror =>
    rw [← List.append_cancel_left hlog]
    refine hafter.cooled [] (by simp) ⟨hafter.present, fun state hstate hrunning => ?_,
      fun state hstate hrunning => ?_, fun q now' hq => ?_, fun q now' hq => ?_⟩
    · have hread : s.file.recorded float = some state := hstate
      rw [admission_of_recorded hread, hrunning] at herror
      split_ifs at herror with hback
      · exact hback.le
      · exact absurd rfl ‹_›
    · rw [hafter.running state hstate] at hrunning
      cases hrunning
    · exact absurd hq (houtside (by rw [hphase]; exact nofun) q now').1
    · exact absurd hq (houtside (by rw [hphase]; exact nofun) q now').2
  | saveCooldown p now hphase =>
    rw [show ((s.saveDeadline now .rejection).move p .leaving [.rejected now]).log =
      s.log ++ [.saved now .rejection, .rejected now] by simp [System.move, System.saveDeadline]]
      at hlog
    rw [← List.append_cancel_left hlog]
    refine hafter.cooled [.saved now .rejection] (by simp [LogEntry.isQuiet])
      ⟨nofun, fun state hstate hrunning => ?_, fun state hstate hrunning => ?_,
        fun q now' hq => ?_, fun q now' hq => ?_⟩
    · cases (recorded_savedState _ _ _ SaveKind.rejection.interval_nonneg).symm.trans hstate
      cases hrunning
    · cases (recorded_savedState _ _ _ SaveKind.rejection.interval_nonneg).symm.trans hstate
      exact le_rfl
    · exact absurd hq (houtside (by rw [hphase]; exact nofun) q now').1
    · exact absurd hq (houtside (by rw [hphase]; exact nofun) q now').2
  | saveReservation p now hphase | saveEnd p now clock succeeded hphase | call p now hphase =>
    cases hafter.not_claimed hphase
  | finish p now succeeded hphase =>
    obtain hphase | hphase := hphase <;> cases hafter.not_claimed hphase
  | corrupt file hpresent hinvalid =>
    rw [List.self_eq_append_right.mp hlog, List.append_nil]
    refine .inl ⟨hafter.quiet, hpresent, fun state hstate => ?_, hafter.unclaimed⟩
    rw [hinvalid] at hstate
    cases hstate

/-- What follows a call that never ended, one step further. -/
theorem ThrottleInvariant.follows (h : ThrottleInvariant float s) (ht : Transition float s t)
    {after events : List LogEntry} (hlog : t.log = s.log ++ events)
    (hafter : Follows float s after) : Follows float t (after ++ events) := by
  obtain hawaits | ⟨quiet, now, rest, rfl, hquiet, hstarted, hcooled⟩ := hafter
  · exact h.followsAwaiting ht hlog hawaits
  · obtain ⟨hcooled', hevents⟩ := hcooled.next ht
    refine .inr ⟨quiet, now, rest ++ events, by simp, hquiet, fun now' hmem => ?_, hcooled'⟩
    obtain hmem | hmem := List.mem_append.mp hmem
    · exact hstarted now' hmem
    · exact hevents events hlog now' hmem

theorem ThrottleInvariant.nextOrphans (h : ThrottleInvariant float s)
    (ht : Transition float s t) :
    ∀ before after, t.log = before ++ .orphaned :: after → Follows float t after := by
  have hquiet : ∀ {events : List LogEntry}, t.log = s.log ++ events → .orphaned ∉ events →
      ∀ before after, t.log = before ++ .orphaned :: after → Follows float t after := by
    intro events hlog hfree before after heq
    rw [hlog] at heq
    refine orphans_append h.orphans (fun rest hrest => h.follows ht hlog hrest)
      (fun inner rest hinner => ?_) before after heq
    rw [hinner] at hfree
    exact absurd (List.mem_append_right _ List.mem_cons_self) hfree
  cases ht with
  | stay | corrupt => exact hquiet (List.append_nil _).symm (by simp)
  | lock | cool | finish | unlock | reserve | refuse | call => exact hquiet rfl (by simp)
  | saveCooldown | saveReservation | saveEnd =>
    exact hquiet (List.append_assoc _ _ _) (by simp)
  | crash p hphase =>
    by_cases hlive : (s.phase p).isLive = true
    · -- the process dies with its reservation in the file
      intro before after heq
      refine orphans_append h.orphans
        (fun rest hrest => h.follows (.crash p hphase) (if_pos hlive ▸ rfl) hrest)
        (fun inner rest hinner => ?_) before after heq
      rw [if_pos hlive] at hinner
      obtain rfl : rest = [] := by
        have hlength := congrArg List.length hinner
        simp only [List.length_append, List.length_cons, List.length_nil] at hlength
        exact List.length_eq_zero_iff.mp (by omega)
      obtain ⟨now, hnow⟩ := Phase.admittedAt_of_isLive hlive
      obtain ⟨hpresent, hrunning⟩ := (h.phases p).live hlive now hnow
      refine .inl ⟨(fun _ hmem => nomatch hmem), hpresent,
        fun state hstate => (hrunning state hstate).1, fun q => ?_⟩
      by_cases hqp : q = p
      · subst hqp
        simp only [System.move, Function.update_self]
        rfl
      · simp only [System.move, Function.update_of_ne hqp, h.others hphase hqp]
        rfl
    · exact @hquiet [] (by simp only [System.move, if_neg hlive]) (by simp)

/-! ### Every run -/

theorem ThrottleInvariant.next (h : ThrottleInvariant float s) (ht : Transition float s t) :
    ThrottleInvariant float t :=
  ⟨h.nextLock ht, h.nextFile ht, h.nextPhases ht, h.nextLog ht, h.nextOrphans ht⟩

omit [DecidableEq P] in
theorem ThrottleInvariant.initial : ThrottleInvariant float (initial : System P) where
  lockHeld := fun _ hbusy => absurd rfl hbusy
  file := ⟨(fun _ _ _ hmem => nomatch hmem), (fun _ h => nomatch h), (fun _ h => nomatch h)⟩
  phases := fun _ => .of_none rfl fun _ heq => nomatch heq
  log := fun before e after heq => by cases before <;> cases heq
  orphans := fun before after heq => by cases before <;> cases heq

theorem ThrottleInvariant.of_reachable (h : Reachable float s) : ThrottleInvariant float s :=
  Reaches.invariant (ThrottleInvariant float) (fun _ _ ha hs => hs.next (next_transition ha))
    .initial h

/-- A rejected admission leaves the deadline, or puts it off. -/
theorem ThrottleInvariant.deadline (h : ThrottleInvariant float s) {a : Action P}
    (ha : RejectingStep float s a) {state : Recorded}
    (hstate : s.file.recorded float = some state) :
    ∃ state', (NativeHistory.next float a s).file.recorded float = some state' ∧
      state.nextAt ≤ state'.nextAt := by
  cases ha with
  | permit p now hphase hdecision =>
    refine ⟨state, ?_, le_rfl⟩
    simp only [NativeHistory.next, hphase]
    cases hresult : admission float now s.file with
    | reserve => exact absurd hresult hdecision
    | cooldown => exact hstate
    | reject error => exact hstate
  | save p now clock hphase =>
    obtain ⟨-, -, hfound⟩ := (h.phases p).cooling now hphase
    obtain ⟨hrunning, hle⟩ := hfound state hstate
    refine ⟨⟨now, now + failureCooldown, false⟩, ?_, ?_⟩
    · rw [NativeHistory.next, hphase]
      exact recorded_savedState _ _ _ SaveKind.rejection.interval_nonneg
    · rw [h.file.reservation state hstate hrunning]
      exact add_le_add_left hle failureCooldown

end

/-- The provider is asked by one process at a time and at a distance, a call that never ended
costs the next admission its turn, and no time is moved back. -/
theorem throttle_law (s : System P) (h : Reachable float s) : ThrottleLaw float s := by
  have hinv := ThrottleInvariant.of_reachable h
  constructor
  · intro p q now now' hp hq
    have hlock := hinv.lockHeld p (by rw [hp]; exact fun heq => by cases heq)
    rw [hinv.lockHeld q (by rw [hq]; exact fun heq => by cases heq)] at hlock
    exact (Option.some.inj hlock).symm
  · intro before now after hlog recordedAt
    have hbound : Bounded before now now := hinv.log before _ after hlog
    exact ⟨fun hmem => (hbound recordedAt .success hmem).2 (by decide),
      fun hmem => (hbound recordedAt .failure hmem).2 (by decide),
      fun hmem => (hbound recordedAt .rejection hmem).2 (by decide)⟩
  · intro before after hlog
    obtain hawaits | ⟨quiet, now, rest, hafter, hquiet, hstarted, -⟩ :=
      hinv.orphans before after hlog
    · exact .inl hawaits.quiet
    · exact .inr ⟨quiet, now, rest, hafter, hquiet, hstarted⟩
  · intro before now after hlog recordedAt kind hmem
    have hbound : Bounded before now now := hinv.log before _ after hlog
    exact (hbound recordedAt kind hmem).1
  · intro state now hstate hback
    exact ⟨_, by rw [admission_of_recorded hstate, if_pos hback]⟩
  · exact fun a ha state hstate => hinv.deadline ha hstate
  · intro hmalformed now
    obtain ⟨hpresent, hnone⟩ := hmalformed.not_recorded
    exact admission_of_not_recorded hpresent hnone now

namespace Sample

/-- `float` of a text: none is a number. -/
def noFloat : PyStr → Option PyFloat := fun _ => none

/-- A first process dies while the provider is asked; a second one is rejected at 1001, and
admitted at 1901. -/
def steps : List (Action Bool) :=
  [.lock true, .permit true 1000, .save true 0, .call true, .crash true,
    .lock false, .permit false 1001, .save false 0, .unlock false,
    .lock false, .permit false 1901, .save false 0, .call false]

def second : System Bool := runAll (next noFloat) steps initial

end Sample

/-- The law in a run with a call that never ended. -/
theorem throttle_law_after_crash :
    Sample.second.log = [.admitted 1000, .saved 1000 .reservation, .started 1000, .orphaned,
      .saved 1001 .rejection, .rejected 1001, .admitted 1901, .saved 1901 .reservation,
      .started 1901] ∧ ThrottleLaw Sample.noFloat Sample.second := by
  refine ⟨by decide +kernel, throttle_law Sample.second (Reaches.runAll ?_)⟩
  simp [Sample.steps, AllowedAlong, Allowed]

end StockResearch.Sources.NativeHistory
