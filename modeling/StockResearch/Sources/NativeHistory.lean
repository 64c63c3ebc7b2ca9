import Mathlib.Algebra.Order.Ring.Unbundled.Rat
import Mathlib.Logic.Function.Basic
import StockResearch.Contracts.Values
import StockResearch.Lib.Run

/-!
# The native history client

Calls of the provider are spaced by one file below a state root: a call reserves it before
the provider is asked and records its end there after. Processes share the root; a lock
keeps them apart, and it is released when a process dies, which may be at any step.

- `StateFile`, `readState`: the file, and what is read from it.
- `admission`: what `_admit` does with a reading of the clock and the file.
- `Phase`, `System`, `next`: the calls of many processes, step by step, with a log.
- `Reachable`: the states of all runs; the file may turn malformed at any step.
-/

namespace StockResearch.Sources.NativeHistory

open Contracts (PyValue PyFloat PyStr)

/-! ## The file -/

/-- `MIN_INTERVAL_SECONDS` -/
def minInterval : ℚ := 10

/-- `FAILURE_COOLDOWN_SECONDS` -/
def failureCooldown : ℚ := 900

/-- `provider.json`, as `json.loads` finds it: a file that is no JSON is unreadable. -/
inductive StateFile where
  | absent
  | unreadable
  | json (value : PyValue)

/-- What reading the state raises: what `_admit` catches, and an `OverflowError`. -/
inductive ReadError where
  | invalid
  | overflow
deriving DecidableEq

/-- The first integer beyond the finite floats. -/
def floatLimit : Nat := 2 ^ 1024 - 2 ^ 970

/-- `float(value)`; `float` of a text is a parameter. -/
def floatOf (float : PyStr → Option PyFloat) : PyValue → Except ReadError PyFloat
  | .bool value => .ok (.finite (if value then 1 else 0))
  | .int value => if value.natAbs < floatLimit then .ok (.finite value) else .error .overflow
  | .float value => .ok value
  | .str value =>
    match float value with
    | some number => .ok number
    | none => .error .invalid
  | .none | .datetime _ | .list _ | .dict _ => .error .invalid

/-- `bool(value)` -/
def truthy : PyValue → Bool
  | .none => false
  | .bool value => value
  | .int value => value ≠ 0
  | .float value => value ≠ .finite 0
  | .str value => value ≠ []
  | .datetime _ => true
  | .list items => items ≠ []
  | .dict entries => entries ≠ []

/-- `state[name]`; none is a `KeyError`, or a `TypeError` of a state that is no mapping. -/
def entry (state : PyValue) (name : String) : Option PyValue :=
  match state with
  | .dict entries => (entries.find? fun e => e.1.keyEq (.str (PyStr.ofString name))).map (·.2)
  | _ => none

/-- A state that is valid. -/
structure Recorded where
  recordedAt : ℚ
  nextAt : ℚ
  running : Bool

/-- `state[name]`, as a float. -/
def floatEntry (float : PyStr → Option PyFloat) (state : PyValue) (name : String) :
    Except ReadError PyFloat :=
  match entry state name with
  | some value => floatOf float value
  | none => .error .invalid

/-- The `try` statement of `_admit`. -/
def readState (float : PyStr → Option PyFloat) (state : PyValue) : Except ReadError Recorded := do
  let nextAt ← floatEntry float state "next_at"
  let recordedAt ← floatEntry float state "recorded_at"
  match entry state "version", nextAt, recordedAt with
  | some version, .finite nextAt, .finite recordedAt =>
    if version.number? = some 1 ∧ recordedAt ≤ nextAt then
      .ok ⟨recordedAt, nextAt, ((entry state "running").map truthy).getD false⟩
    else .error .invalid
  | _, _, _ => .error .invalid

/-- What is recorded in a file, if it is valid. -/
def StateFile.recorded (float : PyStr → Option PyFloat) : StateFile → Option Recorded
  | .absent | .unreadable => none
  | .json value => (readState float value).toOption

/-- What `_save_deadline` leaves in the file. -/
def savedState (now interval : ℚ) (running : Bool) : StateFile :=
  .json (.dict [(.str (PyStr.ofString "version"), .int 1),
    (.str (PyStr.ofString "recorded_at"), .float (.finite now)),
    (.str (PyStr.ofString "next_at"), .float (.finite (now + interval))),
    (.str (PyStr.ofString "running"), .bool running)])

/-! ## Admission -/

/-- What `_admit` raises. -/
inductive HistoryError where
  | acquisition (reason : String)
  | throttled (reason : String) (retryAt : Option ℚ)
  | overflowError
deriving DecidableEq

/-- What `_admit` does with what it has read: reserve the call, save the cooldown of a call
that never ended, or raise. -/
inductive Decision where
  | reserve
  | cooldown
  | reject (error : HistoryError)
deriving DecidableEq

/-- `_admit`, from the reading of the clock to the first save. -/
def admission (float : PyStr → Option PyFloat) (now : ℚ) : StateFile → Decision
  | .absent => .reserve
  | .unreadable => .reject (.acquisition "invalid_yfinance_rate_state")
  | .json value =>
    match readState float value with
    | .error .invalid => .reject (.acquisition "invalid_yfinance_rate_state")
    | .error .overflow => .reject .overflowError
    | .ok state =>
      if now < state.recordedAt then
        .reject (.throttled "yfinance_clock_moved_backwards" state.nextAt)
      else if state.running then .cooldown
      else if now < state.nextAt then .reject (.throttled "yfinance_cooldown" state.nextAt)
      else .reserve

/-! ## Processes -/

/-- Where a call stands. -/
inductive Phase where
  | idle
  | locked
  /-- It found a call that never ended, and saves the cooldown. -/
  | cooling (now : ℚ)
  | reserving (now : ℚ)
  /-- The reservation is saved. -/
  | reserved (now : ℚ)
  | calling (now : ℚ)
  /-- The body of the `with` statement has ended. -/
  | ending (now : ℚ) (succeeded : Bool)
  | leaving
deriving DecidableEq

/-- Why the file was saved. -/
inductive SaveKind where
  | reservation
  | success
  | failure
  | rejection
deriving DecidableEq

/-- The interval that is saved. -/
def SaveKind.interval : SaveKind → ℚ
  | .success => minInterval
  | .reservation | .failure | .rejection => failureCooldown

/-- What happened, in order. -/
inductive LogEntry where
  | admitted (now : ℚ)
  | rejected (now : ℚ)
  | started (now : ℚ)
  | saved (recordedAt : ℚ) (kind : SaveKind)
  /-- A process died after its reservation was saved and before its end was. -/
  | orphaned
deriving DecidableEq

/-- The processes `P` over one state root: the holder of the lock and the file are shared. -/
structure System (P : Type) where
  file : StateFile
  lock : Option P
  phase : P → Phase
  log : List LogEntry

/-- The steps of the processes, with the readings of their clocks. -/
inductive Action (P : Type) where
  | lock (p : P)
  | permit (p : P) (now : ℚ)
  | save (p : P) (clock : ℚ)
  | call (p : P)
  | finish (p : P) (succeeded : Bool)
  | unlock (p : P)
  /-- The process dies, or the file system raises, which leaves the `with` statement. -/
  | crash (p : P)
  /-- Something other than a client writes the file. -/
  | corrupt (file : StateFile)

variable {P : Type} [DecidableEq P]

/-- A process moves on, and what it did is logged. -/
def System.move (s : System P) (p : P) (phase : Phase) (events : List LogEntry) : System P :=
  { s with phase := Function.update s.phase p phase, log := s.log ++ events }

/-- `_save_deadline`: a rename replaces the file. -/
def System.saveDeadline (s : System P) (now : ℚ) (kind : SaveKind) : System P :=
  { s with
    file := savedState now kind.interval (kind = .reservation)
    log := s.log ++ [.saved now kind] }

/-- The reservation of the call is saved, and its end is not. -/
def Phase.isLive : Phase → Bool
  | .reserved _ | .calling _ | .ending _ _ => true
  | _ => false

/-- One step. A step that is not possible leaves everything as it is; so does `flock` of a
lock that is held, which raises. -/
def next (float : PyStr → Option PyFloat) (a : Action P) (s : System P) : System P :=
  match a with
  | .lock p =>
    if s.phase p = .idle ∧ s.lock = none then { s.move p .locked [] with lock := some p } else s
  | .permit p now =>
    match s.phase p with
    | .locked =>
      match admission float now s.file with
      | .reserve => s.move p (.reserving now) [.admitted now]
      | .cooldown => s.move p (.cooling now) []
      | .reject _ => s.move p .leaving [.rejected now]
    | _ => s
  | .save p clock =>
    match s.phase p with
    | .cooling now => (s.saveDeadline now .rejection).move p .leaving [.rejected now]
    | .reserving now => (s.saveDeadline now .reservation).move p (.reserved now) []
    | .ending now succeeded =>
      (s.saveDeadline (max now clock) (if succeeded then .success else .failure)).move p .leaving []
    | _ => s
  | .call p =>
    match s.phase p with
    | .reserved now => s.move p (.calling now) [.started now]
    | _ => s
  | .finish p succeeded =>
    match s.phase p with
    | .reserved now => s.move p (.ending now false) []
    | .calling now => s.move p (.ending now succeeded) []
    | _ => s
  | .unlock p => if s.phase p = .leaving then { s.move p .idle [] with lock := none } else s
  | .crash p =>
    if s.phase p = .idle then s
    else { s.move p .idle (if (s.phase p).isLive then [.orphaned] else []) with
      lock := if s.lock = some p then none else s.lock }
  | .corrupt file => { s with file }

/-! ## Runs -/

/-- The state of a file that is there is no valid one: it is no JSON, lacks its version, its
recorded time or its deadline, is of another version, is not finite, or has a deadline
before its recorded time. -/
inductive Malformed (float : PyStr → Option PyFloat) : StateFile → Prop
  | unreadable : Malformed float .unreadable
  | lacks (state : PyValue) (name : String)
      (hname : name ∈ ["version", "recorded_at", "next_at"]) (h : entry state name = none) :
      Malformed float (.json state)
  | version (state version : PyValue) (h : entry state "version" = some version)
      (hother : version.number? ≠ some 1) : Malformed float (.json state)
  | nonFinite (state : PyValue) (name : String) (hname : name ∈ ["recorded_at", "next_at"])
      (number : PyFloat) (h : floatEntry float state name = .ok number)
      (hnumber : number.isFinite = false) : Malformed float (.json state)
  | reversed (state : PyValue) (recordedAt nextAt : ℚ)
      (hrecorded : floatEntry float state "recorded_at" = .ok (.finite recordedAt))
      (hnext : floatEntry float state "next_at" = .ok (.finite nextAt))
      (h : nextAt < recordedAt) : Malformed float (.json state)

/-- The clients write valid states; whatever else writes the file leaves no valid one. -/
def Allowed (float : PyStr → Option PyFloat) : Action P → Prop
  | .corrupt file => file ≠ .absent ∧ file.recorded float = none
  | _ => True

/-- A state root nobody has used. -/
def initial : System P where
  file := .absent
  lock := none
  phase _ := .idle
  log := []

/-- The states of all runs. -/
def Reachable (float : PyStr → Option PyFloat) (s : System P) : Prop :=
  Reaches (next float) (fun a _ => Allowed float a) initial s

end StockResearch.Sources.NativeHistory
