import Mathlib.Data.List.MinMax
import StockResearch.Requests.AtMostOnceSend

/-!
# One live attempt, and none after an unknown outcome

`reserve_next_physical_attempt` refuses a request that has a live or an unknown attempt;
the insert inside `acquire_gates` does not. In a run whose acquisitions never create an
attempt for such a request, a request has at most one live attempt, its attempts are
numbered without gaps, and an unknown outcome is the last thing that happens to them.

- `AttemptsSound`: the invariant of the attempt table.
- `Guarded`: the runs it holds for.
-/

namespace StockResearch.Requests

open Relation (ReflTransGen)

/-! ## The attempts of a request -/

/-- The request has no reserved, started or unknown attempt. -/
def Quiet (attempts : AttemptTable) (request : Identifier) : Prop :=
  (attempts.select fun _ row =>
    row.logicalRequestId = request && (row.state.isActive || row.state = .unknown)) = []

instance (attempts : AttemptTable) (request : Identifier) : Decidable (Quiet attempts request) :=
  inferInstanceAs (Decidable (_ = _))

theorem quiet_iff {attempts : AttemptTable} {request : Identifier} :
    Quiet attempts request ↔ ∀ id row, attempts.get? id = some row →
      row.logicalRequestId = request → row.state.isActive = false ∧ row.state ≠ .unknown := by
  rw [Quiet, Table.select_eq_nil_iff]
  constructor
  · intro h id row hrow hrequest
    simpa [hrequest] using h id row hrow
  · intro h id row hrow
    by_cases hrequest : row.logicalRequestId = request
    · simpa [hrequest] using h id row hrow hrequest
    · simp [hrequest]

/-- The sequence numbers of a request's attempts. -/
def sequenceNumbers (attempts : AttemptTable) (request : Identifier) : List Nat :=
  (attempts.select fun _ row => row.logicalRequestId = request).map fun r => r.2.sequenceNumber

theorem mem_sequenceNumbers {attempts : AttemptTable} {request : Identifier} {k : Nat} :
    k ∈ sequenceNumbers attempts request ↔
      ∃ id row, attempts.get? id = some row ∧ row.logicalRequestId = request ∧
        row.sequenceNumber = k := by
  simp only [sequenceNumbers, List.mem_map, Prod.exists, Table.mem_select, decide_eq_true_eq]
  constructor
  · rintro ⟨id, row, ⟨h₁, h₂⟩, h₃⟩
    exact ⟨id, row, h₁, h₂, h₃⟩
  · rintro ⟨id, row, h₁, h₂, h₃⟩
    exact ⟨id, row, ⟨h₁, h₂⟩, h₃⟩

theorem maxSequence_eq {attempts : AttemptTable} {request : Identifier} {n : Nat}
    (h : ∀ k, k ∈ sequenceNumbers attempts request ↔ 1 ≤ k ∧ k ≤ n) :
    maxSequence attempts request = n := by
  show (sequenceNumbers attempts request).foldr max 0 = n
  refine Nat.le_antisymm (List.max_le_of_forall_le _ n fun k hk => ((h k).mp hk).2) ?_
  by_cases hn : n = 0
  · omega
  · exact List.le_max_of_le ((h n).mpr ⟨by omega, Nat.le_refl n⟩) (Nat.le_refl n)

/-- At most one attempt of a request is live, none beside an unknown one, and their
sequence numbers are `1` to `n`, the live one having the last. -/
structure AttemptsSound (attempts : AttemptTable) : Prop where
  oneLive : ∀ {a b : Identifier} {rowA rowB : PhysicalAttemptRow}, attempts.get? a = some rowA →
    attempts.get? b = some rowB → rowA.logicalRequestId = rowB.logicalRequestId →
    rowA.state.isActive = true → rowB.state.isActive = true → a = b
  noneBesideUnknown : ∀ {a b : Identifier} {rowA rowB : PhysicalAttemptRow},
    attempts.get? a = some rowA → attempts.get? b = some rowB →
    rowA.logicalRequestId = rowB.logicalRequestId → rowA.state = .unknown →
    rowB.state.isActive = false
  distinct : ∀ {a b : Identifier} {rowA rowB : PhysicalAttemptRow}, attempts.get? a = some rowA →
    attempts.get? b = some rowB → rowA.logicalRequestId = rowB.logicalRequestId →
    rowA.sequenceNumber = rowB.sequenceNumber → a = b
  numbered : ∀ request, ∃ n, ∀ k, k ∈ sequenceNumbers attempts request ↔ 1 ≤ k ∧ k ≤ n
  liveLast : ∀ {a b : Identifier} {rowA rowB : PhysicalAttemptRow}, attempts.get? a = some rowA →
    attempts.get? b = some rowB → rowA.logicalRequestId = rowB.logicalRequestId →
    rowA.state.isActive = true → rowB.sequenceNumber ≤ rowA.sequenceNumber

theorem attemptsSound_empty : AttemptsSound .empty where
  oneLive h := by cases h
  noneBesideUnknown h := by cases h
  distinct h := by cases h
  numbered _ := ⟨0, fun k => by
    rw [mem_sequenceNumbers]
    constructor
    · rintro ⟨_, _, h, -⟩
      cases h
    · omega⟩
  liveLast h := by cases h

variable {attempts attempts' : AttemptTable}

/-- The numbers of a request are those of the list `1, …, n`. -/
theorem AttemptsSound.numbers_perm (h : AttemptsSound attempts) (request : Identifier) :
    ∃ n, (sequenceNumbers attempts request).Perm (List.range' 1 n) := by
  obtain ⟨n, hn⟩ := h.numbered request
  refine ⟨n, (List.perm_ext_iff_of_nodup ?_ List.nodup_range').mpr fun k => ?_⟩
  · -- two selected rows with one number have one key, so they are one row
    refine (Table.select_keys_nodup attempts fun _ row => row.logicalRequestId = request).of_map
      |>.map_on ?_
    rintro ⟨a, rowA⟩ ha ⟨b, rowB⟩ hb hab
    rw [Table.mem_select, decide_eq_true_eq] at ha hb
    obtain rfl := h.distinct ha.1 hb.1 (ha.2.trans hb.2.symm) hab
    exact Prod.ext rfl (Option.some.inj (ha.1.symm.trans hb.1))
  · rw [hn, List.mem_range'_1]
    omega

/-! ## Steps -/

/-- The rows a guarded run creates. -/
def CreatesNext (attempts : AttemptTable) (_ : Identifier) (row : PhysicalAttemptRow) : Prop :=
  Quiet attempts row.logicalRequestId ∧
    row.sequenceNumber = maxSequence attempts row.logicalRequestId + 1

/-- A new attempt of a quiet request takes the next number. -/
theorem AttemptsSound.create {id : Identifier} {row : PhysicalAttemptRow}
    (h : AttemptsSound attempts) (hcreates : CreatesNext attempts id row)
    (hfresh : attempts.get? id = none) : AttemptsSound (attempts.insert id row) := by
  obtain ⟨hquiet, hsequence⟩ := hcreates
  rw [quiet_iff] at hquiet
  -- the last number so far is `n`, and every attempt of the request has stopped
  obtain ⟨n, hn⟩ := h.numbered row.logicalRequestId
  rw [maxSequence_eq hn] at hsequence
  have hle : ∀ {b rowB}, attempts.get? b = some rowB →
      rowB.logicalRequestId = row.logicalRequestId → rowB.sequenceNumber ≤ n := fun hb hrequest =>
    ((hn _).mp (mem_sequenceNumbers.mpr ⟨_, _, hb, hrequest, rfl⟩)).2
  have hget : ∀ {b rowB}, (attempts.insert id row).get? b = some rowB →
      b = id ∧ rowB = row ∨ attempts.get? b = some rowB := by
    intro b rowB hb
    rw [Table.get?_insert hfresh] at hb
    split at hb
    · exact .inl ⟨‹b = id›, (Option.some.inj hb).symm⟩
    · exact .inr hb
  refine ⟨?_, ?_, ?_, fun request => ?_, ?_⟩
  · -- a live attempt beside the new one would not be quiet
    intro a b rowA rowB ha hb hrequest hliveA hliveB
    rcases hget ha with ⟨rfl, rfl⟩ | ha' <;> rcases hget hb with ⟨rfl, rfl⟩ | hb'
    · rfl
    · rw [(hquiet b rowB hb' hrequest.symm).1] at hliveB
      cases hliveB
    · rw [(hquiet a rowA ha' hrequest).1] at hliveA
      cases hliveA
    · exact h.oneLive ha' hb' hrequest hliveA hliveB
  · -- an unknown attempt beside the new one would not be quiet
    intro a b rowA rowB ha hb hrequest hunknown
    rcases hget ha with ⟨rfl, rfl⟩ | ha' <;> rcases hget hb with ⟨rfl, rfl⟩ | hb'
    · rw [hunknown]
      rfl
    · exact (hquiet b rowB hb' hrequest.symm).1
    · exact absurd hunknown (hquiet a rowA ha' hrequest).2
    · exact h.noneBesideUnknown ha' hb' hrequest hunknown
  · -- the new number is above every other of the request
    intro a b rowA rowB ha hb hrequest hsame
    rcases hget ha with ⟨rfl, rfl⟩ | ha' <;> rcases hget hb with ⟨rfl, rfl⟩ | hb'
    · rfl
    · have := hle hb' hrequest.symm
      omega
    · have := hle ha' hrequest
      omega
    · exact h.distinct ha' hb' hrequest hsame
  · -- the numbers of the request: `n + 1` joins `1, …, n`
    by_cases hrequest : request = row.logicalRequestId
    · subst hrequest
      refine ⟨n + 1, fun k => ?_⟩
      rw [mem_sequenceNumbers]
      constructor
      · rintro ⟨b, rowB, hb, hsame, rfl⟩
        rcases hget hb with ⟨rfl, rfl⟩ | hb'
        · omega
        · have := (hn _).mp (mem_sequenceNumbers.mpr ⟨b, rowB, hb', hsame, rfl⟩)
          omega
      · intro hk
        by_cases hlast : k = n + 1
        · exact ⟨id, row, by rw [Table.get?_insert hfresh, if_pos rfl], rfl, by omega⟩
        · obtain ⟨b, rowB, hb, hsame, rfl⟩ := mem_sequenceNumbers.mp ((hn k).mpr (by omega))
          have hne : b ≠ id := by
            rintro rfl
            rw [hfresh] at hb
            cases hb
          exact ⟨b, rowB, by rw [Table.get?_insert hfresh, if_neg hne, hb], hsame, rfl⟩
    · -- another request keeps its numbers
      obtain ⟨m, hm⟩ := h.numbered request
      refine ⟨m, fun k => ?_⟩
      rw [← hm k, mem_sequenceNumbers, mem_sequenceNumbers]
      constructor
      · rintro ⟨b, rowB, hb, hsame, hk⟩
        rcases hget hb with ⟨rfl, rfl⟩ | hb'
        · exact absurd hsame.symm hrequest
        · exact ⟨b, rowB, hb', hsame, hk⟩
      · rintro ⟨b, rowB, hb, hsame, hk⟩
        have hne : b ≠ id := by
          rintro rfl
          rw [hfresh] at hb
          cases hb
        exact ⟨b, rowB, by rw [Table.get?_insert hfresh, if_neg hne, hb], hsame, hk⟩
  · -- the new attempt is live and has the last number
    intro a b rowA rowB ha hb hrequest hlive
    rcases hget ha with ⟨rfl, rfl⟩ | ha' <;> rcases hget hb with ⟨rfl, rfl⟩ | hb'
    · exact Nat.le_refl _
    · have := hle hb' hrequest.symm
      omega
    · rw [(hquiet a rowA ha' hrequest).1] at hlive
      cases hlive
    · exact h.liveLast ha' hb' hrequest hlive

/-- The attempt that is discarded is live, so it had the last number. -/
theorem AttemptsSound.discard {id : Identifier} {row : PhysicalAttemptRow}
    (h : AttemptsSound attempts) (hrow : attempts.get? id = some row)
    (hreserved : row.state = .reserved) :
    AttemptsSound (attempts.deleteWhere fun k _ => k = id) := by
  have hlive : row.state.isActive = true := by rw [hreserved]; rfl
  -- what is left are the other attempts
  have hget : ∀ {b : Identifier} {rowB : PhysicalAttemptRow},
      (attempts.deleteWhere fun k _ => k = id).get? b = some rowB ↔
        b ≠ id ∧ attempts.get? b = some rowB := by
    intro b rowB
    simp only [Table.get?_deleteWhere, Option.filter_eq_some_iff, Bool.not_eq_true',
      decide_eq_false_iff_not, and_comm]
  refine ⟨fun ha hb => h.oneLive (hget.mp ha).2 (hget.mp hb).2,
    fun ha hb => h.noneBesideUnknown (hget.mp ha).2 (hget.mp hb).2,
    fun ha hb => h.distinct (hget.mp ha).2 (hget.mp hb).2, fun request => ?_,
    fun ha hb => h.liveLast (hget.mp ha).2 (hget.mp hb).2⟩
  obtain ⟨n, hn⟩ := h.numbered request
  -- `n` leaves the numbers `1, …, n` of the request
  by_cases hrequest : row.logicalRequestId = request
  · have hmem : row.sequenceNumber ∈ sequenceNumbers attempts request :=
      mem_sequenceNumbers.mpr ⟨id, row, hrow, hrequest, rfl⟩
    have hlast : row.sequenceNumber = n := by
      obtain ⟨h₁, h₂⟩ := (hn _).mp hmem
      obtain ⟨b, rowB, hb, hsame, hk⟩ := mem_sequenceNumbers.mp ((hn n).mpr ⟨by omega, by omega⟩)
      have := h.liveLast hrow hb (hrequest.trans hsame.symm) hlive
      omega
    refine ⟨n - 1, fun k => ?_⟩
    rw [mem_sequenceNumbers]
    constructor
    · rintro ⟨b, rowB, hb, hsame, rfl⟩
      obtain ⟨hne, hb⟩ := hget.mp hb
      have hrange := (hn _).mp (mem_sequenceNumbers.mpr ⟨b, rowB, hb, hsame, rfl⟩)
      have hother : rowB.sequenceNumber ≠ n := fun hk =>
        hne (h.distinct hb hrow (hsame.trans hrequest.symm) (hk.trans hlast.symm))
      omega
    · intro hk
      obtain ⟨b, rowB, hb, hsame, rfl⟩ := mem_sequenceNumbers.mp ((hn k).mpr (by omega))
      refine ⟨b, rowB, hget.mpr ⟨?_, hb⟩, hsame, rfl⟩
      rintro rfl
      obtain rfl := Option.some.inj (hrow.symm.trans hb)
      omega
  · -- another request keeps its numbers
    refine ⟨n, fun k => ?_⟩
    rw [← hn k, mem_sequenceNumbers, mem_sequenceNumbers]
    constructor
    · rintro ⟨b, rowB, hb, hsame, hk⟩
      exact ⟨b, rowB, (hget.mp hb).2, hsame, hk⟩
    · rintro ⟨b, rowB, hb, hsame, hk⟩
      refine ⟨b, rowB, hget.mpr ⟨?_, hb⟩, hsame, hk⟩
      rintro rfl
      obtain rfl := Option.some.inj (hrow.symm.trans hb)
      exact hrequest hsame

/-- An attempt that becomes unknown was the live one of its request. -/
theorem AttemptMove.unknown {row row' : PhysicalAttemptRow} (h : AttemptMove row row')
    (hunknown : row'.state = .unknown) : row.state = .unknown ∨ row.state.isActive = true := by
  cases h with
  | stay => exact .inl hunknown
  | start => cases hunknown
  | finish _ hactive => exact .inr hactive
  | transfer => exact .inl hunknown

theorem AttemptsSound.move (h : AttemptsSound attempts) (hmoves : AttemptsMove attempts attempts') :
    AttemptsSound attempts' := by
  refine ⟨?_, ?_, ?_, fun request => ?_, ?_⟩
  · -- states move but numbers and requests do not, so both clauses go back to the rows before
    intro a b rowA rowB ha hb hrequest hliveA hliveB
    obtain ⟨oldA, hoA, hmA⟩ := hmoves.to_some ha
    obtain ⟨oldB, hoB, hmB⟩ := hmoves.to_some hb
    rw [hmA.request, hmB.request] at hrequest
    exact h.oneLive hoA hoB hrequest (hmA.active hliveA) (hmB.active hliveB)
  · intro a b rowA rowB ha hb hrequest hunknown
    obtain ⟨oldA, hoA, hmA⟩ := hmoves.to_some ha
    obtain ⟨oldB, hoB, hmB⟩ := hmoves.to_some hb
    rw [hmA.request, hmB.request] at hrequest
    by_contra hlive
    rw [Bool.not_eq_false] at hlive
    have hliveB := hmB.active hlive
    -- an attempt that has become unknown was the live one
    rcases hmA.unknown hunknown with hold | hliveA
    · rw [h.noneBesideUnknown hoA hoB hrequest hold] at hliveB
      cases hliveB
    · obtain rfl := h.oneLive hoA hoB hrequest hliveA hliveB
      obtain rfl := Option.some.inj (ha.symm.trans hb)
      rw [hunknown] at hlive
      cases hlive
  · intro a b rowA rowB ha hb hrequest hsame
    obtain ⟨oldA, hoA, hmA⟩ := hmoves.to_some ha
    obtain ⟨oldB, hoB, hmB⟩ := hmoves.to_some hb
    rw [hmA.request, hmB.request] at hrequest
    rw [hmA.sequence, hmB.sequence] at hsame
    exact h.distinct hoA hoB hrequest hsame
  · -- the numbers are those before
    obtain ⟨n, hn⟩ := h.numbered request
    refine ⟨n, fun k => ?_⟩
    rw [← hn k, mem_sequenceNumbers, mem_sequenceNumbers]
    constructor
    · rintro ⟨b, rowB, hb, hsame, hk⟩
      obtain ⟨old, ho, hm⟩ := hmoves.to_some hb
      exact ⟨b, old, ho, hm.request.symm.trans hsame, hm.sequence.symm.trans hk⟩
    · rintro ⟨b, old, ho, hsame, hk⟩
      obtain ⟨rowB, hb, hm⟩ := hmoves.of_some ho
      exact ⟨b, rowB, hb, hm.request.trans hsame, hm.sequence.trans hk⟩
  · intro a b rowA rowB ha hb hrequest hlive
    obtain ⟨oldA, hoA, hmA⟩ := hmoves.to_some ha
    obtain ⟨oldB, hoB, hmB⟩ := hmoves.to_some hb
    rw [hmA.request, hmB.request] at hrequest
    rw [hmA.sequence, hmB.sequence]
    exact h.liveLast hoA hoB hrequest (hmA.active hlive)

variable {gated : Identifier → Prop}

theorem AttemptsSound.step (h : AttemptsSound attempts)
    (hstep : AttemptStep CreatesNext gated attempts attempts') : AttemptsSound attempts' := by
  cases hstep with
  | create hcreates hfresh _ => exact h.create hcreates hfresh
  | discard hrow hreserved _ => exact h.discard hrow hreserved
  | move hmoves => exact h.move hmoves

theorem AttemptsSound.steps (h : AttemptsSound attempts)
    (hsteps : ReflTransGen (AttemptStep CreatesNext gated) attempts attempts') :
    AttemptsSound attempts' := by
  induction hsteps with
  | refl => exact h
  | tail _ hstep ih => exact ih.step hstep

/-! ## After an unknown outcome -/

/-- The rows of one request are the same in both tables. -/
def SameAttempts (request : Identifier) (attempts attempts' : AttemptTable) : Prop :=
  ∀ id row, row.logicalRequestId = request →
    (attempts'.get? id = some row ↔ attempts.get? id = some row)

/-- Once an attempt of a request is unknown, no step touches its attempts. -/
theorem AttemptsSound.frozen {request id : Identifier} {row : PhysicalAttemptRow}
    (h : AttemptsSound attempts) (hrow : attempts.get? id = some row)
    (hrequest : row.logicalRequestId = request) (hunknown : row.state = .unknown)
    (hstep : AttemptStep CreatesNext gated attempts attempts') :
    SameAttempts request attempts attempts' := by
  -- beside an unknown attempt every attempt of the request has stopped
  have hterminal : ∀ {b rowB}, attempts.get? b = some rowB → rowB.logicalRequestId = request →
      rowB.state.isActive = false := fun hb hsame =>
    h.noneBesideUnknown hrow hb (hrequest.trans hsame.symm) hunknown
  intro b rowB hsame
  cases hstep with
  -- a new attempt needs a quiet request
  | @create id' row' hcreates hfresh =>
    rw [Table.get?_insert hfresh]
    by_cases hid : b = id'
    · subst hid
      rw [if_pos rfl, hfresh]
      refine ⟨fun hnew => ?_, nofun⟩
      obtain rfl := Option.some.inj hnew
      exact absurd hunknown ((quiet_iff.mp hcreates.1) id row hrow (hrequest.trans hsame.symm)).2
    · rw [if_neg hid]
  -- only a reserved attempt is discarded
  | @discard id' row' hrow' hreserved =>
    simp only [Table.get?_deleteWhere, Option.filter_eq_some_iff, Bool.not_eq_true',
      decide_eq_false_iff_not, and_iff_left_iff_imp]
    rintro hb rfl
    obtain rfl := Option.some.inj (hrow'.symm.trans hb)
    have := hterminal hb hsame
    rw [hreserved] at this
    cases this
  -- a stopped attempt does not move
  | move hmoves =>
    constructor
    · intro hb
      obtain ⟨old, ho, hm⟩ := hmoves.to_some hb
      rw [hm.terminal (hterminal ho (hm.request.symm.trans hsame))]
      exact ho
    · intro hb
      obtain ⟨new, hn, hm⟩ := hmoves.of_some hb
      rw [← hm.terminal (hterminal hb hsame)]
      exact hn

theorem AttemptsSound.frozen_steps {request id : Identifier} {row : PhysicalAttemptRow}
    (h : AttemptsSound attempts) (hrow : attempts.get? id = some row)
    (hrequest : row.logicalRequestId = request) (hunknown : row.state = .unknown)
    (hsteps : ReflTransGen (AttemptStep CreatesNext gated) attempts attempts') :
    SameAttempts request attempts attempts' := by
  induction hsteps with
  | refl => exact fun _ _ _ => .rfl
  | tail hstart hstep ih =>
    intro b rowB hsame
    have hmid := (ih id row hrequest).mpr hrow
    rw [(h.steps hstart).frozen hmid hrequest hunknown hstep b rowB hsame]
    exact ih b rowB hsame

/-! ## Guarded runs -/

/-- The operation is fenced, and if it is an acquisition that creates its attempt, the
request is quiet. -/
def Operation.Guarded (op : Operation) (db : Database) : Prop :=
  op.fenced = true ∧
    match op with
    | .acquireGates reservationId attempt keys policy lease now =>
      AcquisitionCreates reservationId attempt keys policy lease now db →
        Quiet db.attempts attempt.logicalRequestId
    | _ => True

instance : (op : Operation) → (db : Database) → Decidable (op.Guarded db) := by
  rintro (_ | _) <;> unfold Operation.Guarded <;> infer_instance

/-- The attempts a guarded operation creates take the next number of a quiet request. -/
theorem Operation.Guarded.creates {op : Operation} {db : Database} {id : Identifier}
    {row : PhysicalAttemptRow} (h : op.Guarded db) (hcreates : op.Creates db id row) :
    CreatesNext db.attempts id row := by
  cases hcreates with
  | add => cases h.1
  | acquire hcreates =>
    have hsequence := hcreates.2.2.2.2.2.2.1
    exact ⟨h.2 hcreates, hsequence⟩
  | @reserve _ logicalRequestId _ _ hunknown hlive =>
    refine ⟨quiet_iff.mpr fun id row hrow hrequest => ?_, rfl⟩
    rw [Table.select_eq_nil_iff] at hunknown hlive
    have hnot := hunknown id row hrow
    have hdead := hlive id row hrow
    simp only [hrequest, decide_true, Bool.true_and, ProductionPhysicalAttempt.row] at hnot hdead
    exact ⟨hdead, of_decide_eq_false hnot⟩

theorem Operation.Guarded.attempt_steps {op : Operation} {db : Database} (h : op.Guarded db) :
    ReflTransGen (AttemptStep CreatesNext db.gates.Gated) db.attempts (op.next db).attempts :=
  (op.transition db).attempt_steps fun _ _ hcreates => h.creates hcreates

/-- The repository call of the action, if it makes one, is fenced. -/
def System.Fenced {ρ : Type} (action : Action ρ) (s : System) : Prop :=
  match s.operation action with
  | none => True
  | some op => op.fenced = true

/-- The repository call of the action, if it makes one, is guarded. -/
def System.Guarded {ρ : Type} (action : Action ρ) (s : System) : Prop :=
  match s.operation action with
  | none => True
  | some op => op.Guarded s.database

instance {ρ : Type} (action : Action ρ) (s : System) : Decidable (System.Fenced action s) := by
  unfold System.Fenced
  split <;> infer_instance

instance {ρ : Type} (action : Action ρ) (s : System) : Decidable (System.Guarded action s) := by
  unfold System.Guarded
  split <;> infer_instance

variable {ρ : Type} {lower : String → String}

theorem System.Guarded.attempt_steps {action : Action ρ} {s s' : System}
    (h : System.Guarded action s) (heffect : System.Effect s s' action) :
    ReflTransGen (AttemptStep CreatesNext s.database.gates.Gated) s.database.attempts
      s'.database.attempts := by
  cases heffect with
  | silent hdatabase | issued hdatabase | invoked _ _ hdatabase => rw [hdatabase]
  | called hoperation hdatabase =>
    rw [System.Guarded, hoperation] at h
    rw [hdatabase]
    exact Operation.Guarded.attempt_steps h

/-- What holds in every state of a guarded run. -/
structure System.Settled (s : System) : Prop extends s.Sound where
  attempts : AttemptsSound s.database.attempts
  held : AttemptsHeld s.database
  sent : ∀ id permit request database, .invoked id permit request database ∈ s.history →
    ∃ row, s.database.attempts.get? request.physicalAttemptId = some row ∧
      row.state ≠ .reserved ∧ row.logicalRequestId = request.logicalRequestId

theorem System.settled_initial : System.initial.Settled where
  toSound := System.sound_initial
  attempts := attemptsSound_empty
  held _ _ h := by cases h
  sent _ _ _ _ h := (List.not_mem_nil h).elim

/-- The attempt of an exchange with a permit has been started, for its request. -/
theorem System.Settled.permitted {s : System} {id : Nat} {e : Exchange}
    {reservation : GateReservation} {permit : TransportPermit} (h : s.Settled)
    (hexchange : s.exchanges.get? id = some e)
    (hstage : e.stage = .permitted reservation permit) :
    ∃ row, s.database.attempts.get? e.call.request.physicalAttemptId = some row ∧
      row.state ≠ .reserved ∧ row.logicalRequestId = e.call.request.logicalRequestId := by
  have hsound := h.stages id e hexchange
  rw [hstage] at hsound
  cases hsound with
  | @permitted _ _ starting _ _ hstarted htrail =>
    obtain ⟨acquiring, -, hsub⟩ := htrail.trail
    obtain ⟨held, hheld, hattempt, hrequest⟩ := htrail.held
    obtain ⟨row, hrow, hsame⟩ := h.held _ held hheld
    have hevent : (Event.called (some id) e.call.start starting).startedAttempt =
        some e.call.attempt.physicalAttemptId := by
      have hok : (markPhysicalAttemptStarted e.call.attempt.physicalAttemptId e.call.lease
        e.call.startedAt starting).1 = .ok () := hstarted.committed
      simp only [Event.startedAttempt, ExchangeCall.start, hok]
    obtain ⟨row', hrow', hleft⟩ := h.startedLeft _ (hsub.subset (by simp)) _ hevent
    rw [hattempt] at hrow
    obtain rfl := Option.some.inj (hrow.symm.trans hrow')
    exact ⟨row, by rw [htrail.same.2, hrow], hleft, by rw [hsame, hrequest, htrail.same.1]⟩

theorem System.Settled.step {action : Action ρ} {s s' : System} (h : s.Settled)
    (hguarded : System.Guarded action s) (hstep : System.Step lower action s s') : s'.Settled := by
  have heffect := hstep.effect
  refine ⟨h.toSound.step hstep, h.attempts.steps (hguarded.attempt_steps heffect), ?_, ?_⟩
  · -- the rows that gates are held for
    cases heffect with
    | silent hdatabase | issued hdatabase | invoked _ _ hdatabase => exact hdatabase ▸ h.held
    | @called _ op _ hdatabase => exact hdatabase ▸ h.held.next op
  · -- each attempt that was sent was started, and leaves its number behind
    intro id permit request database hmem
    cases heffect with
    | silent hdatabase hhistory =>
      rw [hhistory] at hmem
      rw [hdatabase]
      exact h.sent id permit request database hmem
    | @called exchange op _ hdatabase hhistory =>
      rw [hhistory, List.mem_append, List.mem_singleton] at hmem
      -- the database moves: its attempts are kept
      obtain ⟨row, hrow, hleft, hsame⟩ :=
        h.sent id permit request database (hmem.resolve_right nofun)
      obtain ⟨row', hrow', hleft', hsame', -⟩ :=
        op.attempts_later s.database _ row hrow hleft
      exact ⟨row', hdatabase ▸ hrow', hleft', hsame'.trans hsame⟩
    | issued hdatabase hhistory =>
      rw [hhistory, List.mem_append, List.mem_singleton] at hmem
      rw [hdatabase]
      exact h.sent id permit request database (hmem.resolve_right nofun)
    -- the send itself: the permit names an attempt that was started
    | @invoked id' e reservation permit' hexchange hstage hdatabase hhistory =>
      rw [hhistory, List.mem_append, List.mem_singleton] at hmem
      rw [hdatabase]
      rcases hmem with hmem | hmem
      · exact h.sent id permit request database hmem
      · simp only [Event.invoked.injEq] at hmem
        rw [hmem.2.2.1]
        exact h.permitted hexchange hstage

theorem System.Settled.reachable {s t : System} (h : s.Settled)
    (hrun : Reaches (System.next (ρ := ρ) lower) System.Guarded s t) : t.Settled :=
  Reaches.invariant System.Settled
    (fun action s hguarded h => h.step hguarded (System.step lower action s)) h hrun

/-! ## The theorem -/

/-- What a run does to a request after one of its attempts became unknown in `s`. -/
structure Finished (request : Identifier) (s t : System) : Prop where
  same : SameAttempts request s.database.attempts t.database.attempts
  starts : ∀ event ∈ t.history, event ∈ s.history ∨ ∀ attemptId,
    event.startedAttempt = some attemptId → ∃ row, t.database.attempts.get? attemptId = some row ∧
      row.state ≠ .reserved ∧ row.logicalRequestId ≠ request

theorem finished_step {action : Action ρ} {request id : Identifier} {row : PhysicalAttemptRow}
    {s t t' : System} (hrow : s.database.attempts.get? id = some row)
    (hrequest : row.logicalRequestId = request) (hunknown : row.state = .unknown)
    (h : Finished request s t) (ht : t.Settled) (hguarded : System.Guarded action t)
    (heffect : System.Effect t t' action) : Finished request s t' := by
  have hrow' := (h.same id row hrequest).mpr hrow
  have hfrozen := ht.attempts.frozen_steps hrow' hrequest hunknown (hguarded.attempt_steps heffect)
  refine ⟨fun b rowB hsame => (hfrozen b rowB hsame).trans (h.same b rowB hsame), ?_⟩
  intro event hevent
  cases heffect with
  | silent hdatabase hhistory =>
    rw [hhistory] at hevent
    rw [hdatabase]
    exact h.starts event hevent
  | @called exchange op _ hdatabase hhistory =>
    rw [hhistory, List.mem_append, List.mem_singleton] at hevent
    rcases hevent with hevent | rfl
    · refine (h.starts event hevent).imp_right fun hstarts attemptId hstarted => ?_
      obtain ⟨rowA, hrowA, hleft, hother⟩ := hstarts attemptId hstarted
      obtain ⟨rowA', hrowA', hleft', hsame, -⟩ := op.attempts_later t.database _ rowA hrowA hleft
      exact ⟨rowA', hdatabase ▸ hrowA', hleft', hsame ▸ hother⟩
    · right
      intro attemptId hstarted
      obtain ⟨rowA, hrowA, hreserved, hnext⟩ := Event.startedAttempt_eq_some hstarted
      refine ⟨{ rowA with state := .started }, hdatabase ▸ hnext, nofun, fun hsame => ?_⟩
      -- a reserved attempt of the request would be a live one beside the unknown one
      have hdead := ht.attempts.noneBesideUnknown hrow' hrowA (hrequest.trans hsame.symm) hunknown
      rw [hreserved] at hdead
      cases hdead
  | issued hdatabase hhistory =>
    rw [hhistory, List.mem_append, List.mem_singleton] at hevent
    rw [hdatabase]
    rcases hevent with hevent | rfl
    · exact h.starts event hevent
    · exact .inr fun _ hstarted => by cases hstarted
  | invoked _ _ hdatabase hhistory =>
    rw [hhistory, List.mem_append, List.mem_singleton] at hevent
    rw [hdatabase]
    rcases hevent with hevent | rfl
    · exact h.starts event hevent
    · exact .inr fun _ hstarted => by cases hstarted

theorem finished_run {request id : Identifier} {row : PhysicalAttemptRow} {s t : System}
    (hs : s.Settled) (hrow : s.database.attempts.get? id = some row)
    (hrequest : row.logicalRequestId = request) (hunknown : row.state = .unknown)
    (hrun : Reaches (System.next (ρ := ρ) lower) System.Guarded s t) : Finished request s t := by
  have hboth := Reaches.invariant (fun t => Finished request s t ∧ t.Settled)
    (fun action u hguarded hu => ⟨finished_step hrow hrequest hunknown hu.1 hu.2 hguarded
      (System.step lower action u).effect, hu.2.step hguarded (System.step lower action u)⟩)
    ⟨⟨fun _ _ _ => .rfl, fun event hevent => .inl hevent⟩, hs⟩ hrun
  exact hboth.1

/-- **At most one live attempt, and none after an unknown outcome.** In every state `s`
of a run whose acquisitions create attempts for quiet requests only, a request has at
most one reserved or started attempt and its attempts are numbered `1, …, n`; and once
one of them is unknown, then in every later state `t` of the run its attempts are the
same, and only attempts started before that have been sent. -/
theorem one_live_attempt {s t : System}
    (hrun : Reaches (System.next (ρ := ρ) lower) System.Guarded System.initial s)
    (hlater : Reaches (System.next (ρ := ρ) lower) System.Guarded s t) (request : Identifier) :
    (∀ a b rowA rowB, s.database.attempts.get? a = some rowA →
      s.database.attempts.get? b = some rowB → rowA.logicalRequestId = request →
      rowB.logicalRequestId = request → rowA.state.isActive = true → rowB.state.isActive = true →
      a = b) ∧
    (∃ n, (sequenceNumbers s.database.attempts request).Perm (List.range' 1 n)) ∧
    ∀ id row, s.database.attempts.get? id = some row → row.logicalRequestId = request →
      row.state = .unknown →
      SameAttempts request s.database.attempts t.database.attempts ∧
        (∀ b rowB, t.database.attempts.get? b = some rowB → rowB.logicalRequestId = request →
          rowB.state.isActive = false) ∧
        ∀ exchange permit sent database, .invoked exchange permit sent database ∈ t.history →
          sent.logicalRequestId = request →
          ∃ event ∈ s.history, event.startedAttempt = some sent.physicalAttemptId := by
  have hs := System.settled_initial.reachable hrun
  have ht := hs.reachable hlater
  -- the attempts of the request are numbered, at most one is live
  refine ⟨fun a b rowA rowB ha hb hrequestA hrequestB =>
    hs.attempts.oneLive ha hb (hrequestA.trans hrequestB.symm), hs.attempts.numbers_perm request,
    fun id row hrow hrequest hunknown => ?_⟩
  have hfinished := finished_run hs hrow hrequest hunknown hlater
  refine ⟨hfinished.same, fun b rowB hb hsame => ?_, fun exchange permit sent database hsent hsame => ?_⟩
  · -- nothing of the request is live beside the unknown attempt
    exact hs.attempts.noneBesideUnknown hrow ((hfinished.same b rowB hsame).mp hb)
      (hrequest.trans hsame.symm) hunknown
  · -- what was sent was started, and a start after the unknown outcome is of another request
    obtain ⟨-, call, starting, hmem, hstarted⟩ := ht.proper_mem hsent
    rcases hfinished.starts _ hmem with hold | hnew
    · exact ⟨_, hold, hstarted⟩
    · obtain ⟨rowA, hrowA, -, hother⟩ := hnew _ hstarted
      obtain ⟨rowB, hrowB, -, hown⟩ := ht.sent exchange permit sent database hsent
      obtain rfl := Option.some.inj (hrowA.symm.trans hrowB)
      exact absurd (hown.trans hsame) hother

/-! ## Sample runs -/

namespace Sample

/-- The sample exchange whose callback raises. -/
def interrupted : List (Action Unit) :=
  .construct 0 :: claimed.map .operate ++
    (.enter 0 0 call .plain ::
      List.replicate 5 (.advance 0 (.ok "permit-1") .raised))

/-- A further attempt of the sample request. -/
def secondAttempt : ProductionPhysicalAttempt :=
  { attempt with physicalAttemptId := ⟨"attempt-2", by decide⟩, sequenceNumber := 2 }

/-- Two requests at a time. -/
def roomyPolicy : HierarchicalGatePolicy :=
  ⟨fun _ => { limit with maxConcurrency := 2, concurrency_ge := by decide }⟩

/-- The gates of both attempts are acquired, one after the other. -/
def acquiredTwice : List Operation :=
  claimed ++ [.acquireGates reservationId attempt keys roomyPolicy lease (at_ 3),
    .acquireGates ⟨"reservation-2", by decide⟩ secondAttempt keys roomyPolicy lease (at_ 4)]

/-- An exchange of the further attempt. -/
def secondCall : ExchangeCall :=
  { call with
    request := { call.request with physicalAttemptId := secondAttempt.physicalAttemptId }
    attempt := secondAttempt
    reservationId := ⟨"reservation-2", by decide⟩
    startedAt := at_ 5
    completedAt := at_ 6 }

def secondExchange : List (Action Unit) :=
  .enter 1 0 secondCall .plain ::
    List.replicate 5 (.advance 1 (.ok "permit-2") (.returned (response 200 none status_ok) ()))

end Sample

set_option maxRecDepth 4096 in
/-- After the unknown outcome of the sample attempt, `reserve_next_physical_attempt` gives
its request no further one. -/
theorem one_live_attempt_sample :
    let s := runAll (System.next id) Sample.interrupted System.initial
    let t := runAll (System.next id) [(.operate (.reserveNextPhysicalAttempt
      ⟨"attempt-2", by decide⟩ Sample.request.logicalRequestId Sample.lease (Sample.at_ 6)) :
        Action Unit)] s
    SameAttempts Sample.request.logicalRequestId s.database.attempts t.database.attempts :=
  ((one_live_attempt (Reaches.runAll (by decide)) (Reaches.runAll (by decide))
    Sample.request.logicalRequestId).2.2 Sample.attempt.physicalAttemptId
      { Sample.attempt.row with state := .unknown } (by decide) rfl rfl).1

set_option maxRecDepth 4096 in
/-- `acquire_gates` creates attempts that `reserve_next_physical_attempt` refuses: two
acquisitions give a request two reserved attempts, and an exchange sends a further
attempt of a request whose first attempt is unknown. -/
theorem second_attempt_beside_live_and_unknown :
    let reserved := runAll (System.next (ρ := Unit) id) (Sample.acquiredTwice.map .operate)
      System.initial
    let unknown := runAll (System.next id) Sample.interrupted System.initial
    let resent := runAll (System.next id) Sample.secondExchange unknown
    (Reaches (System.next (ρ := Unit) id) System.Fenced System.initial reserved ∧
      (reserved.database.attempts.get? Sample.attempt.physicalAttemptId).map (·.state) =
        some .reserved ∧
      (reserved.database.attempts.get? Sample.secondAttempt.physicalAttemptId).map (·.state) =
        some .reserved) ∧
    Reaches (System.next (ρ := Unit) id) System.Fenced System.initial unknown ∧
    Reaches (System.next (ρ := Unit) id) System.Fenced unknown resent ∧
    (unknown.database.attempts.get? Sample.attempt.physicalAttemptId).map (·.state) =
      some .unknown ∧
    unknown.database.attempts.get? Sample.secondAttempt.physicalAttemptId = none ∧
    (resent.database.attempts.get? Sample.secondAttempt.physicalAttemptId).map (·.state) =
      some .succeeded ∧
    resent.history.filterMap Event.sentAttempt =
      [Sample.attempt.physicalAttemptId, Sample.secondAttempt.physicalAttemptId] :=
  ⟨⟨Reaches.runAll (by decide), by decide, by decide⟩, Reaches.runAll (by decide),
    Reaches.runAll (by decide), by decide, by decide, by decide, by decide⟩

end StockResearch.Requests
