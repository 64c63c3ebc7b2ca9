import StockResearch.Lib.Outcome
import StockResearch.Lib.Table

/-!
# Checking each entry against the ones before it

A loop over a history keeps dictionaries and sets of what it has seen and rejects an
entry that does not agree with them. It accepts a history exactly when every entry
fits the entries before it.

- `Table.setdefault`, `Table.Holds`: a dictionary that remembers the first value of a
  key, and what it holds while no key has had two.
- `foldlM_accepts_iff`, `foldlM_eq_error`: from one entry to the whole history.
- `forall_pair_of_earlier`, `forall_earlier_iff_pairwise`: from each entry and those
  before it to any two.
-/

namespace StockResearch

universe u v w

/-! ## Dictionaries that remember -/

namespace Table

variable {κ : Type u} {α : Type v} [DecidableEq κ]

/-- `setdefault`: the dictionary after it, and the value it returns. -/
def setdefault (t : Table κ α) (k : κ) (v : α) : Table κ α × α :=
  (t.insert k v, (t.get? k).getD v)

/-- The dictionary holds what has been seen. -/
def Holds (t : Table κ α) (seen : List (κ × α)) : Prop :=
  ∀ k v, t.get? k = some v ↔ (k, v) ∈ seen

theorem holds_empty : (empty : Table κ α).Holds [] := by
  intro k v
  simp

/-- The value returned is the new one exactly when no other has been seen. -/
theorem Holds.setdefault_eq_iff {t : Table κ α} {seen : List (κ × α)} (h : t.Holds seen)
    {k : κ} {v : α} : (t.setdefault k v).2 = v ↔ ∀ w, (k, w) ∈ seen → w = v := by
  rw [setdefault]
  cases hget : t.get? k with
  | none =>
    refine ⟨fun _ w hw => ?_, fun _ => rfl⟩
    rw [← h k w, hget] at hw
    cases hw
  | some stored =>
    have hstored := (h k stored).mp hget
    refine ⟨fun heq w hw => ?_, fun hall => hall stored hstored⟩
    rw [← h k w, hget] at hw
    exact (Option.some.inj hw).symm.trans heq

/-- It then holds the new pair as well. -/
theorem Holds.setdefault {t : Table κ α} {seen : List (κ × α)} (h : t.Holds seen)
    {k : κ} {v : α} (hv : (t.setdefault k v).2 = v) :
    (t.setdefault k v).1.Holds (seen ++ [(k, v)]) := by
  intro k' v'
  show (t.insert k v).get? k' = some v' ↔ _
  rw [List.mem_append, List.mem_singleton, Prod.mk.injEq]
  cases hget : t.get? k with
  | none =>
    rw [get?_insert hget, ← h k' v']
    by_cases hk : k' = k
    · subst hk
      rw [if_pos rfl, hget]
      simp [eq_comm]
    · rw [if_neg hk]
      simp [hk]
  | some stored =>
    rw [insert_of_taken (by simp [hget]), ← h k' v']
    have hstored : stored = v := by simpa [Table.setdefault, hget] using hv
    refine ⟨.inl, ?_⟩
    rintro (hpast | ⟨rfl, rfl⟩)
    · exact hpast
    · exact hstored ▸ hget

end Table

/-! ## The loop -/

variable {ε : Type u} {α : Type v} {σ : Type v}

/-- A loop accepts a history exactly when every entry fits the ones before it, if one
step accepts exactly the entries that fit and keeps the invariant. -/
theorem foldlM_accepts_iff {step : σ → α → Except ε σ} (Inv : List α → σ → Prop)
    (Fits : List α → α → Prop)
    (accepts : ∀ past s x, Inv past s → ((∃ s', step s x = .ok s') ↔ Fits past x))
    (keeps : ∀ past s x s', Inv past s → step s x = .ok s' → Inv (past ++ [x]) s')
    {xs : List α} : ∀ {past : List α} {s : σ}, Inv past s →
      ((∃ s', xs.foldlM step s = .ok s') ↔
        ∀ (i : Nat) x, xs[i]? = some x → Fits (past ++ xs.take i) x) := by
  induction xs with
  | nil =>
    intro past s _
    exact ⟨fun _ i x hx => by simp at hx, fun _ => ⟨s, rfl⟩⟩
  | cons x xs ih =>
    intro past s h
    -- the entries before a later one, seen from the entry after this one
    have later : ∀ i, past ++ (x :: xs).take (i + 1) = past ++ [x] ++ xs.take i := by
      intro i
      rw [List.take_succ_cons, List.append_assoc, List.singleton_append]
    constructor
    · -- the run accepts this entry, and the rest of the run the others
      rintro ⟨s', hrun⟩ i y hy
      rw [List.foldlM_cons, bind_eq_ok] at hrun
      obtain ⟨t, hstep, hrest⟩ := hrun
      cases i with
      | zero =>
        obtain rfl : x = y := by simpa using hy
        simpa using (accepts past s x h).mp ⟨t, hstep⟩
      | succ i =>
        rw [later]
        exact (ih (keeps past s x t h hstep)).mp ⟨s', hrest⟩ i y (by simpa using hy)
    · intro hall
      have hfirst : Fits past x := by simpa using hall 0 x (by simp)
      obtain ⟨t, hstep⟩ := (accepts past s x h).mpr hfirst
      obtain ⟨s', hrest⟩ := (ih (keeps past s x t h hstep)).mpr fun i y hy => by
        rw [← later]
        exact hall (i + 1) y (by simpa using hy)
      exact ⟨s', by rw [List.foldlM_cons]; exact bind_eq_ok.mpr ⟨t, hstep, hrest⟩⟩

/-- An invariant of the entries read so far holds of all of them at the end. -/
theorem foldlM_keeps {step : σ → α → Except ε σ} (Inv : List α → σ → Prop)
    (keeps : ∀ past s x s', Inv past s → step s x = .ok s' → Inv (past ++ [x]) s') :
    ∀ {xs past : List α} {s s' : σ}, Inv past s → xs.foldlM step s = .ok s' → Inv (past ++ xs) s'
  | [], past, s, s', h, hrun => by
    rw [List.foldlM_nil, pure_eq_ok] at hrun
    rw [List.append_nil]
    exact hrun ▸ h
  | x :: xs, past, s, s', h, hrun => by
    rw [List.foldlM_cons, bind_eq_ok] at hrun
    obtain ⟨t, hstep, hrest⟩ := hrun
    rw [List.append_cons]
    exact foldlM_keeps Inv keeps (keeps past s x t h hstep) hrest

/-- A loop raises what the first entry raises that is not accepted. -/
theorem foldlM_eq_error {step : σ → α → Except ε σ} {e : ε} :
    ∀ {xs : List α} {s : σ}, xs.foldlM step s = .error e ↔
      ∃ before x after t, xs = before ++ x :: after ∧ before.foldlM step s = .ok t ∧
        step t x = .error e
  | [], s => by simp [pure, Except.pure]
  | x :: xs, s => by
    rw [List.foldlM_cons, bind_eq_error]
    constructor
    · rintro (hstep | ⟨t, hstep, hrest⟩)
      · exact ⟨[], x, xs, s, rfl, rfl, hstep⟩
      · obtain ⟨before, y, after, t', rfl, hbefore, hy⟩ := foldlM_eq_error.mp hrest
        refine ⟨x :: before, y, after, t', rfl, ?_, hy⟩
        rw [List.foldlM_cons]
        exact bind_eq_ok.mpr ⟨t, hstep, hbefore⟩
    · rintro ⟨before, y, after, t', heq, hbefore, hy⟩
      cases before with
      | nil =>
        obtain ⟨rfl, rfl⟩ := List.cons.inj heq
        rw [List.foldlM_nil, pure_eq_ok] at hbefore
        exact .inl (hbefore ▸ hy)
      | cons z before =>
        obtain ⟨rfl, rfl⟩ := List.cons.inj heq
        rw [List.foldlM_cons, bind_eq_ok] at hbefore
        obtain ⟨t, hstep, hbefore⟩ := hbefore
        exact .inr ⟨t, hstep, foldlM_eq_error.mpr ⟨before, y, after, t', rfl, hbefore, hy⟩⟩

/-! ## What holds between entries -/

variable {xs : List α}

/-- The entries before a place. -/
theorem mem_take_iff {i : Nat} {d : α} :
    d ∈ xs.take i ↔ ∃ j < i, xs[j]? = some d := by
  rw [List.mem_iff_getElem?]
  constructor
  · rintro ⟨j, hj⟩
    rw [List.getElem?_take] at hj
    split at hj
    · exact ⟨j, ‹_›, hj⟩
    · cases hj
  · rintro ⟨j, hlt, hj⟩
    exact ⟨j, by rw [List.getElem?_take, if_pos hlt, hj]⟩

/-- What holds between each entry and those before it, whichever way round, holds
between any two entries at different places. -/
theorem forall_pair_of_earlier {R : α → α → Prop}
    (hsymm : ∀ d e, R d e → R e d)
    (h : ∀ (i : Nat) e, xs[i]? = some e → ∀ d ∈ xs.take i, R d e)
    {i j : Nat} {d e : α} (hd : xs[i]? = some d) (he : xs[j]? = some e)
    (hne : i ≠ j) : R d e := by
  rcases Nat.lt_or_gt_of_ne hne with hlt | hgt
  · exact h j e he d (mem_take_iff.mpr ⟨i, hlt, hd⟩)
  · exact hsymm _ _ (h i d hd e (mem_take_iff.mpr ⟨j, hgt, he⟩))

/-- The same for a relation that every entry has to itself. -/
theorem forall_mem_of_earlier {R : α → α → Prop}
    (hrefl : ∀ e, R e e) (hsymm : ∀ d e, R d e → R e d)
    (h : ∀ (i : Nat) e, xs[i]? = some e → ∀ d ∈ xs.take i, R d e) :
    ∀ d ∈ xs, ∀ e ∈ xs, R d e := by
  intro d hd e he
  obtain ⟨i, hi⟩ := List.mem_iff_getElem?.mp hd
  obtain ⟨j, hj⟩ := List.mem_iff_getElem?.mp he
  by_cases hij : i = j
  · subst hij
    rw [hi, Option.some.injEq] at hj
    exact hj ▸ hrefl d
  · exact forall_pair_of_earlier hsymm h hi hj hij

/-- A relation between each entry and those before it is a pairwise one. -/
theorem forall_earlier_iff_pairwise {R : α → α → Prop} :
    (∀ (i : Nat) e, xs[i]? = some e → ∀ d ∈ xs.take i, R d e) ↔ xs.Pairwise R := by
  rw [List.pairwise_iff_getElem]
  constructor
  · intro h i j hi hj hlt
    exact h j _ (List.getElem?_eq_getElem hj) _
      (mem_take_iff.mpr ⟨i, hlt, List.getElem?_eq_getElem hi⟩)
  · intro h i e he d hd
    obtain ⟨j, hlt, hd⟩ := mem_take_iff.mp hd
    obtain ⟨hi, rfl⟩ := List.getElem?_eq_some_iff.mp he
    obtain ⟨hj, rfl⟩ := List.getElem?_eq_some_iff.mp hd
    exact h j i hj hi hlt

/-- A symmetric relation is pairwise when it holds between any two places. -/
theorem pairwise_iff_forall_ne {R : α → α → Prop} (hsymm : ∀ d e, R d e → R e d) :
    xs.Pairwise R ↔
      ∀ (i j : Nat) d e, xs[i]? = some d → xs[j]? = some e → i ≠ j → R d e := by
  rw [← forall_earlier_iff_pairwise]
  constructor
  · exact fun h i j d e hd he hne => forall_pair_of_earlier hsymm h hd he hne
  · intro h i e he d hd
    obtain ⟨j, hlt, hj⟩ := mem_take_iff.mp hd
    exact h j i d e hj he (Nat.ne_of_lt hlt)

end StockResearch
