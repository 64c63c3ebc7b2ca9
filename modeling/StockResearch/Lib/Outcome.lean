import Mathlib.Data.List.Forall2
import Mathlib.Tactic.Common

/-!
# Fallible steps and atomic transactions

Sequential code that may raise is a computation in `Except`. Its guards are
`require`, its lookups `fetch`, and the lemmas below turn "this sequence
succeeded" (or "raised `e`") into what each step of it did, so that a proof about
such code never unfolds the monad.

`atomically` is a transaction on a store: the store after a raising body is the
store before it.
-/

namespace StockResearch

universe u v w

variable {ε : Type u} {α : Type v} {β : Type v}

/-- Raise `e` unless `p` holds. -/
def require (p : Prop) [Decidable p] (e : ε) : Except ε Unit :=
  if p then .ok () else .error e

/-- The value of an optional lookup; raise `e` when there is none. -/
def fetch (o : Option α) (e : ε) : Except ε α :=
  match o with
  | some a => .ok a
  | none => .error e

@[simp] theorem require_eq_ok {p : Prop} [Decidable p] {e : ε} {u : Unit} :
    require p e = .ok u ↔ p := by
  unfold require
  split <;> simp_all

@[simp] theorem require_eq_error {p : Prop} [Decidable p] {e e' : ε} :
    require p e = .error e' ↔ ¬ p ∧ e = e' := by
  unfold require
  split <;> simp_all

@[simp] theorem fetch_eq_ok {o : Option α} {e : ε} {a : α} : fetch o e = .ok a ↔ o = some a := by
  cases o <;> simp [fetch]

@[simp] theorem fetch_eq_error {o : Option α} {e e' : ε} :
    fetch o e = .error e' ↔ o = none ∧ e = e' := by
  cases o <;> simp [fetch]

/-- A sequence succeeds exactly when both halves do. -/
theorem bind_eq_ok {x : Except ε α} {f : α → Except ε β} {b : β} :
    (x >>= f) = .ok b ↔ ∃ a, x = .ok a ∧ f a = .ok b := by
  cases x with
  | error e => simp [bind, Except.bind]
  | ok a => simp [bind, Except.bind]

/-- A sequence raises what its first half raises, or what its second half does. -/
theorem bind_eq_error {x : Except ε α} {f : α → Except ε β} {e : ε} :
    (x >>= f) = .error e ↔ x = .error e ∨ ∃ a, x = .ok a ∧ f a = .error e := by
  cases x with
  | error e' => simp [bind, Except.bind]
  | ok a => simp [bind, Except.bind]

theorem ok_bind {a : α} {f : α → Except ε β} : (.ok a >>= f) = f a := rfl

/-- A translation of errors leaves values alone. -/
theorem mapError_ok {ε' : Type w} {f : ε → ε'} {a : α} :
    (Except.ok a : Except ε α).mapError f = .ok a := rfl

theorem mapError_eq_ok {ε' : Type w} {f : ε → ε'} {x : Except ε α} {a : α} :
    x.mapError f = .ok a ↔ x = .ok a := by
  cases x <;> simp [Except.mapError]

theorem mapError_eq_error {ε' : Type w} {f : ε → ε'} {x : Except ε α} {e' : ε'} :
    x.mapError f = .error e' ↔ ∃ e, x = .error e ∧ f e = e' := by
  cases x <;> simp [Except.mapError]

theorem pure_eq_ok {a b : α} : (pure a : Except ε α) = .ok b ↔ a = b := by
  simp [pure, Except.pure]

/-- A loop of checks succeeds exactly when every check does. -/
theorem forM_eq_ok {check : α → Except ε PUnit} {xs : List α} :
    xs.forM check = .ok ⟨⟩ ↔ ∀ x ∈ xs, check x = .ok ⟨⟩ := by
  induction xs with
  | nil => simp [List.forM, pure, Except.pure]
  | cons x xs ih =>
    rw [List.forM, bind_eq_ok]
    constructor
    · rintro ⟨⟨⟩, hx, hxs⟩ y hy
      rcases List.mem_cons.mp hy with rfl | hy
      · exact hx
      · exact ih.mp hxs y hy
    · intro h
      exact ⟨⟨⟩, h x List.mem_cons_self, ih.mpr fun y hy => h y (List.mem_cons_of_mem _ hy)⟩

/-- It raises what the first failing check raises. -/
theorem forM_eq_error {check : α → Except ε PUnit} {xs : List α} {e : ε} :
    xs.forM check = .error e ↔ ∃ before x after, xs = before ++ x :: after ∧
      (∀ b ∈ before, check b = .ok ⟨⟩) ∧ check x = .error e := by
  induction xs with
  | nil => simp [List.forM, pure, Except.pure]
  | cons x xs ih =>
    rw [List.forM, bind_eq_error]
    constructor
    · rintro (hx | ⟨⟨⟩, hx, hxs⟩)
      · exact ⟨[], x, xs, rfl, nofun, hx⟩
      · obtain ⟨before, y, after, rfl, hbefore, hy⟩ := ih.mp hxs
        exact ⟨x :: before, y, after, rfl, List.forall_mem_cons.mpr ⟨hx, hbefore⟩, hy⟩
    · rintro ⟨before, y, after, heq, hbefore, hy⟩
      cases before with
      | nil =>
        cases heq
        exact .inl hy
      | cons b before =>
        cases heq
        obtain ⟨hx, hbefore⟩ := List.forall_mem_cons.mp hbefore
        exact .inr ⟨⟨⟩, hx, ih.mpr ⟨before, y, after, rfl, hbefore, hy⟩⟩

/-- A loop that collects succeeds exactly when every step does, with what they return. -/
theorem mapM_eq_ok {f : α → Except ε β} {xs : List α} {ys : List β} :
    xs.mapM f = .ok ys ↔ List.Forall₂ (fun x y => f x = .ok y) xs ys := by
  induction xs generalizing ys with
  | nil =>
    rw [List.mapM_nil, pure_eq_ok, List.forall₂_nil_left_iff, eq_comm]
  | cons x xs ih =>
    rw [List.mapM_cons, List.forall₂_cons_left_iff, bind_eq_ok]
    constructor
    · rintro ⟨y, hy, h⟩
      obtain ⟨rest, hrest, h⟩ := bind_eq_ok.mp h
      exact ⟨y, rest, hy, ih.mp hrest, (pure_eq_ok.mp h).symm⟩
    · rintro ⟨y, rest, hy, hrest, rfl⟩
      exact ⟨y, hy, bind_eq_ok.mpr ⟨rest, ih.mpr hrest, rfl⟩⟩

/-- It raises what the first failing step raises. -/
theorem mapM_eq_error {f : α → Except ε β} {xs : List α} {e : ε} :
    xs.mapM f = .error e ↔ ∃ before x after, xs = before ++ x :: after ∧
      (∀ b ∈ before, ∃ y, f b = .ok y) ∧ f x = .error e := by
  induction xs with
  | nil =>
    simp [pure, Except.pure]
  | cons x xs ih =>
    rw [List.mapM_cons, bind_eq_error]
    constructor
    · rintro (hx | ⟨y, hy, h⟩)
      · exact ⟨[], x, xs, rfl, nofun, hx⟩
      · rcases bind_eq_error.mp h with h | ⟨_, -, h⟩
        · obtain ⟨before, z, after, rfl, hbefore, hz⟩ := ih.mp h
          exact ⟨x :: before, z, after, rfl, List.forall_mem_cons.mpr ⟨⟨y, hy⟩, hbefore⟩, hz⟩
        · cases h
    · rintro ⟨before, z, after, heq, hbefore, hz⟩
      cases before with
      | nil =>
        cases heq
        exact .inl hz
      | cons b before =>
        cases heq
        obtain ⟨⟨y, hy⟩, hbefore⟩ := List.forall_mem_cons.mp hbefore
        exact .inr ⟨y, hy, bind_eq_error.mpr (.inl (ih.mpr ⟨before, z, after, rfl, hbefore, hz⟩))⟩

/-- The step never raises `e`. -/
def Avoids (e : ε) (x : Except ε α) : Prop := x ≠ .error e

theorem avoids_ok {e : ε} {a : α} : Avoids e (.ok a) := nofun

theorem avoids_pure {e : ε} {a : α} : Avoids e (pure a : Except ε α) := nofun

/-- A sequence avoids an error when its first half does, and so does its second
half on every value the first can return. -/
theorem Avoids.bind {e : ε} {x : Except ε α} {f : α → Except ε β} (hx : Avoids e x)
    (hf : ∀ a, x = .ok a → Avoids e (f a)) : Avoids e (x >>= f) := fun h => by
  rcases bind_eq_error.mp h with h | ⟨a, ha, h⟩
  · exact hx h
  · exact hf a ha h

theorem avoids_require {p : Prop} [Decidable p] {e e' : ε} (h : e' ≠ e ∨ p) :
    Avoids e (require p e') := fun hr => by
  rw [require_eq_error] at hr
  exact h.elim (fun h => h hr.2) hr.1

theorem avoids_fetch {o : Option α} {e e' : ε} (h : e' ≠ e ∨ o ≠ none) :
    Avoids e (fetch o e') := fun hr => by
  rw [fetch_eq_error] at hr
  exact h.elim (fun h => h hr.2) (fun h => h hr.1)

/-! ## Loops -/

/-- A loop whose every iteration keeps `Inv` keeps it. The remaining list is
visible to the step, for loops whose iterations rely on the rows still to come. -/
theorem foldlM_invariant {ι : Type w} {σ : Type v} {f : σ → ι → Except ε σ}
    (Inv : List ι → σ → Prop)
    (step : ∀ x xs s s', Inv (x :: xs) s → f s x = .ok s' → Inv xs s') :
    ∀ {xs : List ι} {s s' : σ}, Inv xs s → xs.foldlM f s = .ok s' → Inv [] s'
  | [], s, s', h, hrun => by
    rw [List.foldlM_nil, pure_eq_ok] at hrun
    exact hrun ▸ h
  | x :: xs, s, s', h, hrun => by
    rw [List.foldlM_cons, bind_eq_ok] at hrun
    obtain ⟨t, hstep, hrest⟩ := hrun
    exact foldlM_invariant Inv step (step x xs s t h hstep) hrest

/-- A loop succeeds when `Inv` makes every iteration succeed and keeps it. -/
theorem foldlM_succeeds {ι : Type w} {σ : Type v} {f : σ → ι → Except ε σ}
    (Inv : List ι → σ → Prop)
    (step : ∀ x xs s, Inv (x :: xs) s → ∃ s', f s x = .ok s' ∧ Inv xs s') :
    ∀ {xs : List ι} {s : σ}, Inv xs s → ∃ s', xs.foldlM f s = .ok s' ∧ Inv [] s'
  | [], s, h => ⟨s, rfl, h⟩
  | x :: xs, s, h => by
    obtain ⟨t, hstep, ht⟩ := step x xs s h
    obtain ⟨s', hrest, hs'⟩ := foldlM_succeeds Inv step ht
    exact ⟨s', by rw [List.foldlM_cons]; exact bind_eq_ok.mpr ⟨t, hstep, hrest⟩, hs'⟩

/-- A loop avoids an error when every iteration does from a state with `Inv`. -/
theorem foldlM_avoids {ι : Type w} {σ : Type v} {f : σ → ι → Except ε σ} {e : ε}
    (Inv : List ι → σ → Prop)
    (step : ∀ x xs s, Inv (x :: xs) s → Avoids e (f s x) ∧ ∀ s', f s x = .ok s' → Inv xs s') :
    ∀ {xs : List ι} {s : σ}, Inv xs s → Avoids e (xs.foldlM f s)
  | [], _, _ => by
    rw [List.foldlM_nil]
    exact avoids_pure
  | x :: xs, s, h => by
    rw [List.foldlM_cons]
    exact (step x xs s h).1.bind fun s' hs' => foldlM_avoids Inv step ((step x xs s h).2 s' hs')

/-! ## Transactions -/

variable {σ : Type w}

/-- Run a body on the store: commit its store when it succeeds, restore the old
one when it raises. The body's own value may still be an error to raise after the
commit. `translate` is how the caller sees an exception of the body. -/
def atomically {α : Type v} (translate : ε → ε) (body : σ → Except ε (Except ε α × σ))
    (s : σ) : Except ε α × σ :=
  match body s with
  | .ok r => r
  | .error e => (.error (translate e), s)

/-- A transaction returns a value only when its body committed it. -/
theorem atomically_eq_ok {translate : ε → ε} {body : σ → Except ε (Except ε α × σ)} {s s' : σ}
    {a : α} : atomically translate body s = (.ok a, s') ↔ body s = .ok (.ok a, s') := by
  unfold atomically
  cases h : body s with
  | ok r => simp
  | error e => simp

end StockResearch
