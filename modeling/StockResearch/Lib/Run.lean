import Mathlib.Logic.Relation

/-!
# Runs of operations

A machine is a function `next` from an operation and a state to the state the
operation leaves behind; `allowed` says which operations a run may perform in a
state. A run is a chain of allowed operations.

- `Reaches`: the states of all runs from a given state.
- `Reaches.invariant`: what every allowed operation keeps holds of every run.
- `Reaches.project`: a run seen through a component is a run of the steps that
  component can make.
- `Reaches.runAll`: an explicit list of operations is a run.
-/

namespace StockResearch

open Relation (ReflTransGen)

universe u v w

variable {ι : Type u} {σ : Type v} {next : ι → σ → σ} {allowed : ι → σ → Prop}

/-- One allowed operation. -/
def RunStep (next : ι → σ → σ) (allowed : ι → σ → Prop) (s t : σ) : Prop :=
  ∃ op, allowed op s ∧ next op s = t

/-- `t` is the state after some run of allowed operations from `s`. -/
abbrev Reaches (next : ι → σ → σ) (allowed : ι → σ → Prop) : σ → σ → Prop :=
  ReflTransGen (RunStep next allowed)

namespace Reaches

/-- An invariant of every allowed operation holds along every run. -/
theorem invariant (Inv : σ → Prop) (step : ∀ op s, allowed op s → Inv s → Inv (next op s))
    {s t : σ} (hs : Inv s) (hrun : Reaches next allowed s t) : Inv t := by
  induction hrun with
  | refl => exact hs
  | tail _ hstep ih =>
    obtain ⟨op, hop, rfl⟩ := hstep
    exact step op _ hop ih

/-- A reflexive and transitive relation that every allowed operation keeps from
states with `Inv` relates both ends of every run. -/
theorem related (Inv : σ → Prop) (R : σ → σ → Prop) (hrefl : ∀ s, R s s)
    (htrans : ∀ s t u, R s t → R t u → R s u)
    (inv : ∀ op s, allowed op s → Inv s → Inv (next op s))
    (step : ∀ op s, allowed op s → Inv s → R s (next op s))
    {s t : σ} (hs : Inv s) (hrun : Reaches next allowed s t) : R s t := by
  induction hrun with
  | refl => exact hrefl s
  | tail hstart hstep ih =>
    obtain ⟨op, hop, rfl⟩ := hstep
    exact htrans _ _ _ ih (step op _ hop (invariant Inv inv hs hstart))

/-- A run, seen through `f`, is a chain of the steps `f` of the state makes. -/
theorem project {τ : Type w} {R : τ → τ → Prop} (f : σ → τ)
    (step : ∀ op s, allowed op s → ReflTransGen R (f s) (f (next op s)))
    {s t : σ} (hrun : Reaches next allowed s t) : ReflTransGen R (f s) (f t) := by
  induction hrun with
  | refl => exact .refl
  | tail _ hstep ih =>
    obtain ⟨op, hop, rfl⟩ := hstep
    exact ih.trans (step op _ hop)

/-- A run under a stronger condition is a run under a weaker one. -/
theorem mono {allowed' : ι → σ → Prop} (h : ∀ op s, allowed op s → allowed' op s) {s t : σ}
    (hrun : Reaches next allowed s t) : Reaches next allowed' s t := by
  induction hrun with
  | refl => exact .refl
  | tail _ hstep ih =>
    obtain ⟨op, hop, e⟩ := hstep
    exact ih.tail ⟨op, h op _ hop, e⟩

end Reaches

/-! ## Explicit runs -/

/-- The state after a list of operations. -/
def runAll (next : ι → σ → σ) (ops : List ι) (s : σ) : σ :=
  ops.foldl (fun s op => next op s) s

/-- Every operation of the list is allowed where it happens. -/
def AllowedAlong (next : ι → σ → σ) (allowed : ι → σ → Prop) : List ι → σ → Prop
  | [], _ => True
  | op :: ops, s => allowed op s ∧ AllowedAlong next allowed ops (next op s)

instance AllowedAlong.decidable (next : ι → σ → σ) (allowed : ι → σ → Prop)
    [∀ op s, Decidable (allowed op s)] :
    ∀ (ops : List ι) (s : σ), Decidable (AllowedAlong next allowed ops s)
  | [], _ => inferInstanceAs (Decidable True)
  | op :: ops, s =>
    have := AllowedAlong.decidable next allowed ops (next op s)
    inferInstanceAs (Decidable (allowed op s ∧ AllowedAlong next allowed ops (next op s)))

theorem Reaches.runAll :
    ∀ {ops : List ι} {s : σ}, AllowedAlong next allowed ops s →
      Reaches next allowed s (runAll next ops s)
  | [], _, _ => .refl
  | op :: _, _, h => .head ⟨op, h.1, rfl⟩ (Reaches.runAll h.2)

end StockResearch
