import Mathlib.Algebra.Order.Group.Defs
import Mathlib.Data.List.Chain
import Mathlib.Tactic.Abel
import Mathlib.Tactic.Linarith

/-!
# Sliding-window rate limits

Times are elements of an ordered group. A limiter looks at the past from one point
in time only: how long ago the last event was, and how many events lie less than one
window back. The two lemmas below turn these point-in-time checks into laws about
all pairs and all windows, for events recorded in any order the checks allow.

- `Paced`: consecutive events are at least `gap` apart.
- `Windowed`: no half-open window `(a, a + width]` has more than `limit` events.
- `Paced.append`, `Windowed.append`: the check that admits one more event.
-/

namespace StockResearch

universe u

variable {α : Type u} [AddCommGroup α] [LinearOrder α] [IsOrderedAddMonoid α]

/-- Consecutive events are at least `gap` apart. -/
def Paced (gap : α) (events : List α) : Prop := events.IsChain fun s t => s + gap ≤ t

/-- The events of the half-open window `(a, a + width]`. -/
def inWindow (width a : α) (events : List α) : Nat :=
  events.countP fun t => decide (a < t ∧ t ≤ a + width)

/-- Every half-open window has at most `limit` events. -/
def Windowed (width : α) (limit : Nat) (events : List α) : Prop :=
  ∀ a, inWindow width a events ≤ limit

theorem isChain_append_last {β : Type u} {R : β → β → Prop} {events : List β} {now : β}
    (h : events.IsChain R) (hlast : ∀ last ∈ events.getLast?, R last now) :
    (events ++ [now]).IsChain R :=
  h.append (.singleton now) fun last hm first hf => by
    rw [List.head?_cons, Option.mem_some_iff] at hf
    exact hf ▸ hlast last hm

omit [IsOrderedAddMonoid α] in
/-- An event at least `gap` after the last one keeps the pace. -/
theorem Paced.append {gap now : α} {events : List α} (h : Paced gap events)
    (hlast : ∀ last ∈ events.getLast?, last + gap ≤ now) : Paced gap (events ++ [now]) :=
  isChain_append_last h hlast

omit [IsOrderedAddMonoid α] in
theorem windowed_nil {width : α} {limit : Nat} : Windowed width limit [] :=
  fun _ => Nat.zero_le limit

/-- An event at `now` may be added when fewer than `limit` events are less than one
window older. A window that contains `now` starts after `now - width`, so its other
events are among those counted. -/
theorem Windowed.append {width now : α} {limit : Nat} {events : List α}
    (h : Windowed width limit events)
    (hroom : (events.countP fun t => decide (now - width < t)) < limit) :
    Windowed width limit (events ++ [now]) := by
  intro a
  rw [inWindow, List.countP_append, List.countP_singleton]
  split
  · rename_i hnow
    rw [decide_eq_true_eq] at hnow
    have hle : inWindow width a events ≤ events.countP fun t => decide (now - width < t) := by
      refine List.countP_mono_left fun t _ ht => ?_
      rw [decide_eq_true_eq] at ht ⊢
      exact lt_of_le_of_lt (sub_le_iff_le_add.mpr hnow.2) ht.1
    exact Nat.succ_le_of_lt (Nat.lt_of_le_of_lt hle hroom)
  · exact h a

end StockResearch
