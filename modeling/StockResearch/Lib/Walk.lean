import Mathlib.Data.Finset.Card
import Mathlib.Tactic.Common

/-!
# Following links

A loop looks up a key, is told the next key, that there is none, or why it must stop, and
remembers the keys it has seen. It is a walk through links that may run in a circle.

- `walk`: the loop, with a budget of rounds.
- `Trail`: the keys it comes through, whether or not it has seen them.
- `walk_isSome`: with links from finitely many keys, the loop ends.
- `walk_cycle_iff`: it ends in a circle exactly when a trail comes back.
- `walk_congr`: what it depends on.
-/

namespace StockResearch.Walk

universe u v

variable {κ : Type u} {ε : Type v} [DecidableEq κ]

/-- How a walk ends. -/
inductive Outcome (ε : Type v) where
  | ended
  | cycle
  | stopped (reason : ε)

/-- Follow links from a key, unless it was seen; none is a spent budget. -/
def walk (look : κ → Except ε (Option κ)) : Nat → List κ → Option κ → Option (Outcome ε)
  | _, _, none => some .ended
  | 0, _, some _ => none
  | rounds + 1, seen, some key =>
    if key ∈ seen then some .cycle
    else match look key with
      | .error reason => some (.stopped reason)
      | .ok next => walk look rounds (key :: seen) next

/-- The keys that links lead through, the last one first, and the key to look up next. -/
inductive Trail (look : κ → Except ε (Option κ)) (start : κ) (first : Option κ) :
    List κ → Option κ → Prop
  | start : Trail look start first [start] first
  | step {seen : List κ} {key : κ} {next : Option κ} :
      Trail look start first seen (some key) → look key = .ok next →
      Trail look start first (key :: seen) next

variable {look : κ → Except ε (Option κ)} {start : κ} {first : Option κ}

@[simp] theorem walk_none {rounds : Nat} {seen : List κ} :
    walk look rounds seen none = some .ended := by
  cases rounds <;> rfl

theorem walk_of_mem {rounds : Nat} {seen : List κ} {key : κ} (h : key ∈ seen) :
    walk look (rounds + 1) seen (some key) = some .cycle := by
  rw [walk, if_pos h]

theorem walk_of_ok {rounds : Nat} {seen : List κ} {key : κ} {next : Option κ}
    (h : key ∉ seen) (hlook : look key = .ok next) :
    walk look (rounds + 1) seen (some key) = walk look rounds (key :: seen) next := by
  rw [walk, if_neg h, hlook]

theorem walk_of_error {rounds : Nat} {seen : List κ} {key : κ} {reason : ε}
    (h : key ∉ seen) (hlook : look key = .error reason) :
    walk look (rounds + 1) seen (some key) = some (.stopped reason) := by
  rw [walk, if_neg h, hlook]

/-! ## The loop ends -/

/-- A larger budget ends the same way. -/
theorem walk_mono {rounds more : Nat} {seen : List κ} {next : Option κ} {outcome : Outcome ε}
    (h : walk look rounds seen next = some outcome) (hle : rounds ≤ more) :
    walk look more seen next = some outcome := by
  induction rounds generalizing more seen next with
  | zero =>
    cases next with
    | none => rwa [walk_none] at h ⊢
    | some key => cases h
  | succ rounds ih =>
    cases next with
    | none => rwa [walk_none] at h ⊢
    | some key =>
      obtain ⟨more, rfl⟩ : ∃ m, more = m + 1 := ⟨more - 1, by omega⟩
      by_cases hseen : key ∈ seen
      · rwa [walk_of_mem hseen] at h ⊢
      · cases hlook : look key with
        | error reason => rwa [walk_of_error hseen hlook] at h ⊢
        | ok next =>
          rw [walk_of_ok hseen hlook] at h ⊢
          exact ih h (by omega)

/-- Every round takes a key with a link that was not seen before. -/
theorem walk_isSome {keys : List κ} (hkeys : ∀ key next, look key = .ok next → key ∈ keys)
    {rounds : Nat} {seen : List κ} {next : Option κ}
    (h : (keys.toFinset \ seen.toFinset).card < rounds) :
    (walk look rounds seen next).isSome := by
  induction rounds generalizing seen next with
  | zero => exact absurd h (Nat.not_lt_zero _)
  | succ rounds ih =>
    cases next with
    | none => rw [walk_none]; rfl
    | some key =>
      by_cases hseen : key ∈ seen
      · rw [walk_of_mem hseen]; rfl
      · cases hlook : look key with
        | error reason => rw [walk_of_error hseen hlook]; rfl
        | ok next =>
          rw [walk_of_ok hseen hlook]
          apply ih
          have hless : keys.toFinset \ (key :: seen).toFinset ⊂ keys.toFinset \ seen.toFinset := by
            rw [List.toFinset_cons, Finset.sdiff_insert]
            exact Finset.erase_ssubset (by simp [hkeys key next hlook, hseen])
          have := Finset.card_lt_card hless
          omega

/-- As many rounds as there are keys with a link, and one more, are enough. -/
theorem walk_isSome_of_length_lt {keys : List κ}
    (hkeys : ∀ key next, look key = .ok next → key ∈ keys) {rounds : Nat}
    (h : keys.length < rounds) (seen : List κ) (next : Option κ) :
    (walk look rounds seen next).isSome := by
  apply walk_isSome hkeys
  calc (keys.toFinset \ seen.toFinset).card
      ≤ keys.toFinset.card := Finset.card_le_card Finset.sdiff_subset
    _ ≤ keys.length := keys.toFinset_card_le
    _ < rounds := h

/-! ## Circles -/

/-- Along a trail without a repetition, the loop comes to where the trail does. -/
theorem walk_of_trail {seen : List κ} {next : Option κ} (h : Trail look start first seen next)
    (hnodup : seen.Nodup) (rounds : Nat) :
    walk look (rounds + seen.length) [start] first = walk look (rounds + 1) seen next := by
  induction h generalizing rounds with
  | start => rfl
  | @step seen key next h hlook ih =>
    obtain ⟨hkey, hnodup⟩ := List.nodup_cons.mp hnodup
    have hround := ih hnodup (rounds + 1)
    rw [walk_of_ok hkey hlook] at hround
    rw [List.length_cons, ← hround]
    congr 1
    omega

/-- A trail has no repetition, or a part of it comes back for the first time. -/
theorem Trail.nodup_or_returns {seen : List κ} {next : Option κ}
    (h : Trail look start first seen next) :
    seen.Nodup ∨ ∃ seen key, Trail look start first seen (some key) ∧ key ∈ seen ∧ seen.Nodup := by
  induction h with
  | start => exact .inl (List.nodup_singleton start)
  | @step seen key next h hlook ih =>
    rcases ih with hnodup | hreturns
    · by_cases hseen : key ∈ seen
      · exact .inr ⟨seen, key, h, hseen, hnodup⟩
      · exact .inl (List.nodup_cons.mpr ⟨hseen, hnodup⟩)
    · exact .inr hreturns

/-- A loop on a trail that ends in a circle has found a trail that comes back. -/
theorem returns_of_walk {rounds : Nat} {seen : List κ} {next : Option κ}
    (h : Trail look start first seen next) (hwalk : walk look rounds seen next = some .cycle) :
    ∃ seen key, Trail look start first seen (some key) ∧ key ∈ seen := by
  induction rounds generalizing seen next with
  | zero =>
    cases next with
    | none => simp at hwalk
    | some key => cases hwalk
  | succ rounds ih =>
    cases next with
    | none => simp at hwalk
    | some key =>
      by_cases hseen : key ∈ seen
      · exact ⟨seen, key, h, hseen⟩
      · cases hlook : look key with
        | error reason =>
          rw [walk_of_error hseen hlook] at hwalk
          cases hwalk
        | ok next =>
          rw [walk_of_ok hseen hlook] at hwalk
          exact ih (h.step hlook) hwalk

/-- **The loop ends in a circle exactly when a trail comes back to one of its keys.** -/
theorem walk_cycle_iff {rounds : Nat} (hends : (walk look rounds [start] first).isSome) :
    walk look rounds [start] first = some .cycle ↔
      ∃ seen key, Trail look start first seen (some key) ∧ key ∈ seen := by
  constructor
  · exact returns_of_walk .start
  · rintro ⟨seen, key, h, hseen⟩
    obtain ⟨seen, key, h, hseen, hnodup⟩ :
        ∃ seen key, Trail look start first seen (some key) ∧ key ∈ seen ∧ seen.Nodup := by
      rcases h.nodup_or_returns with hnodup | hreturns
      · exact ⟨seen, key, h, hseen, hnodup⟩
      · exact hreturns
    obtain ⟨outcome, houtcome⟩ := Option.isSome_iff_exists.mp hends
    have hcycle : walk look (rounds + seen.length) [start] first = some .cycle := by
      rw [walk_of_trail h hnodup, walk_of_mem hseen]
    have hsame := walk_mono houtcome (Nat.le_add_right rounds seen.length)
    rw [houtcome, ← hsame, hcycle]

/-! ## What the loop depends on -/

/-- Two tables of links that agree on the keys of a trail lead to the same end. -/
theorem walk_congr {look' : κ → Except ε (Option κ)}
    (hagree : ∀ seen key, Trail look start first seen (some key) → look' key = look key)
    (rounds : Nat) {seen : List κ} {next : Option κ} (h : Trail look start first seen next) :
    walk look' rounds seen next = walk look rounds seen next := by
  induction rounds generalizing seen next with
  | zero => cases next <;> rfl
  | succ rounds ih =>
    cases next with
    | none => rfl
    | some key =>
      rw [walk, walk, hagree seen key h]
      by_cases hseen : key ∈ seen
      · rw [if_pos hseen, if_pos hseen]
      · rw [if_neg hseen, if_neg hseen]
        cases hlook : look key with
        | error reason => rfl
        | ok next => exact ih (h.step hlook)

end StockResearch.Walk
