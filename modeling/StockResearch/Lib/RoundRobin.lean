import Mathlib.Data.Finset.Card
import Mathlib.Order.Bounds.Basic

/-!
# Round robin over a changing set

A scheduler remembers the candidate it served last. It serves the least ready candidate
above that one, and the least ready candidate of all when there is none above. The ready
set may be any other set at the next turn, with or without the candidate served last.

- `Serves`: one turn.
- `Awaits`: the candidate served last lies on the way from a given one up to the target,
  around the circle.
- `Rotation`: turns at which the target is ready.
- `Rotation.bypass`: nobody is served twice before the target.
- `Rotation.served`: among `k` candidates the target is served within `k` turns.
-/

namespace StockResearch

universe u v

variable {α : Type u} [LinearOrder α]

/-! ## One turn -/

/-- A turn: which candidate is served after the last one. -/
inductive Serves (ready : Set α) : Option α → α → Prop
  | first {a : α} (hleast : IsLeast ready a) : Serves ready none a
  | above {last a : α} (hleast : IsLeast (ready ∩ Set.Ioi last) a) : Serves ready (some last) a
  | around {last a : α} (hnone : ∀ b ∈ ready, b ≤ last) (hleast : IsLeast ready a) :
    Serves ready (some last) a

theorem Serves.mem {ready : Set α} {last : Option α} {a : α} (h : Serves ready last a) :
    a ∈ ready := by
  cases h with
  | first hleast => exact hleast.1
  | above hleast => exact hleast.1.1
  | around _ hleast => exact hleast.1

/-- The first element of a sorted list that satisfies a test is the least one that does. -/
theorem isLeast_of_find {β : Type v} (key : β → α) {p : β → Bool} {candidates : List β} {a : β}
    (hsorted : candidates.Pairwise fun x y => key x ≤ key y) (hfind : candidates.find? p = some a) :
    IsLeast {x | ∃ b ∈ candidates, p b = true ∧ key b = x} (key a) := by
  obtain ⟨hp, before, after, rfl, hbefore⟩ := List.find?_eq_some_iff_append.mp hfind
  refine ⟨⟨a, by simp, hp, rfl⟩, ?_⟩
  rintro _ ⟨b, hb, hpb, rfl⟩
  rcases List.mem_append.mp hb with hb | hb
  · have hnot := hbefore b hb
    rw [hpb] at hnot
    cases hnot
  · rcases List.mem_cons.mp hb with rfl | hb
    · exact le_rfl
    · exact List.rel_of_pairwise_cons (List.pairwise_append.mp hsorted).2.1 hb

/-- The scan of a sorted list for a candidate above the last one, with the first as the
fallback, takes the turn. -/
theorem Serves.of_find {β : Type v} (key : β → α) {first : β} {rest : List β}
    (hsorted : (first :: rest).Pairwise fun x y => key x ≤ key y) (last : Option α) :
    Serves {x | ∃ b ∈ first :: rest, key b = x} last
      (key (((first :: rest).find? fun b => last.all fun c => decide (c < key b)).getD first)) := by
  have hfirst : IsLeast {x | ∃ b ∈ first :: rest, key b = x} (key first) := by
    refine ⟨⟨first, by simp, rfl⟩, ?_⟩
    rintro _ ⟨b, hb, rfl⟩
    rcases List.mem_cons.mp hb with rfl | hb
    · exact le_rfl
    · exact List.rel_of_pairwise_cons hsorted hb
  cases last with
  | none => exact .first (by simpa using hfirst)
  | some c =>
    cases hfind : (first :: rest).find? fun b => (some c).all fun c => decide (c < key b) with
    | none =>
      refine .around ?_ hfirst
      rintro _ ⟨b, hb, rfl⟩
      have hbelow := List.find?_eq_none.mp hfind b hb
      simpa using hbelow
    | some a =>
      have hleast := isLeast_of_find key hsorted hfind
      refine .above ⟨?_, ?_⟩
      · obtain ⟨b, hb, hp, hkey⟩ := hleast.1
        exact ⟨⟨b, hb, hkey⟩, by simpa [hkey] using hp⟩
      · rintro _ ⟨⟨b, hb, rfl⟩, habove⟩
        exact hleast.2 ⟨b, hb, by simpa using habove, rfl⟩

/-! ## Waiting for the target -/

/-- Going up from `start`, and around from the top to the bottom, `last` comes before the
target. -/
def Awaits (start target last : α) : Prop :=
  start ≤ last ∧ last < target ∨ target < start ∧ (start ≤ last ∨ last < target)

theorem Awaits.start {start target : α} (hne : start ≠ target) : Awaits start target start := by
  rcases lt_or_gt_of_ne hne with h | h
  · exact .inl ⟨le_rfl, h⟩
  · exact .inr ⟨h, .inl le_rfl⟩

/-- A turn at which the target is ready serves it, or passes on towards it without
reaching the start again. -/
theorem Awaits.turn {start target last a : α} {ready : Set α} (h : Awaits start target last)
    (hready : target ∈ ready) (hserves : Serves ready (some last) a) :
    a = target ∨ a ≠ start ∧ Awaits start target a := by
  by_cases hserved : a = target
  · exact .inl hserved
  · right
    cases hserves with
    | above hleast =>
      have habove : last < a := hleast.1.2
      rcases h with ⟨hstart, hlast⟩ | ⟨hwrap, hstart | hlast⟩
      · have hle : a ≤ target := hleast.2 ⟨hready, hlast⟩
        exact ⟨(hstart.trans_lt habove).ne',
          .inl ⟨hstart.trans habove.le, lt_of_le_of_ne hle hserved⟩⟩
      · exact ⟨(hstart.trans_lt habove).ne', .inr ⟨hwrap, .inl (hstart.trans habove.le)⟩⟩
      · have hle : a ≤ target := hleast.2 ⟨hready, hlast⟩
        exact ⟨(hle.trans_lt hwrap).ne, .inr ⟨hwrap, .inr (lt_of_le_of_ne hle hserved)⟩⟩
    | around hnone hleast =>
      have hle : a < target := lt_of_le_of_ne (hleast.2 hready) hserved
      have htop : target ≤ last := hnone target hready
      rcases h with ⟨-, hlast⟩ | ⟨hwrap, hstart | hlast⟩
      · exact absurd htop hlast.not_ge
      · exact ⟨(hle.trans hwrap).ne, .inr ⟨hwrap, .inr hle⟩⟩
      · exact absurd htop hlast.not_ge

/-! ## Rotations -/

/-- Successive turns, at each of which the target is ready. -/
inductive Rotation (target : α) : Option α → List α → Prop
  | nil (last : Option α) : Rotation target last []
  | cons {last : Option α} {ready : Set α} {a : α} {rest : List α} (hready : target ∈ ready)
      (hserves : Serves ready last a) (hrest : Rotation target (some a) rest) :
    Rotation target last (a :: rest)

namespace Rotation

variable {target : α} {last : Option α}

/-- The turns after the first ones are a rotation. -/
theorem of_append_right {xs ys : List α} (h : Rotation target last (xs ++ ys)) :
    ∃ last', Rotation target last' ys := by
  induction xs generalizing last with
  | nil => exact ⟨last, h⟩
  | cons a xs ih =>
    cases h with
    | cons _ _ hrest => exact ih hrest

/-- The first turns are a rotation. -/
theorem of_append_left {xs ys : List α} (h : Rotation target last (xs ++ ys)) :
    Rotation target last xs := by
  induction xs generalizing last with
  | nil => exact .nil last
  | cons a xs ih =>
    cases h with
    | cons hready hserves hrest => exact .cons hready hserves (ih hrest)

/-- While the target waits, the start is not served again. -/
theorem start_not_mem {start c : α} {xs : List α} (h : Rotation target (some c) xs)
    (hawaits : Awaits start target c) (hunserved : target ∉ xs) : start ∉ xs := by
  induction xs generalizing c with
  | nil => exact List.not_mem_nil
  | cons a xs ih =>
    cases h with
    | cons hready hserves hrest =>
      rw [List.mem_cons, not_or] at hunserved
      rcases hawaits.turn hready hserves with rfl | ⟨hne, hawaits'⟩
      · exact absurd rfl hunserved.1
      · rw [List.mem_cons, not_or]
        exact ⟨hne.symm, ih hrest hawaits' hunserved.2⟩

/-- While the target waits, nobody is served twice. -/
theorem nodup {xs : List α} (h : Rotation target last xs) (hunserved : target ∉ xs) : xs.Nodup := by
  induction xs generalizing last with
  | nil => exact List.nodup_nil
  | cons a xs ih =>
    cases h with
    | cons _ _ hrest =>
      rw [List.mem_cons, not_or] at hunserved
      have hawaits : Awaits a target a := .start fun h => hunserved.1 h.symm
      exact List.nodup_cons.mpr ⟨hrest.start_not_mem hawaits hunserved.2, ih hrest hunserved.2⟩

/-- **Bounded bypass**: between two turns of another candidate, the target has its turn. -/
theorem bypass {other : α} {xs ys zs : List α}
    (h : Rotation target last (xs ++ other :: (ys ++ other :: zs))) (hne : other ≠ target) :
    target ∈ ys := by
  by_contra hunserved
  obtain ⟨last', h⟩ := h.of_append_right
  have hturns : Rotation target last' ((other :: ys ++ [other]) ++ zs) := by simpa using h
  have hnone : target ∉ other :: ys ++ [other] := by
    simp [hunserved, hne.symm]
  have hnodup := hturns.of_append_left.nodup hnone
  simp at hnodup

/-- **Bounded waiting**: among `k` candidates the target has a turn within `k` turns. -/
theorem served (candidates : Finset α) {xs : List α} (h : Rotation target last xs)
    (hcandidates : ∀ a ∈ xs, a ∈ candidates) (htarget : target ∈ candidates)
    (hlength : candidates.card ≤ xs.length) : target ∈ xs := by
  by_contra hunserved
  have hsubset : xs.toFinset ⊆ candidates.erase target := by
    intro a ha
    rw [List.mem_toFinset] at ha
    exact Finset.mem_erase.mpr ⟨fun heq => hunserved (heq ▸ ha), hcandidates a ha⟩
  have hcard := Finset.card_le_card hsubset
  rw [List.toFinset_card_of_nodup (h.nodup hunserved), Finset.card_erase_of_mem htarget] at hcard
  have hpos : 0 < candidates.card := Finset.card_pos.mpr ⟨target, htarget⟩
  omega

end Rotation

end StockResearch
