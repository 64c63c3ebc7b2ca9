import Mathlib.Data.Fintype.Pigeonhole
import Mathlib.Data.Set.Finite.Basic
import Mathlib.Logic.Relation
import Mathlib.Order.WellFounded
import Mathlib.Tactic.Common

/-!
# Resolving references round by round

Nodes name other nodes by their keys. Striking out, round after round, every node
all of whose inputs are struck out already decides whether the references run in a
circle: it strikes out every node exactly when they do not.

- `Uses`: one node names another.
- `resolved`, `Exhausts`: the rounds, and that they leave nothing.
- `exhausts_iff_wellFounded`, `wellFounded_iff_acyclic`: what leaving nothing means.
- `WellFounded.walk_ends`: following references comes to an end.
-/

namespace StockResearch.Resolution

universe u v

variable {ν : Type u} {κ : Type v} [DecidableEq κ]
variable (key : ν → κ) (inputs : ν → List κ) (nodes : List ν)

/-- `r` names `s` among its inputs. -/
def Uses (r s : ν) : Prop := r ∈ nodes ∧ s ∈ nodes ∧ key s ∈ inputs r

/-- One round: the keys of the nodes all of whose inputs are done. -/
def round (done : List κ) : List κ :=
  (nodes.filter fun r => (inputs r).all (· ∈ done)).map key

/-- The keys struck out after some rounds. -/
def resolved : Nat → List κ
  | 0 => []
  | n + 1 => round key inputs nodes (resolved n)

/-- As many rounds as there are nodes strike out every node. -/
def Exhausts : Prop := ∀ r ∈ nodes, key r ∈ resolved key inputs nodes nodes.length

instance : Decidable (Exhausts key inputs nodes) :=
  inferInstanceAs (Decidable (∀ r ∈ nodes, _))

variable {key inputs nodes}

theorem mem_round {done : List κ} {k : κ} :
    k ∈ round key inputs nodes done ↔
      ∃ r ∈ nodes, (∀ i ∈ inputs r, i ∈ done) ∧ key r = k := by
  simp [round, and_assoc]

theorem round_sublist {done done' : List κ} (h : done ⊆ done') :
    (round key inputs nodes done).Sublist (round key inputs nodes done') := by
  refine (List.monotone_filter_right nodes ?_).map key
  intro r hr
  rw [List.all_eq_true] at hr ⊢
  exact fun i hi => decide_eq_true (h (of_decide_eq_true (hr i hi)))

/-! ## The rounds come to rest -/

theorem resolved_sublist (n : Nat) :
    (resolved key inputs nodes n).Sublist (resolved key inputs nodes (n + 1)) := by
  induction n with
  | zero => exact List.nil_sublist _
  | succ n ih => exact round_sublist ih.subset

theorem resolved_mono {m n : Nat} (h : m ≤ n) :
    resolved key inputs nodes m ⊆ resolved key inputs nodes n := by
  induction h with
  | refl => exact List.Subset.refl _
  | step _ ih => exact fun _ hk => (resolved_sublist _).subset (ih hk)

theorem length_resolved_le (n : Nat) :
    (resolved key inputs nodes n).length ≤ nodes.length := by
  cases n with
  | zero => exact Nat.zero_le _
  | succ n =>
    rw [resolved, round, List.length_map]
    exact List.length_filter_le _ _

/-- A round that strikes out nothing new is the last one that could. -/
theorem resolved_at_rest {n : Nat}
    (h : resolved key inputs nodes (n + 1) = resolved key inputs nodes n) (m : Nat) :
    resolved key inputs nodes (n + m) = resolved key inputs nodes n := by
  induction m with
  | zero => rfl
  | succ m ih =>
    calc resolved key inputs nodes (n + (m + 1))
        = round key inputs nodes (resolved key inputs nodes (n + m)) := rfl
      _ = resolved key inputs nodes (n + 1) := by rw [ih]; rfl
      _ = resolved key inputs nodes n := h

/-- Every round up to the last useful one strikes out a node. -/
theorem rests_or_grows (n : Nat) :
    (∃ k < n, resolved key inputs nodes (k + 1) = resolved key inputs nodes k) ∨
      n ≤ (resolved key inputs nodes n).length := by
  induction n with
  | zero => exact .inr (Nat.zero_le _)
  | succ n ih =>
    rcases ih with ⟨k, hk, hrest⟩ | hgrow
    · exact .inl ⟨k, Nat.lt_succ_of_lt hk, hrest⟩
    · have hsub : (resolved key inputs nodes n).Sublist (resolved key inputs nodes (n + 1)) :=
        resolved_sublist n
      rcases Nat.lt_or_eq_of_le hsub.length_le with hlt | heq
      · exact .inr (Nat.lt_of_le_of_lt hgrow hlt)
      · exact .inl ⟨n, Nat.lt_succ_self n, (hsub.eq_of_length heq).symm⟩

/-- No number of rounds strikes out more than as many as there are nodes. -/
theorem resolved_subset (n : Nat) :
    resolved key inputs nodes n ⊆ resolved key inputs nodes nodes.length := by
  have hends : (∃ k < nodes.length + 1,
      resolved key inputs nodes (k + 1) = resolved key inputs nodes k) ∨
      nodes.length + 1 ≤ (resolved key inputs nodes (nodes.length + 1)).length :=
    rests_or_grows _
  rcases hends with ⟨k, hk, hrest⟩ | hgrow
  · intro i hi
    rcases Nat.le_total n k with hle | hle
    · exact resolved_mono (Nat.le_trans hle (Nat.le_of_lt_succ hk)) hi
    · obtain ⟨m, rfl⟩ := Nat.exists_eq_add_of_le hle
      rw [resolved_at_rest hrest] at hi
      exact resolved_mono (Nat.le_of_lt_succ hk) hi
  · exact absurd (length_resolved_le _) (Nat.not_le_of_lt (Nat.lt_of_succ_le hgrow))

/-! ## What the rounds decide -/

/-- A node that is struck out starts no endless walk. -/
theorem acc_of_mem_resolved (hkeys : ∀ r ∈ nodes, ∀ s ∈ nodes, key r = key s → r = s) (n : Nat) :
    ∀ {r : ν}, r ∈ nodes → key r ∈ resolved key inputs nodes n →
      Acc (fun s r => Uses key inputs nodes r s) r := by
  induction n with
  | zero => exact fun _ h => absurd h List.not_mem_nil
  | succ n ih =>
    intro r hr hmem
    obtain ⟨r', hr', hinputs, hkey⟩ := mem_round.mp hmem
    obtain rfl := hkeys r' hr' r hr hkey
    exact ⟨_, fun s hs => ih hs.2.1 (hinputs _ hs.2.2)⟩

/-- A finite list of facts that each hold from some round on hold in one round. -/
theorem exists_round {is : List κ} (h : ∀ i ∈ is, ∃ n, i ∈ resolved key inputs nodes n) :
    ∃ n, ∀ i ∈ is, i ∈ resolved key inputs nodes n :=
  ⟨nodes.length, fun i hi => (h i hi).elim fun n hn => resolved_subset n hn⟩

/-- A node that starts no endless walk is struck out, when every input is a node. -/
theorem exists_mem_resolved (hclosed : ∀ r ∈ nodes, ∀ i ∈ inputs r, ∃ s ∈ nodes, key s = i)
    {r : ν} (hacc : Acc (fun s r => Uses key inputs nodes r s) r) (hr : r ∈ nodes) :
    ∃ n, key r ∈ resolved key inputs nodes n := by
  induction hacc with
  | intro r _ ih =>
    have hinputs : ∀ i ∈ inputs r, ∃ n, i ∈ resolved key inputs nodes n := by
      intro i hi
      obtain ⟨s, hs, rfl⟩ := hclosed r hr i hi
      exact ih s ⟨hr, hs, hi⟩ hs
    obtain ⟨n, hn⟩ := exists_round hinputs
    exact ⟨n + 1, mem_round.mpr ⟨r, hr, hn, rfl⟩⟩

/-- **The rounds strike out every node exactly when no walk is endless.** -/
theorem exhausts_iff_wellFounded
    (hkeys : ∀ r ∈ nodes, ∀ s ∈ nodes, key r = key s → r = s)
    (hclosed : ∀ r ∈ nodes, ∀ i ∈ inputs r, ∃ s ∈ nodes, key s = i) :
    Exhausts key inputs nodes ↔ WellFounded fun s r => Uses key inputs nodes r s := by
  constructor
  · intro h
    refine ⟨fun r => ?_⟩
    by_cases hr : r ∈ nodes
    · exact acc_of_mem_resolved hkeys _ hr (h r hr)
    · exact ⟨_, fun s hs => absurd hs.1 hr⟩
  · intro h r hr
    obtain ⟨n, hn⟩ := exists_mem_resolved hclosed (h.apply r) hr
    exact resolved_subset n hn

/-! ## Circles and walks -/

/-- A chain of steps of a walk. -/
theorem transGen_of_walk {R : ν → ν → Prop} {walk : Nat → ν}
    (h : ∀ n, R (walk n) (walk (n + 1))) {m n : Nat} (hlt : m < n) :
    Relation.TransGen R (walk m) (walk n) := by
  induction hlt with
  | refl => exact .single (h m)
  | step _ ih => exact ih.tail (h _)

omit [DecidableEq κ] in
/-- Among finitely many nodes, a walk is endless only if it comes back. -/
theorem wellFounded_iff_acyclic :
    (WellFounded fun s r => Uses key inputs nodes r s) ↔
      ∀ r, ¬ Relation.TransGen (Uses key inputs nodes) r r := by
  constructor
  · intro h r hcycle
    exact h.transGen.irrefl.irrefl r (Relation.transGen_swap.mpr hcycle)
  · intro hacyclic
    rw [wellFounded_iff_isEmpty_descending_chain]
    refine ⟨fun ⟨walk, hwalk⟩ => ?_⟩
    have : Finite { r // r ∈ nodes } := nodes.finite_toSet.to_subtype
    let inside : Nat → { r // r ∈ nodes } := fun n => ⟨walk n, (hwalk n).1⟩
    obtain ⟨m, n, hne, heq⟩ := Finite.exists_ne_map_eq_of_infinite inside
    have hsame : walk m = walk n := congrArg Subtype.val heq
    rcases Nat.lt_or_gt_of_ne hne with hlt | hgt
    · have hback := transGen_of_walk hwalk hlt
      rw [hsame] at hback
      exact hacyclic _ hback
    · have hback := transGen_of_walk hwalk hgt
      rw [hsame] at hback
      exact hacyclic _ hback

omit [DecidableEq κ] in
/-- A walk that goes on as long as it may comes to where it may not. -/
theorem walk_ends (h : WellFounded fun s r => Uses key inputs nodes r s) {walk : Nat → ν}
    {On : ν → Prop} (hwalk : ∀ n, On (walk n) → Uses key inputs nodes (walk n) (walk (n + 1))) :
    ∃ n, ¬ On (walk n) ∧ ∀ m < n, On (walk m) := by
  have hend : ∃ n, ¬ On (walk n) := by
    by_contra hon
    rw [not_exists] at hon
    exact (wellFounded_iff_isEmpty_descending_chain.mp h).false
      ⟨walk, fun n => hwalk n (not_not.mp (hon n))⟩
  classical
  exact ⟨Nat.find hend, Nat.find_spec hend, fun m hm => not_not.mp (Nat.find_min hend hm)⟩

end StockResearch.Resolution
