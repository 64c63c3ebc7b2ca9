import StockResearch.Lib.Outcome

/-!
# Lists related item by item

What holds of the items of two lists, of which each item of the one stands for the item of
the other at its place.

- `map_eq_map_of_forall₂`: what related items agree on, the lists agree on.
- `forall₂_comp`: relations that follow each other.
- `exists_left_of_mem`, `exists_right_of_mem`: the item on the other side.
- `exists_mapM_eq_ok`: when a loop that collects succeeds.
-/

namespace StockResearch

/-- Lists related item by item agree on what related items agree on. -/
theorem map_eq_map_of_forall₂ {α β γ : Type} {R : α → β → Prop} {f : α → γ} {g : β → γ}
    (h : ∀ x y, R x y → g y = f x) {xs : List α} {ys : List β} (hxy : List.Forall₂ R xs ys) :
    ys.map g = xs.map f := by
  induction hxy with
  | nil => rfl
  | cons hhead _ ih => rw [List.map_cons, List.map_cons, h _ _ hhead, ih]

/-- Lists related item by item to one list are related to each other. -/
theorem forall₂_comp {α β γ : Type} {R : α → β → Prop} {S : β → γ → Prop} {T : α → γ → Prop}
    (h : ∀ x y z, R x y → S y z → T x z) {xs : List α} {ys : List β}
    (hxy : List.Forall₂ R xs ys) :
    ∀ {zs : List γ}, List.Forall₂ S ys zs → List.Forall₂ T xs zs := by
  induction hxy with
  | nil =>
    rintro zs ⟨⟩
    exact .nil
  | cons hhead _ ih =>
    rintro zs (_ | ⟨hnext, hrest⟩)
    exact .cons (h _ _ _ hhead hnext) (ih hrest)

theorem exists_left_of_mem {α β : Type} {R : α → β → Prop} {xs : List α} {ys : List β}
    (hxy : List.Forall₂ R xs ys) {y : β} (hy : y ∈ ys) : ∃ x ∈ xs, R x y := by
  induction hxy with
  | nil => cases hy
  | cons hhead _ ih =>
    rcases List.mem_cons.mp hy with rfl | hy
    · exact ⟨_, List.mem_cons_self, hhead⟩
    · obtain ⟨x, hx, h⟩ := ih hy
      exact ⟨x, List.mem_cons_of_mem _ hx, h⟩

theorem exists_right_of_mem {α β : Type} {R : α → β → Prop} {xs : List α} {ys : List β}
    (hxy : List.Forall₂ R xs ys) {x : α} (hx : x ∈ xs) : ∃ y ∈ ys, R x y :=
  exists_left_of_mem hxy.flip hx

/-- A loop that collects succeeds exactly when each of its steps does. -/
theorem exists_mapM_eq_ok {ε α β : Type} {f : α → Except ε β} {xs : List α} :
    (∃ ys, xs.mapM f = .ok ys) ↔ ∀ x ∈ xs, ∃ y, f x = .ok y := by
  constructor
  · rintro ⟨ys, h⟩ x hx
    obtain ⟨y, -, hy⟩ := exists_right_of_mem (mapM_eq_ok.mp h) hx
    exact ⟨y, hy⟩
  · intro h
    cases hrun : xs.mapM f with
    | ok ys => exact ⟨ys, rfl⟩
    | error e =>
      obtain ⟨before, x, after, rfl, -, hx⟩ := mapM_eq_error.mp hrun
      obtain ⟨y, hy⟩ := h x (by simp)
      rw [hx] at hy
      cases hy

end StockResearch
