import Mathlib.Data.List.Nodup
import Mathlib.Data.List.Pairwise
import Mathlib.Tactic.Common

/-!
# Histories

A machine may record what it does in a list to which it only ever appends. Two kinds
of facts about such a list survive an append and are collected here.

- `Supported J`: every event is justified, by `J`, by the events before it.
- `OncePer f`: no two events have the same `f`-label. Labels are optional, so that a
  property of one kind of event needs no separate list.
-/

namespace StockResearch

universe u v

variable {ε : Type u} {α : Type v}

/-- Every event of the history is justified by the events before it. -/
def Supported (J : List ε → ε → Prop) (history : List ε) : Prop :=
  ∀ pre event post, history = pre ++ event :: post → J pre event

theorem supported_nil {J : List ε → ε → Prop} : Supported J [] := by
  intro pre event post h
  simp at h

/-- An append only has to justify the new event. -/
theorem Supported.concat {J : List ε → ε → Prop} {history : List ε} {event : ε}
    (h : Supported J history) (hnew : J history event) : Supported J (history ++ [event]) := by
  intro pre e post hsplit
  rcases List.eq_nil_or_concat post with rfl | ⟨front, last, rfl⟩
  · obtain ⟨rfl, hlast⟩ := List.append_inj' hsplit rfl
    obtain rfl : event = e := by simpa using hlast
    exact hnew
  · rw [List.concat_eq_append, ← List.cons_append, ← List.append_assoc] at hsplit
    exact h pre e front (List.append_inj' hsplit rfl).1

/-- No two events of the history have the same label. -/
def OncePer (f : ε → Option α) (history : List ε) : Prop := (history.filterMap f).Nodup

theorem oncePer_nil {f : ε → Option α} : OncePer f [] := List.nodup_nil

/-- An unlabelled event can always be appended. -/
theorem OncePer.skip {f : ε → Option α} {history : List ε} {event : ε} (h : OncePer f history)
    (hnone : f event = none) : OncePer f (history ++ [event]) := by
  simpa [OncePer, hnone] using h

/-- A labelled event can be appended when its label is new. -/
theorem OncePer.concat {f : ε → Option α} {history : List ε} {event : ε} {a : α}
    (h : OncePer f history) (hlabel : f event = some a) (hnew : ∀ e ∈ history, f e ≠ some a) :
    OncePer f (history ++ [event]) := by
  rw [OncePer, List.filterMap_append, List.filterMap_cons, hlabel, List.filterMap_nil]
  refine List.nodup_append.mpr ⟨h, List.nodup_singleton a, ?_⟩
  intro b hb c hc hbc
  obtain rfl := List.mem_singleton.mp hc
  obtain ⟨e, he, hfe⟩ := List.mem_filterMap.mp hb
  exact hnew e he (hfe.trans (congrArg some hbc))

/-- Two events with the same label are the same event. -/
theorem OncePer.unique {f : ε → Option α} {history : List ε} {a : α} (h : OncePer f history)
    {e e' : ε} (he : e ∈ history) (he' : e' ∈ history) (hlabel : f e = some a)
    (hlabel' : f e' = some a) : e = e' := by
  by_contra hne
  have hsymm : Std.Symm fun x y => ∀ b, f x = some b → ∀ b', f y = some b' → b ≠ b' :=
    ⟨fun _ _ hxy b hb b' hb' => (hxy b' hb' b hb).symm⟩
  exact (List.pairwise_filterMap.mp h).forall he he' hne a hlabel a hlabel' rfl

/-- A label that determines a unique one is unique. -/
theorem OncePer.of_determined {β : Type v} {f : ε → Option α} {g : ε → Option β}
    {history : List ε} (h : OncePer f history)
    (hdetermined : ∀ e ∈ history, ∀ e' ∈ history, ∀ b, g e = some b → g e' = some b →
      ∃ a, f e = some a ∧ f e' = some a) : OncePer g history := by
  refine List.pairwise_filterMap.mpr ((List.pairwise_filterMap.mp h).imp_of_mem ?_)
  intro e e' he he' hne b hb b' hb' hbb'
  obtain ⟨a, ha, ha'⟩ := hdetermined e he e' he' b hb (hbb' ▸ hb')
  exact hne a ha a ha' rfl

end StockResearch
