import Mathlib.Data.List.Nodup
import Mathlib.Data.List.Sort
import Mathlib.Tactic.Common

/-!
# Keyed tables

A relational table with a primary key: rows in insertion order, each key at
most once. The uniqueness of the key is a field of the structure, so no
statement below can build a table that breaks it.

- `get?`: the row stored under a key; every other operation is described by
  what it does to `get?`.
- `insert`, `upsert`, `updateWhere`, `deleteWhere`: the four mutations of SQL.
  `insert` leaves the table alone when the key is taken; the caller decides
  whether that is an error.
- `select`, `count`: the rows a `WHERE` clause keeps, and how many they are.
-/

namespace StockResearch

universe u v

/-- Rows in insertion order under a primary key. -/
structure Table (κ : Type u) (α : Type v) where
  rows : List (κ × α)
  nodup : (rows.map Prod.fst).Nodup

namespace Table

variable {κ : Type u} {α : Type v}

/-- The table without rows. -/
def empty : Table κ α := ⟨[], List.nodup_nil⟩

/-- Tables are determined by their rows. -/
theorem ext_rows {t u : Table κ α} (h : t.rows = u.rows) : t = u := by
  cases t; cases u; cases h; rfl

instance [DecidableEq κ] [DecidableEq α] : DecidableEq (Table κ α) := fun t u =>
  decidable_of_iff (t.rows = u.rows) ⟨ext_rows, fun h => by rw [h]⟩

variable [DecidableEq κ]

/-- The row stored under `k`. -/
def get? (t : Table κ α) (k : κ) : Option α :=
  (t.rows.find? (fun r => decide (r.1 = k))).map Prod.snd

/-- `UPDATE … SET f WHERE p`. -/
def updateWhere (t : Table κ α) (p : κ → α → Bool) (f : α → α) : Table κ α where
  rows := t.rows.map fun r => (r.1, if p r.1 r.2 then f r.2 else r.2)
  nodup := by
    rw [List.map_map]
    exact t.nodup

/-- `UPDATE … SET f` on the row of one key. -/
def modify (t : Table κ α) (k : κ) (f : α → α) : Table κ α :=
  t.updateWhere (fun k' _ => decide (k' = k)) f

/-- `DELETE … WHERE p`. -/
def deleteWhere (t : Table κ α) (p : κ → α → Bool) : Table κ α where
  rows := t.rows.filter fun r => !p r.1 r.2
  nodup := t.nodup.sublist (List.filter_sublist.map _)

/-- `SELECT … WHERE p`, in insertion order. -/
def select (t : Table κ α) (p : κ → α → Bool) : List (κ × α) :=
  t.rows.filter fun r => p r.1 r.2

/-- `SELECT COUNT(*) … WHERE p`. -/
def count (t : Table κ α) (p : κ → α → Bool) : Nat :=
  t.rows.countP fun r => p r.1 r.2

/-! ## Lookup -/

theorem find?_key_eq {l : List (κ × α)} (hl : (l.map Prod.fst).Nodup) {k : κ} {v : α} :
    (l.find? (fun r => decide (r.1 = k))).map Prod.snd = some v ↔ (k, v) ∈ l := by
  induction l with
  | nil => simp
  | cons r rest ih =>
    obtain ⟨k', v'⟩ := r
    rw [List.map_cons, List.nodup_cons] at hl
    rw [List.find?_cons]
    by_cases hk : k' = k
    · subst hk
      have hfresh : (k', v) ∉ rest := fun hm =>
        hl.1 (List.mem_map.mpr ⟨(k', v), hm, rfl⟩)
      simp only [decide_true, Option.map_some, Option.some.injEq, List.mem_cons, Prod.mk.injEq,
        true_and, hfresh, or_false]
      exact eq_comm
    · simp only [hk, decide_false, ih hl.2, List.mem_cons, Prod.mk.injEq, Ne.symm hk, false_and,
        false_or]

/-- Lookup and row membership are the same relation. -/
theorem mem_rows_iff {t : Table κ α} {k : κ} {v : α} : (k, v) ∈ t.rows ↔ t.get? k = some v :=
  (find?_key_eq t.nodup).symm

theorem get?_eq_none_iff {t : Table κ α} {k : κ} :
    t.get? k = none ↔ k ∉ t.rows.map Prod.fst := by
  constructor
  · intro h hm
    obtain ⟨⟨k', v⟩, hv, rfl⟩ := List.mem_map.mp hm
    rw [mem_rows_iff.mp hv] at h
    cases h
  · intro h
    cases hg : t.get? k with
    | none => rfl
    | some v => exact absurd (List.mem_map.mpr ⟨(k, v), mem_rows_iff.mpr hg, rfl⟩) h

@[simp] theorem get?_empty (k : κ) : (empty : Table κ α).get? k = none := rfl

/-- `INSERT`; a taken key leaves the table alone. -/
def insert (t : Table κ α) (k : κ) (v : α) : Table κ α :=
  if h : t.get? k = none then
    { rows := t.rows ++ [(k, v)]
      nodup := by
        rw [List.map_append]
        refine List.nodup_append.mpr ⟨t.nodup, List.nodup_singleton _, ?_⟩
        rintro a ha b hb rfl
        rw [List.map_singleton, List.mem_singleton] at hb
        subst hb
        exact get?_eq_none_iff.mp h ha }
  else t

theorem insert_of_taken {t : Table κ α} {k : κ} (h : t.get? k ≠ none) (v : α) :
    t.insert k v = t := by
  rw [insert, dif_neg h]

/-- `INSERT … ON CONFLICT DO UPDATE SET f`. -/
def upsert (t : Table κ α) (k : κ) (v : α) (f : α → α) : Table κ α :=
  if t.get? k = none then t.insert k v else t.modify k f

@[simp] theorem get?_updateWhere (t : Table κ α) (p : κ → α → Bool) (f : α → α) (k : κ) :
    (t.updateWhere p f).get? k = (t.get? k).map fun v => if p k v then f v else v := by
  cases h : t.get? k with
  | none =>
    rw [get?_eq_none_iff] at h
    refine get?_eq_none_iff.mpr ?_
    rw [updateWhere, List.map_map]
    exact h
  | some v =>
    refine mem_rows_iff.mp (List.mem_map.mpr ⟨(k, v), mem_rows_iff.mpr h, rfl⟩)

@[simp] theorem get?_modify (t : Table κ α) (k : κ) (f : α → α) (k' : κ) :
    (t.modify k f).get? k' = if k' = k then (t.get? k').map f else t.get? k' := by
  rw [modify, get?_updateWhere]
  by_cases h : k' = k <;> simp [h]

/-- An update adds and removes no row. -/
theorem get?_updateWhere_eq_none {t : Table κ α} {p : κ → α → Bool} {f : α → α} {k : κ} :
    (t.updateWhere p f).get? k = none ↔ t.get? k = none := by
  rw [get?_updateWhere, Option.map_eq_none_iff]

theorem get?_modify_eq_none {t : Table κ α} {k k' : κ} {f : α → α} :
    (t.modify k f).get? k' = none ↔ t.get? k' = none :=
  get?_updateWhere_eq_none

@[simp] theorem get?_deleteWhere (t : Table κ α) (p : κ → α → Bool) (k : κ) :
    (t.deleteWhere p).get? k = (t.get? k).filter fun v => !p k v := by
  refine Option.ext fun v => ?_
  rw [← mem_rows_iff, Option.filter_eq_some_iff, ← mem_rows_iff, deleteWhere, List.mem_filter]

/-- Deleting one key. -/
theorem get?_deleteKey (t : Table κ α) (k k' : κ) :
    (t.deleteWhere fun key _ => decide (key = k)).get? k' =
      if k' = k then none else t.get? k' := by
  rw [get?_deleteWhere]
  by_cases h : k' = k <;> cases t.get? k' <;> simp [h]

/-- `INSERT` under a fresh key adds exactly that row. -/
theorem get?_insert {t : Table κ α} {k : κ} (h : t.get? k = none) (v : α) (k' : κ) :
    (t.insert k v).get? k' = if k' = k then some v else t.get? k' := by
  refine Option.ext fun w => ?_
  rw [← mem_rows_iff, insert, dif_pos h]
  by_cases hk : k' = k
  · subst hk
    have hfresh : (k', w) ∉ t.rows := fun hm => by
      rw [mem_rows_iff, h] at hm
      cases hm
    simp only [List.mem_append, hfresh, List.mem_singleton, Prod.mk.injEq, true_and, false_or,
      if_true, Option.some.injEq]
    exact eq_comm
  · simp only [List.mem_append, List.mem_singleton, Prod.mk.injEq, hk, false_and, or_false,
      if_false, mem_rows_iff]

theorem get?_insert_self {t : Table κ α} {k : κ} (h : t.get? k = none) (v : α) :
    (t.insert k v).get? k = some v := by
  rw [get?_insert h, if_pos rfl]

/-- `UPDATE` of the row just inserted. -/
theorem modify_insert {t : Table κ α} {k : κ} (h : t.get? k = none) (v : α) (f : α → α) :
    (t.insert k v).modify k f = t.insert k (f v) := by
  have hkeys : ∀ r ∈ t.rows, r.1 ≠ k := by
    rintro r hr rfl
    exact get?_eq_none_iff.mp h (List.mem_map.mpr ⟨r, hr, rfl⟩)
  refine ext_rows ?_
  rw [insert, dif_pos h, insert, dif_pos h]
  show (t.rows ++ [(k, v)]).map _ = t.rows ++ [(k, f v)]
  rw [List.map_append]
  congr 1
  · refine (List.map_congr_left fun r hr => ?_).trans (List.map_id _)
    simp [hkeys r hr]
  · simp

@[simp] theorem get?_upsert (t : Table κ α) (k : κ) (v : α) (f : α → α) (k' : κ) :
    (t.upsert k v f).get? k' =
      if k' = k then some (((t.get? k).map f).getD v) else t.get? k' := by
  unfold upsert
  split
  · rename_i h
    rw [get?_insert h, h]
    rfl
  · rename_i h
    obtain ⟨w, hw⟩ := Option.ne_none_iff_exists'.mp h
    rw [get?_modify]
    by_cases hk : k' = k
    · subst hk
      simp [hw]
    · simp [hk]

/-! ## Selection and counting -/

theorem mem_select {t : Table κ α} {p : κ → α → Bool} {k : κ} {v : α} :
    (k, v) ∈ t.select p ↔ t.get? k = some v ∧ p k v = true := by
  rw [select, List.mem_filter, mem_rows_iff]

omit [DecidableEq κ] in
theorem select_keys_nodup (t : Table κ α) (p : κ → α → Bool) :
    ((t.select p).map Prod.fst).Nodup :=
  t.nodup.sublist (List.filter_sublist.map _)

theorem select_eq_nil_iff {t : Table κ α} {p : κ → α → Bool} :
    t.select p = [] ↔ ∀ k v, t.get? k = some v → p k v = false := by
  rw [select, List.filter_eq_nil_iff]
  constructor
  · intro h k v hv
    simpa using h (k, v) (mem_rows_iff.mpr hv)
  · rintro h ⟨k, v⟩ hm
    simp [h k v (mem_rows_iff.mp hm)]

omit [DecidableEq κ] in
omit [DecidableEq κ] in
/-- An update renames what is counted, not how many rows there are. -/
theorem count_updateWhere (t : Table κ α) (q : κ → α → Bool) (f : α → α)
    (p : κ → α → Bool) :
    (t.updateWhere q f).count p = t.count fun k v => p k (if q k v then f v else v) := by
  rw [count, updateWhere, List.countP_map]
  rfl

omit [DecidableEq κ] in
theorem count_deleteWhere (t : Table κ α) (q p : κ → α → Bool) :
    (t.deleteWhere q).count p = t.count fun k v => p k v && !q k v := by
  rw [count, deleteWhere, List.countP_filter]
  rfl

theorem count_insert {t : Table κ α} {k : κ} (h : t.get? k = none) (v : α)
    (p : κ → α → Bool) :
    (t.insert k v).count p = t.count p + if p k v then 1 else 0 := by
  rw [count, insert, dif_pos h, List.countP_append, List.countP_singleton]
  rfl

/-- Counting only looks at rows that are there. -/
theorem count_congr {t : Table κ α} {p q : κ → α → Bool}
    (h : ∀ k v, t.get? k = some v → p k v = q k v) : t.count p = t.count q := by
  refine List.countP_congr fun r hr => ?_
  rw [h r.1 r.2 (mem_rows_iff.mp hr)]

theorem count_mono {t : Table κ α} {p q : κ → α → Bool}
    (h : ∀ k v, t.get? k = some v → p k v = true → q k v = true) : t.count p ≤ t.count q :=
  List.countP_mono_left fun r hr => h r.1 r.2 (mem_rows_iff.mp hr)

theorem count_pos_iff {t : Table κ α} {p : κ → α → Bool} :
    0 < t.count p ↔ ∃ k v, t.get? k = some v ∧ p k v = true := by
  rw [count, List.countP_pos_iff]
  constructor
  · rintro ⟨⟨k, v⟩, hm, hp⟩
    exact ⟨k, v, mem_rows_iff.mp hm, hp⟩
  · rintro ⟨k, v, hv, hp⟩
    exact ⟨(k, v), mem_rows_iff.mpr hv, hp⟩

/-- Two predicates that differ only in the row of `k`, where the first holds
and the second does not, count one apart. -/
theorem count_eq_succ_of_differ {t : Table κ α} {p q : κ → α → Bool} {k : κ} {v : α}
    (hk : t.get? k = some v) (hp : p k v = true) (hq : q k v = false)
    (hother : ∀ k' v', t.get? k' = some v' → k' ≠ k → p k' v' = q k' v') :
    t.count p = t.count q + 1 := by
  have hm : (k, v) ∈ t.rows := mem_rows_iff.mpr hk
  obtain ⟨pre, post, hsplit⟩ := List.append_of_mem hm
  have hnd := t.nodup
  rw [hsplit, List.map_append, List.map_cons, List.nodup_append] at hnd
  have hne : ∀ r ∈ pre ++ post, r.1 ≠ k := by
    rintro r hr rfl
    rcases List.mem_append.mp hr with hr | hr
    · exact hnd.2.2 _ (List.mem_map.mpr ⟨r, hr, rfl⟩) _ (List.mem_cons_self ..) rfl
    · exact (List.nodup_cons.mp hnd.2.1).1 (List.mem_map.mpr ⟨r, hr, rfl⟩)
  have hagree : ∀ r ∈ pre ++ post, p r.1 r.2 = q r.1 r.2 := by
    intro r hr
    refine hother r.1 r.2 (mem_rows_iff.mp ?_) (hne r hr)
    rw [hsplit]
    rcases List.mem_append.mp hr with hr | hr
    · exact List.mem_append_left _ hr
    · exact List.mem_append_right _ (List.mem_cons_of_mem _ hr)
  have hpre : pre.countP (fun r => p r.1 r.2) = pre.countP (fun r => q r.1 r.2) :=
    List.countP_congr fun r hr => by rw [hagree r (List.mem_append_left _ hr)]
  have hpost : post.countP (fun r => p r.1 r.2) = post.countP (fun r => q r.1 r.2) :=
    List.countP_congr fun r hr => by rw [hagree r (List.mem_append_right _ hr)]
  simp only [count, hsplit, List.countP_append, List.countP_cons, hpre, hpost, hp, hq]
  simp only [if_true, Bool.false_eq_true, if_false]
  omega

end Table

end StockResearch
