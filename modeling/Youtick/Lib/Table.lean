import Mathlib.Tactic

/-!
# Database tables

A table of rows under a primary key, in the order of insertion. `find` reads a row by its key,
`modify` changes the row under a key in place, `insertOrIgnore` adds a row unless its key is taken,
and `count` counts the rows with a property. Every table carries the proof that its keys are
distinct, so a row is determined by its key (`mem_rows_iff`) and a change of one row changes a count
by that row alone (`count_modify`).
-/

set_option autoImplicit false

namespace Youtick.Lib

universe u v

/-- A table with a primary key. -/
structure Table (K : Type u) (V : Type v) where
  rows : List (K × V)
  nodup : (rows.map Prod.fst).Nodup

namespace Table

variable {K : Type u} {V : Type v}

/-- The table without rows. -/
def empty : Table K V := ⟨[], List.nodup_nil⟩

/-- The rows that satisfy `p`. -/
def select (t : Table K V) (p : K → V → Bool) : List (K × V) := t.rows.filter fun r => p r.1 r.2

/-- How many rows satisfy `p`. -/
def count (t : Table K V) (p : K → V → Bool) : Nat := t.rows.countP fun r => p r.1 r.2

variable [DecidableEq K]

/-- The row under `k`. -/
def find (t : Table K V) (k : K) : Option V := (t.rows.find? fun r => r.1 = k).map Prod.snd

/-- Change the row under `k`. -/
def modify (t : Table K V) (k : K) (f : V → V) : Table K V where
  rows := t.rows.map fun r => if r.1 = k then (r.1, f r.2) else r
  nodup := by
    rw [List.map_map]
    have hkeys : (Prod.fst ∘ fun r : K × V => if r.1 = k then (r.1, f r.2) else r) = Prod.fst := by
      funext r
      simp only [Function.comp]
      split <;> rfl
    rw [hkeys]
    exact t.nodup

/-- Add a row under a key that is free. -/
def add (t : Table K V) (k : K) (v : V) (h : k ∉ t.rows.map Prod.fst) : Table K V where
  rows := t.rows ++ [(k, v)]
  nodup := by
    rw [List.map_append]
    refine List.nodup_append.mpr ⟨t.nodup, List.nodup_singleton _, fun a ha b hb => ?_⟩
    rintro rfl
    rw [List.mem_singleton.mp hb] at ha
    exact h ha

/-- Add a row; a taken key leaves the table as it is. -/
def insertOrIgnore (t : Table K V) (k : K) (v : V) : Table K V :=
  if h : k ∈ t.rows.map Prod.fst then t else t.add k v h

/-! ## Reading -/

theorem mem_rows_iff {t : Table K V} {k : K} {v : V} : (k, v) ∈ t.rows ↔ t.find k = some v := by
  obtain ⟨rows, hnodup⟩ := t
  simp only [find]
  induction rows with
  | nil => simp
  | cons r rest ih =>
    obtain ⟨hr, hrest⟩ := List.nodup_cons.mp hnodup
    have hrest := ih hrest
    by_cases hk : r.1 = k
    · rw [List.find?_cons_of_pos (by simpa using hk)]
      simp only [List.mem_cons, Option.map_some, Option.some.injEq]
      constructor
      · rintro (h | h)
        · rw [← h]
        · exact absurd (List.mem_map.mpr ⟨_, h, rfl⟩) (hk ▸ hr)
      · intro h
        exact .inl (by rw [← hk, ← h])
    · rw [List.find?_cons_of_neg (by simpa using hk), List.mem_cons, ← hrest]
      constructor
      · rintro (h | h)
        · exact absurd (by rw [← h]) hk
        · exact h
      · exact .inr

theorem mem_select {t : Table K V} {p : K → V → Bool} {k : K} {v : V} :
    (k, v) ∈ t.select p ↔ t.find k = some v ∧ p k v = true := by
  rw [select, List.mem_filter, mem_rows_iff]

theorem mem_keys_iff {t : Table K V} {k : K} :
    k ∈ t.rows.map Prod.fst ↔ ∃ v, t.find k = some v := by
  simp only [List.mem_map, Prod.exists, exists_and_right, exists_eq_right, mem_rows_iff]

theorem find_eq_none_iff {t : Table K V} {k : K} : t.find k = none ↔ k ∉ t.rows.map Prod.fst := by
  rw [mem_keys_iff, Option.eq_none_iff_forall_ne_some]
  push Not
  rfl

/-! ## Changing -/

theorem find_modify (t : Table K V) (k k' : K) (f : V → V) :
    (t.modify k f).find k' = if k' = k then (t.find k').map f else t.find k' := by
  simp only [find, modify, List.find?_map]
  have hp : ((fun r : K × V => decide (r.1 = k')) ∘
      fun r : K × V => if r.1 = k then (r.1, f r.2) else r) = fun r => decide (r.1 = k') := by
    funext r
    simp only [Function.comp]
    split <;> rfl
  rw [hp]
  cases hfound : t.rows.find? fun r => decide (r.1 = k') with
  | none => simp
  | some r =>
    have hr : r.1 = k' := by simpa using List.find?_some hfound
    by_cases hk : k' = k
    · simp [hk, hr]
    · simp [hk, hr]

theorem find_modify_self (t : Table K V) (k : K) (f : V → V) :
    (t.modify k f).find k = (t.find k).map f := by
  rw [find_modify, if_pos rfl]

theorem find_modify_of_ne (t : Table K V) {k k' : K} (f : V → V) (h : k' ≠ k) :
    (t.modify k f).find k' = t.find k' := by
  rw [find_modify, if_neg h]

/-- A row after a change is a row before it, changed if it is the one under the key. -/
theorem of_find_modify {t : Table K V} {k k' : K} {f : V → V} {v' : V}
    (h : (t.modify k f).find k' = some v') :
    ∃ v, t.find k' = some v ∧ (v' = f v ∧ k' = k ∨ v' = v ∧ k' ≠ k) := by
  rw [find_modify] at h
  split at h
  · next hk =>
      obtain ⟨v, hv, rfl⟩ := Option.map_eq_some_iff.mp h
      exact ⟨v, hv, .inl ⟨rfl, hk⟩⟩
  · next hk => exact ⟨v', h, .inr ⟨rfl, hk⟩⟩

/-- A row stays, changed if it is the one under the key. -/
theorem find_modify_of_find {t : Table K V} {k k' : K} {f : V → V} {v : V}
    (h : t.find k' = some v) :
    ∃ v', (t.modify k f).find k' = some v' ∧ (v' = f v ∧ k' = k ∨ v' = v ∧ k' ≠ k) := by
  by_cases hk : k' = k
  · refine ⟨f v, ?_, .inl ⟨rfl, hk⟩⟩
    rw [find_modify, if_pos hk, h]
    rfl
  · exact ⟨v, by rw [find_modify_of_ne _ _ hk, h], .inr ⟨rfl, hk⟩⟩

theorem find_add (t : Table K V) (k k' : K) (v : V) (h : k ∉ t.rows.map Prod.fst) :
    (t.add k v h).find k' = if k' = k then some v else t.find k' := by
  ext w
  rw [← mem_rows_iff, add]
  by_cases hk : k' = k
  · subst hk
    simp only [List.mem_append, List.mem_singleton, Prod.mk.injEq, true_and, if_true,
      Option.some.injEq]
    constructor
    · rintro (hmem | rfl)
      · exact absurd (List.mem_map.mpr ⟨_, hmem, rfl⟩) h
      · rfl
    · rintro rfl
      exact .inr rfl
  · simp [hk, mem_rows_iff]

theorem find_insertOrIgnore (t : Table K V) (k k' : K) (v : V) :
    (t.insertOrIgnore k v).find k' =
      if k' = k then some ((t.find k).getD v) else t.find k' := by
  unfold insertOrIgnore
  split
  · next h =>
      obtain ⟨w, hw⟩ := mem_keys_iff.mp h
      by_cases hk : k' = k
      · subst hk
        simp [hw]
      · rw [if_neg hk]
  · next h =>
      rw [find_add, find_eq_none_iff.mpr h]
      rfl

/-- Without a row under the key there is nothing to change. -/
theorem map_rows_of_notMem {rows : List (K × V)} {k : K} (f : V → V)
    (h : k ∉ rows.map Prod.fst) :
    (rows.map fun r => if r.1 = k then (r.1, f r.2) else r) = rows := by
  refine (List.map_congr_left fun r hr => ?_).trans (List.map_id rows)
  refine if_neg ?_
  rintro rfl
  exact h (List.mem_map.mpr ⟨r, hr, rfl⟩)

/-! ## Counting -/

/-- Changing one row exchanges that row's share of the count. -/
theorem count_modify {t : Table K V} {k : K} {v : V} (p : K → V → Bool) (f : V → V)
    (h : t.find k = some v) :
    (t.modify k f).count p + (p k v).toNat = t.count p + (p k (f v)).toNat := by
  have hmem := mem_rows_iff.mpr h
  obtain ⟨rows, hnodup⟩ := t
  simp only [count, modify] at hmem ⊢
  induction rows with
  | nil => cases hmem
  | cons r rest ih =>
    obtain ⟨hr, hrest⟩ := List.nodup_cons.mp hnodup
    rw [List.map_cons, List.countP_cons, List.countP_cons]
    rcases List.mem_cons.mp hmem with rfl | hmem
    · -- the rest has no row under the key, so it is unchanged
      rw [map_rows_of_notMem f hr]
      simp only [if_true]
      cases p k v <;> cases p k (f v) <;> simp
    · have hne : r.1 ≠ k := by
        rintro rfl
        exact hr (List.mem_map.mpr ⟨_, hmem, rfl⟩)
      have hih := ih hrest (mem_rows_iff.mp hmem) hmem
      rw [if_neg hne]
      omega

omit [DecidableEq K] in
theorem count_add (t : Table K V) (p : K → V → Bool) (k : K) (v : V)
    (h : k ∉ t.rows.map Prod.fst) : (t.add k v h).count p = t.count p + (p k v).toNat := by
  simp only [count, add, List.countP_append, List.countP_singleton]
  cases p k v <;> rfl

/-- Changing rows without changing `p` keeps the count. -/
theorem count_modify_eq {t : Table K V} {k : K} {p : K → V → Bool} {f : V → V}
    (h : ∀ v, t.find k = some v → p k (f v) = p k v) : (t.modify k f).count p = t.count p := by
  cases hk : t.find k with
  | none =>
    exact congrArg (List.countP _) (map_rows_of_notMem f (find_eq_none_iff.mp hk))
  | some v =>
    have := count_modify p f hk
    rw [h v hk] at this
    omega

/-- A change after which a row satisfies `p` only if it did before does not raise the count. -/
theorem count_modify_le {t : Table K V} {k : K} {p : K → V → Bool} {f : V → V}
    (h : ∀ v, t.find k = some v → p k (f v) = true → p k v = true) :
    (t.modify k f).count p ≤ t.count p := by
  cases hk : t.find k with
  | none => rw [count_modify_eq fun v hv => nomatch hk.symm.trans hv]
  | some v =>
    have hcount := count_modify p f hk
    have hle : (p k (f v)).toNat ≤ (p k v).toNat := by
      cases hp : p k (f v) with
      | false => exact Nat.zero_le _
      | true => rw [h v hk hp]
    omega

end Table

end Youtick.Lib
