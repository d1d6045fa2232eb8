import Youtick.Lib.LookupMap
import Youtick.Lib.Panic

/-!
# Counted indexes and pages

Keyed storage has no iteration, so a contract that wants to list its keys keeps a counter and a map
from positions to keys. `Lists` says that the pair spells out a list; appending a key is one
insertion at the counter (`Lists.push`).

A paged view reads a range of positions one by one. When every position of a list reads as its
element, the range reads as the slice of the list (`mapM_range'`).
-/

set_option autoImplicit false

namespace Youtick.Lib

universe u v

variable {K : Type u}

/-- The positions below `count` hold the keys of `keys` in order, and no other position is used. -/
structure Lists (index : LookupMap Nat K) (count : Nat) (keys : List K) : Prop where
  length : keys.length = count
  get : ∀ i, index.get i = keys[i]?

namespace Lists

variable {index : LookupMap Nat K} {count : Nat} {keys : List K}

theorem nil : Lists (.empty : LookupMap Nat K) 0 [] where
  length := rfl
  get i := by rw [LookupMap.get_empty, List.getElem?_nil]

theorem push (h : Lists index count keys) (k : K) :
    Lists (index.insert count k) (count + 1) (keys ++ [k]) where
  length := by rw [List.length_append, h.length, List.length_singleton]
  get i := by
    rw [LookupMap.get_insert, h.get]
    by_cases hi : i = count
    · rw [if_pos hi, hi, ← h.length, List.getElem?_concat_length]
    · rw [if_neg hi]
      by_cases hlt : i < count
      · rw [List.getElem?_append_left (by rw [h.length]; exact hlt)]
      · have hlen : (keys ++ [k]).length ≤ i := by
          rw [List.length_append, h.length, List.length_singleton]
          omega
        rw [List.getElem?_eq_none hlen, List.getElem?_eq_none (by rw [h.length]; omega)]

end Lists

/-- Keys that each belong to an entry are the keys of a list of entries. -/
theorem exists_map_eq {α : Type v} {key : α → K} {P : α → Prop} {keys : List K}
    (h : ∀ k ∈ keys, ∃ a, P a ∧ key a = k) :
    ∃ all : List α, all.map key = keys ∧ ∀ a ∈ all, P a := by
  induction keys with
  | nil => exact ⟨[], rfl, by simp⟩
  | cons k keys ih =>
    obtain ⟨a, ha, rfl⟩ := h k List.mem_cons_self
    obtain ⟨all, rfl, hall⟩ := ih fun k hk => h k (List.mem_cons_of_mem _ hk)
    exact ⟨a :: all, rfl, List.forall_mem_cons.mpr ⟨ha, hall⟩⟩

/-! ## Pages -/

section Pages

variable {α : Type v}

/-- Reading consecutive positions gives the slice of the list they spell out. -/
theorem mapM_range' {read : Nat → Result α} {all : List α}
    (hread : ∀ i a, all[i]? = some a → read i = .ok a) {start size : Nat}
    (hfits : start + size ≤ all.length) :
    (List.range' start size).mapM read = .ok ((all.drop start).take size) := by
  induction size generalizing start with
  | zero => rfl
  | succ size ih =>
    have hlt : start < all.length := by omega
    have hrest : (List.range' (start + 1) size).mapM read = .ok ((all.drop (start + 1)).take size) :=
      ih (by omega)
    rw [List.range'_succ, List.mapM_cons, hread start all[start] (List.getElem?_eq_getElem hlt),
      hrest, List.drop_eq_getElem_cons hlt, List.take_succ_cons]
    rfl

/-- A slice that starts where another ends continues it. -/
theorem take_append_slice (all : List α) (a b : Nat) :
    all.take a ++ (all.drop (all.take a).length).take b = all.take (a + b) := by
  rw [List.take_add, List.length_take]
  congr 2
  rcases Nat.le_total a all.length with h | h
  · rw [Nat.min_eq_left h]
  · rw [Nat.min_eq_right h, List.drop_length, List.drop_eq_nil_of_le h]

end Pages

end Youtick.Lib
