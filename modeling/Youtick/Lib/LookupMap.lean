import Mathlib.Data.Finmap
import Mathlib.Data.Finset.Sort
import Mathlib.Tactic

/-!
# Keyed storage maps

A contract's keyed collection: `get`, `insert` and `remove` by key, with no iteration. The carrier
is Mathlib's `Finmap`, so a map is determined by its lookups (`LookupMap.ext_get`), and a map has
finitely many entries, so a quantity kept per entry can be summed over the whole map
(`LookupMap.total`).

The `total` lemmas are what accounting proofs use: inserting under a fresh key adds the new entry's
quantity, and overwriting an entry exchanges the old quantity for the new one.
-/

set_option autoImplicit false

namespace Youtick.Lib

universe u v

/-- A keyed storage map. -/
structure LookupMap (K : Type u) (V : Type v) where
  entries : Finmap fun _ : K => V

/-- A storage set: membership by key. -/
abbrev LookupSet (K : Type u) : Type u := Finset K

/-! ## Listings -/

section Listing

variable {K : Type u} [LinearOrder K] {keys : Finset K}

/-- The keys of a set in their order, as a storage lists them. -/
def keysInOrder (keys : Finset K) : List K := keys.sort (· ≤ ·)

@[simp] theorem mem_keysInOrder {k : K} : k ∈ keysInOrder keys ↔ k ∈ keys :=
  Finset.mem_sort _

theorem keysInOrder_sorted (keys : Finset K) : (keysInOrder keys).Pairwise (· < ·) :=
  (Finset.sortedLT_sort keys).pairwise

@[simp] theorem length_keysInOrder (keys : Finset K) : (keysInOrder keys).length = keys.card :=
  Finset.length_sort _

end Listing

namespace LookupMap

variable {K : Type u} {V : Type v}

/-- The map with no entry. -/
def empty : LookupMap K V := ⟨∅⟩

/-- The quantity `f` summed over all entries. -/
def total (m : LookupMap K V) (f : K → V → Nat) : Nat :=
  (m.entries.entries.map fun e => f e.1 e.2).sum

/-- The keys that have an entry. -/
def keys (m : LookupMap K V) : Finset K := m.entries.keys

variable [DecidableEq K]

/-- The value stored under `k`. -/
def get (m : LookupMap K V) (k : K) : Option V := m.entries.lookup k

/-- Store `v` under `k`, overwriting what was there. -/
def insert (m : LookupMap K V) (k : K) (v : V) : LookupMap K V := ⟨m.entries.insert k v⟩

/-- Delete the entry under `k`. -/
def remove (m : LookupMap K V) (k : K) : LookupMap K V := ⟨m.entries.erase k⟩

/-! ## Lookups -/

@[simp] theorem get_empty (k : K) : (empty : LookupMap K V).get k = none :=
  Finmap.lookup_empty k

@[simp] theorem get_insert_self (m : LookupMap K V) (k : K) (v : V) :
    (m.insert k v).get k = some v :=
  Finmap.lookup_insert m.entries

theorem get_insert_of_ne (m : LookupMap K V) {k k' : K} (v : V) (h : k' ≠ k) :
    (m.insert k v).get k' = m.get k' :=
  Finmap.lookup_insert_of_ne m.entries h

theorem get_insert (m : LookupMap K V) (k k' : K) (v : V) :
    (m.insert k v).get k' = if k' = k then some v else m.get k' := by
  by_cases h : k' = k
  · subst h
    simp
  · rw [get_insert_of_ne m v h, if_neg h]

@[simp] theorem get_remove_self (m : LookupMap K V) (k : K) : (m.remove k).get k = none :=
  Finmap.lookup_erase k m.entries

theorem get_remove_of_ne (m : LookupMap K V) {k k' : K} (h : k' ≠ k) :
    (m.remove k).get k' = m.get k' :=
  Finmap.lookup_erase_ne h

theorem get_remove (m : LookupMap K V) (k k' : K) :
    (m.remove k).get k' = if k' = k then none else m.get k' := by
  by_cases h : k' = k
  · subst h
    simp
  · rw [get_remove_of_ne m h, if_neg h]

theorem mem_keys {m : LookupMap K V} {k : K} : k ∈ m.keys ↔ ∃ v, m.get k = some v := by
  rw [keys, Finmap.mem_keys, ← Option.isSome_iff_exists, ← Finmap.lookup_isSome]
  rfl

theorem keys_insert (m : LookupMap K V) (k : K) (v : V) : (m.insert k v).keys =
    Insert.insert k m.keys := by
  ext k'
  rw [mem_keys, Finset.mem_insert, mem_keys, get_insert]
  by_cases h : k' = k
  · simp [h]
  · simp [h]

/-- A map is determined by its lookups. -/
theorem ext_get {m m' : LookupMap K V} (h : ∀ k, m.get k = m'.get k) : m = m' :=
  congrArg mk (Finmap.ext_lookup h)

/-- Undoing an insertion under a fresh key. -/
theorem remove_insert_of_fresh {m : LookupMap K V} {k : K} (v : V) (h : m.get k = none) :
    (m.insert k v).remove k = m := by
  refine ext_get fun k' => ?_
  rw [get_remove]
  split
  · next hk => rw [hk, h]
  · next hk => exact get_insert_of_ne m v hk

/-- An entry is put back by inserting it into the map without it. -/
theorem insert_remove {m : LookupMap K V} {k : K} {v : V} (h : m.get k = some v) :
    (m.remove k).insert k v = m := by
  refine ext_get fun k' => ?_
  rw [get_insert]
  split
  · next hk => rw [hk, h]
  · next hk => exact get_remove_of_ne m hk

/-! ## Totals -/

omit [DecidableEq K] in
@[simp] theorem total_empty (f : K → V → Nat) : (empty : LookupMap K V).total f = 0 := rfl

/-- A fresh entry adds its quantity. -/
theorem total_insert_of_fresh {m : LookupMap K V} {k : K} (v : V) (f : K → V → Nat)
    (h : m.get k = none) : (m.insert k v).total f = f k v + m.total f := by
  have hk : k ∉ m.entries := Finmap.lookup_eq_none.mp h
  rw [total, insert, Finmap.entries_insert_of_notMem hk, Multiset.map_cons, Multiset.sum_cons, total]

/-- An entry's quantity splits off the total. -/
theorem total_eq_add_remove {m : LookupMap K V} {k : K} {v : V} (f : K → V → Nat)
    (h : m.get k = some v) : m.total f = f k v + (m.remove k).total f := by
  conv_lhs => rw [← insert_remove h]
  exact total_insert_of_fresh v f (get_remove_self m k)

/-- Overwriting exchanges the old quantity for the new one. -/
theorem total_insert_add {m : LookupMap K V} {k : K} {old : V} (v : V) (f : K → V → Nat)
    (h : m.get k = some old) : (m.insert k v).total f + f k old = m.total f + f k v := by
  have hnew := total_eq_add_remove f (get_insert_self m k v)
  have hold := total_eq_add_remove f h
  have hrest : (m.insert k v).remove k = m.remove k := by
    refine ext_get fun k' => ?_
    rw [get_remove, get_remove]
    split
    · rfl
    · next hk => exact get_insert_of_ne m v hk
  rw [hrest] at hnew
  omega

/-- The same for any key, counting an absent entry as nothing. -/
theorem total_insert (m : LookupMap K V) (k : K) (v : V) (f : K → V → Nat) :
    (m.insert k v).total f + ((m.get k).map (f k)).getD 0 = m.total f + f k v := by
  cases h : m.get k with
  | none =>
    rw [total_insert_of_fresh v f h]
    simp [Nat.add_comm]
  | some old => simpa using total_insert_add v f h

/-- One entry's quantity is at most the total. -/
theorem le_total {m : LookupMap K V} {k : K} {v : V} (f : K → V → Nat) (h : m.get k = some v) :
    f k v ≤ m.total f := by
  rw [total_eq_add_remove f h]
  exact Nat.le_add_right _ _

end LookupMap

end Youtick.Lib
