import Mathlib.Data.List.Nodup
import Mathlib.Tactic

/-!
# A bounded cache with expiring entries

The entries stand in the order of their last use, the oldest first, so that the map is the recency
list as well. A lookup drops an entry that has expired and moves any other to the end, as it is; an
insertion makes room by dropping the oldest. Neither changes an entry that stays
(`mem_of_mem_touch`, `mem_insert`), and both keep the keys distinct and the size bounded
(`WellFormed`).
-/

set_option autoImplicit false

namespace Youtick.Lib.RecencyCache

universe u v

structure Entry (K : Type u) (V : Type v) where
  key : K
  value : V
  expiresAt : Nat

variable {K : Type u} {V : Type v} [DecidableEq K]

def lookup (entries : List (Entry K V)) (key : K) : Option (Entry K V) :=
  entries.find? fun entry => decide (entry.key = key)

/-- The entries of the other keys. -/
def delete (entries : List (Entry K V)) (key : K) : List (Entry K V) :=
  entries.filter fun entry => decide (entry.key ≠ key)

/-- The value of a lookup: an expired entry has none. -/
def get (entries : List (Entry K V)) (key : K) (now : Nat) : Option V :=
  ((lookup entries key).filter fun entry => decide (now < entry.expiresAt)).map (·.value)

/-- What a lookup leaves: an entry that is used moves to the end, an expired one is deleted. -/
def touch (entries : List (Entry K V)) (key : K) (now : Nat) : List (Entry K V) :=
  match lookup entries key with
  | none => entries
  | some entry =>
    if entry.expiresAt ≤ now then delete entries key else delete entries key ++ [entry]

/-- The oldest entries are deleted until there is room for one more. -/
def makeRoom (capacity : Nat) : List (Entry K V) → List (Entry K V)
  | [] => []
  | oldest :: rest =>
    if capacity ≤ (oldest :: rest).length then makeRoom capacity rest else oldest :: rest

/-- An entry that has already expired is not stored. -/
def insert (capacity : Nat) (entries : List (Entry K V)) (entry : Entry K V) (now : Nat) :
    List (Entry K V) :=
  if entry.expiresAt ≤ now then entries
  else makeRoom capacity (delete entries entry.key) ++ [entry]

structure WellFormed (capacity : Nat) (entries : List (Entry K V)) : Prop where
  nodup : (entries.map (·.key)).Nodup
  bounded : entries.length ≤ capacity

variable {capacity now : Nat} {entries : List (Entry K V)} {key : K} {entry stored : Entry K V}

/-! ## What stays and what is found -/

theorem mem_of_mem_delete (h : stored ∈ delete entries key) : stored ∈ entries :=
  List.mem_of_mem_filter h

theorem key_of_mem_delete (h : stored ∈ delete entries key) : stored.key ≠ key := by
  have hkept := List.of_mem_filter h
  exact of_decide_eq_true hkept

theorem lookup_some (h : lookup entries key = some stored) :
    stored ∈ entries ∧ stored.key = key := by
  have hkey := List.find?_some h
  exact ⟨List.mem_of_find?_eq_some h, of_decide_eq_true hkey⟩

/-- A value that is found is of an entry that has not expired. -/
theorem get_some {value : V} (h : get entries key now = some value) :
    ∃ stored ∈ entries, stored.key = key ∧ stored.value = value ∧ now < stored.expiresAt := by
  obtain ⟨stored, hstored, rfl⟩ := Option.map_eq_some_iff.mp h
  obtain ⟨hlookup, hlive⟩ := Option.filter_eq_some_iff.mp hstored
  obtain ⟨hmem, hkey⟩ := lookup_some hlookup
  exact ⟨stored, hmem, hkey, rfl, of_decide_eq_true hlive⟩

/-- A lookup changes no entry. -/
theorem mem_of_mem_touch (h : stored ∈ touch entries key now) : stored ∈ entries := by
  unfold touch at h
  split at h
  · exact h
  · next found hfound =>
      split at h
      · exact mem_of_mem_delete h
      · rcases List.mem_append.mp h with hkept | hlast
        · exact mem_of_mem_delete hkept
        · rw [List.mem_singleton.mp hlast]
          exact (lookup_some hfound).1

omit [DecidableEq K] in
theorem makeRoom_suffix (capacity : Nat) (entries : List (Entry K V)) :
    makeRoom capacity entries <:+ entries := by
  induction entries with
  | nil => exact List.suffix_refl []
  | cons oldest rest ih =>
    unfold makeRoom
    split
    · exact ih.trans (List.suffix_cons oldest rest)
    · exact List.suffix_refl _

omit [DecidableEq K] in
theorem mem_makeRoom (h : stored ∈ makeRoom capacity entries) : stored ∈ entries :=
  (makeRoom_suffix capacity entries).subset h

/-- An insertion changes no other entry. -/
theorem mem_insert (h : stored ∈ insert capacity entries entry now) :
    stored ∈ entries ∨ (stored = entry ∧ now < entry.expiresAt) := by
  unfold insert at h
  split at h
  · exact .inl h
  · next hlive =>
      rcases List.mem_append.mp h with hkept | hlast
      · exact .inl (mem_of_mem_delete (mem_makeRoom hkept))
      · exact .inr ⟨List.mem_singleton.mp hlast, Nat.lt_of_not_le hlive⟩

/-! ## Distinct keys and bounded size -/

omit [DecidableEq K] in
theorem length_makeRoom (hpositive : 0 < capacity) (entries : List (Entry K V)) :
    (makeRoom capacity entries).length < capacity := by
  induction entries with
  | nil => exact hpositive
  | cons oldest rest ih =>
    unfold makeRoom
    split
    · exact ih
    · next hroom => exact Nat.lt_of_not_le hroom

theorem nodup_delete_concat (h : (entries.map (·.key)).Nodup) (hkey : stored.key = key)
    {kept : List (Entry K V)} (hkept : kept <:+ delete entries key) :
    ((kept ++ [stored]).map (·.key)).Nodup := by
  rw [List.map_append, List.map_cons, List.map_nil]
  apply List.Nodup.append
  · have hdelete : ((delete entries key).map (·.key)).Nodup :=
      h.sublist (List.filter_sublist.map _)
    exact hdelete.sublist (hkept.sublist.map _)
  · exact List.nodup_singleton _
  · intro k hmem hlast
    obtain ⟨other, hother, rfl⟩ := List.mem_map.mp hmem
    have hne : other.key ≠ key := key_of_mem_delete (hkept.subset hother)
    exact hne ((List.mem_singleton.mp hlast).trans hkey)

theorem length_delete_lt (hmem : stored ∈ entries) (hkey : stored.key = key) :
    (delete entries key).length < entries.length := by
  refine List.length_filter_lt_length_iff_exists.mpr ⟨stored, hmem, ?_⟩
  simp [hkey]

theorem WellFormed.touch (h : WellFormed capacity entries) :
    WellFormed capacity (touch entries key now) := by
  unfold RecencyCache.touch
  split
  · exact h
  · next found hfound =>
      obtain ⟨hmem, hkey⟩ := lookup_some hfound
      have hshorter : (delete entries key).length < entries.length := length_delete_lt hmem hkey
      split
      · refine ⟨h.nodup.sublist (List.filter_sublist.map _), ?_⟩
        exact hshorter.le.trans h.bounded
      · refine ⟨nodup_delete_concat h.nodup hkey (List.suffix_refl _), ?_⟩
        rw [List.length_append, List.length_singleton]
        exact Nat.succ_le_of_lt hshorter |>.trans h.bounded

theorem WellFormed.insert (h : WellFormed capacity entries) (hpositive : 0 < capacity) :
    WellFormed capacity (insert capacity entries entry now) := by
  unfold RecencyCache.insert
  split
  · exact h
  · refine ⟨nodup_delete_concat h.nodup rfl (makeRoom_suffix _ _), ?_⟩
    rw [List.length_append, List.length_singleton]
    exact Nat.succ_le_of_lt (length_makeRoom hpositive _)

omit [DecidableEq K] in
theorem wellFormed_nil : WellFormed capacity ([] : List (Entry K V)) where
  nodup := List.nodup_nil
  bounded := Nat.zero_le capacity

end Youtick.Lib.RecencyCache
