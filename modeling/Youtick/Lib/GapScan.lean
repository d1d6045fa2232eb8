import Mathlib.Data.List.Nodup
import Mathlib.Tactic

/-!
# Scanning numbered slots up to a gap

A reader who knows no upper bound looks at the slots `0, 1, 2, …` and stops after `gap` empty slots
in a row. `nextAfter found n` is where the last entry before `n` ends and `entriesBefore found n` is
what was found so far; the scan has come to its end at the first `n` with
`n = nextAfter found n + gap`. It has then seen everything exactly when no entry lies further than
`gap` after the one before it (`Dense`), which is a property a writer can keep one entry at a time
(`Dense.insert`).
-/

set_option autoImplicit false

namespace Youtick.Lib

variable {β : Type} {found : Nat → Option β} {gap n i : Nat}

/-! ## What a scan has found -/

/-- The entries in the slots before `n`, in order. -/
def entriesBefore (found : Nat → Option β) (n : Nat) : List (Nat × β) :=
  (List.range n).filterMap fun i => (found i).map (i, ·)

/-- The slot after the last entry before `n`. -/
def nextAfter (found : Nat → Option β) : Nat → Nat
  | 0 => 0
  | n + 1 => if (found n).isSome then n + 1 else nextAfter found n

theorem entriesBefore_succ_none (h : found n = none) :
    entriesBefore found (n + 1) = entriesBefore found n := by
  simp [entriesBefore, List.range_succ, h]

theorem entriesBefore_succ_some {b : β} (h : found n = some b) :
    entriesBefore found (n + 1) = entriesBefore found n ++ [(n, b)] := by
  simp [entriesBefore, List.range_succ, h]

theorem mem_entriesBefore {b : β} : (i, b) ∈ entriesBefore found n ↔ i < n ∧ found i = some b := by
  simp only [entriesBefore, List.mem_filterMap, List.mem_range, Option.map_eq_some_iff,
    Prod.mk.injEq]
  constructor
  · rintro ⟨j, hj, c, hfound, rfl, rfl⟩
    exact ⟨hj, hfound⟩
  · rintro ⟨hi, hfound⟩
    exact ⟨i, hi, b, hfound, rfl, rfl⟩

theorem entriesBefore_sorted (found : Nat → Option β) (n : Nat) :
    (entriesBefore found n).Pairwise fun a b => a.1 < b.1 := by
  refine List.Pairwise.filterMap _ ?_ List.pairwise_lt_range
  intro i j hij a ha b hb
  obtain ⟨c, -, rfl⟩ := Option.map_eq_some_iff.mp ha
  obtain ⟨d, -, rfl⟩ := Option.map_eq_some_iff.mp hb
  exact hij

theorem nextAfter_succ_none (h : found n = none) :
    nextAfter found (n + 1) = nextAfter found n := by
  simp [nextAfter, h]

theorem nextAfter_succ_some {b : β} (h : found n = some b) : nextAfter found (n + 1) = n + 1 := by
  simp [nextAfter, h]

theorem nextAfter_le (found : Nat → Option β) (n : Nat) : nextAfter found n ≤ n := by
  induction n with
  | zero => exact Nat.le_refl 0
  | succ n ih =>
    rw [nextAfter]
    split
    · exact Nat.le_refl _
    · exact Nat.le_succ_of_le ih

theorem nextAfter_le_succ (found : Nat → Option β) (n : Nat) :
    nextAfter found n ≤ nextAfter found (n + 1) := by
  rw [nextAfter]
  split
  · exact Nat.le_succ_of_le (nextAfter_le found n)
  · exact Nat.le_refl _

/-- Every entry before `n` is before `nextAfter found n`. -/
theorem lt_nextAfter (hi : i < n) (hfound : (found i).isSome = true) : i < nextAfter found n := by
  induction n with
  | zero => exact absurd hi (Nat.not_lt_zero i)
  | succ n ih =>
    rcases Nat.lt_succ_iff_lt_or_eq.mp hi with hlt | rfl
    · exact Nat.lt_of_lt_of_le (ih hlt) (nextAfter_le_succ found n)
    · rw [nextAfter, if_pos hfound]
      exact Nat.lt_succ_self i

/-- The slot before `nextAfter found n`, if there is one, has an entry. -/
theorem found_of_nextAfter {m : Nat} (h : nextAfter found n = m + 1) :
    (found m).isSome = true := by
  induction n with
  | zero => exact absurd h (Nat.zero_ne_add_one m)
  | succ n ih =>
    rw [nextAfter] at h
    split at h
    · next hfound => exact Nat.succ.inj h ▸ hfound
    · exact ih h

/-! ## Entries without long gaps -/

/-- Every entry is among the first `gap` slots or at most `gap` after an earlier entry. -/
def Dense (gap : Nat) (found : Nat → Option β) : Prop :=
  ∀ i, (found i).isSome = true → i < gap ∨ ∃ j < i, (found j).isSome = true ∧ i ≤ j + gap

/-- Entries are added where a scan could have ended: at most `gap` slots from the front, or from an
entry that is there. -/
theorem Dense.insert {found' : Nat → Option β} (h : Dense gap found)
    (hkept : ∀ i, (found i).isSome = true → (found' i).isSome = true)
    (hnew : ∀ i, found i = none → (found' i).isSome = true →
      i < gap ∨ ∃ j < i, (found' j).isSome = true ∧ i ≤ j + gap) : Dense gap found' := by
  intro i hi
  cases hold : found i with
  | none => exact hnew i hold hi
  | some b =>
    rcases h i (by rw [hold]; rfl) with hfirst | ⟨j, hlt, hj, hle⟩
    · exact .inl hfirst
    · exact .inr ⟨j, hlt, hkept j hj, hle⟩

/-- Where a scan of dense entries ends it has passed all of them. -/
theorem Dense.lt_of_end (h : Dense gap found) (hend : nextAfter found n + gap ≤ n)
    (hfound : (found i).isSome = true) : i < n := by
  induction i using Nat.strongRecOn with
  | ind i ih =>
    rcases h i hfound with hfirst | ⟨j, hlt, hj, hle⟩
    · omega
    · have hj := lt_nextAfter (ih j hlt hj) hj
      omega

/-- A scan of dense entries goes on to `n` because of an entry there or near the front. -/
theorem reason_to_go_on (h : n < nextAfter found n + gap) :
    n < gap ∨ ∃ j, (found j).isSome = true ∧ n ≤ j + gap := by
  cases hnext : nextAfter found n with
  | zero =>
    rw [hnext, Nat.zero_add] at h
    exact .inl h
  | succ j =>
    rw [hnext] at h
    exact .inr ⟨j, found_of_nextAfter hnext, by omega⟩

end Youtick.Lib
