import Mathlib.Algebra.BigOperators.Group.List.Basic
import Mathlib.Tactic

/-!
# Items sent out and not resolved

An asynchronous payment leaves its sender, later succeeds or fails as a whole, and later still is
reported back once. Between the first and the last of these moments it is a `Flight`: the item and,
once it is known, its result. An `Outbox` is the list of flights; an index names one of them.

`owed` is the quantity that has left the sender's books and not the sender's custody: it counts
every flight except those that succeeded. Sending adds to it, success takes the item out of it, and
a failure keeps the item in it until it is resolved, which is when the sender books it back.
-/

set_option autoImplicit false

namespace Youtick.Lib

universe u

/-- An item under way, with its result once it is known. -/
structure Flight (α : Type u) where
  item : α
  result : Option Bool
  deriving DecidableEq

abbrev Outbox (α : Type u) : Type u := List (Flight α)

namespace Outbox

variable {α : Type u}

/-- Append items, none of them with a result. -/
def send (o : Outbox α) (items : List α) : Outbox α := o ++ items.map fun item => ⟨item, none⟩

/-- Record the result of the flight at `i`. -/
def land (o : Outbox α) (i : Nat) (item : α) (ok : Bool) : Outbox α := o.set i ⟨item, some ok⟩

/-- What a flight still owes: everything unless it succeeded. -/
def flightOwed (f : α → Nat) (flight : Flight α) : Nat :=
  if flight.result = some true then 0 else f flight.item

/-- The quantity `f` of all flights that have not succeeded. -/
def owed (f : α → Nat) (o : Outbox α) : Nat := (o.map (flightOwed f)).sum

/-! ## Splitting at an index -/

/-- A flight at an index, with what removing and replacing it do. -/
theorem exists_split {o : Outbox α} {i : Nat} {x : Flight α} (h : o[i]? = some x) :
    ∃ a b, o = a ++ x :: b ∧ o.eraseIdx i = a ++ b ∧ ∀ y, o.set i y = a ++ y :: b := by
  induction o generalizing i with
  | nil => simp at h
  | cons z o ih =>
    cases i with
    | zero =>
      obtain rfl : z = x := by simpa using h
      exact ⟨[], o, rfl, rfl, fun _ => rfl⟩
    | succ i =>
      obtain ⟨a, b, ho, herase, hset⟩ := ih (by simpa using h)
      refine ⟨z :: a, b, by simp [ho], by simp [herase], fun y => ?_⟩
      simp [hset y]

theorem set_self {o : Outbox α} {i : Nat} {x : Flight α} (h : o[i]? = some x) :
    o.set i x = o := by
  obtain ⟨a, b, ho, -, hset⟩ := exists_split h
  rw [hset x, ← ho]

/-! ## What is owed -/

section Owed

variable (f : α → Nat)

theorem owed_append (a b : Outbox α) : owed f (a ++ b) = owed f a + owed f b := by
  simp [owed]

theorem owed_cons (x : Flight α) (b : Outbox α) :
    owed f (x :: b) = flightOwed f x + owed f b := by
  simp [owed]

/-- Sending owes every item sent. -/
theorem owed_send (o : Outbox α) (items : List α) :
    (o.send items).owed f = o.owed f + (items.map f).sum := by
  rw [send, owed_append]
  congr 1
  simp [owed, flightOwed, Function.comp_def]

/-- A flight is part of what is owed. -/
theorem owed_eq_add_eraseIdx {o : Outbox α} {i : Nat} {x : Flight α} (h : o[i]? = some x) :
    o.owed f = owed f (o.eraseIdx i) + flightOwed f x := by
  obtain ⟨a, b, ho, herase, -⟩ := exists_split h
  rw [herase, ho, owed_append, owed_append, owed_cons]
  omega

/-- A landing that succeeded takes the item out of what is owed; one that failed keeps it. -/
theorem owed_land {o : Outbox α} {i : Nat} {x : α} (ok : Bool) (h : o[i]? = some ⟨x, none⟩) :
    (o.land i x ok).owed f + (if ok then f x else 0) = o.owed f := by
  obtain ⟨a, b, ho, -, hset⟩ := exists_split h
  rw [land, hset, ho, owed_append, owed_append, owed_cons, owed_cons]
  cases ok with
  | true =>
    simp only [flightOwed, if_true, reduceCtorEq, if_false]
    omega
  | false => simp [flightOwed]

/-- One flight's debt is at most the whole. -/
theorem flightOwed_le {o : Outbox α} {i : Nat} {x : Flight α} (h : o[i]? = some x) :
    flightOwed f x ≤ o.owed f := by
  rw [owed_eq_add_eraseIdx f h]
  exact Nat.le_add_left _ _

end Owed

/-! ## The items under way -/

/-- The items of all flights, in order. -/
def items (o : Outbox α) : List α := o.map (·.item)

theorem item_mem {o : Outbox α} {i : Nat} {x : Flight α} (h : o[i]? = some x) :
    x.item ∈ o.items :=
  List.mem_map_of_mem (List.mem_of_getElem? h)

theorem items_send (o : Outbox α) (items : List α) : (o.send items).items = o.items ++ items := by
  simp [Outbox.items, send, Function.comp_def]

theorem items_land {o : Outbox α} {i : Nat} {x : Flight α} {ok : Bool} (h : o[i]? = some x) :
    (o.land i x.item ok).items = o.items := by
  obtain ⟨a, b, ho, -, hset⟩ := exists_split h
  rw [land, hset, ho]
  simp [items]

/-- Removing a flight removes its item, at the flight's place. -/
theorem items_eraseIdx {o : Outbox α} {i : Nat} {x : Flight α} (h : o[i]? = some x) :
    ∃ a b, o.items = a ++ x.item :: b ∧ items (o.eraseIdx i) = a ++ b := by
  obtain ⟨a, b, ho, herase, -⟩ := exists_split h
  rw [herase, ho]
  exact ⟨items a, items b, by simp [items], by simp [items]⟩

end Outbox

end Youtick.Lib
