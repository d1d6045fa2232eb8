import Mathlib.Data.List.Sort
import Youtick.Relayer.JsonText

/-!
# Relayer: JSON with sorted keys

`canonicalJson` writes a value with the keys of every object in the order of their UTF-16 units and
each in its place once. Two values have the same text just when they are the same up to that order
(`canonicalJson_injective`), and what stands under a key of one stands under it in the other
(`property_sorted`).
-/

set_option autoImplicit false

namespace Youtick.Relayer

/-- The UTF-16 units of a code point. -/
def CodePoint.units : CodePoint → List Nat
  | .surrogate offset => [0xD800 + offset.val]
  | .scalar c =>
    if c.toNat < 0x10000 then [c.toNat]
    else [0xD800 + (c.toNat - 0x10000) / 0x400, 0xDC00 + (c.toNat - 0x10000) % 0x400]

def JsString.units (s : JsString) : List Nat := s.points.flatMap CodePoint.units

/-- The order of `Array.prototype.sort` on the keys. -/
def keyLe (a b : JsString × JsValue) : Prop := a.1.units ≤ b.1.units

instance : DecidableRel keyLe := fun a b => inferInstanceAs (Decidable (a.1.units ≤ b.1.units))

namespace JsValue

mutual

/-- The keys of every object in order. -/
def sorted : JsValue → JsValue
  | .array items => .array (sortedItems items)
  | .object fields => .object ((sortedFields fields).insertionSort keyLe)
  | .null => .null
  | .bool b => .bool b
  | .number text => .number text
  | .string s => .string s

def sortedItems : List JsValue → List JsValue
  | [] => []
  | item :: rest => sorted item :: sortedItems rest

def sortedFields : List (JsString × JsValue) → List (JsString × JsValue)
  | [] => []
  | (key, value) :: rest => (key, sorted value) :: sortedFields rest

end

/-- `canonicalJson` -/
def canonicalJson (value : JsValue) : String := value.sorted.stringify

theorem sortedFields_eq_map (fields : List (JsString × JsValue)) :
    sortedFields fields = fields.map fun field => (field.1, field.2.sorted) := by
  induction fields with
  | nil => rfl
  | cons field rest ih =>
    obtain ⟨key, value⟩ := field
    rw [sortedFields, ih]
    rfl

theorem spelledFields_iff {fields : List (JsString × JsValue)} :
    SpelledFields fields ↔ ∀ field ∈ fields, Spelled field.2 := by
  induction fields with
  | nil => exact ⟨fun _ _ h => absurd h List.not_mem_nil, fun _ => trivial⟩
  | cons field rest ih =>
    obtain ⟨key, value⟩ := field
    rw [SpelledFields, ih, List.forall_mem_cons]

mutual

theorem spelled_sorted (value : JsValue) (h : value.Spelled) : value.sorted.Spelled := by
  match value with
  | .null | .bool _ | .string _ => exact trivial
  | .number _ => exact h
  | .array items => exact spelled_sortedItems items h
  | .object fields =>
    rw [sorted, Spelled, spelledFields_iff]
    intro field hfield
    have hmem := (List.perm_insertionSort keyLe _).subset hfield
    exact spelledFields_iff.mp (spelled_sortedFields fields h) field hmem

theorem spelled_sortedItems (items : List JsValue) (h : SpelledItems items) :
    SpelledItems (sortedItems items) := by
  match items with
  | [] => exact trivial
  | item :: rest => exact ⟨spelled_sorted item h.1, spelled_sortedItems rest h.2⟩

theorem spelled_sortedFields (fields : List (JsString × JsValue)) (h : SpelledFields fields) :
    SpelledFields (sortedFields fields) := by
  match fields with
  | [] => exact trivial
  | (_, value) :: rest => exact ⟨spelled_sorted value h.1, spelled_sortedFields rest h.2⟩

end

/-- Values with one canonical text are the same up to the order of the keys. -/
theorem canonicalJson_injective {v w : JsValue} (hv : v.Spelled) (hw : w.Spelled)
    (h : v.canonicalJson = w.canonicalJson) : v.sorted = w.sorted :=
  stringify_injective (spelled_sorted v hv) (spelled_sorted w hw) h

/-- What an object has under a key, every object with its canonical form has under it. -/
theorem mem_of_sorted {fields others : List (JsString × JsValue)}
    (h : (JsValue.object fields).sorted = (JsValue.object others).sorted) {key : JsString}
    {value : JsValue} (hmem : (key, value) ∈ fields) :
    ∃ other, (key, other) ∈ others ∧ other.sorted = value.sorted := by
  simp only [sorted, object.injEq] at h
  have hsorted : (key, value.sorted) ∈ (sortedFields fields).insertionSort keyLe := by
    refine (List.perm_insertionSort keyLe _).symm.subset ?_
    rw [sortedFields_eq_map]
    exact List.mem_map.mpr ⟨(key, value), hmem, rfl⟩
  rw [h] at hsorted
  have hother := (List.perm_insertionSort keyLe _).subset hsorted
  rw [sortedFields_eq_map] at hother
  obtain ⟨⟨key', other⟩, hmem', heq⟩ := List.mem_map.mp hother
  obtain ⟨rfl, hvalue⟩ := Prod.mk.inj heq
  exact ⟨other, hmem', hvalue⟩

/-- The same as a lookup; an object that was parsed has each key once. -/
theorem property_of_sorted {fields others : List (JsString × JsValue)}
    (h : (JsValue.object fields).sorted = (JsValue.object others).sorted)
    (hnodup : (others.map Prod.fst).Nodup) (key : String) (value : JsValue)
    (hproperty : property fields key = some value) :
    ∃ other, property others key = some other ∧ other.sorted = value.sorted := by
  obtain ⟨⟨key', value'⟩, hfind, rfl⟩ := Option.map_eq_some_iff.mp hproperty
  have hkey : key' = .ofString key := by
    have hdecide := List.find?_some hfind
    exact of_decide_eq_true hdecide
  subst hkey
  obtain ⟨other, hmem, hother⟩ := mem_of_sorted h (List.mem_of_find?_eq_some hfind)
  refine ⟨other, ?_, hother⟩
  unfold property
  cases hfound : others.find? fun field => decide (field.1 = JsString.ofString key) with
  | none => exact absurd (List.find?_eq_none.mp hfound _ hmem) (by simp)
  | some found =>
    have hsame : found.1 = JsString.ofString key := by
      have hdecide := List.find?_some hfound
      exact of_decide_eq_true hdecide
    have hpair := List.inj_on_of_nodup_map hnodup (List.mem_of_find?_eq_some hfound) hmem hsame
    rw [hpair]
    rfl

end JsValue

/-- A value as it comes from a text: its numbers are written with the characters of a number. -/
abbrev Json : Type := {value : JsValue // value.Spelled}

end Youtick.Relayer
