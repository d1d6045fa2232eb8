import Youtick.Lib.LookupMap
import Youtick.Lib.Text

/-!
# Records in one flat key space

Records of several kinds kept in one store of byte strings: a record's key is the tag of its kind
followed by what the kind writes for it. Where no tag is the beginning of another and every kind
writes different texts for different records, keys determine records (`flatKey_injective`), and a
write under one record's key is seen by that record only (`read_insert`), as if every kind had a
store of its own.

Numbers of a fixed width are written with the low byte first.
-/

set_option autoImplicit false

namespace Youtick.Lib

namespace Keyspace

variable {α ι ρ ν : Type}

/-- No tag begins another one. -/
def TagFree (tag : ι → List α) : Prop := ∀ i j, tag i <+: tag j → i = j

/-- The key of a record, where its kind can write it. -/
def flatKey (tag : ι → List α) (kind : ρ → ι) (rest : ρ → Option (List α)) (r : ρ) :
    Option (List α) :=
  (rest r).map fun written => tag (kind r) ++ written

/-- Tags that begin the same key are the same tag. -/
theorem TagFree.eq_of_append {tag : ι → List α} (h : TagFree tag) {i j : ι} {xs ys : List α}
    (heq : tag i ++ xs = tag j ++ ys) : i = j := by
  have hi : tag i <+: tag j ++ ys := heq ▸ List.prefix_append _ _
  rcases List.prefix_or_prefix_of_prefix hi (List.prefix_append _ _) with hij | hji
  · exact h i j hij
  · exact (h j i hji).symm

theorem flatKey_injective {tag : ι → List α} {kind : ρ → ι} {rest : ρ → Option (List α)}
    (htag : TagFree tag)
    (hrest : ∀ r s written, kind r = kind s → rest r = some written → rest s = some written → r = s)
    {r s : ρ} {key : List α} (hr : flatKey tag kind rest r = some key)
    (hs : flatKey tag kind rest s = some key) : r = s := by
  obtain ⟨written, hwritten, rfl⟩ := Option.map_eq_some_iff.mp hr
  obtain ⟨written', hwritten', heq⟩ := Option.map_eq_some_iff.mp hs
  have hkind := htag.eq_of_append heq.symm
  rw [hkind] at heq
  rw [List.append_cancel_left heq] at hwritten'
  exact hrest r s written hkind hwritten hwritten'

section Store

variable [DecidableEq α]

/-- What is stored for a record. -/
def read (key : ρ → Option (List α)) (store : LookupMap (List α) ν) (r : ρ) : Option ν :=
  (key r).bind store.get

/-- A write for one record changes what is stored for that record only. -/
theorem read_insert {key : ρ → Option (List α)}
    (hkey : ∀ r s k, key r = some k → key s = some k → r = s) {r : ρ} {k : List α}
    (hr : key r = some k) (store : LookupMap (List α) ν) (v : ν) :
    read key (store.insert k v) r = some v ∧
      ∀ s, s ≠ r → read key (store.insert k v) s = read key store s := by
  constructor
  · rw [read, hr]
    exact LookupMap.get_insert_self store k v
  · intro s hne
    unfold read
    cases hs : key s with
    | none => rfl
    | some k' =>
      have hdiffer : k' ≠ k := by
        rintro rfl
        exact hne (hkey s r k' hs hr)
      rw [Option.bind_some, Option.bind_some, LookupMap.get_insert, if_neg hdiffer]

/-- And so does the removal of its entry. -/
theorem read_remove {key : ρ → Option (List α)}
    (hkey : ∀ r s k, key r = some k → key s = some k → r = s) {r : ρ} {k : List α}
    (hr : key r = some k) (store : LookupMap (List α) ν) :
    read key (store.remove k) r = none ∧
      ∀ s, s ≠ r → read key (store.remove k) s = read key store s := by
  constructor
  · rw [read, hr]
    exact LookupMap.get_remove_self store k
  · intro s hne
    unfold read
    cases hs : key s with
    | none => rfl
    | some k' =>
      have hdiffer : k' ≠ k := by
        rintro rfl
        exact hne (hkey s r k' hs hr)
      rw [Option.bind_some, Option.bind_some, LookupMap.get_remove_of_ne store hdiffer]

end Store

/-! ## Numbers of a fixed width -/

/-- The low `width` bytes of a number, lowest first. -/
def littleEndian : (width n : Nat) → Bytes
  | 0, _ => []
  | width + 1, n => UInt8.ofNat n :: littleEndian width (n / 256)

@[simp] theorem length_littleEndian (width n : Nat) : (littleEndian width n).length = width := by
  induction width generalizing n with
  | zero => rfl
  | succ width ih => rw [littleEndian, List.length_cons, ih]

theorem littleEndian_injective {width m n : Nat} (hm : m < 256 ^ width) (hn : n < 256 ^ width)
    (h : littleEndian width m = littleEndian width n) : m = n := by
  induction width generalizing m n with
  | zero => omega
  | succ width ih =>
    obtain ⟨hlow, hhigh⟩ := List.cons.inj h
    have hmod : m % 256 = n % 256 := congrArg UInt8.toNat hlow
    rw [Nat.pow_succ] at hm hn
    have hdiv : m / 256 = n / 256 := by
      apply ih ?_ ?_ hhigh
      · exact Nat.div_lt_of_lt_mul (by omega)
      · exact Nat.div_lt_of_lt_mul (by omega)
    omega

end Keyspace

end Youtick.Lib
