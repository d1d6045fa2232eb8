import Youtick.Lib.Text

/-!
# Composite keys

A composite key joins several fields with a separator character. When the last field does not
contain the separator, the key can be split at its last separator (`append_colon_injective`), so a
key of several such fields is read from the right. Numbers and hex texts contain no separator; a
first field may contain any number of them.
-/

set_option autoImplicit false

namespace Youtick.Lib

/-- The separator does not occur in the field. -/
def NoColon (field : String) : Prop := ':' ∉ field.toList

instance (field : String) : Decidable (NoColon field) := inferInstanceAs (Decidable (_ ∉ _))

/-- Two lists split at the last occurrence of a character. -/
theorem append_last_injective {α : Type} {c : α} {xs ys us vs : List α} (hu : c ∉ us) (hv : c ∉ vs)
    (h : xs ++ c :: us = ys ++ c :: vs) : xs = ys ∧ us = vs := by
  induction xs generalizing ys with
  | nil =>
    cases ys with
    | nil => exact ⟨rfl, (List.cons.inj h).2⟩
    | cons d ys =>
      have htail : us = ys ++ c :: vs := (List.cons.inj h).2
      exact absurd (htail ▸ List.mem_append_right _ List.mem_cons_self) hu
  | cons x xs ih =>
    cases ys with
    | nil =>
      have htail : xs ++ c :: us = vs := (List.cons.inj h).2
      exact absurd (htail ▸ List.mem_append_right _ List.mem_cons_self) hv
    | cons d ys =>
      obtain ⟨rfl, hrest⟩ := List.cons.inj h
      obtain ⟨rfl, rfl⟩ := ih hrest
      exact ⟨rfl, rfl⟩

/-- A key splits at its last separator. -/
theorem append_colon_injective {a b x y : String} (hx : NoColon x) (hy : NoColon y)
    (h : a ++ ":" ++ x = b ++ ":" ++ y) : a = b ∧ x = y := by
  have hlist := congrArg String.toList h
  simp only [String.toList_append] at hlist
  have hsplit : a.toList ++ ':' :: x.toList = b.toList ++ ':' :: y.toList := by
    simpa using hlist
  obtain ⟨ha, hx⟩ := append_last_injective hx hy hsplit
  exact ⟨String.toList_inj.mp ha, String.toList_inj.mp hx⟩

/-- A key splits at its first separator as well. -/
theorem append_colon_injective_left {a b x y : String} (ha : NoColon a) (hb : NoColon b)
    (h : a ++ ":" ++ x = b ++ ":" ++ y) : a = b ∧ x = y := by
  have hlist := congrArg (fun text => text.toList.reverse) h
  simp only [String.toList_append, List.reverse_append, List.append_assoc] at hlist
  have hsplit : x.toList.reverse ++ ':' :: a.toList.reverse =
      y.toList.reverse ++ ':' :: b.toList.reverse := by
    simpa using hlist
  obtain ⟨hx, hab⟩ := append_last_injective (by simpa [NoColon] using ha)
    (by simpa [NoColon] using hb) hsplit
  exact ⟨String.toList_inj.mp (List.reverse_injective hab),
    String.toList_inj.mp (List.reverse_injective hx)⟩

theorem noColon_of_all {p : Char → Bool} (hp : p ':' = false) {field : String}
    (h : field.toList.all p = true) : NoColon field := by
  intro hmem
  have hcolon := List.all_eq_true.mp h _ hmem
  rw [hp] at hcolon
  cases hcolon

theorem decimal_all_digits (n : Nat) : (decimal n).toList.all isAsciiDigit = true := by
  have htext : (decimal n).toList = Nat.toDigits 10 n := by
    rw [decimal, Nat.repr_eq_ofList_toDigits, String.toList_ofList]
  rw [htext, List.all_eq_true]
  intro c hc
  have hdigit := Nat.isDigit_of_mem_toDigits (by decide) (by decide) hc
  simp only [Char.isDigit, Bool.and_eq_true, decide_eq_true_eq] at hdigit
  simp only [isAsciiDigit, Bool.and_eq_true, decide_eq_true_eq]
  exact hdigit

theorem noColon_decimal (n : Nat) : NoColon (decimal n) :=
  noColon_of_all (by decide) (decimal_all_digits n)

/-- A key whose last field is a number. -/
theorem append_decimal_injective {a b : String} {m n : Nat}
    (h : a ++ ":" ++ decimal m = b ++ ":" ++ decimal n) : a = b ∧ m = n := by
  obtain ⟨hab, hmn⟩ := append_colon_injective (noColon_decimal m) (noColon_decimal n) h
  exact ⟨hab, decimal_injective hmn⟩

/-- The hex digits are digits and the letters `a` to `f`. -/
def isLowerHex (c : Char) : Bool := isAsciiDigit c || ('a' ≤ c && c ≤ 'f')

theorem isLowerHex_hexDigit {n : Nat} (h : n < 16) : isLowerHex (hexDigit n) = true := by
  revert n
  decide

theorem hex_toList (bytes : Bytes) : (hex bytes).toList =
    bytes.flatMap fun b => [hexDigit (b.toNat / 16), hexDigit (b.toNat % 16)] := by
  rw [hex, String.toList_ofList]

theorem hex_all (bytes : Bytes) : (hex bytes).toList.all isLowerHex = true := by
  rw [hex_toList, List.all_eq_true]
  intro c hc
  obtain ⟨b, -, hc⟩ := List.mem_flatMap.mp hc
  have hb : b.toNat < 256 := b.toNat_lt
  rcases List.mem_cons.mp hc with rfl | hc
  · exact isLowerHex_hexDigit (by omega)
  · obtain rfl := List.mem_singleton.mp hc
    exact isLowerHex_hexDigit (Nat.mod_lt _ (by decide))

/-- Two digits a byte. -/
theorem hex_length (bytes : Bytes) : (hex bytes).toList.length = 2 * bytes.length := by
  rw [hex_toList]
  induction bytes with
  | nil => rfl
  | cons b bytes ih =>
    rw [List.flatMap_cons, List.length_append, ih, List.length_cons]
    simp only [List.length_cons, List.length_nil]
    omega

theorem noColon_hex (bytes : Bytes) : NoColon (hex bytes) :=
  noColon_of_all (by decide) (hex_all bytes)

end Youtick.Lib
