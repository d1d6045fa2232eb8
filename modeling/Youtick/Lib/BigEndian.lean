import Mathlib.Data.Nat.Digits.Lemmas
import Youtick.Lib.Text

/-!
# Big-endian bytes

A number by its bytes, the most significant first. A number has one such list of bytes that begins with
no zero.
-/

set_option autoImplicit false

namespace Youtick.Lib

/-- A number by its big-endian bytes. -/
def bigEndianNumber (bytes : Bytes) : Nat := Nat.ofDigits 256 (bytes.reverse.map UInt8.toNat)

/-- The big-endian bytes of a number, without leading zeros. -/
def bigEndian (n : Nat) : Bytes := ((Nat.digits 256 n).map UInt8.ofNat).reverse

section BigEndian

variable {n : Nat} {bytes : Bytes}

theorem toNat_byte {d : Nat} (h : d < 256) : (UInt8.ofNat d).toNat = d :=
  UInt8.toNat_ofNat_of_lt' h

theorem bigEndianNumber_bigEndian (n : Nat) : bigEndianNumber (bigEndian n) = n := by
  unfold bigEndianNumber bigEndian
  rw [List.reverse_reverse, List.map_map]
  have hsame : (Nat.digits 256 n).map (UInt8.toNat ∘ UInt8.ofNat) = Nat.digits 256 n := by
    conv_rhs => rw [← List.map_id (Nat.digits 256 n)]
    apply List.map_congr_left
    intro d hd
    have hlt : d < 256 := Nat.digits_lt_base (by decide) hd
    exact toNat_byte hlt
  rw [hsame, Nat.ofDigits_digits]

/-- The bytes of a number begin with no zero. -/
theorem head_bigEndian (n : Nat) : (bigEndian n).head? ≠ some 0 := by
  unfold bigEndian
  rw [List.head?_reverse, List.getLast?_map]
  intro hzero
  obtain ⟨d, hd, hbyte⟩ := Option.map_eq_some_iff.mp hzero
  have hmem : d ∈ Nat.digits 256 n := List.mem_of_getLast? hd
  have hlt : d < 256 := Nat.digits_lt_base (by decide) hmem
  have hn : n ≠ 0 := by
    rintro rfl
    rw [Nat.digits_zero] at hmem
    exact List.not_mem_nil hmem
  have hne : Nat.digits 256 n ≠ [] := Nat.digits_ne_nil_iff_ne_zero.mpr hn
  have hlast := List.getLast?_eq_some_getLast hne
  rw [hd] at hlast
  apply Nat.getLast_digit_ne_zero 256 hn
  rw [← Option.some.inj hlast]
  have hvalue := congrArg UInt8.toNat hbyte
  rw [toNat_byte hlt] at hvalue
  exact hvalue

/-- A number has only these bytes, once they begin with no zero. -/
theorem bigEndian_bigEndianNumber (h : bytes.head? ≠ some 0) : bigEndian (bigEndianNumber bytes) = bytes := by
  unfold bigEndian bigEndianNumber
  rw [Nat.digits_ofDigits 256 (by decide)]
  · rw [List.map_map, List.map_reverse, List.reverse_reverse]
    conv_rhs => rw [← List.map_id bytes]
    apply List.map_congr_left
    intro b _
    exact UInt8.ofNat_toNat
  · intro d hd
    obtain ⟨b, -, rfl⟩ := List.mem_map.mp hd
    exact b.toNat_lt
  · intro hne hzero
    apply h
    have hlast := List.getLast?_eq_some_getLast hne
    rw [hzero] at hlast
    rw [List.getLast?_map, List.getLast?_reverse] at hlast
    obtain ⟨b, hb, hbyte⟩ := Option.map_eq_some_iff.mp hlast
    rw [hb]
    exact congrArg some (UInt8.toNat_inj.mp hbyte)

theorem length_bigEndian_le {k : Nat} (h : n < 256 ^ k) : (bigEndian n).length ≤ k := by
  unfold bigEndian
  rw [List.length_reverse, List.length_map]
  exact (Nat.digits_length_le_iff (by decide) n).mpr h

theorem bigEndianNumber_zeros (z : Nat) (bytes : Bytes) :
    bigEndianNumber (List.replicate z 0 ++ bytes) = bigEndianNumber bytes := by
  unfold bigEndianNumber
  rw [List.reverse_append, List.reverse_replicate, List.map_append, List.map_replicate]
  exact Nat.ofDigits_append_replicate_zero _

theorem takeWhile_zeros (bytes : Bytes) :
    bytes.takeWhile (· = 0) = List.replicate (bytes.takeWhile (· = 0)).length 0 := by
  apply List.eq_replicate_of_mem
  intro b hb
  exact of_decide_eq_true (List.all_eq_true.mp List.all_takeWhile b hb)

/-- Leading zeros and the bytes of the number make up the bytes again. -/
theorem zeros_append_bigEndian (bytes : Bytes) :
    List.replicate (bytes.takeWhile (· = 0)).length 0 ++ bigEndian (bigEndianNumber bytes) =
      bytes := by
  have hhead : (bytes.dropWhile (· = 0)).head? ≠ some 0 := by
    intro hzero
    have hnot := List.head?_dropWhile_not (fun b : UInt8 => decide (b = 0)) bytes
    rw [hzero] at hnot
    exact absurd hnot (by decide)
  have hsplit := List.takeWhile_append_dropWhile (p := fun b : UInt8 => decide (b = 0)) (l := bytes)
  have hnumber : bigEndianNumber bytes = bigEndianNumber (bytes.dropWhile (· = 0)) := by
    conv_lhs => rw [← hsplit, takeWhile_zeros, bigEndianNumber_zeros]
  rw [hnumber, bigEndian_bigEndianNumber hhead, ← takeWhile_zeros, hsplit]

end BigEndian

end Youtick.Lib
