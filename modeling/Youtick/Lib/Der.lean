import Youtick.Lib.BigEndian

/-!
# Distinguished encoding

A strict reader of tag-length-value elements: a length has one form, as short as it can be
(`readLength_eq_some`), tags are single bytes, and integers and object identifiers have no superfluous
bytes. What is written by `element` is read back (`readElements_element`).
-/

set_option autoImplicit false

namespace Youtick.Lib.Der

/-! ## Lengths -/

/-- The shortest form of a length. -/
def lengthBytes (n : Nat) : Bytes :=
  if n < 128 then [UInt8.ofNat n]
  else UInt8.ofNat (128 + (bigEndian n).length) :: bigEndian n

/-- A length in its shortest form, and what follows it. -/
def readLength : Bytes → Option (Nat × Bytes)
  | [] => none
  | first :: rest =>
    if first.toNat < 128 then some (first.toNat, rest)
    else
      let count := first.toNat - 128
      let digits := rest.take count
      if digits.length = count ∧ count < 127 ∧ digits.head? ≠ some 0 ∧ 128 ≤ bigEndianNumber digits then
        some (bigEndianNumber digits, rest.drop count)
      else none

section Lengths

variable {n : Nat} {bytes rest : Bytes}

/-- A length is read back from its shortest form. -/
theorem readLength_lengthBytes (h : n < 256 ^ 126) :
    readLength (lengthBytes n ++ rest) = some (n, rest) := by
  unfold lengthBytes
  split
  · next hshort =>
      have hbyte : (UInt8.ofNat n).toNat = n := toNat_byte (by omega)
      simp only [List.cons_append, List.nil_append, readLength, hbyte, if_pos hshort]
  · next hlong =>
      have hcount : (bigEndian n).length ≤ 126 := length_bigEndian_le h
      have hbyte : (UInt8.ofNat (128 + (bigEndian n).length)).toNat =
          128 + (bigEndian n).length := toNat_byte (by omega)
      have hdigits : (bigEndian n ++ rest).take (bigEndian n).length = bigEndian n :=
        List.take_left
      have hrest : (bigEndian n ++ rest).drop (bigEndian n).length = rest := List.drop_left
      have hfirst : ¬ 128 + (bigEndian n).length < 128 := by omega
      have hsub : 128 + (bigEndian n).length - 128 = (bigEndian n).length := by omega
      simp only [List.cons_append, readLength, hbyte, if_neg hfirst, hsub, hdigits, hrest,
        bigEndianNumber_bigEndian]
      rw [if_pos]
      exact ⟨trivial, by omega, head_bigEndian n, by omega⟩

/-- No other form of a length is read. -/
theorem readLength_eq_some (h : readLength bytes = some (n, rest)) :
    bytes = lengthBytes n ++ rest := by
  cases bytes with
  | nil => cases h
  | cons first tail =>
    by_cases hshort : first.toNat < 128
    · simp only [readLength, if_pos hshort, Option.some.injEq, Prod.mk.injEq] at h
      obtain ⟨rfl, rfl⟩ := h
      unfold lengthBytes
      rw [if_pos hshort, UInt8.ofNat_toNat]
      rfl
    · simp only [readLength, if_neg hshort, Option.ite_none_right_eq_some, Option.some.injEq,
        Prod.mk.injEq] at h
      obtain ⟨⟨hcount, -, hhead, hlarge⟩, rfl, rfl⟩ := h
      unfold lengthBytes
      rw [if_neg (Nat.not_lt.mpr hlarge), bigEndian_bigEndianNumber hhead, hcount]
      have hbyte : 128 + (first.toNat - 128) = first.toNat := by omega
      rw [hbyte, UInt8.ofNat_toNat, List.cons_append, List.take_append_drop]

end Lengths

/-! ## Elements -/

structure Element where
  tag : UInt8
  content : Bytes
  deriving DecidableEq

/-- One element, and what follows it; its tag is a single byte. -/
def readElement : Bytes → Option (Element × Bytes)
  | [] => none
  | tag :: rest =>
    if tag.toNat % 32 = 31 then none
    else
      match readLength rest with
      | none => none
      | some (length, body) =>
        if length ≤ body.length then some (⟨tag, body.take length⟩, body.drop length) else none

theorem readElement_shortens {bytes rest : Bytes} {element : Element}
    (h : readElement bytes = some (element, rest)) : rest.length < bytes.length := by
  cases bytes with
  | nil => cases h
  | cons tag tail =>
    simp only [readElement, Option.ite_none_left_eq_some] at h
    obtain ⟨-, h⟩ := h
    cases hlength : readLength tail with
    | none =>
      rw [hlength] at h
      cases h
    | some found =>
      obtain ⟨length, body⟩ := found
      simp only [hlength, Option.ite_none_right_eq_some, Option.some.injEq,
        Prod.mk.injEq] at h
      obtain ⟨-, -, rfl⟩ := h
      have htail := congrArg List.length (readLength_eq_some hlength)
      rw [List.length_append] at htail
      rw [List.length_drop, List.length_cons]
      omega

/-- Every element of a content, to its end. -/
def readElements (bytes : Bytes) : Option (List Element) :=
  if bytes = [] then some []
  else
    match h : readElement bytes with
    | none => none
    | some (element, rest) =>
      have : rest.length < bytes.length := readElement_shortens h
      (readElements rest).map (element :: ·)
termination_by bytes.length

/-- An element with its length in the shortest form. -/
def element (tag : UInt8) (content : Bytes) : Bytes :=
  tag :: (lengthBytes content.length ++ content)

section Elements

variable {content : Bytes}

theorem readElement_element (tag : UInt8) (rest : Bytes) (htag : tag.toNat % 32 ≠ 31) (h : content.length < 256 ^ 126) :
    readElement (element tag content ++ rest) = some (⟨tag, content⟩, rest) := by
  have hlength : content.length ≤ (content ++ rest).length := by
    rw [List.length_append]
    exact Nat.le_add_right _ _
  simp only [element, List.cons_append, List.append_assoc, readElement, if_neg htag,
    readLength_lengthBytes h, if_pos hlength, List.take_left, List.drop_left]

theorem readElements_nil : readElements [] = some [] := by
  unfold readElements
  exact if_pos rfl

/-- What was written is read back, element by element. -/
theorem readElements_element (tag : UInt8) (rest : Bytes) (htag : tag.toNat % 32 ≠ 31) (h : content.length < 256 ^ 126) :
    readElements (element tag content ++ rest) =
      (readElements rest).map (⟨tag, content⟩ :: ·) := by
  have hread := readElement_element tag rest htag h
  conv_lhs => unfold readElements
  rw [if_neg (by simp [element])]
  split
  · next hnone =>
      rw [hread] at hnone
      cases hnone
  · next found later hsome =>
      rw [hread] at hsome
      cases hsome
      rfl

end Elements

/-! ## Contents -/

/-- The tags of the universal types that are read here. -/
def integerTag : UInt8 := 0x02
def octetStringTag : UInt8 := 0x04
def nullTag : UInt8 := 0x05
def objectIdentifierTag : UInt8 := 0x06
def sequenceTag : UInt8 := 0x30

/-- An integer in two's complement, with no superfluous first byte. -/
def readInteger : Bytes → Option Int
  | [] => none
  | [first] => some (if first.toNat < 128 then first.toNat else (first.toNat : Int) - 256)
  | first :: second :: rest =>
    if (first = 0 ∧ second.toNat < 128) ∨ (first = 0xff ∧ 128 ≤ second.toNat) then none
    else
      let bytes := first :: second :: rest
      some (if first.toNat < 128 then bigEndianNumber bytes else (bigEndianNumber bytes : Int) - 256 ^ bytes.length)

/-- The arcs of base 128; `arc` is what was read of one, and none before its first byte. -/
def readArcs : Bytes → Option Nat → Option (List Nat)
  | [], none => some []
  | [], some _ => none
  | b :: rest, arc =>
    if arc = none ∧ b = 0x80 then none
    else if b.toNat < 128 then
      (readArcs rest none).map ((arc.getD 0 * 128 + b.toNat) :: ·)
    else readArcs rest (some (arc.getD 0 * 128 + (b.toNat - 128)))

/-- The first two arcs share one number. -/
def readObjectIdentifier (bytes : Bytes) : Option (List Nat) :=
  match readArcs bytes none with
  | some (first :: rest) =>
    let root := min (first / 40) 2
    some (root :: (first - 40 * root) :: rest)
  | _ => none

end Youtick.Lib.Der
