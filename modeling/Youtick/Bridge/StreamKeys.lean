import Youtick.Lib.Der

/-!
# Bridge: signing keys of the stream provider

The provider gives a key as PKCS #1; the browser's crypto imports PKCS #8, so
`cloudflare-stream-provider.ts` puts the key into a `PrivateKeyInfo` by hand. A strict reader gets back
the version, the algorithm and the very bytes of the key (`pkcs1ToPkcs8_read`).
-/

set_option autoImplicit false

namespace Youtick.Bridge

open Youtick.Lib

/-! ## The source -/

/-- The loop of `derLength`, which puts every next byte before the others. -/
def derLengthBytes (remaining : Nat) (bytes : List Nat) : List Nat :=
  if remaining = 0 then bytes
  else derLengthBytes (remaining / 256) (remaining % 256 :: bytes)
termination_by remaining
decreasing_by omega

def derLength (length : Nat) : List Nat :=
  if length < 0x80 then [length]
  else
    let bytes := derLengthBytes length []
    (0x80 ||| bytes.length) :: bytes

/-- `Uint8Array.from` -/
def uint8Array (values : List Nat) : Bytes := values.map UInt8.ofNat

def pkcs1ToPkcs8 (pkcs1 : Bytes) : Bytes :=
  let version := uint8Array [0x02, 0x01, 0x00]
  let algorithm := uint8Array
    [0x30, 0x0d, 0x06, 0x09, 0x2a, 0x86, 0x48, 0x86, 0xf7, 0x0d, 0x01, 0x01, 0x01, 0x05, 0x00]
  let octets := uint8Array (0x04 :: derLength pkcs1.length) ++ pkcs1
  let body := version ++ algorithm ++ octets
  uint8Array (0x30 :: derLength body.length) ++ body

/-! ## What a strict reader reads -/

/-- `PrivateKeyInfo` with an algorithm whose parameters are NULL. -/
structure PrivateKeyInfo where
  version : Int
  algorithm : List Nat
  privateKey : Bytes

/-- `AlgorithmIdentifier` with NULL. -/
def readAlgorithm (content : Bytes) : Option (List Nat) :=
  match Der.readElements content with
  | some [identifier, parameters] =>
    if identifier.tag = Der.objectIdentifierTag ∧ parameters = ⟨Der.nullTag, []⟩ then
      Der.readObjectIdentifier identifier.content
    else none
  | _ => none

def readPrivateKeyInfo (bytes : Bytes) : Option PrivateKeyInfo :=
  match Der.readElement bytes with
  | some (info, []) =>
    if info.tag ≠ Der.sequenceTag then none
    else
      match Der.readElements info.content with
      | some [version, algorithm, privateKey] =>
        if version.tag = Der.integerTag ∧ algorithm.tag = Der.sequenceTag ∧
            privateKey.tag = Der.octetStringTag then
          match Der.readInteger version.content, readAlgorithm algorithm.content with
          | some number, some identifier => some ⟨number, identifier, privateKey.content⟩
          | _, _ => none
        else none
      | _ => none
  | _ => none

/-- The arcs of `rsaEncryption`. -/
def rsaEncryption : List Nat := [1, 2, 840, 113549, 1, 1, 1]

section Length

variable {n : Nat}

theorem derLengthBytes_eq (remaining : Nat) (bytes : List Nat) :
    derLengthBytes remaining bytes = (Nat.digits 256 remaining).reverse ++ bytes := by
  induction remaining using Nat.strongRecOn generalizing bytes with
  | ind remaining ih =>
    unfold derLengthBytes
    split
    · next hzero =>
        rw [hzero, Nat.digits_zero]
        rfl
    · next hpos =>
        rw [ih (remaining / 256) (by omega),
          Nat.digits_def' (by decide : 1 < 256) (Nat.pos_of_ne_zero hpos), List.reverse_cons,
          List.append_assoc]
        rfl

/-- The loop writes a length in its shortest form. -/
theorem derLength_eq (h : n < 256 ^ 126) : uint8Array (derLength n) = Der.lengthBytes n := by
  unfold derLength Der.lengthBytes
  split
  · rfl
  · have hbytes : (derLengthBytes n []).map UInt8.ofNat = bigEndian n := by
      rw [derLengthBytes_eq, List.append_nil, List.map_reverse]
      rfl
    have hlength : (derLengthBytes n []).length = (bigEndian n).length := by
      rw [← hbytes, List.length_map]
    have hcount : (bigEndian n).length ≤ 126 := length_bigEndian_le h
    have hfirst : 0x80 ||| (derLengthBytes n []).length = 128 + (bigEndian n).length := by
      rw [hlength]
      exact (Nat.two_pow_add_eq_or_of_lt (i := 7) (by omega) 1).symm
    dsimp only
    rw [uint8Array, List.map_cons, hbytes, hfirst]

end Length

/-- An element as the source writes one. -/
theorem element_eq (tag : Nat) {content : Bytes} (h : content.length < 256 ^ 126) :
    uint8Array (tag :: derLength content.length) ++ content =
      Der.element (UInt8.ofNat tag) content := by
  unfold Der.element
  rw [← derLength_eq h]
  rfl

theorem length_element_le (tag : UInt8) {content : Bytes} (h : content.length < 256 ^ 126) :
    (Der.element tag content).length ≤ content.length + 128 := by
  have hlength : (Der.lengthBytes content.length).length ≤ 127 := by
    unfold Der.lengthBytes
    split
    · exact (by decide : 1 ≤ 127)
    · exact Nat.succ_le_succ (length_bigEndian_le h)
  simp only [Der.element, List.length_cons, List.length_append]
  omega

/-- The key after a version and an algorithm, in one sequence. -/
theorem pkcs1ToPkcs8_eq {pkcs1 : Bytes} (h : pkcs1.length < 2 ^ 32) :
    pkcs1ToPkcs8 pkcs1 = Der.element Der.sequenceTag
      (Der.element Der.integerTag [0x00] ++
        (Der.element Der.sequenceTag
          (Der.element Der.objectIdentifierTag
            [0x2a, 0x86, 0x48, 0x86, 0xf7, 0x0d, 0x01, 0x01, 0x01] ++
            Der.element Der.nullTag []) ++
          Der.element Der.octetStringTag pkcs1)) := by
  have hbound : 2 ^ 32 + 2 ^ 8 < 256 ^ 126 := by decide
  have hkey : pkcs1.length < 256 ^ 126 := by omega
  have hversion : uint8Array [0x02, 0x01, 0x00] = Der.element Der.integerTag [0x00] := rfl
  have halgorithm : uint8Array [0x30, 0x0d, 0x06, 0x09, 0x2a, 0x86, 0x48, 0x86, 0xf7, 0x0d, 0x01,
      0x01, 0x01, 0x05, 0x00] = Der.element Der.sequenceTag
        (Der.element Der.objectIdentifierTag
          [0x2a, 0x86, 0x48, 0x86, 0xf7, 0x0d, 0x01, 0x01, 0x01] ++
          Der.element Der.nullTag []) := rfl
  have hoctets := element_eq 0x04 hkey
  unfold pkcs1ToPkcs8
  dsimp only
  rw [hoctets, hversion, halgorithm, element_eq, List.append_assoc]
  · rfl
  · have hoctet := length_element_le (UInt8.ofNat 0x04) hkey
    have hfixed : (Der.element Der.integerTag [0x00] ++ Der.element Der.sequenceTag
        (Der.element Der.objectIdentifierTag
          [0x2a, 0x86, 0x48, 0x86, 0xf7, 0x0d, 0x01, 0x01, 0x01] ++
          Der.element Der.nullTag [])).length = 18 := rfl
    rw [List.length_append, hfixed]
    omega

/-- The content of the algorithm's sequence. -/
def algorithmContent : Bytes :=
  Der.element Der.objectIdentifierTag [0x2a, 0x86, 0x48, 0x86, 0xf7, 0x0d, 0x01, 0x01, 0x01] ++
    Der.element Der.nullTag []

theorem length_lt {content : Bytes} (h : content.length < 128) : content.length < 256 ^ 126 :=
  h.trans (by decide)

theorem readAlgorithm_content : readAlgorithm algorithmContent = some rsaEncryption := by
  have hempty : ([] : Bytes).length < 128 := by decide
  have hnull := Der.readElements_element Der.nullTag [] (by decide) (length_lt hempty)
  rw [List.append_nil, Der.readElements_nil] at hnull
  unfold readAlgorithm algorithmContent
  rw [Der.readElements_element _ _ (by decide) (length_lt (by decide)), hnull]
  rfl

/-- A strict reader gets back version 0, the algorithm with NULL and the key, to the end of the output;
and the forms of the lengths that it reads are the only ones. -/
theorem pkcs1ToPkcs8_read {pkcs1 : Bytes} (h : pkcs1.length < 2 ^ 32) :
    readPrivateKeyInfo (pkcs1ToPkcs8 pkcs1) = some ⟨0, rsaEncryption, pkcs1⟩ ∧
      ∀ form rest n, Der.readLength (form ++ rest) = some (n, rest) → form = Der.lengthBytes n := by
  have hbound : 2 ^ 32 + 2 ^ 8 < 256 ^ 126 := by decide
  have hkey : pkcs1.length < 256 ^ 126 := by omega
  have hcontent : algorithmContent.length < 128 := by decide
  constructor
  · have hbody : (Der.element Der.integerTag [0x00] ++
        (Der.element Der.sequenceTag algorithmContent ++
          Der.element Der.octetStringTag pkcs1)).length < 256 ^ 126 := by
      have hoctet := length_element_le Der.octetStringTag hkey
      have hfixed : (Der.element Der.integerTag [0x00] ++
          Der.element Der.sequenceTag algorithmContent).length = 18 := rfl
      rw [← List.append_assoc, List.length_append, hfixed]
      omega
    have houter := Der.readElement_element Der.sequenceTag [] (by decide) hbody
    rw [List.append_nil] at houter
    have hinner : Der.readElements (Der.element Der.integerTag [0x00] ++
        (Der.element Der.sequenceTag algorithmContent ++
          Der.element Der.octetStringTag pkcs1)) =
        some [⟨Der.integerTag, [0x00]⟩, ⟨Der.sequenceTag, algorithmContent⟩,
          ⟨Der.octetStringTag, pkcs1⟩] := by
      have hlast := Der.readElements_element Der.octetStringTag [] (by decide) hkey
      rw [List.append_nil, Der.readElements_nil] at hlast
      rw [Der.readElements_element _ _ (by decide) (length_lt (by decide)),
        Der.readElements_element _ _ (by decide) (length_lt hcontent), hlast]
      rfl
    rw [pkcs1ToPkcs8_eq h]
    change readPrivateKeyInfo (Der.element Der.sequenceTag (Der.element Der.integerTag [0x00] ++
      (Der.element Der.sequenceTag algorithmContent ++
        Der.element Der.octetStringTag pkcs1))) = _
    simp only [readPrivateKeyInfo, houter, hinner, readAlgorithm_content]
    rfl
  · intro form rest n hread
    exact List.append_cancel_right (Der.readLength_eq_some hread)

/-- A key of 200 bytes, whose lengths are long forms. -/
theorem pkcs1ToPkcs8_read_long :
    (List.replicate 200 (0x2a : UInt8)).length < 2 ^ 32 ∧
      readPrivateKeyInfo (pkcs1ToPkcs8 (List.replicate 200 0x2a)) =
        some ⟨0, rsaEncryption, List.replicate 200 0x2a⟩ := by
  have hlength : (List.replicate 200 (0x2a : UInt8)).length < 2 ^ 32 := by
    rw [List.length_replicate]
    decide
  exact ⟨hlength, (pkcs1ToPkcs8_read hlength).1⟩

end Youtick.Bridge
