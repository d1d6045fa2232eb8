import Mathlib.Data.List.DropRight
import Youtick.Lib.Text

/-!
# Base64, strict and forgiving

Two decoders of the standard alphabet. `standardDecode` takes canonical encodings only: padding to
a multiple of four characters, and no bits set beyond the last byte. `forgivingDecode` is the web
platform's: it skips ASCII white space, takes unpadded input, and ignores the bits beyond the last
byte. On padded text the two differ exactly in those unused bits (`standardDecode_eq_some`).
-/

set_option autoImplicit false

namespace Youtick.Lib.Base64

/-- The six bits of a character of the alphabet. -/
def sextet (c : Char) : Option Nat :=
  if 'A' ≤ c ∧ c ≤ 'Z' then some (c.toNat - 65)
  else if 'a' ≤ c ∧ c ≤ 'z' then some (c.toNat - 71)
  else if '0' ≤ c ∧ c ≤ '9' then some (c.toNat + 4)
  else if c = '+' then some 62
  else if c = '/' then some 63
  else none

/-- Four sextets are three bytes; a shorter last group leaves unused bits, which are returned. -/
def groups : List Nat → Option (Bytes × Nat)
  | [] => some ([], 0)
  | [_] => none
  | [a, b] => some ([UInt8.ofNat (a * 4 + b / 16)], b % 16)
  | [a, b, c] =>
    some ([UInt8.ofNat (a * 4 + b / 16), UInt8.ofNat (b % 16 * 16 + c / 4)], c % 4)
  | a :: b :: c :: d :: rest =>
    (groups rest).map fun decoded =>
      (UInt8.ofNat (a * 4 + b / 16) :: UInt8.ofNat (b % 16 * 16 + c / 4) ::
        UInt8.ofNat (c % 4 * 64 + d) :: decoded.1, decoded.2)

/-- Without one or two padding characters at the end. -/
def dropPadding (cs : List Char) : List Char :=
  if ['=', '='].isSuffixOf cs then cs.take (cs.length - 2)
  else if ['='].isSuffixOf cs then cs.take (cs.length - 1)
  else cs

/-- The bytes and the unused bits of unpadded characters. -/
def decodeBody (cs : List Char) : Option (Bytes × Nat) := (cs.mapM sextet).bind groups

def isAsciiSpace (c : Char) : Bool :=
  c == ' ' || c == '\t' || c == '\n' || c == '\r' || c == Char.ofNat 12

def forgivingDecode (text : String) : Option Bytes :=
  let cs := text.toList.filter fun c => !isAsciiSpace c
  let body := if cs.length % 4 = 0 then dropPadding cs else cs
  (decodeBody body).map (·.1)

def standardDecode (text : String) : Option Bytes :=
  if text.toList.length % 4 = 0 then
    (decodeBody (dropPadding text.toList)).bind fun decoded =>
      if decoded.2 = 0 then some decoded.1 else none
  else none

/-- Padded to a multiple of four, and free of white space. -/
def Padded (text : String) : Prop :=
  text.toList.length % 4 = 0 ∧ ∀ c ∈ text.toList, isAsciiSpace c = false

/-- No bit is set beyond the last byte. -/
def Canonical (text : String) : Prop :=
  ∃ bytes, decodeBody (dropPadding text.toList) = some (bytes, 0)

instance (text : String) : Decidable (Canonical text) :=
  match h : decodeBody (dropPadding text.toList) with
  | none => isFalse (by simp [Canonical, h])
  | some (bytes, left) =>
    if hleft : left = 0 then isTrue ⟨bytes, hleft ▸ h⟩
    else isFalse (by simp [Canonical, h, hleft])

variable {text : String} {bytes : Bytes}

theorem forgivingDecode_of_padded (h : Padded text) :
    forgivingDecode text = (decodeBody (dropPadding text.toList)).map (·.1) := by
  have hfilter : (text.toList.filter fun c => !isAsciiSpace c) = text.toList := by
    rw [List.filter_eq_self]
    intro c hc
    rw [h.2 c hc]
    rfl
  simp only [forgivingDecode, hfilter, if_pos h.1]

/-- On padded text the strict decoder is the forgiving one, restricted to canonical text. -/
theorem standardDecode_eq_some (h : Padded text) :
    standardDecode text = some bytes ↔ forgivingDecode text = some bytes ∧ Canonical text := by
  rw [forgivingDecode_of_padded h, standardDecode, if_pos h.1]
  constructor
  · intro hdecode
    obtain ⟨⟨_, left⟩, hbody, hdecode⟩ := Option.bind_eq_some_iff.mp hdecode
    obtain ⟨hleft, hbytes⟩ := Option.ite_none_right_eq_some.mp hdecode
    cases hbytes
    obtain rfl : left = 0 := hleft
    exact ⟨Option.map_eq_some_iff.mpr ⟨_, hbody, rfl⟩, _, hbody⟩
  · rintro ⟨hdecode, canonical, hbody⟩
    obtain ⟨_, hbody', rfl⟩ := Option.map_eq_some_iff.mp hdecode
    obtain rfl := Option.some.inj (hbody'.symm.trans hbody)
    rw [hbody]
    rfl

/-- Characters of the alphabet have one sextet each. -/
theorem mapM_sextet {cs : List Char} (h : ∀ c ∈ cs, (sextet c).isSome = true) :
    ∃ sextets, cs.mapM sextet = some sextets ∧ sextets.length = cs.length := by
  induction cs with
  | nil => exact ⟨[], rfl, rfl⟩
  | cons c cs ih =>
    obtain ⟨sextets, hsextets, hlength⟩ := ih fun x hx => h x (List.mem_cons_of_mem _ hx)
    obtain ⟨value, hvalue⟩ := Option.isSome_iff_exists.mp (h c List.mem_cons_self)
    refine ⟨value :: sextets, ?_, congrArg (· + 1) hlength⟩
    rw [List.mapM_cons, hvalue, hsextets]
    rfl

/-- How many bytes a number of sextets gives. -/
theorem groups_length {sextets : List Nat} {decoded : Bytes × Nat}
    (h : groups sextets = some decoded) : decoded.1.length = sextets.length * 3 / 4 := by
  induction sextets using groups.induct generalizing decoded with
  | case1 | case3 | case4 =>
    cases h
    simp
  | case2 => cases h
  | case5 a b c d rest ih =>
    obtain ⟨decoded', hrest, rfl⟩ := Option.map_eq_some_iff.mp h
    have hlength := ih hrest
    simp only [List.length_cons]
    omega

/-- Every group but a single sextet decodes. -/
theorem groups_isSome (sextets : List Nat) (h : sextets.length % 4 ≠ 1) :
    ∃ decoded, groups sextets = some decoded := by
  induction sextets using groups.induct with
  | case1 | case3 | case4 => exact ⟨_, rfl⟩
  | case2 => exact absurd rfl h
  | case5 a b c d rest ih =>
    simp only [List.length_cons] at h
    obtain ⟨decoded, hrest⟩ := ih (by omega)
    exact ⟨_, by rw [groups, hrest]; rfl⟩

/-! ## Encoding -/

/-- The character of six bits. -/
def letter (n : Nat) : Char :=
  if n < 26 then Char.ofNat (n + 65)
  else if n < 52 then Char.ofNat (n + 71)
  else if n < 62 then Char.ofNat (n - 4)
  else if n = 62 then '+'
  else '/'

/-- Three bytes are four letters; a shorter last group is padded. -/
def letters : Bytes → List Char
  | [] => []
  | [a] => [letter (a.toNat / 4), letter (a.toNat % 4 * 16), '=', '=']
  | [a, b] =>
    [letter (a.toNat / 4), letter (a.toNat % 4 * 16 + b.toNat / 16), letter (b.toNat % 16 * 4), '=']
  | a :: b :: c :: rest =>
    letter (a.toNat / 4) :: letter (a.toNat % 4 * 16 + b.toNat / 16) ::
      letter (b.toNat % 16 * 4 + c.toNat / 64) :: letter (c.toNat % 64) :: letters rest

def encode (bytes : Bytes) : String := String.ofList (letters bytes)

theorem letter_of_sextet {c : Char} {n : Nat} (h : sextet c = some n) : letter n = c ∧ n < 64 := by
  unfold sextet at h
  unfold letter
  split at h
  · next hrange =>
      obtain rfl := Option.some.inj h
      have hlow : 65 ≤ c.toNat := hrange.1
      have hhigh : c.toNat ≤ 90 := hrange.2
      rw [if_pos (by omega), Nat.sub_add_cancel hlow, Char.ofNat_toNat]
      exact ⟨rfl, by omega⟩
  · split at h
    · next hrange =>
        obtain rfl := Option.some.inj h
        have hlow : 97 ≤ c.toNat := hrange.1
        have hhigh : c.toNat ≤ 122 := hrange.2
        rw [if_neg (by omega), if_pos (by omega), Nat.sub_add_cancel (by omega), Char.ofNat_toNat]
        exact ⟨rfl, by omega⟩
    · split at h
      · next hrange =>
          obtain rfl := Option.some.inj h
          have hlow : 48 ≤ c.toNat := hrange.1
          have hhigh : c.toNat ≤ 57 := hrange.2
          rw [if_neg (by omega), if_neg (by omega), if_pos (by omega), Nat.add_sub_cancel,
            Char.ofNat_toNat]
          exact ⟨rfl, by omega⟩
      · split at h
        · next hplus =>
            obtain rfl := Option.some.inj h
            exact ⟨hplus ▸ rfl, by decide⟩
        · split at h
          · next hslash =>
              obtain rfl := Option.some.inj h
              exact ⟨hslash ▸ rfl, by decide⟩
          · cases h

theorem letter_injective {m n : Nat} (hm : m < 64) (hn : n < 64) (h : letter m = letter n) :
    m = n := by
  have hsextet : ∀ k < 64, sextet (letter k) = some k := by decide
  exact Option.some.inj ((hsextet m hm).symm.trans ((congrArg sextet h).trans (hsextet n hn)))

theorem letters_of_sextets {cs : List Char} {sextets : List Nat}
    (h : cs.mapM sextet = some sextets) : sextets.map letter = cs ∧ ∀ n ∈ sextets, n < 64 := by
  induction cs generalizing sextets with
  | nil =>
    obtain rfl := Option.some.inj h
    exact ⟨rfl, by simp⟩
  | cons c cs ih =>
    rw [List.mapM_cons] at h
    obtain ⟨n, hn, h⟩ := Option.bind_eq_some_iff.mp h
    obtain ⟨rest, hrest, h⟩ := Option.bind_eq_some_iff.mp h
    obtain rfl := Option.some.inj h
    obtain ⟨hletter, hlt⟩ := letter_of_sextet hn
    obtain ⟨hletters, hall⟩ := ih hrest
    exact ⟨by rw [List.map_cons, hletter, hletters], List.forall_mem_cons.mpr ⟨hlt, hall⟩⟩

/-- Encoding what was decoded gives the text back exactly when no unused bit was set. -/
theorem letters_groups (sextets : List Nat) {bytes : Bytes} {left : Nat}
    (h : groups sextets = some (bytes, left)) (hlt : ∀ n ∈ sextets, n < 64) :
    letters bytes = sextets.map letter ++ List.replicate ((4 - sextets.length % 4) % 4) '=' ↔
      left = 0 := by
  induction sextets using groups.induct generalizing bytes left with
  | case1 =>
    obtain ⟨rfl, rfl⟩ := Prod.mk.inj (Option.some.inj h)
    simp [letters]
  | case2 => cases h
  | case3 a b =>
    obtain ⟨rfl, rfl⟩ := Prod.mk.inj (Option.some.inj h)
    have ha : a < 64 := hlt a (by simp)
    have hb : b < 64 := hlt b (by simp)
    have hbyte : (UInt8.ofNat (a * 4 + b / 16)).toNat = a * 4 + b / 16 :=
      UInt8.toNat_ofNat_of_lt' (by show _ < 256; omega)
    have hfirst : (a * 4 + b / 16) / 4 = a := by omega
    have hsecond : (a * 4 + b / 16) % 4 * 16 = b / 16 * 16 := by omega
    simp only [letters, hbyte, hfirst, hsecond, List.map_cons, List.map_nil, List.length_cons,
      List.length_nil, List.replicate, List.cons_append, List.nil_append, List.cons.injEq,
      true_and, and_true]
    constructor
    · intro heq
      have := letter_injective (by omega) hb heq
      omega
    · intro hzero
      rw [show b / 16 * 16 = b by omega]
  | case4 a b c =>
    obtain ⟨rfl, rfl⟩ := Prod.mk.inj (Option.some.inj h)
    have ha : a < 64 := hlt a (by simp)
    have hb : b < 64 := hlt b (by simp)
    have hc : c < 64 := hlt c (by simp)
    have hbyte : (UInt8.ofNat (a * 4 + b / 16)).toNat = a * 4 + b / 16 :=
      UInt8.toNat_ofNat_of_lt' (by show _ < 256; omega)
    have hnext : (UInt8.ofNat (b % 16 * 16 + c / 4)).toNat = b % 16 * 16 + c / 4 :=
      UInt8.toNat_ofNat_of_lt' (by show _ < 256; omega)
    have hfirst : (a * 4 + b / 16) / 4 = a := by omega
    have hsecond : (a * 4 + b / 16) % 4 * 16 + (b % 16 * 16 + c / 4) / 16 = b := by omega
    have hthird : (b % 16 * 16 + c / 4) % 16 * 4 = c / 4 * 4 := by omega
    simp only [letters, hbyte, hnext, hfirst, hsecond, hthird, List.map_cons, List.map_nil,
      List.length_cons, List.length_nil, List.replicate, List.cons_append, List.nil_append,
      List.cons.injEq, true_and, and_true]
    constructor
    · intro heq
      have := letter_injective (by omega) hc heq
      omega
    · intro hzero
      rw [show c / 4 * 4 = c by omega]
  | case5 a b c d rest ih =>
    obtain ⟨⟨decoded, left'⟩, hrest, heq⟩ := Option.map_eq_some_iff.mp h
    obtain ⟨rfl, rfl⟩ := Prod.mk.inj heq
    have ha : a < 64 := hlt a (by simp)
    have hb : b < 64 := hlt b (by simp)
    have hc : c < 64 := hlt c (by simp)
    have hd : d < 64 := hlt d (by simp)
    have h₁ : (UInt8.ofNat (a * 4 + b / 16)).toNat = a * 4 + b / 16 :=
      UInt8.toNat_ofNat_of_lt' (by show _ < 256; omega)
    have h₂ : (UInt8.ofNat (b % 16 * 16 + c / 4)).toNat = b % 16 * 16 + c / 4 :=
      UInt8.toNat_ofNat_of_lt' (by show _ < 256; omega)
    have h₃ : (UInt8.ofNat (c % 4 * 64 + d)).toNat = c % 4 * 64 + d :=
      UInt8.toNat_ofNat_of_lt' (by show _ < 256; omega)
    have hlength : (a :: b :: c :: d :: rest).length % 4 = rest.length % 4 := by
      simp only [List.length_cons]
      omega
    rw [← ih hrest fun n hn => hlt n (by simp [hn]), hlength]
    simp only [letters, h₁, h₂, h₃, List.map_cons, List.cons_append, List.cons.injEq]
    rw [show (a * 4 + b / 16) / 4 = a by omega,
      show (a * 4 + b / 16) % 4 * 16 + (b % 16 * 16 + c / 4) / 16 = b by omega,
      show (b % 16 * 16 + c / 4) % 16 * 4 + (c % 4 * 64 + d) / 64 = c by omega,
      show (c % 4 * 64 + d) % 64 = d by omega]
    simp

/-! ## Decoding what was encoded -/

/-- The sextets of the letters before the padding. -/
def sextets : Bytes → List Nat
  | [] => []
  | [a] => [a.toNat / 4, a.toNat % 4 * 16]
  | [a, b] => [a.toNat / 4, a.toNat % 4 * 16 + b.toNat / 16, b.toNat % 16 * 4]
  | a :: b :: c :: rest =>
    a.toNat / 4 :: (a.toNat % 4 * 16 + b.toNat / 16) :: (b.toNat % 16 * 4 + c.toNat / 64) ::
      c.toNat % 64 :: sextets rest

theorem sextets_lt (bytes : Bytes) : ∀ n ∈ sextets bytes, n < 64 := by
  induction bytes using sextets.induct with
  | case1 => exact fun _ hmem => absurd hmem List.not_mem_nil
  | case2 a =>
    have ha := a.toNat_lt
    simp only [sextets, List.forall_mem_cons]
    exact ⟨by omega, by omega, fun _ hmem => absurd hmem List.not_mem_nil⟩
  | case3 a b =>
    have ha := a.toNat_lt
    have hb := b.toNat_lt
    simp only [sextets, List.forall_mem_cons]
    exact ⟨by omega, by omega, by omega, fun _ hmem => absurd hmem List.not_mem_nil⟩
  | case4 a b c rest ih =>
    have ha := a.toNat_lt
    have hb := b.toNat_lt
    have hc := c.toNat_lt
    simp only [sextets, List.forall_mem_cons]
    exact ⟨by omega, by omega, by omega, by omega, ih⟩

theorem groups_sextets (bytes : Bytes) : groups (sextets bytes) = some (bytes, 0) := by
  induction bytes using sextets.induct with
  | case1 => rfl
  | case2 a =>
    have ha := a.toNat_lt
    have hbyte : a.toNat / 4 * 4 + a.toNat % 4 * 16 / 16 = a.toNat := by omega
    have hleft : a.toNat % 4 * 16 % 16 = 0 := by omega
    rw [sextets, groups, hbyte, hleft, UInt8.ofNat_toNat]
  | case3 a b =>
    have ha := a.toNat_lt
    have hb := b.toNat_lt
    have hfirst : a.toNat / 4 * 4 + (a.toNat % 4 * 16 + b.toNat / 16) / 16 = a.toNat := by omega
    have hsecond : (a.toNat % 4 * 16 + b.toNat / 16) % 16 * 16 + b.toNat % 16 * 4 / 4 =
        b.toNat := by omega
    have hleft : b.toNat % 16 * 4 % 4 = 0 := by omega
    rw [sextets, groups, hfirst, hsecond, hleft, UInt8.ofNat_toNat, UInt8.ofNat_toNat]
  | case4 a b c rest ih =>
    have ha := a.toNat_lt
    have hb := b.toNat_lt
    have hc := c.toNat_lt
    have hfirst : a.toNat / 4 * 4 + (a.toNat % 4 * 16 + b.toNat / 16) / 16 = a.toNat := by omega
    have hsecond : (a.toNat % 4 * 16 + b.toNat / 16) % 16 * 16 +
        (b.toNat % 16 * 4 + c.toNat / 64) / 4 = b.toNat := by omega
    have hthird : (b.toNat % 16 * 4 + c.toNat / 64) % 4 * 64 + c.toNat % 64 = c.toNat := by omega
    rw [sextets, groups, ih, Option.map_some, hfirst, hsecond, hthird, UInt8.ofNat_toNat,
      UInt8.ofNat_toNat, UInt8.ofNat_toNat]

/-- The padding of an encoding. -/
def padding (bytes : Bytes) : List Char := List.replicate ((3 - bytes.length % 3) % 3) '='

theorem letters_eq (bytes : Bytes) : letters bytes = (sextets bytes).map letter ++ padding bytes := by
  induction bytes using sextets.induct with
  | case1 | case2 | case3 => rfl
  | case4 a b c rest ih =>
    have hlength : (a :: b :: c :: rest).length % 3 = rest.length % 3 := by
      simp only [List.length_cons]
      omega
    rw [letters, sextets, ih, padding, padding, hlength]
    rfl

theorem letters_length (bytes : Bytes) : (letters bytes).length % 4 = 0 := by
  induction bytes using letters.induct with
  | case1 => rfl
  | case2 | case3 => simp [letters]
  | case4 a b c rest ih =>
    simp only [letters, List.length_cons]
    omega

theorem sextet_letter : ∀ n < 64, sextet (letter n) = some n := by decide

theorem mapM_letter {ns : List Nat} (h : ∀ n ∈ ns, n < 64) :
    (ns.map letter).mapM sextet = some ns := by
  induction ns with
  | nil => rfl
  | cons n rest ih =>
    rw [List.map_cons, List.mapM_cons, sextet_letter n (h n List.mem_cons_self),
      ih fun m hmem => h m (List.mem_cons_of_mem _ hmem)]
    rfl

theorem letter_ne_padding : ∀ n < 64, letter n ≠ '=' := by decide

/-- What ends in the padding is the padding. -/
theorem dropPadding_letters (bytes : Bytes) :
    dropPadding (letters bytes) = (sextets bytes).map letter := by
  have hbody : ∀ c ∈ (sextets bytes).map letter, c ≠ '=' := by
    intro c hmem
    obtain ⟨n, hn, rfl⟩ := List.mem_map.mp hmem
    exact letter_ne_padding n (sextets_lt bytes n hn)
  rw [letters_eq]
  generalize (sextets bytes).map letter = body at hbody
  have hsuffix : ∀ cs : List Char, cs <:+ body → '=' ∈ cs → False := by
    intro cs hcs hmem
    exact hbody _ (hcs.subset hmem) rfl
  unfold dropPadding padding
  have hcount : (3 - bytes.length % 3) % 3 = 0 ∨ (3 - bytes.length % 3) % 3 = 1 ∨
      (3 - bytes.length % 3) % 3 = 2 := by omega
  rcases hcount with h | h | h
  · rw [h, List.replicate_zero, List.append_nil, if_neg, if_neg]
    · rw [List.isSuffixOf_iff_suffix]
      exact fun hcs => hsuffix _ hcs (by simp)
    · rw [List.isSuffixOf_iff_suffix]
      exact fun hcs => hsuffix _ hcs (by simp)
  · rw [h, if_neg, if_pos]
    · simp
    · rw [List.isSuffixOf_iff_suffix]
      exact List.suffix_append _ _
    · rw [List.isSuffixOf_iff_suffix]
      rintro ⟨front, hfront⟩
      have hinit : front ++ ['='] = body :=
        List.append_cancel_right ((List.append_assoc _ _ _).trans hfront)
      exact hsuffix ['='] ⟨front, hinit⟩ (by simp)
  · rw [h, if_pos]
    · simp
    · rw [List.isSuffixOf_iff_suffix]
      exact List.suffix_append _ _

theorem decodeBody_letters (bytes : Bytes) :
    decodeBody (dropPadding (letters bytes)) = some (bytes, 0) := by
  rw [decodeBody, dropPadding_letters, mapM_letter (sextets_lt bytes), Option.bind_some,
    groups_sextets]

theorem standardDecode_encode (bytes : Bytes) : standardDecode (encode bytes) = some bytes := by
  rw [standardDecode, encode, String.toList_ofList, if_pos (letters_length bytes),
    decodeBody_letters]
  rfl

/-- The letters of an encoding are of the alphabet or padding. -/
theorem mem_encode {bytes : Bytes} {c : Char} (h : c ∈ (encode bytes).toList) :
    (sextet c).isSome = true ∨ c = '=' := by
  rw [encode, String.toList_ofList, letters_eq] at h
  rcases List.mem_append.mp h with h | h
  · obtain ⟨n, hn, rfl⟩ := List.mem_map.mp h
    rw [sextet_letter n (sextets_lt bytes n hn)]
    exact .inl rfl
  · exact .inr (List.eq_of_mem_replicate h)

/-! ## The alphabet of URLs -/

def toUrlChar (c : Char) : Char := if c = '+' then '-' else if c = '/' then '_' else c

def ofUrlChar (c : Char) : Char := if c = '-' then '+' else if c = '_' then '/' else c

/-- The encoding in the alphabet of URLs, without padding. -/
def urlEncode (bytes : Bytes) : String :=
  String.ofList (((letters bytes).map toUrlChar).rdropWhile fun c => c == '=')

/-- Pad the text in the standard alphabet and decode it. -/
def urlDecode (text : String) : Option Bytes :=
  let cs := text.toList.map ofUrlChar
  forgivingDecode (String.ofList (cs ++ List.replicate ((4 - cs.length % 4) % 4) '='))

theorem urlChar_letter : ∀ n < 64,
    ofUrlChar (toUrlChar (letter n)) = letter n ∧ toUrlChar (letter n) ≠ '=' ∧
      (isAsciiAlphanumeric (toUrlChar (letter n)) = true ∨ toUrlChar (letter n) = '-' ∨
        toUrlChar (letter n) = '_') ∧ isAsciiSpace (letter n) = false := by
  decide

theorem rdropWhile_append_replicate {p : Char → Bool} {c : Char} (hc : p c = true)
    (body : List Char) (k : Nat) :
    (body ++ List.replicate k c).rdropWhile p = body.rdropWhile p := by
  induction k with
  | zero => rw [List.replicate_zero, List.append_nil]
  | succ k ih =>
    rw [List.replicate_succ', ← List.append_assoc, List.rdropWhile_concat_pos p _ c hc, ih]

theorem toList_urlEncode (bytes : Bytes) :
    (urlEncode bytes).toList = (sextets bytes).map fun n => toUrlChar (letter n) := by
  have hbody : ∀ c ∈ (sextets bytes).map fun n => toUrlChar (letter n), ¬ (c == '=') = true := by
    intro c hc
    obtain ⟨n, hn, rfl⟩ := List.mem_map.mp hc
    rw [beq_iff_eq]
    exact (urlChar_letter n (sextets_lt bytes n hn)).2.1
  have hpadding : (padding bytes).map toUrlChar = padding bytes := by
    rw [padding, List.map_replicate]
    rfl
  rw [urlEncode, String.toList_ofList, letters_eq, List.map_append, hpadding, List.map_map, padding,
    rdropWhile_append_replicate rfl]
  apply List.rdropWhile_eq_self_iff.mpr
  intro hne
  exact hbody _ (List.getLast_mem hne)

theorem mem_urlEncode {bytes : Bytes} {c : Char} (h : c ∈ (urlEncode bytes).toList) :
    isAsciiAlphanumeric c = true ∨ c = '-' ∨ c = '_' := by
  rw [toList_urlEncode] at h
  obtain ⟨n, hn, rfl⟩ := List.mem_map.mp h
  exact (urlChar_letter n (sextets_lt bytes n hn)).2.2.1

theorem length_sextets (bytes : Bytes) : (sextets bytes).length = (4 * bytes.length + 2) / 3 := by
  induction bytes using sextets.induct with
  | case1 => rfl
  | case2 | case3 => simp [sextets]
  | case4 a b c rest ih =>
    simp only [sextets, List.length_cons]
    omega

theorem length_urlEncode (bytes : Bytes) :
    (urlEncode bytes).toList.length = (4 * bytes.length + 2) / 3 := by
  rw [toList_urlEncode, List.length_map, length_sextets]

theorem padded_encode (bytes : Bytes) : Padded (encode bytes) := by
  constructor
  · rw [encode, String.toList_ofList]
    exact letters_length bytes
  · intro c hc
    rcases mem_encode hc with hsextet | rfl
    · obtain ⟨n, hn⟩ := Option.isSome_iff_exists.mp hsextet
      obtain ⟨rfl, hlt⟩ := letter_of_sextet hn
      exact (urlChar_letter n hlt).2.2.2
    · rfl

theorem forgivingDecode_encode (bytes : Bytes) : forgivingDecode (encode bytes) = some bytes := by
  rw [forgivingDecode_of_padded (padded_encode bytes), encode, String.toList_ofList,
    decodeBody_letters]
  rfl

/-- Decoding what was encoded for a URL. -/
theorem urlDecode_urlEncode (bytes : Bytes) : urlDecode (urlEncode bytes) = some bytes := by
  have hback : (urlEncode bytes).toList.map ofUrlChar = (sextets bytes).map letter := by
    rw [toList_urlEncode, List.map_map, List.map_inj_left]
    intro n hn
    exact (urlChar_letter n (sextets_lt bytes n hn)).1
  have hcount : (4 - ((sextets bytes).map letter).length % 4) % 4 =
      (3 - bytes.length % 3) % 3 := by
    rw [List.length_map, length_sextets]
    obtain ⟨q, hq | hq | hq⟩ : ∃ q, bytes.length = 3 * q ∨ bytes.length = 3 * q + 1 ∨
        bytes.length = 3 * q + 2 := ⟨bytes.length / 3, by omega⟩
    · rw [hq, show (4 * (3 * q) + 2) / 3 = 4 * q by omega]
      omega
    · rw [hq, show (4 * (3 * q + 1) + 2) / 3 = 4 * q + 2 by omega]
      omega
    · rw [hq, show (4 * (3 * q + 2) + 2) / 3 = 4 * q + 3 by omega]
      omega
  have htext : (sextets bytes).map letter ++
      List.replicate ((4 - ((sextets bytes).map letter).length % 4) % 4) '=' = letters bytes := by
    rw [hcount, letters_eq, padding]
  unfold urlDecode
  rw [hback]
  dsimp only
  rw [htext]
  exact forgivingDecode_encode bytes

end Youtick.Lib.Base64
