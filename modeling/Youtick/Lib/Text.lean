import Mathlib.Data.List.Basic
import Mathlib.Tactic

/-!
# Text and bytes

The string operations contract code uses, on `String.toList`: prefixes and suffixes, unsigned
decimal numbers as a fixed-width integer parser reads them, lowercase hex, and lines joined by
line breaks. Byte lengths are UTF-8 lengths; a test of every byte against an ASCII class is a test
of every character, because the bytes of other characters are outside ASCII.

The last section shows that joining lines loses nothing: lists of non-empty fields without line
breaks have equal joins only when they are equal (`joinLines_injective`).
-/

set_option autoImplicit false

namespace Youtick.Lib

/-- A byte string. -/
abbrev Bytes : Type := List UInt8

/-- The UTF-8 bytes of a string. -/
def utf8 (s : String) : Bytes := s.toByteArray.data.toList

/-- `p` is a prefix of `s`. -/
def startsWith (s p : String) : Bool := p.toList.isPrefixOf s.toList

/-- `p` is a suffix of `s`. -/
def endsWith (s p : String) : Bool := p.toList.isSuffixOf s.toList

/-- What is left of `s` after the prefix `p`, when it has that prefix. -/
def stripPrefix (s p : String) : Option String :=
  if startsWith s p then some (String.ofList (s.toList.drop p.toList.length)) else none

theorem stripPrefix_eq_some {s p r : String} : stripPrefix s p = some r ↔ s = p ++ r := by
  unfold stripPrefix startsWith
  constructor
  · intro h
    obtain ⟨hstarts, hrest⟩ := Option.ite_none_right_eq_some.mp h
    obtain rfl := Option.some.inj hrest
    obtain ⟨tail, htail⟩ := List.isPrefixOf_iff_prefix.mp hstarts
    apply String.toList_inj.mp
    rw [String.toList_append, String.toList_ofList, ← htail, List.drop_left]
  · rintro rfl
    rw [if_pos, String.toList_append, List.drop_left, String.ofList_toList]
    rw [List.isPrefixOf_iff_prefix, String.toList_append]
    exact List.prefix_append _ _

/-- The characters with the Unicode property `White_Space`. -/
def isWhiteSpace (c : Char) : Bool :=
  let n := c.toNat
  (9 ≤ n && n ≤ 13) || n == 0x20 || n == 0x85 || n == 0xA0 || n == 0x1680 ||
    (0x2000 ≤ n && n ≤ 0x200A) || n == 0x2028 || n == 0x2029 || n == 0x202F || n == 0x205F ||
    n == 0x3000

/-- No character is left after trimming white space on both sides. -/
def isBlank (s : String) : Bool := s.toList.all isWhiteSpace

def isAsciiDigit (c : Char) : Bool := '0' ≤ c && c ≤ '9'

def isAsciiUppercase (c : Char) : Bool := 'A' ≤ c && c ≤ 'Z'

def isAsciiAlphanumeric (c : Char) : Bool :=
  isAsciiDigit c || isAsciiUppercase c || ('a' ≤ c && c ≤ 'z')

/-! ## Numbers as text -/

/-- The value of a list of ASCII digits. -/
def digitsValue (cs : List Char) : Nat := cs.foldl (fun n c => 10 * n + (c.toNat - 48)) 0

/-- Parse an unsigned `w`-bit integer: an optional plus sign, then at least one ASCII digit, then
the range check. -/
def parseUnsigned (w : Nat) (s : String) : Option Nat :=
  let digits := match s.toList with
    | '+' :: rest => rest
    | cs => cs
  if digits ≠ [] ∧ digits.all isAsciiDigit ∧ digitsValue digits < 2 ^ w then
    some (digitsValue digits)
  else none

/-- The unsigned decimal spelling of `n`. -/
def decimal (n : Nat) : String := Nat.repr n

/-- The lowercase hex digit of a value below sixteen. -/
def hexDigit (n : Nat) : Char := Char.ofNat (if n < 10 then 48 + n else 87 + n)

/-- Lowercase hex, two digits a byte. -/
def hex (bytes : Bytes) : String :=
  String.ofList (bytes.flatMap fun b => [hexDigit (b.toNat / 16), hexDigit (b.toNat % 16)])

theorem decimal_injective {m n : Nat} (h : decimal m = decimal n) : m = n := by
  have hdigits : Nat.toDigits 10 m = Nat.toDigits 10 n := by
    rw [← Nat.toList_repr, ← Nat.toList_repr]
    exact congrArg String.toList h
  rw [← Nat.ofDigitChars_ten_toDigits (n := m), hdigits, Nat.ofDigitChars_ten_toDigits]

/-- The parser reads the spelling of every number in its range. -/
theorem parseUnsigned_decimal {w n : Nat} (h : n < 2 ^ w) : parseUnsigned w (decimal n) = some n := by
  have htext : (decimal n).toList = Nat.toDigits 10 n := by
    rw [decimal, Nat.repr_eq_ofList_toDigits, String.toList_ofList]
  have hvalue : digitsValue (Nat.toDigits 10 n) = n := Nat.ofDigitChars_ten_toDigits
  have hdigits : (Nat.toDigits 10 n).all isAsciiDigit = true := by
    rw [List.all_eq_true]
    intro c hc
    have hdigit := Nat.isDigit_of_mem_toDigits (by decide) (by decide) hc
    simp only [Char.isDigit, Bool.and_eq_true, decide_eq_true_eq] at hdigit
    simp only [isAsciiDigit, Bool.and_eq_true, decide_eq_true_eq]
    exact hdigit
  unfold parseUnsigned
  rw [htext]
  cases hcs : Nat.toDigits 10 n with
  | nil =>
    have hpos : 0 < (Nat.toDigits 10 n).length := Nat.length_toDigits_pos
    rw [hcs] at hpos
    cases hpos
  | cons c cs =>
    rw [hcs] at hvalue hdigits
    have hplus : c ≠ '+' := by
      rintro rfl
      cases (List.all_eq_true.mp hdigits) _ List.mem_cons_self
    have hunsigned : (match c :: cs with | '+' :: rest => rest | cs => cs) = c :: cs := by
      split
      · next heq =>
          cases heq
          exact absurd rfl hplus
      · rfl
    simp only [hunsigned, hvalue]
    exact if_pos ⟨List.cons_ne_nil _ _, hdigits, h⟩

/-- A decimal has digits only. -/
theorem not_mem_decimal {c : Char} (hc : c.isDigit = false) (n : Nat) :
    c ∉ (decimal n).toList := by
  intro h
  rw [decimal, Nat.toList_repr] at h
  rw [Nat.isDigit_of_mem_toDigits (by decide) (by decide) h] at hc
  cases hc

theorem hexDigit_injective : ∀ a < 16, ∀ b < 16, hexDigit a = hexDigit b → a = b := by decide

/-- Two digits a byte lose nothing. -/
theorem hex_injective {xs ys : Bytes} (h : hex xs = hex ys) : xs = ys := by
  have hchars := String.ofList_injective h
  clear h
  induction xs generalizing ys with
  | nil =>
    cases ys with
    | nil => rfl
    | cons y ys => cases hchars
  | cons x xs ih =>
    cases ys with
    | nil => cases hchars
    | cons y ys =>
      simp only [List.flatMap_cons, List.cons_append, List.nil_append, List.cons.injEq]
        at hchars
      obtain ⟨hhigh, hlow, hrest⟩ := hchars
      have hx := x.toNat_lt
      have hy := y.toNat_lt
      have hdiv := hexDigit_injective _ (by omega) _ (by omega) hhigh
      have hmod := hexDigit_injective _ (by omega) _ (by omega) hlow
      have hbyte : x = y := UInt8.toNat_inj.mp (by omega)
      rw [hbyte, ih hrest]

theorem utf8_injective {s t : String} (h : utf8 s = utf8 t) : s = t := by
  have hdata : s.toByteArray.data = t.toByteArray.data := Array.toList_inj.mp h
  exact String.toByteArray_inj.mp (ByteArray.ext hdata)

/-! ## Sizes -/

/-- The text with these bytes. -/
def decodeUtf8 (bytes : Bytes) : Option String := String.fromUTF8? ⟨bytes.toArray⟩

theorem decodeUtf8_utf8 (s : String) : decodeUtf8 (utf8 s) = some s := by
  have hbytes : (⟨(utf8 s).toArray⟩ : ByteArray) = s.toByteArray := by simp [utf8]
  rw [decodeUtf8, hbytes]
  exact dif_pos s.isValidUTF8

theorem utf8ByteSize_eq (s : String) : s.utf8ByteSize = (s.toList.map Char.utf8Size).sum := by
  obtain ⟨cs, rfl⟩ : ∃ cs, s = String.ofList cs := ⟨s.toList, String.ofList_toList.symm⟩
  rw [String.toList_ofList]
  induction cs with
  | nil => rfl
  | cons c cs ih =>
    have hcons : String.ofList (c :: cs) = String.singleton c ++ String.ofList cs := by
      apply String.toList_inj.mp
      simp
    rw [hcons, String.utf8ByteSize_append, ih, String.utf8ByteSize_singleton, List.map_cons,
      List.sum_cons]

theorem utf8Size_of_ascii {c : Char} (h : c.toNat < 128) : c.utf8Size = 1 := by
  rw [Char.utf8Size, if_pos]
  rw [UInt32.le_iff_toNat_le]
  change c.toNat ≤ 127
  omega

theorem utf8Encode_of_ascii {cs : List Char} (h : ∀ c ∈ cs, c.toNat < 128) :
    cs.utf8Encode = (cs.map fun c => UInt8.ofNat c.toNat).toByteArray := by
  induction cs with
  | nil => exact List.utf8Encode_nil
  | cons c cs ih =>
    have hc := utf8Size_of_ascii (h c List.mem_cons_self)
    have hsplit : c :: cs = [c] ++ cs := rfl
    rw [hsplit, List.utf8Encode_append, List.utf8Encode_singleton,
      String.utf8EncodeChar_eq_singleton hc, ih fun d hd => h d (List.mem_cons_of_mem _ hd),
      ← List.toByteArray_append]
    rfl

/-- One byte a character. -/
theorem utf8_ofList_of_ascii {cs : List Char} (h : ∀ c ∈ cs, c.toNat < 128) :
    utf8 (String.ofList cs) = cs.map fun c => UInt8.ofNat c.toNat := by
  rw [utf8, String.toByteArray_ofList, utf8Encode_of_ascii h]
  simp

/-- An ASCII text has as many bytes as characters. -/
theorem utf8ByteSize_of_ascii {s : String} (h : ∀ c ∈ s.toList, c.toNat < 128) :
    s.utf8ByteSize = s.toList.length := by
  rw [utf8ByteSize_eq]
  generalize s.toList = cs at h
  induction cs with
  | nil => rfl
  | cons c cs ih =>
    rw [List.map_cons, List.sum_cons, List.length_cons, utf8Size_of_ascii (h c List.mem_cons_self),
      ih fun x hx => h x (List.mem_cons_of_mem _ hx), Nat.add_comm]

/-! ## Lines -/

/-- The fields joined by line breaks. -/
def joinLines (fields : List String) : String := "\n".intercalate fields

/-- A field that can be told apart after joining: not empty and on one line. -/
def IsLine (field : String) : Prop := field ≠ "" ∧ '\n' ∉ field.toList ∧ '\r' ∉ field.toList

instance (field : String) : Decidable (IsLine field) := inferInstanceAs (Decidable (_ ∧ _ ∧ _))

/-- Appending a separator and anything after it keeps two heads without a separator apart. -/
theorem append_separator_injective {separator : Char} {xs ys us vs : List Char}
    (hx : separator ∉ xs) (hy : separator ∉ ys) (h : xs ++ separator :: us = ys ++ separator :: vs) :
    xs = ys ∧ us = vs := by
  induction xs generalizing ys with
  | nil =>
    cases ys with
    | nil => exact ⟨rfl, by simpa using h⟩
    | cons c ys =>
      have hc : separator = c := (List.cons.inj h).1
      exact absurd (hc ▸ List.mem_cons_self) hy
  | cons c xs ih =>
    cases ys with
    | nil =>
      have hc : c = separator := (List.cons.inj h).1
      exact absurd (hc ▸ List.mem_cons_self) hx
    | cons d ys =>
      obtain ⟨hcd, hrest⟩ := List.cons.inj h
      obtain ⟨hxy, huv⟩ := ih (fun m => hx (List.mem_cons_of_mem _ m))
        (fun m => hy (List.mem_cons_of_mem _ m)) hrest
      exact ⟨by rw [hcd, hxy], huv⟩

/-- A join of two or more lines contains a line break, so it is not a single line. -/
theorem not_mem_of_eq_append {xs ys vs : List Char} (hx : '\n' ∉ xs)
    (h : xs = ys ++ '\n' :: vs) : False :=
  hx (h ▸ by simp)

/-- The characters of a join, by its first field. -/
theorem toList_joinLines_cons_cons (a b : String) (rest : List String) :
    (joinLines (a :: b :: rest)).toList = a.toList ++ '\n' :: (joinLines (b :: rest)).toList := by
  simp [joinLines, String.toList_intercalate, List.intercalate]

theorem toList_joinLines_singleton (a : String) : (joinLines [a]).toList = a.toList := by
  simp [joinLines]

/-- Joining non-empty lists of lines loses nothing. -/
theorem joinLines_injective {fs gs : List String} (hf : fs ≠ []) (hg : gs ≠ [])
    (hfs : ∀ f ∈ fs, IsLine f) (hgs : ∀ g ∈ gs, IsLine g) (h : joinLines fs = joinLines gs) :
    fs = gs := by
  induction fs generalizing gs with
  | nil => exact absurd rfl hf
  | cons a fs ih =>
    have ha := (hfs a (by simp)).2.1
    cases gs with
    | nil => exact absurd rfl hg
    | cons b gs =>
      have hb := (hgs b (by simp)).2.1
      have hl := congrArg String.toList h
      cases fs with
      | nil =>
        cases gs with
        | nil =>
          rw [toList_joinLines_singleton, toList_joinLines_singleton] at hl
          rw [String.toList_inj.mp hl]
        | cons b' gs =>
          rw [toList_joinLines_singleton, toList_joinLines_cons_cons] at hl
          exact (not_mem_of_eq_append ha hl).elim
      | cons a' fs =>
        cases gs with
        | nil =>
          rw [toList_joinLines_singleton, toList_joinLines_cons_cons] at hl
          exact (not_mem_of_eq_append hb hl.symm).elim
        | cons b' gs =>
          rw [toList_joinLines_cons_cons, toList_joinLines_cons_cons] at hl
          obtain ⟨hab, hrest⟩ := append_separator_injective ha hb hl
          have := ih (by simp) (by simp) (fun f hf => hfs f (List.mem_cons_of_mem _ hf))
            (fun g hg => hgs g (List.mem_cons_of_mem _ hg)) (String.toList_inj.mp hrest)
          rw [String.toList_inj.mp hab, this]

end Youtick.Lib
