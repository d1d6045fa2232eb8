import Youtick.Lib.Panic
import Youtick.Lib.Text

/-!
# Payment service: text formats

The regular expressions the service checks its inputs with, as predicates on texts, and the values of
decimal texts. A decimal without leading zeros is the spelling of its value
(`decimal_digitsValue`), so such a text and its number say the same.
-/

set_option autoImplicit false

namespace Youtick.PaymentService

open Youtick.Lib

/-! ## Regular expressions -/

/-- `^[1-9][0-9]{0,n}$` -/
def isPositiveDecimal (n : Nat) (text : String) : Bool :=
  match text.toList with
  | [] => false
  | first :: rest => ('1' ≤ first && first ≤ '9') && decide (rest.length ≤ n) && rest.all isAsciiDigit

/-- `[a-z0-9]` -/
def isAccountChar (c : Char) : Bool := isAsciiDigit c || ('a' ≤ c && c ≤ 'z')

/-- `[._-]` -/
def isAccountSeparator (c : Char) : Bool := c == '.' || c == '_' || c == '-'

/-- `^(?=.{2,64}$)[a-z0-9]+(?:[._-][a-z0-9]+)*$` -/
def isAccountId (text : String) : Bool :=
  decide (2 ≤ text.toList.length) && decide (text.toList.length ≤ 64) &&
    (text.toList.splitOnP isAccountSeparator).all fun part =>
      !part.isEmpty && part.all isAccountChar

/-- `[0-9a-f]` -/
def isHexChar (c : Char) : Bool := isAsciiDigit c || ('a' ≤ c && c ≤ 'f')

/-- `^[0-9a-f]{n}$` -/
def isHexText (n : Nat) (text : String) : Bool :=
  decide (text.toList.length = n) && text.toList.all isHexChar

/-- `^[0-9]+$` -/
def isDigits (cs : List Char) : Bool := !cs.isEmpty && cs.all isAsciiDigit

/-! ## Single lines -/

theorem isLine_of_all {text : String} {p : Char → Bool} (hne : text.toList ≠ [])
    (hall : ∀ c ∈ text.toList, p c = true) (hfeed : p '\n' = false) (hreturn : p '\r' = false) :
    IsLine text := by
  refine ⟨?_, ?_, ?_⟩
  · rintro rfl
    exact hne rfl
  · intro hmem
    cases hfeed.symm.trans (hall _ hmem)
  · intro hmem
    cases hreturn.symm.trans (hall _ hmem)

/-- A character that is no separator is in one of the parts. -/
theorem mem_splitOnP {p : Char → Bool} {cs : List Char} {c : Char} (hc : c ∈ cs)
    (hp : p c = false) : ∃ part ∈ cs.splitOnP p, c ∈ part := by
  induction cs with
  | nil => cases hc
  | cons x xs ih =>
    rw [List.splitOnP_cons_eq_if_modifyHead]
    by_cases hx : p x = true
    · rw [if_pos hx]
      rcases List.mem_cons.mp hc with rfl | hc
      · cases hp.symm.trans hx
      · obtain ⟨part, hpart, hmem⟩ := ih hc
        exact ⟨part, List.mem_cons_of_mem _ hpart, hmem⟩
    · rw [if_neg hx]
      cases hparts : xs.splitOnP p with
      | nil => exact absurd hparts (List.splitOnP_ne_nil _ _)
      | cons head rest =>
        rw [hparts] at ih
        rcases List.mem_cons.mp hc with rfl | hc
        · exact ⟨c :: head, List.mem_cons_self, List.mem_cons_self⟩
        · obtain ⟨part, hpart, hmem⟩ := ih hc
          rcases List.mem_cons.mp hpart with rfl | hpart
          · exact ⟨x :: part, List.mem_cons_self, List.mem_cons_of_mem _ hmem⟩
          · exact ⟨part, List.mem_cons_of_mem _ hpart, hmem⟩

theorem isLine_of_isAccountId {text : String} (h : isAccountId text = true) : IsLine text := by
  simp only [isAccountId, Bool.and_eq_true, decide_eq_true_eq, List.all_eq_true] at h
  obtain ⟨⟨hlength, -⟩, hparts⟩ := h
  refine isLine_of_all (p := fun c => isAccountSeparator c || isAccountChar c) ?_ ?_ (by decide)
    (by decide)
  · intro hnil
    rw [hnil] at hlength
    cases hlength
  · intro c hc
    cases hsep : isAccountSeparator c with
    | true => rfl
    | false =>
      obtain ⟨part, hpart, hmem⟩ := mem_splitOnP hc hsep
      exact (hparts part hpart).2 c hmem

theorem isLine_of_isHexText {n : Nat} (hn : 0 < n) {text : String}
    (h : isHexText n text = true) : IsLine text := by
  simp only [isHexText, Bool.and_eq_true, decide_eq_true_eq, List.all_eq_true] at h
  refine isLine_of_all ?_ h.2 (by decide) (by decide)
  intro hnil
  rw [hnil] at h
  exact hn.ne h.1

/-! ## Trimming -/

/-- White space and line terminators of the language. -/
def isSpace (c : Char) : Bool :=
  (isWhiteSpace c && decide (c.toNat ≠ 0x85)) || decide (c.toNat = 0xFEFF)

def trim (cs : List Char) : List Char :=
  ((cs.dropWhile isSpace).reverse.dropWhile isSpace).reverse

/-! ## Decimal texts -/

theorem digitsValue_eq (cs : List Char) : digitsValue cs = Nat.ofDigitChars 10 cs 0 := rfl

theorem digitsValue_cons (c : Char) (cs : List Char) :
    digitsValue (c :: cs) = 10 ^ cs.length * (c.toNat - 48) + digitsValue cs := by
  rw [digitsValue_eq, Nat.ofDigitChars_cons, Nat.ofDigitChars_eq_ofDigitChars_zero]
  simp [digitsValue_eq]

theorem digitsValue_concat (cs : List Char) (c : Char) :
    digitsValue (cs ++ [c]) = 10 * digitsValue cs + (c.toNat - 48) := by
  simp [digitsValue]

theorem isAsciiDigit_iff {c : Char} : isAsciiDigit c = true ↔ 48 ≤ c.toNat ∧ c.toNat ≤ 57 := by
  simp only [isAsciiDigit, Bool.and_eq_true, decide_eq_true_eq]
  exact Iff.rfl

theorem digitsValue_lt {cs : List Char} (h : cs.all isAsciiDigit = true) :
    digitsValue cs < 10 ^ cs.length := by
  induction cs with
  | nil => decide
  | cons c cs ih =>
    rw [List.all_cons, Bool.and_eq_true] at h
    obtain ⟨-, hc⟩ := isAsciiDigit_iff.mp h.1
    have hdigit : 10 ^ cs.length * (c.toNat - 48) ≤ 10 ^ cs.length * 9 :=
      Nat.mul_le_mul_left _ (by omega)
    have hrest := ih h.2
    rw [digitsValue_cons, List.length_cons, Nat.pow_succ]
    omega

theorem isPositiveDecimal_iff {n : Nat} {text : String} :
    isPositiveDecimal n text = true ↔ ∃ first rest, text.toList = first :: rest ∧
      49 ≤ first.toNat ∧ first.toNat ≤ 57 ∧ rest.length ≤ n ∧ rest.all isAsciiDigit = true := by
  unfold isPositiveDecimal
  cases text.toList with
  | nil => simp
  | cons first rest =>
    simp only [Bool.and_eq_true, decide_eq_true_eq, List.cons.injEq]
    constructor
    · rintro ⟨⟨⟨hlow, hhigh⟩, hlength⟩, hdigits⟩
      exact ⟨first, rest, ⟨rfl, rfl⟩, hlow, hhigh, hlength, hdigits⟩
    · rintro ⟨_, _, ⟨rfl, rfl⟩, hlow, hhigh, hlength, hdigits⟩
      exact ⟨⟨⟨hlow, hhigh⟩, hlength⟩, hdigits⟩

section Positive

variable {n : Nat} {text : String}

theorem all_digits_of_isPositiveDecimal (h : isPositiveDecimal n text = true) :
    text.toList ≠ [] ∧ text.toList.all isAsciiDigit = true := by
  obtain ⟨first, rest, htext, hlow, hhigh, -, hdigits⟩ := isPositiveDecimal_iff.mp h
  rw [htext, List.all_cons, hdigits, isAsciiDigit_iff.mpr ⟨by omega, hhigh⟩]
  exact ⟨List.cons_ne_nil _ _, rfl⟩

theorem digitsValue_pos (h : isPositiveDecimal n text = true) : 0 < digitsValue text.toList := by
  obtain ⟨first, rest, htext, hlow, -⟩ := isPositiveDecimal_iff.mp h
  rw [htext, digitsValue_cons]
  have hfirst : 0 < 10 ^ rest.length * (first.toNat - 48) :=
    Nat.mul_pos (Nat.pow_pos (by decide)) (by omega)
  omega

theorem digitsValue_lt_of_isPositiveDecimal (h : isPositiveDecimal n text = true) :
    digitsValue text.toList < 10 ^ (n + 1) := by
  obtain ⟨first, rest, htext, -, -, hlength, -⟩ := isPositiveDecimal_iff.mp h
  have hlt := digitsValue_lt (all_digits_of_isPositiveDecimal h).2
  refine hlt.trans_le (Nat.pow_le_pow_right (by decide) ?_)
  rw [htext, List.length_cons]
  omega

end Positive

/-- Appending a digit to the spelling of a positive number. -/
theorem toDigits_digitsValue {cs : List Char} (hdigits : cs.all isAsciiDigit = true)
    {first : Char} {rest : List Char} (hcs : cs = first :: rest) (hfirst : 49 ≤ first.toNat) :
    Nat.toDigits 10 (digitsValue cs) = cs := by
  have hchar {c : Char} (hc : isAsciiDigit c = true) : Nat.digitChar (c.toNat - 48) = c := by
    obtain ⟨hlow, hhigh⟩ := isAsciiDigit_iff.mp hc
    have hvalue : c = Char.ofNat c.toNat := (Char.ofNat_toNat c).symm
    generalize c.toNat = m at hlow hhigh hvalue
    subst hvalue
    interval_cases m <;> rfl
  induction cs using List.reverseRecOn generalizing first rest with
  | nil => cases hcs
  | append_singleton cs c ih =>
    rw [List.all_append, Bool.and_eq_true] at hdigits
    have hc : isAsciiDigit c = true := by simpa using hdigits.2
    obtain ⟨hlow, hhigh⟩ := isAsciiDigit_iff.mp hc
    rw [digitsValue_concat]
    cases cs with
    | nil =>
      show Nat.toDigits 10 (10 * 0 + (c.toNat - 48)) = [c]
      rw [Nat.mul_zero, Nat.zero_add, Nat.toDigits_of_lt_base (by omega), hchar hc]
    | cons first' rest' =>
      obtain ⟨rfl, -⟩ := List.cons.inj hcs
      have hpos : 0 < digitsValue (first' :: rest') := by
        rw [digitsValue_cons]
        have hlead : 0 < 10 ^ rest'.length * (first'.toNat - 48) :=
          Nat.mul_pos (Nat.pow_pos (by decide)) (by omega)
        omega
      rw [← Nat.toDigits_append_toDigits (by decide) hpos (by omega), ih hdigits.1 rfl hfirst,
        Nat.toDigits_of_lt_base (by omega), hchar hc]

/-- The digits of a positive number start with no zero. -/
theorem exists_cons_toDigits {n : Nat} (hn : 0 < n) :
    ∃ first rest, Nat.toDigits 10 n = first :: rest ∧ 49 ≤ first.toNat ∧ first.toNat ≤ 57 := by
  induction n using Nat.strongRecOn with
  | ind n ih =>
    by_cases hlt : n < 10
    · refine ⟨n.digitChar, [], Nat.toDigits_of_lt_base hlt, ?_⟩
      interval_cases n <;> decide
    · obtain ⟨first, rest, hdigits, hfirst⟩ := ih (n / 10) (by omega) (by omega)
      refine ⟨first, rest ++ [(n % 10).digitChar], ?_, hfirst⟩
      rw [Nat.toDigits_of_base_le (by decide) (by omega), hdigits, List.cons_append]

theorem digitsValue_decimal (n : Nat) : digitsValue (decimal n).toList = n := by
  have htext : (decimal n).toList = Nat.toDigits 10 n := by
    rw [decimal, Nat.repr_eq_ofList_toDigits, String.toList_ofList]
  rw [htext]
  exact Nat.ofDigitChars_ten_toDigits

/-- The spelling of a positive number is a decimal of its length. -/
theorem isPositiveDecimal_decimal {n k : Nat} (hn : 0 < n) (hlt : n < 10 ^ (k + 1)) :
    isPositiveDecimal k (decimal n) = true := by
  obtain ⟨first, rest, hdigits, hlow, hhigh⟩ := exists_cons_toDigits hn
  have htext : (decimal n).toList = first :: rest := by
    rw [decimal, Nat.toList_repr, hdigits]
  refine isPositiveDecimal_iff.mpr ⟨first, rest, htext, hlow, hhigh, ?_, ?_⟩
  · -- The leading digit alone is worth ten to the length of the rest.
    have hvalue := digitsValue_decimal n
    rw [htext, digitsValue_cons] at hvalue
    have hlead : 10 ^ rest.length * 1 ≤ 10 ^ rest.length * (first.toNat - 48) :=
      Nat.mul_le_mul_left _ (by omega)
    have hpow : 10 ^ rest.length < 10 ^ (k + 1) := by omega
    have hlength := (Nat.pow_lt_pow_iff_right (by decide)).mp hpow
    omega
  · refine List.all_eq_true.mpr fun c hc => ?_
    have hdigit : c.isDigit = true :=
      Nat.isDigit_of_mem_toDigits (by decide) (by decide)
        (hdigits ▸ List.mem_cons_of_mem first hc)
    rw [Char.isDigit, Bool.and_eq_true, decide_eq_true_eq, decide_eq_true_eq] at hdigit
    exact isAsciiDigit_iff.mpr hdigit

theorem isLine_of_isPositiveDecimal {n : Nat} {text : String}
    (h : isPositiveDecimal n text = true) : IsLine text := by
  obtain ⟨hne, hdigits⟩ := all_digits_of_isPositiveDecimal h
  exact isLine_of_all hne (List.all_eq_true.mp hdigits) (by decide) (by decide)

/-- A decimal without leading zeros spells its value. -/
theorem decimal_digitsValue {n : Nat} {text : String} (h : isPositiveDecimal n text = true) :
    decimal (digitsValue text.toList) = text := by
  obtain ⟨first, rest, htext, hlow, -⟩ := isPositiveDecimal_iff.mp h
  rw [decimal, Nat.repr_eq_ofList_toDigits,
    toDigits_digitsValue (all_digits_of_isPositiveDecimal h).2 htext hlow, String.ofList_toList]

end Youtick.PaymentService
