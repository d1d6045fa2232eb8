import Youtick.Lib.BigEndian
import Youtick.Lib.Panic

/-!
# Bridge: base58

`base58.ts` reads a public key or a hash. Its loop keeps the number read so far as base-256 digits, the
least first, and starts with one digit zero; leading ones are counted in a second pass. The digits are
those of the number (`foldDigits_eq`), so what was encoded is read back when it has a byte that is not
zero (`base58Decode_encode`). Bytes that are all zero come back with one more (`base58Decode_zeros`).
-/

set_option autoImplicit false

namespace Youtick.Bridge

open Youtick.Lib

/-! ## The source -/

/-- `ALPHABET` -/
def base58Alphabet : List Char :=
  "123456789ABCDEFGHJKLMNPQRSTUVWXYZabcdefghijkmnopqrstuvwxyz".toList

/-- `value.replace(/^ed25519:/, '')` -/
def withoutKeyPrefix (value : String) : String := (stripPrefix value "ed25519:").getD value

/-- The inner loop: every digit times 58 plus the carry; the carry that is left. -/
def multiplyAdd : List Nat → Nat → List Nat × Nat
  | [], carry => ([], carry)
  | digit :: digits, carry =>
    let sum := carry + digit * 58
    let rest := multiplyAdd digits (sum / 256)
    (sum % 256 :: rest.1, rest.2)

/-- `while (carry > 0)` -/
def pushCarry (carry : Nat) : List Nat :=
  if carry = 0 then [] else carry % 256 :: pushCarry (carry / 256)
termination_by carry
decreasing_by omega

/-- One round of the outer loop. -/
def addDigit (bytes : List Nat) (digit : Nat) : List Nat :=
  let multiplied := multiplyAdd bytes digit
  multiplied.1 ++ pushCarry multiplied.2

/-- The outer loop; a character that is not in the alphabet throws. -/
def foldDigits : List Char → List Nat → Result (List Nat)
  | [], bytes => .ok bytes
  | char :: rest, bytes =>
    match base58Alphabet.idxOf? char with
    | none => .error ("Invalid base58 character: " ++ String.singleton char)
    | some digit => foldDigits rest (addDigit bytes digit)

/-- The leading ones. -/
def leadingOnes : List Char → Nat
  | [] => 0
  | char :: rest => if char ≠ '1' then 0 else leadingOnes rest + 1

def base58Decode (value : String) : Result Bytes := do
  let encoded := (withoutKeyPrefix value).toList
  let bytes ← foldDigits encoded [0]
  return ((bytes ++ List.replicate (leadingOnes encoded) 0).reverse).map UInt8.ofNat

/-! ## The standard encoding -/

/-- The character of a digit. -/
def base58Char (digit : Nat) : Char := base58Alphabet.getD digit '1'

/-- One `1` for every leading zero byte, then the digits of the number, the most significant first. -/
def base58Encode (bytes : Bytes) : String :=
  String.ofList (List.replicate (bytes.takeWhile (· = 0)).length '1' ++
    ((Nat.digits 58 (bigEndianNumber bytes)).map base58Char).reverse)

/-! ## The loops -/

section Loops

variable {digits : List Nat} {carry n : Nat}

theorem pushCarry_eq (carry : Nat) : pushCarry carry = Nat.digits 256 carry := by
  induction carry using Nat.strongRecOn with
  | ind carry ih =>
    unfold pushCarry
    split
    · next hzero => rw [hzero, Nat.digits_zero]
    · next hpos =>
        rw [ih (carry / 256) (by omega),
          Nat.digits_def' (by decide : 1 < 256) (Nat.pos_of_ne_zero hpos)]

/-- The carry never leaves the range in which the bit operations of the source are exact. -/
theorem carry_lt {digit : Nat} (hcarry : carry < 58) (hdigit : digit < 256) :
    carry + digit * 58 < 2 ^ 31 ∧ (carry + digit * 58) / 256 < 58 := by
  omega

theorem ofDigits_multiplyAdd (digits : List Nat) (carry : Nat) :
    Nat.ofDigits 256 (multiplyAdd digits carry).1 +
        256 ^ digits.length * (multiplyAdd digits carry).2 =
      carry + Nat.ofDigits 256 digits * 58 ∧
      (multiplyAdd digits carry).1.length = digits.length := by
  induction digits generalizing carry with
  | nil => simp [multiplyAdd]
  | cons digit digits ih =>
    obtain ⟨hvalue, hlength⟩ := ih ((carry + digit * 58) / 256)
    simp only [multiplyAdd, Nat.ofDigits_cons, List.length_cons, hlength, and_true]
    have hsplit := Nat.div_add_mod (carry + digit * 58) 256
    rw [pow_succ]
    linarith

theorem multiplyAdd_lt {d : Nat} (h : d ∈ (multiplyAdd digits carry).1) : d < 256 := by
  induction digits generalizing carry with
  | nil => exact absurd h List.not_mem_nil
  | cons digit digits ih =>
    rcases List.mem_cons.mp h with rfl | hrest
    · exact Nat.mod_lt _ (by decide)
    · exact ih hrest

theorem ofDigits_addDigit (digits : List Nat) (carry : Nat) :
    Nat.ofDigits 256 (addDigit digits carry) = carry + Nat.ofDigits 256 digits * 58 := by
  obtain ⟨hvalue, hlength⟩ := ofDigits_multiplyAdd digits carry
  unfold addDigit
  dsimp only
  rw [Nat.ofDigits_append, hlength, pushCarry_eq, Nat.ofDigits_digits]
  exact hvalue

theorem addDigit_lt {d : Nat} (h : d ∈ addDigit digits carry) : d < 256 := by
  rcases List.mem_append.mp h with hdigit | hpushed
  · exact multiplyAdd_lt hdigit
  · rw [pushCarry_eq] at hpushed
    exact Nat.digits_lt_base (by decide) hpushed

/-- The digits of a number; zero has one. -/
def keptDigits (n : Nat) : List Nat := if n = 0 then [0] else Nat.digits 256 n

/-- A round keeps the digits those of the number read so far. -/
theorem addDigit_keptDigits (h : carry < 58) :
    addDigit (keptDigits n) carry = keptDigits (58 * n + carry) := by
  by_cases hn : n = 0
  · subst hn
    have hsmall : carry / 256 = 0 := by omega
    have hmod : carry % 256 = carry := by omega
    have hround : addDigit [0] carry = [carry] := by
      simp [addDigit, multiplyAdd, hsmall, hmod, pushCarry]
    rw [keptDigits, if_pos rfl, hround, Nat.mul_zero, Nat.zero_add]
    by_cases hcarry : carry = 0
    · rw [hcarry]
      rfl
    · rw [keptDigits, if_neg hcarry, Nat.digits_of_lt 256 carry hcarry (by omega)]
  · have hpos : 58 * n + carry ≠ 0 := by omega
    have hvalue : Nat.ofDigits 256 (addDigit (Nat.digits 256 n) carry) = 58 * n + carry := by
      rw [ofDigits_addDigit, Nat.ofDigits_digits]
      omega
    rw [keptDigits, if_neg hn, keptDigits, if_neg hpos]
    -- both are digits of the same number, so their lengths decide
    rcases Nat.eq_zero_or_pos (multiplyAdd (Nat.digits 256 n) carry).2 with hnone | hsome
    · have hround : addDigit (Nat.digits 256 n) carry =
          (multiplyAdd (Nat.digits 256 n) carry).1 := by
        unfold addDigit
        dsimp only
        rw [hnone, pushCarry_eq, Nat.digits_zero, List.append_nil]
      have hlength : (addDigit (Nat.digits 256 n) carry).length =
          (Nat.digits 256 (58 * n + carry)).length := by
        apply Nat.le_antisymm
        · rw [hround, (ofDigits_multiplyAdd _ _).2]
          exact Nat.le_length_digits_le 256 n _ (by omega)
        · rw [Nat.digits_length_le_iff (by decide), ← hvalue]
          exact Nat.ofDigits_lt_base_pow_length (by decide) fun d hd => addDigit_lt hd
      apply Nat.ofDigits_inj_of_len_eq (by decide : 1 < 256) hlength
      · exact fun d hd => addDigit_lt hd
      · exact fun d hd => Nat.digits_lt_base (by decide) hd
      · rw [hvalue, Nat.ofDigits_digits]
    · rw [← hvalue, Nat.digits_ofDigits 256 (by decide)]
      · exact fun d hd => addDigit_lt hd
      · intro hne
        have hpushed : Nat.digits 256 (multiplyAdd (Nat.digits 256 n) carry).2 ≠ [] :=
          Nat.digits_ne_nil_iff_ne_zero.mpr hsome.ne'
        simp only [addDigit, pushCarry_eq]
        rw [List.getLast_append_of_ne_nil _ hpushed]
        exact Nat.getLast_digit_ne_zero 256 hsome.ne'

theorem idxOf_base58Char {d : Nat} (h : d < 58) : base58Alphabet.idxOf? (base58Char d) = some d := by
  have hall : ∀ d < 58, base58Alphabet.idxOf? (base58Char d) = some d := by decide
  exact hall d h

/-- The loop over characters of the alphabet reads their number. -/
theorem foldDigits_eq {ds : List Nat} (h : ∀ d ∈ ds, d < 58) (n : Nat) :
    foldDigits (ds.map base58Char) (keptDigits n) =
      .ok (keptDigits (ds.foldl (fun n d => 58 * n + d) n)) := by
  induction ds generalizing n with
  | nil => rfl
  | cons d ds ih =>
    have hd : d < 58 := h d List.mem_cons_self
    rw [List.map_cons, foldDigits, idxOf_base58Char hd]
    dsimp only
    rw [addDigit_keptDigits hd, ih (fun e he => h e (List.mem_cons_of_mem _ he))]
    rfl

end Loops

/-! ## Decoding -/

section Decoding

variable {bytes : Bytes} {value : String} {n : Nat}

theorem foldl_digits (n : Nat) :
    (Nat.digits 58 n).reverse.foldl (fun n d => 58 * n + d) 0 = n := by
  have hfold : Nat.ofDigits 58 (Nat.digits 58 n) =
      (Nat.digits 58 n).foldr (fun d m => 58 * m + d) 0 := by
    rw [Nat.ofDigits_eq_foldr]
    congr 1
    funext d m
    exact Nat.add_comm _ _
  rw [List.foldl_reverse, ← hfold, Nat.ofDigits_digits]

theorem foldl_zeros (z : Nat) :
    (List.replicate z 0).foldl (fun n d => 58 * n + d) 0 = 0 := by
  induction z with
  | zero => rfl
  | succ z ih => exact ih

/-- The digits of an encoding. -/
def encodedDigits (bytes : Bytes) : List Nat :=
  List.replicate (bytes.takeWhile (· = 0)).length 0 ++
    (Nat.digits 58 (bigEndianNumber bytes)).reverse

theorem encodedDigits_lt : ∀ d ∈ encodedDigits bytes, d < 58 := by
  intro d hd
  rcases List.mem_append.mp hd with hzero | hdigit
  · rw [(List.mem_replicate.mp hzero).2]
    decide
  · exact Nat.digits_lt_base (by decide) (List.mem_reverse.mp hdigit)

/-- The characters of an encoding are those of its digits. -/
theorem toList_encode (bytes : Bytes) :
    (base58Encode bytes).toList = (encodedDigits bytes).map base58Char := by
  rw [base58Encode, String.toList_ofList, encodedDigits, List.map_append, List.map_replicate,
    List.map_reverse]
  rfl

theorem base58Char_mem (d : Nat) : base58Char d ∈ base58Alphabet := by
  unfold base58Char
  rw [List.getD_eq_getElem?_getD]
  cases hget : base58Alphabet[d]? with
  | none => decide
  | some char => exact List.mem_of_getElem? hget

/-- Encodings have no key prefix. -/
theorem withoutKeyPrefix_encode (bytes : Bytes) :
    withoutKeyPrefix (base58Encode bytes) = base58Encode bytes := by
  unfold withoutKeyPrefix
  cases hstrip : stripPrefix (base58Encode bytes) "ed25519:" with
  | none => rfl
  | some rest =>
    have hcolon : ':' ∈ (base58Encode bytes).toList := by
      rw [stripPrefix_eq_some.mp hstrip, String.toList_append]
      exact List.mem_append_left _ (by decide)
    rw [toList_encode] at hcolon
    obtain ⟨d, -, hchar⟩ := List.mem_map.mp hcolon
    have hmem := base58Char_mem d
    rw [hchar] at hmem
    exact absurd hmem (by decide)

theorem withoutKeyPrefix_append (value : String) :
    withoutKeyPrefix ("ed25519:" ++ value) = value := by
  unfold withoutKeyPrefix
  rw [stripPrefix_eq_some.mpr rfl]
  rfl

theorem leadingOnes_digits {z : Nat} {ds : List Nat} (hds : ∀ d ∈ ds, d < 58)
    (hhead : ds.head? ≠ some 0) :
    leadingOnes ((List.replicate z 0 ++ ds).map base58Char) = z := by
  induction z with
  | zero =>
    cases ds with
    | nil => rfl
    | cons d ds =>
      have hd : d < 58 := hds d List.mem_cons_self
      have hne : d ≠ 0 := fun hzero => hhead (congrArg some hzero)
      have hchar : base58Char d ≠ '1' := by
        have hall : ∀ d < 58, d ≠ 0 → base58Char d ≠ '1' := by decide
        exact hall d hd hne
      rw [List.replicate_zero, List.nil_append, List.map_cons, leadingOnes, if_pos hchar]
  | succ z ih =>
    rw [List.replicate_succ, List.cons_append, List.map_cons, leadingOnes, ih, if_neg]
    exact not_not.mpr (by decide)

/-- The loops over an encoding: its number, and its zeros. -/
theorem decode_digits (hvalue : (withoutKeyPrefix value) = base58Encode bytes) :
    base58Decode value = .ok (((keptDigits (bigEndianNumber bytes) ++
      List.replicate (bytes.takeWhile (· = 0)).length 0).reverse).map UInt8.ofNat) := by
  have hlt : ∀ d ∈ encodedDigits bytes, d < 58 := encodedDigits_lt
  have hfold := foldDigits_eq hlt 0
  rw [← toList_encode] at hfold
  have hnumber : (encodedDigits bytes).foldl (fun n d => 58 * n + d) 0 = bigEndianNumber bytes := by
    rw [encodedDigits, List.foldl_append, foldl_zeros, foldl_digits]
  have hones : leadingOnes (base58Encode bytes).toList = (bytes.takeWhile (· = 0)).length := by
    rw [toList_encode, encodedDigits, leadingOnes_digits]
    · intro d hd
      exact Nat.digits_lt_base (by decide) (List.mem_reverse.mp hd)
    · rw [List.head?_reverse]
      intro hlast
      have hne : Nat.digits 58 (bigEndianNumber bytes) ≠ [] := by
        intro hnil
        rw [hnil] at hlast
        cases hlast
      rw [List.getLast?_eq_some_getLast hne] at hlast
      exact Nat.getLast_digit_ne_zero 58 (Nat.digits_ne_nil_iff_ne_zero.mp hne)
        (Option.some.inj hlast)
  unfold base58Decode
  rw [hvalue]
  change (foldDigits (base58Encode bytes).toList (keptDigits 0) >>= fun _ => _) = _
  rw [hfold, hnumber, hones]
  rfl

theorem bigEndianNumber_zeros_only (z : Nat) : bigEndianNumber (List.replicate z 0) = 0 := by
  rw [← List.append_nil (List.replicate z (0 : UInt8)), bigEndianNumber_zeros]
  rfl

/-- What was encoded is read back when it has a byte that is not zero. -/
theorem base58Decode_encode (hvalue : withoutKeyPrefix value = base58Encode bytes)
    (h : ∃ b ∈ bytes, b ≠ 0) : base58Decode value = .ok bytes := by
  have hpos : bigEndianNumber bytes ≠ 0 := by
    intro hzero
    have hsplit := zeros_append_bigEndian bytes
    rw [hzero, bigEndian, Nat.digits_zero, List.map_nil, List.reverse_nil, List.append_nil] at hsplit
    obtain ⟨b, hb, hne⟩ := h
    rw [← hsplit] at hb
    exact hne (List.mem_replicate.mp hb).2
  rw [decode_digits hvalue, keptDigits, if_neg hpos, List.reverse_append, List.reverse_replicate,
    List.map_append, List.map_replicate, List.map_reverse]
  exact congrArg Except.ok (zeros_append_bigEndian bytes)

/-- Bytes that are all zero come back with one more. -/
theorem base58Decode_zeros (z : Nat) :
    base58Decode (base58Encode (List.replicate z 0)) = .ok (List.replicate (z + 1) 0) := by
  have hzeros : (List.replicate z (0 : UInt8)).takeWhile (· = 0) = List.replicate z 0 := by
    rw [List.takeWhile_replicate]
    rfl
  rw [decode_digits (withoutKeyPrefix_encode _), bigEndianNumber_zeros_only, hzeros,
    List.length_replicate, keptDigits, if_pos rfl, List.reverse_append, List.reverse_replicate,
    List.map_append, List.map_replicate, List.replicate_succ']
  rfl

/-- The loop throws at a character that is not in the alphabet, and only there. -/
theorem foldDigits_error_iff (chars : List Char) (digits : List Nat) :
    (∃ e, foldDigits chars digits = .error e) ↔ ∃ char ∈ chars, char ∉ base58Alphabet := by
  induction chars generalizing digits with
  | nil => simp [foldDigits]
  | cons char rest ih =>
    unfold foldDigits
    cases hindex : base58Alphabet.idxOf? char with
    | none =>
      have hnot : char ∉ base58Alphabet := List.idxOf?_eq_none_iff.mp hindex
      exact ⟨fun _ => ⟨char, List.mem_cons_self, hnot⟩, fun _ => ⟨_, rfl⟩⟩
    | some digit =>
      have hmem : char ∈ base58Alphabet := by
        by_contra hnot
        rw [List.idxOf?_eq_none_iff.mpr hnot] at hindex
        cases hindex
      dsimp only
      rw [ih]
      constructor
      · rintro ⟨other, hother, hnot⟩
        exact ⟨other, List.mem_cons_of_mem _ hother, hnot⟩
      · rintro ⟨other, hother, hnot⟩
        rcases List.mem_cons.mp hother with rfl | hrest
        · exact absurd hmem hnot
        · exact ⟨other, hrest, hnot⟩

/-- Decoding gives back what was encoded, with or without the prefix of a key, when it has a byte that
is not zero; and it rejects exactly the strings that have another character after that prefix. -/
theorem base58Decode_inverse :
    (∀ bytes : Bytes, (∃ b ∈ bytes, b ≠ 0) →
      base58Decode (base58Encode bytes) = .ok bytes ∧
        base58Decode ("ed25519:" ++ base58Encode bytes) = .ok bytes) ∧
    ∀ value, (∃ e, base58Decode value = .error e) ↔
      ∃ char ∈ (withoutKeyPrefix value).toList, char ∉ base58Alphabet := by
  constructor
  · intro bytes h
    constructor
    · exact base58Decode_encode (withoutKeyPrefix_encode bytes) h
    · exact base58Decode_encode (withoutKeyPrefix_append _) h
  · intro value
    rw [← foldDigits_error_iff _ [0]]
    unfold base58Decode
    dsimp only
    cases hfold : foldDigits (withoutKeyPrefix value).toList [0] with
    | ok digits =>
      constructor
      · rintro ⟨e, he⟩
        cases he
      · rintro ⟨e, he⟩
        cases he
    | error e => exact ⟨fun _ => ⟨e, rfl⟩, fun _ => ⟨e, rfl⟩⟩

/-- The prefix of a key is no part of the alphabet, and it is accepted. -/
theorem base58Decode_prefixed :
    (∃ char ∈ "ed25519:2".toList, char ∉ base58Alphabet) ∧
      base58Decode "ed25519:2" = .ok [1] := by
  constructor
  · exact ⟨':', by decide, by decide⟩
  · decide +kernel

end Decoding

end Youtick.Bridge
