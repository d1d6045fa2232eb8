import Youtick.Lib.Keys
import Youtick.Relayer.Json

/-!
# Relayer: a JSON text has one value

`JsValue.stringify` is injective on the values whose numbers are spelled with the characters of a
number (`JsValue.stringify_injective`). A string is read back point by point (`readPoint`), and a
value ends where its text says, so that two texts that agree up to a delimiter are of one value.
-/

set_option autoImplicit false

namespace Youtick.Relayer

open Youtick.Lib

/-! ## Reading a string back -/

/-- The value of a lowercase hex digit. -/
def hexValue (c : Char) : Nat := if c.toNat < 58 then c.toNat - 48 else c.toNat - 87

def pointOfCode (n : Nat) : CodePoint :=
  if h : 0xD800 ≤ n ∧ n < 0xE000 then .surrogate ⟨n - 0xD800, by omega⟩ else .scalar (Char.ofNat n)

/-- The first code point of an escaped text, and the rest. -/
def readPoint : List Char → Option (CodePoint × List Char)
  | '\\' :: 'u' :: a :: b :: c :: d :: rest =>
    some (pointOfCode (hexValue a * 4096 + hexValue b * 256 + hexValue c * 16 + hexValue d), rest)
  | '\\' :: 'b' :: rest => some (.scalar (Char.ofNat 8), rest)
  | '\\' :: 't' :: rest => some (.scalar '\t', rest)
  | '\\' :: 'n' :: rest => some (.scalar '\n', rest)
  | '\\' :: 'f' :: rest => some (.scalar (Char.ofNat 12), rest)
  | '\\' :: 'r' :: rest => some (.scalar '\r', rest)
  | '\\' :: c :: rest => some (.scalar c, rest)
  | c :: rest => some (.scalar c, rest)
  | [] => none

theorem hexValue_hexDigit : ∀ n < 16, hexValue (hexDigit n) = n := by decide

theorem readPoint_unicodeEscape {n : Nat} (h : n < 65536) (rest : List Char) :
    readPoint (unicodeEscape n ++ rest) = some (pointOfCode n, rest) := by
  have hdigits : n / 4096 * 4096 + n / 256 % 16 * 256 + n / 16 % 16 * 16 + n % 16 = n := by omega
  simp only [unicodeEscape, List.cons_append, List.nil_append, readPoint]
  rw [hexValue_hexDigit _ (by omega), hexValue_hexDigit _ (by omega),
    hexValue_hexDigit _ (by omega), hexValue_hexDigit _ (by omega), hdigits]

theorem readPoint_escapedPoint (p : CodePoint) (rest : List Char) :
    readPoint (escapedPoint p ++ rest) = some (p, rest) := by
  cases p with
  | surrogate offset =>
    have hlt := offset.isLt
    rw [escapedPoint, readPoint_unicodeEscape (by omega)]
    simp only [pointOfCode]
    rw [dif_pos (by omega)]
    simp
  | scalar c =>
    have hchar : Char.ofNat c.toNat = c := Char.ofNat_toNat c
    simp only [escapedPoint]
    split
    · next h => rw [h]; rfl
    split
    · next h => rw [h]; rfl
    split
    · next h => rw [← hchar, h]; rfl
    split
    · next h => rw [h]; rfl
    split
    · next h => rw [h]; rfl
    split
    · next h => rw [← hchar, h]; rfl
    split
    · next h => rw [h]; rfl
    split
    · next h =>
        rw [readPoint_unicodeEscape (by omega)]
        simp only [pointOfCode]
        rw [dif_neg (by omega), hchar]
    · next _ hslash _ _ _ _ _ _ =>
        rw [List.singleton_append]
        unfold readPoint
        split <;> simp_all

theorem escapedPoint_head (p : CodePoint) : ∃ c rest, escapedPoint p = c :: rest ∧ c ≠ '"' := by
  cases p with
  | surrogate offset => exact ⟨'\\', _, rfl, by decide⟩
  | scalar c =>
    by_cases hquote : c = '"'
    · exact ⟨'\\', ['"'], by simp [escapedPoint, hquote], by decide⟩
    · simp only [escapedPoint, if_neg hquote]
      split_ifs <;> first | exact ⟨'\\', _, rfl, by decide⟩ | exact ⟨c, [], rfl, hquote⟩

/-- The points of a string end at the first bare quotation mark. -/
theorem points_injective {ps qs : List CodePoint} {r s : List Char}
    (h : ps.flatMap escapedPoint ++ '"' :: r = qs.flatMap escapedPoint ++ '"' :: s) :
    ps = qs ∧ r = s := by
  induction ps generalizing qs with
  | nil =>
    cases qs with
    | nil => exact ⟨rfl, (List.cons.inj h).2⟩
    | cons q qs =>
      obtain ⟨c, rest, hq, hc⟩ := escapedPoint_head q
      rw [List.flatMap_cons, hq] at h
      exact absurd (List.cons.inj h).1.symm hc
  | cons p ps ih =>
    cases qs with
    | nil =>
      obtain ⟨c, rest, hp, hc⟩ := escapedPoint_head p
      rw [List.flatMap_cons, hp] at h
      exact absurd (List.cons.inj h).1 hc
    | cons q qs =>
      simp only [List.flatMap_cons, List.append_assoc] at h
      have hread := congrArg readPoint h
      rw [readPoint_escapedPoint, readPoint_escapedPoint] at hread
      obtain ⟨rfl, hrest⟩ := Prod.mk.inj (Option.some.inj hread)
      obtain ⟨rfl, hrs⟩ := ih hrest
      exact ⟨rfl, hrs⟩

theorem quoted_injective {a b : JsString} {r s : List Char}
    (h : quoted a ++ r = quoted b ++ s) : a = b ∧ r = s := by
  simp only [quoted, List.cons_append, List.append_assoc, List.nil_append, List.cons.injEq,
    true_and] at h
  obtain ⟨hpoints, hrest⟩ := points_injective h
  obtain ⟨points, paired⟩ := a
  obtain rfl : points = b.points := hpoints
  exact ⟨rfl, hrest⟩

/-! ## Values -/

def isNumberChar (c : Char) : Bool := c.isDigit || ['-', '+', '.', 'e', 'E'].contains c

namespace JsValue

mutual

/-- Every number is spelled with the characters of a number. -/
def Spelled : JsValue → Prop
  | .number text => text.toList ≠ [] ∧ text.toList.all isNumberChar = true
  | .array items => SpelledItems items
  | .object fields => SpelledFields fields
  | _ => True

def SpelledItems : List JsValue → Prop
  | [] => True
  | item :: rest => Spelled item ∧ SpelledItems rest

def SpelledFields : List (JsString × JsValue) → Prop
  | [] => True
  | (_, value) :: rest => Spelled value ∧ SpelledFields rest

end

/-- What may follow a value. -/
def Delimits (r : List Char) : Prop :=
  ∀ c ∈ r.head?, c = ',' ∨ c = ']' ∨ c = Char.ofNat 0x7d

/-- The kinds of values, told apart by the first character. -/
def kind : JsValue → Nat
  | .null => 0
  | .bool _ => 1
  | .number _ => 2
  | .string _ => 3
  | .array _ => 4
  | .object _ => 5

def kindOf (c : Char) : Nat :=
  if c = 'n' then 0
  else if c = 't' ∨ c = 'f' then 1
  else if c = '"' then 3
  else if c = '[' then 4
  else if c = Char.ofNat 0x7b then 5
  else 2

theorem kindOf_number {c : Char} (h : isNumberChar c = true) : kindOf c = 2 := by
  unfold kindOf
  split_ifs with hn hb hs ha ho
  · subst hn; cases h
  · rcases hb with rfl | rfl <;> cases h
  · subst hs; cases h
  · subst ha; cases h
  · subst ho; cases h
  · rfl

theorem chars_head {v : JsValue} (h : v.Spelled) :
    ∃ c rest, v.chars = c :: rest ∧ kindOf c = v.kind := by
  cases v with
  | null => exact ⟨'n', _, rfl, rfl⟩
  | bool b => cases b <;> exact ⟨_, _, rfl, rfl⟩
  | number text =>
    obtain ⟨hne, hall⟩ := h
    obtain ⟨c, rest, hcs⟩ := List.exists_cons_of_ne_nil hne
    rw [hcs, List.all_cons, Bool.and_eq_true] at hall
    exact ⟨c, rest, hcs, kindOf_number hall.1⟩
  | string s => exact ⟨'"', _, rfl, rfl⟩
  | array items => exact ⟨'[', _, rfl, rfl⟩
  | object fields => exact ⟨_, _, rfl, rfl⟩

theorem kind_eq_of_chars {v w : JsValue} {r s : List Char} (hv : v.Spelled) (hw : w.Spelled)
    (h : v.chars ++ r = w.chars ++ s) : v.kind = w.kind := by
  obtain ⟨c, rest, hc, hkind⟩ := chars_head hv
  obtain ⟨d, rest', hd, hkind'⟩ := chars_head hw
  rw [hc, hd] at h
  rw [← hkind, ← hkind', (List.cons.inj h).1]

theorem delimits_not_number {r : List Char} (h : Delimits r) :
    ∀ c ∈ r.head?, isNumberChar c = false := by
  intro c hc
  rcases h c hc with rfl | rfl | rfl <;> rfl

theorem number_injective {a b r s : List Char} (ha : a.all isNumberChar = true)
    (hb : b.all isNumberChar = true) (hr : Delimits r) (hs : Delimits s) (h : a ++ r = b ++ s) :
    a = b ∧ r = s := by
  induction a generalizing b with
  | nil =>
    cases b with
    | nil => exact ⟨rfl, h⟩
    | cons d b =>
      rw [List.all_cons, Bool.and_eq_true] at hb
      have hd := delimits_not_number hr d (by rw [show r = d :: (b ++ s) from h]; rfl)
      exact absurd (hb.1.symm.trans hd) (by decide)
  | cons c a ih =>
    rw [List.all_cons, Bool.and_eq_true] at ha
    cases b with
    | nil =>
      have hc := delimits_not_number hs c (by rw [← show c :: (a ++ r) = s from h]; rfl)
      exact absurd (ha.1.symm.trans hc) (by decide)
    | cons d b =>
      rw [List.all_cons, Bool.and_eq_true] at hb
      obtain ⟨rfl, hrest⟩ := List.cons.inj h
      obtain ⟨rfl, hrs⟩ := ih ha.2 hb.2 hrest
      exact ⟨rfl, hrs⟩

theorem delimits_comma (r : List Char) : Delimits (',' :: r) := by
  intro c hc
  exact .inl (Option.some.inj hc).symm

theorem delimits_bracket (r : List Char) : Delimits (']' :: r) := by
  intro c hc
  exact .inr (.inl (Option.some.inj hc).symm)

theorem delimits_brace (r : List Char) : Delimits (Char.ofNat 0x7d :: r) := by
  intro c hc
  exact .inr (.inr (Option.some.inj hc).symm)

theorem charsOfItems_cons (v : JsValue) (vs : List JsValue) (r : List Char) :
    ∃ t, charsOfItems (v :: vs) ++ ']' :: r = v.chars ++ t ∧ Delimits t ∧
      ((vs = [] ∧ t = ']' :: r) ∨ (vs ≠ [] ∧ t = ',' :: (charsOfItems vs ++ ']' :: r))) := by
  cases vs with
  | nil => exact ⟨']' :: r, rfl, delimits_bracket r, .inl ⟨rfl, rfl⟩⟩
  | cons w vs =>
    exact ⟨_, by simp [charsOfItems], delimits_comma _, .inr ⟨List.cons_ne_nil _ _, rfl⟩⟩

theorem charsOfFields_cons (key : JsString) (v : JsValue) (vs : List (JsString × JsValue))
    (r : List Char) :
    ∃ t, charsOfFields ((key, v) :: vs) ++ Char.ofNat 0x7d :: r
        = quoted key ++ ':' :: (v.chars ++ t) ∧ Delimits t ∧
      ((vs = [] ∧ t = Char.ofNat 0x7d :: r) ∨
        (vs ≠ [] ∧ t = ',' :: (charsOfFields vs ++ Char.ofNat 0x7d :: r))) := by
  cases vs with
  | nil => exact ⟨_, by simp [charsOfFields], delimits_brace r, .inl ⟨rfl, rfl⟩⟩
  | cons w vs =>
    exact ⟨_, by simp [charsOfFields], delimits_comma _, .inr ⟨List.cons_ne_nil _ _, rfl⟩⟩

/-- No value starts like the end of a list. -/
theorem chars_ne_bracket {v : JsValue} (h : v.Spelled) (r t : List Char) :
    v.chars ++ t ≠ ']' :: r := by
  obtain ⟨c, rest, hc, hkind⟩ := chars_head h
  intro heq
  rw [hc] at heq
  obtain ⟨rfl, -⟩ := List.cons.inj heq
  cases v with
  | number text =>
    rw [chars] at hc
    have hall := h.2
    rw [hc, List.all_cons, Bool.and_eq_true] at hall
    exact absurd hall.1 (by decide)
  | _ => exact absurd hkind (by simp only [kind]; decide)

mutual

theorem chars_injective (v w : JsValue) {r s : List Char} (hv : v.Spelled) (hw : w.Spelled)
    (hr : Delimits r) (hs : Delimits s) (h : v.chars ++ r = w.chars ++ s) : v = w ∧ r = s := by
  have hkind := kind_eq_of_chars hv hw h
  match v, w with
  | .null, .null => exact ⟨rfl, List.append_cancel_left h⟩
  | .bool a, .bool b =>
    cases a <;> cases b
    · exact ⟨rfl, List.append_cancel_left h⟩
    · cases (List.cons.inj h).1
    · cases (List.cons.inj h).1
    · exact ⟨rfl, List.append_cancel_left h⟩
  | .number a, .number b =>
    obtain ⟨htext, hrs⟩ := number_injective hv.2 hw.2 hr hs h
    exact ⟨congrArg number (String.toList_inj.mp htext), hrs⟩
  | .string a, .string b =>
    obtain ⟨rfl, hrs⟩ := quoted_injective h
    exact ⟨rfl, hrs⟩
  | .array xs, .array ys =>
    simp only [chars, List.cons_append, List.append_assoc, List.nil_append, List.cons.injEq,
      true_and] at h
    obtain ⟨rfl, hrs⟩ := charsOfItems_injective xs ys hv hw h
    exact ⟨rfl, hrs⟩
  | .object xs, .object ys =>
    simp only [chars, List.cons_append, List.append_assoc, List.nil_append, List.cons.injEq,
      true_and] at h
    obtain ⟨rfl, hrs⟩ := charsOfFields_injective xs ys hv hw h
    exact ⟨rfl, hrs⟩

theorem charsOfItems_injective (xs ys : List JsValue) {r s : List Char} (hx : SpelledItems xs)
    (hy : SpelledItems ys) (h : charsOfItems xs ++ ']' :: r = charsOfItems ys ++ ']' :: s) :
    xs = ys ∧ r = s := by
  match xs, ys with
  | [], [] => exact ⟨rfl, (List.cons.inj h).2⟩
  | [], y :: ys =>
    obtain ⟨t, ht, -, -⟩ := charsOfItems_cons y ys s
    rw [ht] at h
    exact absurd h.symm (chars_ne_bracket hy.1 r t)
  | x :: xs, [] =>
    obtain ⟨t, ht, -, -⟩ := charsOfItems_cons x xs r
    rw [ht] at h
    exact absurd h (chars_ne_bracket hx.1 s t)
  | x :: xs, y :: ys =>
    obtain ⟨t, ht, htd, htail⟩ := charsOfItems_cons x xs r
    obtain ⟨u, hu, hud, hutail⟩ := charsOfItems_cons y ys s
    rw [ht, hu] at h
    obtain ⟨rfl, htu⟩ := chars_injective x y hx.1 hy.1 htd hud h
    rcases htail with ⟨rfl, rfl⟩ | ⟨hxs, rfl⟩ <;> rcases hutail with ⟨rfl, rfl⟩ | ⟨hys, rfl⟩
    · exact ⟨rfl, (List.cons.inj htu).2⟩
    · cases (List.cons.inj htu).1
    · cases (List.cons.inj htu).1
    · obtain ⟨rfl, hrs⟩ := charsOfItems_injective xs ys hx.2 hy.2 (List.cons.inj htu).2
      exact ⟨rfl, hrs⟩

theorem charsOfFields_injective (xs ys : List (JsString × JsValue)) {r s : List Char}
    (hx : SpelledFields xs) (hy : SpelledFields ys)
    (h : charsOfFields xs ++ Char.ofNat 0x7d :: r = charsOfFields ys ++ Char.ofNat 0x7d :: s) :
    xs = ys ∧ r = s := by
  match xs, ys with
  | [], [] => exact ⟨rfl, (List.cons.inj h).2⟩
  | [], (key, y) :: ys =>
    obtain ⟨t, ht, -, -⟩ := charsOfFields_cons key y ys s
    rw [ht] at h
    exact absurd (List.cons.inj h).1 (by decide)
  | (key, x) :: xs, [] =>
    obtain ⟨t, ht, -, -⟩ := charsOfFields_cons key x xs r
    rw [ht] at h
    exact absurd (List.cons.inj h).1 (by decide)
  | (key, x) :: xs, (key', y) :: ys =>
    obtain ⟨t, ht, htd, htail⟩ := charsOfFields_cons key x xs r
    obtain ⟨u, hu, hud, hutail⟩ := charsOfFields_cons key' y ys s
    rw [ht, hu] at h
    obtain ⟨rfl, hvalue⟩ := quoted_injective h
    obtain ⟨rfl, htu⟩ := chars_injective x y hx.1 hy.1 htd hud (List.cons.inj hvalue).2
    rcases htail with ⟨rfl, rfl⟩ | ⟨hxs, rfl⟩ <;> rcases hutail with ⟨rfl, rfl⟩ | ⟨hys, rfl⟩
    · exact ⟨rfl, (List.cons.inj htu).2⟩
    · exact absurd (List.cons.inj htu).1 (by decide)
    · exact absurd (List.cons.inj htu).1 (by decide)
    · obtain ⟨rfl, hrs⟩ := charsOfFields_injective xs ys hx.2 hy.2 (List.cons.inj htu).2
      exact ⟨rfl, hrs⟩

end

/-- The text of a value determines the value. -/
theorem stringify_injective {v w : JsValue} (hv : v.Spelled) (hw : w.Spelled)
    (h : v.stringify = w.stringify) : v = w := by
  have hnil : Delimits [] := fun c hc => nomatch hc
  have hchars : v.chars = w.chars := String.ofList_injective h
  refine (chars_injective v w hv hw hnil hnil ?_).1
  rw [hchars]

open Classical in
/-- The value of a text that was written as JSON. -/
noncomputable def readBack (text : String) : Option JsValue :=
  if h : ∃ value : JsValue, value.Spelled ∧ value.stringify = text then some h.choose else none

theorem readBack_stringify {value : JsValue} (hvalue : value.Spelled) :
    readBack value.stringify = some value := by
  have hwritten : ∃ other : JsValue, other.Spelled ∧ other.stringify = value.stringify :=
    ⟨value, hvalue, rfl⟩
  rw [readBack, dif_pos hwritten]
  exact congrArg some
    (stringify_injective hwritten.choose_spec.1 hvalue hwritten.choose_spec.2)

theorem spelled_decimal (n : Nat) : Spelled (.number (decimal n)) := by
  have htext : (decimal n).toList = Nat.toDigits 10 n := by
    rw [decimal, Nat.repr_eq_ofList_toDigits, String.toList_ofList]
  constructor
  · rw [htext]
    exact List.ne_nil_of_length_pos Nat.length_toDigits_pos
  · rw [htext, List.all_eq_true]
    intro c hc
    have hdigit := Nat.isDigit_of_mem_toDigits (by decide) (by decide) hc
    simp only [isNumberChar, hdigit, Bool.true_or]

end JsValue

end Youtick.Relayer
