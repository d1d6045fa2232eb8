import Youtick.PaymentService.Formats

/-!
# Relayer: strings and JSON values

A string of the language is a sequence of UTF-16 units, so half of a surrogate pair may stand alone
in it. `JsString` is such a string by code points; the ones without a lone surrogate are the texts
(`ofString`). `JsValue.stringify` is the text `JSON.stringify` writes: no white space, properties in
their order, and a lone surrogate spelled as an escape, so that the output is always a text.
-/

set_option autoImplicit false

namespace Youtick.Relayer

open Youtick.Lib

/-! ## Strings -/

/-- A Unicode scalar value, or the unit `0xD800 + offset` on its own. -/
inductive CodePoint where
  | scalar (c : Char)
  | surrogate (offset : Fin 2048)
  deriving DecidableEq

namespace CodePoint

/-- The first half of a pair. -/
def isHigh : CodePoint → Bool
  | .scalar _ => false
  | .surrogate offset => decide (offset.val < 1024)

/-- The second half of a pair. -/
def isLow : CodePoint → Bool
  | .scalar _ => false
  | .surrogate offset => decide (1024 ≤ offset.val)

def scalar? : CodePoint → Option Char
  | .scalar c => some c
  | .surrogate _ => none

/-- White space or a line terminator. -/
def isSpace : CodePoint → Bool
  | .scalar c => PaymentService.isSpace c
  | .surrogate _ => false

/-- `\p{Cc}` -/
def isControl : CodePoint → Bool
  | .scalar c => decide (c.toNat < 0x20) || (decide (0x7f ≤ c.toNat) && decide (c.toNat ≤ 0x9f))
  | .surrogate _ => false

/-- The length in UTF-8; a lone surrogate is encoded as U+FFFD. -/
def utf8Size : CodePoint → Nat
  | .scalar c => c.utf8Size
  | .surrogate _ => 3

end CodePoint

/-- A string by code points: a first half is never followed by a second one, which would be one
scalar value. -/
structure JsString where
  points : List CodePoint
  paired : points.IsChain fun a b => ¬ (a.isHigh = true ∧ b.isLow = true)
  deriving DecidableEq

namespace JsString

def ofString (text : String) : JsString where
  points := text.toList.map .scalar
  paired := by
    rw [List.isChain_map]
    apply List.Pairwise.isChain
    apply List.pairwise_of_forall
    rintro a b ⟨hhigh, -⟩
    cases hhigh

/-- The text of a string without lone surrogates. -/
def text? (s : JsString) : Option String := (s.points.mapM CodePoint.scalar?).map String.ofList

/-- Nothing is left after trimming. -/
def isBlank (s : JsString) : Bool := s.points.all CodePoint.isSpace

def byteLength (s : JsString) : Nat := (s.points.map CodePoint.utf8Size).sum

def hasControl (s : JsString) : Bool := s.points.any CodePoint.isControl

theorem mapM_scalar? (cs : List Char) : (cs.map CodePoint.scalar).mapM CodePoint.scalar? = some cs := by
  induction cs with
  | nil => rfl
  | cons c cs ih =>
    rw [List.map_cons, List.mapM_cons, ih]
    rfl

@[simp] theorem text?_ofString (text : String) : (ofString text).text? = some text := by
  rw [text?, ofString, mapM_scalar?]
  exact congrArg some String.ofList_toList

theorem points_of_mapM {points : List CodePoint} {cs : List Char}
    (h : points.mapM CodePoint.scalar? = some cs) : points = cs.map .scalar := by
  induction points generalizing cs with
  | nil =>
    obtain rfl := Option.some.inj h
    rfl
  | cons point points ih =>
    rw [List.mapM_cons] at h
    obtain ⟨c, hc, h⟩ := Option.bind_eq_some_iff.mp h
    obtain ⟨rest, hrest, h⟩ := Option.bind_eq_some_iff.mp h
    obtain rfl := Option.some.inj h
    cases point with
    | scalar c' =>
      obtain rfl := Option.some.inj hc
      rw [ih hrest]
      rfl
    | surrogate _ => cases hc

theorem text?_eq_some {s : JsString} {text : String} : s.text? = some text ↔ s = ofString text := by
  constructor
  · intro h
    obtain ⟨cs, hcs, rfl⟩ := Option.map_eq_some_iff.mp h
    have hpoints := points_of_mapM hcs
    obtain ⟨points, paired⟩ := s
    obtain rfl : points = cs.map .scalar := hpoints
    simp only [ofString, String.toList_ofList]
  · rintro rfl
    exact text?_ofString text

theorem ofString_injective {s t : String} (h : ofString s = ofString t) : s = t := by
  have htext := congrArg text? h
  rw [text?_ofString, text?_ofString] at htext
  exact Option.some.inj htext

end JsString

/-! ## Values -/

/-- A value `JSON.parse` returns. A number is kept as the text `JSON.stringify` writes for it; the
properties of an object stand in the order of `Object.keys`. -/
inductive JsValue where
  | null
  | bool (b : Bool)
  | number (text : String)
  | string (s : JsString)
  | array (items : List JsValue)
  | object (fields : List (JsString × JsValue))

/-- `\udxxx` and `\u00xx`: four lowercase hex digits. -/
def unicodeEscape (n : Nat) : List Char :=
  ['\\', 'u', hexDigit (n / 4096), hexDigit (n / 256 % 16), hexDigit (n / 16 % 16), hexDigit (n % 16)]

def escapedPoint : CodePoint → List Char
  | .surrogate offset => unicodeEscape (0xD800 + offset.val)
  | .scalar c =>
    if c = '"' then ['\\', '"']
    else if c = '\\' then ['\\', '\\']
    else if c.toNat = 8 then ['\\', 'b']
    else if c = '\t' then ['\\', 't']
    else if c = '\n' then ['\\', 'n']
    else if c.toNat = 12 then ['\\', 'f']
    else if c = '\r' then ['\\', 'r']
    else if c.toNat < 0x20 then unicodeEscape c.toNat
    else [c]

def quoted (s : JsString) : List Char := '"' :: s.points.flatMap escapedPoint ++ ['"']

namespace JsValue

mutual

/-- The characters of a value. -/
def chars : JsValue → List Char
  | .null => "null".toList
  | .bool b => (if b then "true" else "false").toList
  | .number text => text.toList
  | .string s => quoted s
  | .array items => '[' :: charsOfItems items ++ [']']
  | .object fields => Char.ofNat 0x7b :: charsOfFields fields ++ [Char.ofNat 0x7d]

def charsOfItems : List JsValue → List Char
  | [] => []
  | [item] => chars item
  | item :: rest => chars item ++ ',' :: charsOfItems rest

def charsOfFields : List (JsString × JsValue) → List Char
  | [] => []
  | [(key, value)] => quoted key ++ ':' :: chars value
  | (key, value) :: rest => quoted key ++ ':' :: chars value ++ ',' :: charsOfFields rest

end

def stringify (value : JsValue) : String := String.ofList value.chars

/-- The properties of an object that is no array. -/
def fields? : JsValue → Option (List (JsString × JsValue))
  | .object fields => some fields
  | _ => none

def string? : JsValue → Option JsString
  | .string s => some s
  | _ => none

end JsValue

/-- The value of a property. -/
def property (fields : List (JsString × JsValue)) (key : String) : Option JsValue :=
  (fields.find? fun field => decide (field.1 = .ofString key)).map Prod.snd

/-- `exactStrings`: an object with exactly these properties, all of them strings. -/
def exactStrings (value : JsValue) (keys : List String) : Bool :=
  match value.fields? with
  | none => false
  | some fields =>
    decide ((fields.map Prod.fst).Perm (keys.map .ofString)) &&
      keys.all fun key => ((property fields key).bind JsValue.string?).isSome

/-- The string property of an object that passed `exactStrings`. -/
def stringProperty (fields : List (JsString × JsValue)) (key : String) : Option JsString :=
  (property fields key).bind JsValue.string?

end Youtick.Relayer
