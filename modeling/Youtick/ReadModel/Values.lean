import Youtick.MarketV2.Checks
import Youtick.Relayer.Json

/-!
# Read model: values and patterns

The regular expressions the read model checks its inputs with, and the numbers it accepts. A number
of a JSON value is kept as the text `JSON.stringify` writes for it, so a safe integer that is not
negative is a decimal without leading zeros.
-/

set_option autoImplicit false

namespace Youtick.ReadModel

open Youtick.Lib Youtick.MarketV2 Youtick.PaymentService Youtick.Relayer

/-! ## Patterns -/

/-- `^[class]{low,high}$` -/
def isWord (charClass : Char → Bool) (low high : Nat) (text : String) : Bool :=
  decide (low ≤ text.toList.length) && decide (text.toList.length ≤ high) &&
    text.toList.all charClass

/-- `^[a-z0-9][a-z0-9._-]{0,62}[a-z0-9]$` -/
def isAccountText (text : String) : Bool :=
  isWord (fun c => isAccountChar c || isAccountSeparator c) 2 64 text &&
    text.toList.head?.any isAccountChar && text.toList.getLast?.any isAccountChar

/-- `^[A-Za-z0-9_-]{low,high}$` -/
def isUrlWord (low high : Nat) (text : String) : Bool :=
  isWord (fun c => isAsciiAlphanumeric c || c == '_' || c == '-') low high text

/-- `^[1-9A-HJ-NP-Za-km-z]{32,64}$` -/
def isHashText (text : String) : Bool := isWord isBase58Char 32 64 text

/-! ## Numbers -/

/-- `Number.MAX_SAFE_INTEGER` -/
def maxSafe : Nat := 2 ^ 53 - 1

/-- `Number.isSafeInteger(value)` for a value that is not negative, with its number. -/
def safeInteger : JsValue → Option Nat
  | .number text =>
    if (text = "0" ∨ isPositiveDecimal 15 text = true) ∧ digitsValue text.toList ≤ maxSafe then
      some (digitsValue text.toList)
    else none
  | _ => none

/-- The text of a string value that matches `pattern`; a lone surrogate matches none of them. -/
def matchedText (value : JsValue) (pattern : String → Bool) : Option String := do
  let s ← value.string?
  let text ← s.text?
  if pattern text then some text else none

theorem matchedText_spec {value : JsValue} {pattern : String → Bool} {text : String}
    (h : matchedText value pattern = some text) : pattern text = true := by
  obtain ⟨s, -, h⟩ := Option.bind_eq_some_iff.mp h
  obtain ⟨found, -, h⟩ := Option.bind_eq_some_iff.mp h
  split at h
  · next hpattern =>
      obtain rfl := Option.some.inj h
      exact hpattern
  · cases h

end Youtick.ReadModel
