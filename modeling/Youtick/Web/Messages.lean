import Youtick.PaymentService.Formats

/-!
# Web: ticket messages

`lib/ticket-keys/messages.ts`: the signed fields of each ticket action with their canonical types,
and the message made from them. Every check fails with the same error. `Codec` is the base58 of the
key library.
-/

set_option autoImplicit false

namespace Youtick.Web

open Youtick.Lib Youtick.PaymentService

def ticketSignatureDomain : String := "youtick.market-v2.ticket-sig.v1"

def invalidTicketMessage : String := "invalid_ticket_message"

structure Codec where
  baseDecode : String → Option Bytes
  baseEncode : Bytes → String

structure MarketBinding where
  network : String
  contractId : String

inductive FieldType where
  | identifier
  | account
  | key
  | hex
  | u32
  | positiveU64
  | currency

inductive TicketAction where
  | purchaseDevice
  | cardPurchase
  | addDevice
  | revokeDevice
  | refundTicket

def TicketAction.name : TicketAction → String
  | .purchaseDevice => "purchase_device"
  | .cardPurchase => "card_purchase"
  | .addDevice => "add_device"
  | .revokeDevice => "revoke_device"
  | .refundTicket => "refund_ticket"

/-- Fields signed after `expires_at_ms`, in order, with their canonical type. -/
def ticketFields : TicketAction → List (String × FieldType)
  | .purchaseDevice =>
    [("publication_id", .identifier), ("session_public_key", .key), ("certificate_sha256", .hex)]
  | .cardPurchase =>
    [("publication_id", .identifier), ("session_public_key", .key), ("certificate_sha256", .hex),
     ("payment_reference_hmac", .hex), ("gross_minor", .positiveU64), ("currency", .currency)]
  | .addDevice =>
    [("session_public_key", .key), ("certificate_sha256", .hex), ("device_epoch", .u32)]
  | .revokeDevice => [("session_public_key", .key), ("device_epoch", .u32)]
  | .refundTicket => [("refund_to", .account)]

/-! ## Regular expressions -/

/-- `^(0|[1-9][0-9]*)$` -/
def isDecimalText (text : String) : Bool :=
  decide (text = "0") || isPositiveDecimal text.toList.length text

/-- `[A-Za-z0-9._:-]` -/
def isIdentifierChar (c : Char) : Bool :=
  isAsciiAlphanumeric c || c == '.' || c == '_' || c == ':' || c == '-'

/-- `^[A-Za-z0-9._:-]{1,128}$` -/
def isIdentifier (text : String) : Bool :=
  decide (1 ≤ text.toList.length) && decide (text.toList.length ≤ 128) &&
    text.toList.all isIdentifierChar

/-- `^[a-z0-9][a-z0-9._-]{0,62}[a-z0-9]$` -/
def isAccount (text : String) : Bool :=
  decide (2 ≤ text.toList.length) && decide (text.toList.length ≤ 64) &&
    (text.toList.all fun c => isAccountChar c || isAccountSeparator c) &&
    text.toList.head?.any isAccountChar && text.toList.getLast?.any isAccountChar

/-- `^[A-Z]{3}$` -/
def isCurrency (text : String) : Bool :=
  decide (text.toList.length = 3) && text.toList.all isAsciiUppercase

/-! ## Fields -/

/-- The text of a decimal within `max`. -/
def decimalField (value : String) (max : Nat) : Result String := do
  require (isDecimalText value = true ∧ ¬ digitsValue value.toList > max) invalidTicketMessage
  return value

def canonicalKey (codec : Codec) (value : String) : Result String := do
  let encoded ← expect (stripPrefix value "ed25519:") invalidTicketMessage
  let raw ← expect (codec.baseDecode encoded) invalidTicketMessage
  require (raw.length = 32 ∧ "ed25519:" ++ codec.baseEncode raw = value) invalidTicketMessage
  return value

def patternField (pattern : String → Bool) (value : String) : Result String := do
  require (pattern value = true) invalidTicketMessage
  return value

def canonicalField (codec : Codec) (value : String) : FieldType → Result String
  | .u32 => decimalField value (maxOf 32)
  | .positiveU64 => do
      require (value ≠ "0") invalidTicketMessage
      decimalField value (maxOf 64)
  | .key => canonicalKey codec value
  | .hex => patternField (isHexText 64) value
  | .currency => patternField isCurrency value
  | .identifier => patternField isIdentifier value
  | .account => patternField isAccount value

def lines (values : List String) : Result String := do
  require (∀ value ∈ values, IsLine value) invalidTicketMessage
  return joinLines values

def ticketIdField (value : String) : Result String := patternField (isHexText 64) value

/-- The canonical values of the action's fields; a missing field fails whatever its type. -/
def fieldValues (codec : Codec) (fields : List (String × String)) :
    List (String × FieldType) → Result (List String)
  | [] => return []
  | (name, type) :: rest => do
      let value ← expect (fields.lookup name) invalidTicketMessage
      let line ← canonicalField codec value type
      let values ← fieldValues codec fields rest
      return line :: values

def ticketMessage (codec : Codec) (binding : MarketBinding) (action : TicketAction)
    (ticketId expiresAtMs : String) (fields : List (String × String)) : Result String := do
  let id ← ticketIdField ticketId
  let expiry ← decimalField expiresAtMs (maxOf 64)
  let values ← fieldValues codec fields (ticketFields action)
  lines ([ticketSignatureDomain, binding.network, binding.contractId, action.name, id, expiry] ++
    values)

/-! ## What the checks return -/

section Fields

variable {codec : Codec} {value line : String}

theorem decimalField_eq_ok {max : Nat} : decimalField value max = .ok line ↔
    (isDecimalText value = true ∧ digitsValue value.toList ≤ max) ∧ line = value := by
  simp only [decimalField, bind_eq_ok, require_eq_ok, pure_eq_ok, Nat.not_lt]
  constructor
  · rintro ⟨_, hvalue, rfl⟩
    exact ⟨hvalue, rfl⟩
  · rintro ⟨hvalue, rfl⟩
    exact ⟨⟨⟩, hvalue, rfl⟩

theorem patternField_eq_ok {pattern : String → Bool} :
    patternField pattern value = .ok line ↔ pattern value = true ∧ line = value := by
  simp only [patternField, bind_eq_ok, require_eq_ok, pure_eq_ok]
  constructor
  · rintro ⟨_, hvalue, rfl⟩
    exact ⟨hvalue, rfl⟩
  · rintro ⟨hvalue, rfl⟩
    exact ⟨⟨⟩, hvalue, rfl⟩

/-- A field's value is signed as it is spelled. -/
theorem canonicalField_eq {type : FieldType} (h : canonicalField codec value type = .ok line) :
    line = value := by
  cases type with
  | u32 => exact (decimalField_eq_ok.mp h).2
  | positiveU64 =>
    obtain ⟨_, -, h⟩ := bind_eq_ok.mp h
    exact (decimalField_eq_ok.mp h).2
  | key =>
    simp only [canonicalField, canonicalKey, bind_eq_ok, pure_eq_ok] at h
    obtain ⟨_, -, _, -, _, -, rfl⟩ := h
    rfl
  | hex | currency | identifier | account => exact (patternField_eq_ok.mp h).2

/-- The values of the table's fields, in the table's order. -/
theorem fieldValues_eq_ok {fields : List (String × String)} {spec : List (String × FieldType)}
    {values : List String} : fieldValues codec fields spec = .ok values ↔
      spec.map (fun entry => fields.lookup entry.1) = values.map some ∧
        List.Forall₂ (fun entry value => canonicalField codec value entry.2 = .ok value)
          spec values := by
  induction spec generalizing values with
  | nil =>
    rw [List.forall₂_nil_left_iff, fieldValues, pure_eq_ok]
    constructor
    · rintro rfl
      exact ⟨rfl, rfl⟩
    · exact fun h => h.2.symm
  | cons entry spec ih =>
    obtain ⟨name, type⟩ := entry
    simp only [fieldValues, bind_eq_ok, expect_eq_ok, pure_eq_ok, List.forall₂_cons_left_iff, ih]
    constructor
    · rintro ⟨value, hget, line, hline, rest, ⟨hnames, hrest⟩, rfl⟩
      obtain rfl := canonicalField_eq hline
      refine ⟨?_, line, rest, hline, hrest, rfl⟩
      rw [List.map_cons, List.map_cons, hget, hnames]
    · rintro ⟨hnames, value, rest, hline, hrest, rfl⟩
      obtain ⟨hget, hnames⟩ := List.cons.inj hnames
      exact ⟨value, hget, value, hline, rest, ⟨hnames, hrest⟩, rfl⟩

theorem lookup_of_mem {fields : List (String × String)} (hnodup : (fields.map Prod.fst).Nodup)
    {entry : String × String} (h : entry ∈ fields) : fields.lookup entry.1 = some entry.2 := by
  induction fields with
  | nil => cases h
  | cons first rest ih =>
    obtain ⟨hfirst, hrest⟩ := List.nodup_cons.mp hnodup
    rw [List.lookup_cons]
    rcases List.mem_cons.mp h with rfl | h
    · rw [beq_self_eq_true]
    · have hne : (entry.1 == first.1) = false := by
        rw [beq_eq_false_iff_ne]
        intro heq
        exact hfirst (heq ▸ List.mem_map_of_mem h)
      rw [hne]
      exact ih hrest h

theorem ticketFields_nodup (action : TicketAction) :
    ((ticketFields action).map Prod.fst).Nodup := by
  cases action <;> decide

/-- Fields passed under the table's names are signed in the table's order. -/
theorem fieldValues_of_names {fields : List (String × String)} {action : TicketAction}
    {values : List String} (hnames : (ticketFields action).map Prod.fst = fields.map Prod.fst) :
    fieldValues codec fields (ticketFields action) = .ok values ↔
      values = fields.map Prod.snd ∧
        List.Forall₂ (fun entry value => canonicalField codec value entry.2 = .ok value)
          (ticketFields action) values := by
  have hnodup : (fields.map Prod.fst).Nodup := hnames ▸ ticketFields_nodup action
  have hlookup : (ticketFields action).map (fun entry => fields.lookup entry.1) =
      (fields.map Prod.snd).map some := by
    have hspec : (ticketFields action).map (fun entry => fields.lookup entry.1) =
        ((ticketFields action).map Prod.fst).map fun name => fields.lookup name := by
      rw [List.map_map]
      rfl
    rw [hspec, hnames, List.map_map, List.map_map]
    exact List.map_congr_left fun entry hentry => lookup_of_mem hnodup hentry
  rw [fieldValues_eq_ok, hlookup]
  refine and_congr_left fun _ => ⟨fun h => ?_, fun h => by rw [h]⟩
  exact (List.map_injective_iff.mpr (Option.some_injective _) h).symm

theorem lines_eq_ok {values : List String} {text : String} :
    lines values = .ok text ↔ (∀ value ∈ values, IsLine value) ∧ text = joinLines values := by
  simp only [lines, bind_eq_ok, require_eq_ok, pure_eq_ok]
  constructor
  · rintro ⟨_, hvalues, rfl⟩
    exact ⟨hvalues, rfl⟩
  · rintro ⟨hvalues, rfl⟩
    exact ⟨⟨⟩, hvalues, rfl⟩

end Fields

end Youtick.Web
