import Youtick.Lib.Base64
import Youtick.PaymentService.Formats
import Youtick.MarketV2.Host
import Mathlib.Data.List.Sort

/-!
# Payment service: the refund request inbox

The buyer's ticket key signs `refund_ticket`; the service checks the request against Market V2 and
keeps it until it is decided, and the payment operator then submits the stored arguments. Numbers are
doubles: the decimal texts of a request and of a ticket view go through `toDouble`.
-/

set_option autoImplicit false

namespace Youtick.PaymentService

open Youtick.Lib Youtick.MarketV2

/-! ## Numbers -/

/-- The double nearest to a natural number, ties to even. -/
def toDouble (n : Nat) : Nat :=
  if n < 2 ^ 53 then n
  else
    let unit := 2 ^ (n.log2 - 52)
    let below := n / unit
    let rest := n % unit
    if unit < 2 * rest ∨ (unit = 2 * rest ∧ below % 2 = 1) then (below + 1) * unit
    else below * unit

/-- `Number(text)` of a text of digits. -/
def number (text : String) : Nat := toDouble (digitsValue text.toList)

/-- The latest time value of the language, in milliseconds. -/
def maxTimeMs : Nat := 8640000000000000

/-! ## Requests -/

def ticketSignatureDomain : String := "youtick.market-v2.ticket-sig.v1"

/-- The contract's refund window. -/
def refundWindowMs : Nat := 30 * 24 * 60 * 60 * 1000

/-- A `refund_ticket` signature may be up to 7 days ahead of block time. -/
def maxRefundSignatureTtlMs : Nat := 7 * 24 * 60 * 60 * 1000

structure RefundRequestInput where
  ticketId : String
  refundTo : String
  expiresAtMs : String
  signature : String
  reason : String
  deriving DecidableEq

/-- `^[A-Za-z0-9+/]{86}==$` -/
def isSignature (text : String) : Bool :=
  decide (text.toList.length = 88) && decide (text.toList.drop 86 = ['=', '=']) &&
    (text.toList.take 86).all fun c => (Base64.sextet c).isSome

/-- Every kind of line break as a line feed. -/
def lineFeeds : List Char → List Char
  | [] => []
  | '\r' :: '\n' :: rest => '\n' :: lineFeeds rest
  | '\r' :: rest => '\n' :: lineFeeds rest
  | c :: rest => c :: lineFeeds rest

/-- `[\u0000-\u0009\u000b-\u001f\u007f]` -/
def isControl (c : Char) : Bool :=
  (decide (c.toNat ≤ 0x1f) && decide (c.toNat ≠ 0x0a)) || decide (c.toNat = 0x7f)

/-- The buyer's text: 10 to 1000 characters, no control characters except line breaks. -/
def cleanReason (value : Json) : Result String := do
  let text ← match value with
    | .str text => .ok text
    | _ => .error "invalid_request"
  let reason := trim (lineFeeds text.toList)
  require (¬ (reason.length < 10 ∨ reason.length > 1000 ∨ reason.any isControl = true))
    "invalid_reason"
  return String.ofList reason

/-- The field's text, when the body has the field and it is a text of the format. -/
def textField (body : List (String × Json)) (field : String) (format : String → Bool) :
    Result String :=
  match (body.find? fun entry => entry.1 == field).map Prod.snd with
  | some (.str text) => if format text then .ok text else .error "invalid_request"
  | _ => .error "invalid_request"

def parseRefundRequest (body : List (String × Json)) : Result RefundRequestInput := do
  require ((body.map (·.1)).insertionSort (· ≤ ·) =
      ["expires_at_ms", "reason", "refund_to", "signature", "ticket_id"]) "invalid_request"
  let ticketId ← textField body "ticket_id" (isHexText 64)
  let refundTo ← textField body "refund_to" isAccountId
  let expiresAtMs ← textField body "expires_at_ms" (isPositiveDecimal 15)
  let signature ← textField body "signature" isSignature
  let reason ← cleanReason (((body.find? fun entry => entry.1 == "reason").map Prod.snd).getD .null)
  return {
    ticketId := ticketId
    refundTo := refundTo
    expiresAtMs := expiresAtMs
    signature := signature
    reason := reason }

/-! ## Verification -/

structure TicketView where
  ticketId : String
  ticketPublicKey : String
  publicationId : String
  rail : String
  status : String
  purchasedAtMs : String

/-- The two final-state views the service reads; of a publication it reads the availability. -/
structure MarketView where
  getTicket : String → Result (Option TicketView)
  getPublication : String → Result (Option (Option String))

structure RefundContext where
  network : String
  contractId : AccountId
  nowMs : Nat

def refundMessage (context : RefundContext) (ticketId expiresAtMs refundTo : String) : String :=
  joinLines [ticketSignatureDomain, context.network, context.contractId, "refund_ticket", ticketId,
    expiresAtMs, refundTo]

/-- The checks the contract makes when the operator submits, done now so that only requests that can
still be refunded are reviewed. `verify` is the key library: the key's text, the message and the
signature; it throws on a text that is no key. -/
def verifyRefundRequest (verify : String → Bytes → Bytes → Option Bool) (view : MarketView)
    (input : RefundRequestInput) (context : RefundContext) :
    Result (TicketView × Option Nat) := do
  let expires := number input.expiresAtMs
  require (¬ expires ≤ context.nowMs) "signature_expired"
  require (¬ toDouble (expires - context.nowMs) > maxRefundSignatureTtlMs)
    "signature_expiry_too_far"
  let ticket ← expect ((← view.getTicket input.ticketId).filter fun ticket =>
    decide (ticket.ticketId = input.ticketId)) "ticket_not_found"
  require (ticket.rail = "crypto") "ticket_not_refundable"
  require (ticket.status = "purchased" ∨ ticket.status = "watched_in_escrow")
    "ticket_not_refundable"
  let publication ← view.getPublication ticket.publicationId
  let takenDown : Bool := decide (publication.bind id = some "TAKEDOWN")
  -- After a takedown the contract keeps the refund open with no time limit.
  let windowClosesAtMs :=
    if takenDown then none else some (toDouble (number ticket.purchasedAtMs + refundWindowMs))
  checkSome windowClosesAtMs fun closes => require (¬ closes ≤ context.nowMs) "refund_window_closed"
  let valid := ((Base64.forgivingDecode input.signature).bind fun signature =>
    verify ticket.ticketPublicKey
      (utf8 (refundMessage context input.ticketId input.expiresAtMs input.refundTo))
      signature).getD false
  require (valid = true) "invalid_signature"
  return (ticket, windowClosesAtMs)

/-! ## The stored row -/

/-- The arguments of the stored request, as the operator submits them. -/
structure RefundRow where
  ticketId : String
  refundTo : String
  expiresAtMs : Nat
  signature : String

def storedRow (input : RefundRequestInput) : RefundRow where
  ticketId := input.ticketId
  refundTo := input.refundTo
  expiresAtMs := number input.expiresAtMs
  signature := input.signature

end Youtick.PaymentService
