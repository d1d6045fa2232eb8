import Youtick.PaymentService.CardStore
import Youtick.PaymentService.Refunds

/-!
# Card path: pending card orders

The buyer's ticket key never leaves the browser; the order holds its public key and, once signed,
the `card_purchase` device binding that names the payment reference and the charged amount.
-/

set_option autoImplicit false

namespace Youtick.PaymentService

open Youtick.Lib Youtick.MarketV2

/-- The contract accepts a ticket signature at most one hour ahead of block time. -/
def maxDeviceSignatureTtlMs : Nat := 60 * 60 * 1000

structure DeviceInput where
  sessionPublicKey : String
  certificateSha256 : String
  expiresAtMs : String
  signature : String
  deriving DecidableEq

/-- What a signature request knows besides its body. -/
structure SignContext where
  network : String
  contractId : AccountId
  nowMs : Nat
  deriving DecidableEq

def cardPurchaseMessage (context : SignContext) (order : CardOrderRow) (device : DeviceInput) :
    String :=
  joinLines [ticketSignatureDomain, context.network, context.contractId, "card_purchase",
    order.ticketId, device.expiresAtMs, order.publicationId, device.sessionPublicKey,
    device.certificateSha256, order.paymentReferenceHmac, decimal order.grossMinor, order.currency]

/-- What `createCardOrder` has gathered when it stores the order. -/
structure NewOrder where
  orderId : String
  provider : String
  providerOrderId : String
  paymentReferenceHmac : String
  publicationId : String
  creatorId : String
  ticketId : String
  ticketPublicKey : String
  grossMinor : Nat
  currency : String
  nowMs : Nat
  deriving DecidableEq

def NewOrder.row (order : NewOrder) : CardOrderRow where
  provider := order.provider
  providerOrderId := order.providerOrderId
  paymentReferenceHmac := order.paymentReferenceHmac
  publicationId := order.publicationId
  creatorId := order.creatorId
  ticketId := order.ticketId
  ticketPublicKey := order.ticketPublicKey
  grossMinor := order.grossMinor
  currency := order.currency
  sessionPublicKey := none
  certificateSha256 := none
  deviceExpiresAtMs := none
  deviceSignature := none
  status := .created
  voidReason := none
  pendingTxHash := none
  issueTxHash := none
  voidTxHash := none
  attempts := 0
  lastError := none
  createdAtMs := order.nowMs
  updatedAtMs := order.nowMs
  paidAtMs := none

/-- `createCardOrder` from its `INSERT` on: a ticket key belongs to one order. -/
def storeCardOrder (order : NewOrder) : CardHandler CardOrderRow := do
  if ← perform (.insertOrder order.orderId order.row) then
    return order.row
  else .raise "ticket_key_used"

section Sign

-- The key library's check of a signature: the key's text, the message and the signature; it throws
-- on a text that is no key.
variable (verify : String → Bytes → Bytes → Option Bool)

/-- Stores the ticket key's `card_purchase` signature after checking it as the contract will. It may
be signed again while the ticket is not on chain yet. -/
def signCardOrder (context : SignContext) (orderId : String) (device : DeviceInput) :
    CardHandler CardOrderRow := do
  if ¬ isHexText 32 orderId = true then .raise "card_order_not_found" else
  match ← perform (.selectOrder orderId) with
  | none => .raise "card_order_not_found"
  | some order =>
    if order.status ∉ [.created, .awaitingPayment, .paid] ∨ order.pendingTxHash.isSome then
      .raise "card_order_closed" else
    let expires := number device.expiresAtMs
    if expires ≤ context.nowMs then .raise "signature_expired" else
    if toDouble (expires - context.nowMs) > maxDeviceSignatureTtlMs then
      .raise "signature_expiry_too_far" else
    let valid := ((Base64.forgivingDecode device.signature).bind fun signature =>
      verify order.ticketPublicKey (utf8 (cardPurchaseMessage context order device))
        signature).getD false
    if valid = false then .raise "invalid_signature" else
    let next : OrderStatus :=
      if order.status = .created then .awaitingPayment else order.status
    let fields : OrderFields := {
      status := some next
      lastError := some none
      device := some (device.sessionPublicKey, device.certificateSha256, expires,
        device.signature) }
    let updated ← perform (.updateOrder orderId { statuses := [order.status], pendingNull := true }
      fields (some context.nowMs))
    if updated then return fields.assign context.nowMs order
    else .raise "card_order_closed"

end Sign

end Youtick.PaymentService
