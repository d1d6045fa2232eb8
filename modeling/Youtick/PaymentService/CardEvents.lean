import Youtick.PaymentService.CardOrders

/-!
# Card path: provider events

Applies verified card provider events to the order book. Each transition is a conditional update, so
a redelivered or reordered event cannot move an order backwards, and each event is stored once under
the provider's own id.
-/

set_option autoImplicit false

namespace Youtick.PaymentService

open Youtick.Lib

/-- A provider event after authentication. -/
structure CardEvent where
  providerEventId : String
  kind : CardEventKind
  providerOrderId : String
  amountMinor : Int
  currency : String
  occurredAtMs : Int
  deriving DecidableEq

/-- `[A-Za-z0-9._:-]` -/
def isEventIdChar (c : Char) : Bool :=
  isAsciiDigit c || ('a' ≤ c && c ≤ 'z') || ('A' ≤ c && c ≤ 'Z') || c == '.' || c == '_' ||
    c == ':' || c == '-'

/-- `^[A-Za-z0-9._:-]{1,128}$` -/
def isEventId (text : String) : Bool :=
  decide (1 ≤ text.toList.length) && decide (text.toList.length ≤ 128) &&
    text.toList.all isEventIdChar

/-- `^[A-Z]{3}$` -/
def isCurrency (text : String) : Bool :=
  decide (text.toList.length = 3) && text.toList.all fun c => 'A' ≤ c && c ≤ 'Z'

/-- A positive safe integer. -/
def isPositiveSafe (n : Int) : Bool := decide (0 < n) && decide (n < 2 ^ 53)

def validCardEvent (event : CardEvent) : Bool :=
  isEventId event.providerEventId && isEventId event.providerOrderId &&
    isPositiveSafe event.amountMinor && isCurrency event.currency &&
    isPositiveSafe event.occurredAtMs

/-- The money fact of an event. -/
def ledgerRow (event : CardEvent) (orderId : String) (order : CardOrderRow) (kind : LedgerKind) :
    LedgerRow where
  orderId := orderId
  kind := kind
  amountMinor := if kind = .sale then event.amountMinor else -event.amountMinor
  currency := event.currency
  publicationId := order.publicationId
  creatorId := order.creatorId
  occurredAtMs := event.occurredAtMs

/-- A conditional update of one order; whether it took place. -/
def transition (orderId : String) (statuses : List OrderStatus) (fields : OrderFields)
    (nowMs : Nat) (pendingNull : Bool) : CardHandler Bool :=
  perform (.updateOrder orderId { statuses := statuses, pendingNull := pendingNull } fields
    (some nowMs))

/-- The second update of `close`: the operator voids whatever lands. -/
def queueVoid (orderId : String) (reason : VoidReason) (nowMs : Nat) : CardOp Bool :=
  .updateOrder orderId { statuses := [.paid, .issued] }
    { status := some .voidPending, voidReason := some reason, attempts := some 0,
      lastError := some none } (some nowMs)

/-- Refund or lost chargeback: before any send the order is cancelled; after one the ticket must be
voided. -/
def close (orderId : String) (order : CardOrderRow) (reason : VoidReason) (nowMs : Nat) :
    CardHandler Bool := do
  let cancelled ←
    if order.status = .created ∨ order.status = .awaitingPayment ∨
        (order.status = .paid ∧ order.pendingTxHash = none) then
      -- the operator may store a send between the read and this write
      transition orderId [order.status]
        { status := some .cancelled, voidReason := some reason } nowMs true
    else pure false
  if cancelled then return true
  perform (queueVoid orderId reason nowMs)

/-- How an event changes its order. -/
def settleEvent (provider : String) (event : CardEvent) (orderId : String) (order : CardOrderRow)
    (nowMs : Nat) : CardHandler EventOutcome := do
  let ledger (kind : LedgerKind) : CardHandler Unit :=
    perform (.insertLedger provider event.providerEventId (ledgerRow event orderId order kind))
  match event.kind with
  | .purchase =>
    if event.amountMinor ≠ order.grossMinor ∨ event.currency ≠ order.currency then
      -- never issue a ticket for a different amount than the ticket key signed
      return .amountMismatch
    ledger .sale
    let opened ← transition orderId [.created, .awaitingPayment]
      { status := some .paid, paidAtMs := some event.occurredAtMs } nowMs false
    return if opened then .applied else .orderNotOpen
  | .refund =>
    ledger .refund
    return if ← close orderId order .refund nowMs then .applied else .alreadyClosed
  | .chargebackLost =>
    ledger .chargeback
    return if ← close orderId order .chargeback nowMs then .applied else .alreadyClosed
  | .chargebackOpened | .chargebackWon =>
    -- changes no ticket; kept for reconciliation
    return .recorded

def applyCardEvent (provider : String) (event : CardEvent) (nowMs : Nat) :
    CardHandler EventOutcome := do
  if ¬ validCardEvent event = true then .raise "invalid_event" else
  let seen ← perform (.selectEvent provider event.providerEventId)
  if seen.isSome then return .duplicate
  let found ← perform (.selectProviderOrder provider event.providerOrderId)
  let outcome ← match found with
    | none => pure .unknownOrder
    | some (orderId, order) => settleEvent provider event orderId order nowMs
  perform (.insertEvent provider event.providerEventId {
    kind := event.kind
    orderId := found.map (·.1)
    outcome := outcome
    receivedAtMs := nowMs })
  return outcome

end Youtick.PaymentService
