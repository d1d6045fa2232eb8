import Youtick.PaymentService.CardEvents

/-!
# Card path: the payment operator's transaction sender

It writes `issue_card_ticket` for paid orders and `void_card_ticket` for orders that wait for a
void, one at a time, from a single Durable Object. Every transaction is recorded before it is sent;
an unknown outcome is settled by reading the ticket from final state, never by resending blindly.
-/

set_option autoImplicit false

namespace Youtick.PaymentService

open Youtick.Lib

/-- After this many sends an order stops and waits for the operator. -/
def maxSendAttempts : Nat := 5

/-- The signature must still be valid when the transaction lands; block time trails the clock. -/
def deviceExpiryMarginMs : Nat := 2 * 60 * 1000

def batch : Nat := 10

/-- Updates the order only if its status is still the one read; returns whether it did. -/
def update (orderId : String) (order : CardOrderRow) (fields : OrderFields) : CardHandler Bool :=
  perform (.updateOrder orderId { statuses := [order.status] } fields none)

/-- The order keeps waiting, with a reason. -/
def park (orderId : String) (order : CardOrderRow) (error : OperatorError) : CardHandler Bool :=
  update orderId order { lastError := some (some error) }

/-- The final outcome of a sent transaction; unknown when the node does not know or cannot say. -/
def txStatus (hash : String) : CardHandler SendOutcome :=
  (perform (.txStatus hash)).rescue fun _ => pure .unknown

/-- Broadcasts a signed transaction and waits for its outcome. -/
def send (hash : String) : CardHandler SendOutcome :=
  Handler.rescue (do
    perform (.broadcast hash)
    perform (.outcome hash)) fun _ => pure .unknown

/-- The ticket is the one of this order's payment. -/
def ours (ticket : Option ChainTicket) (order : CardOrderRow) : Bool :=
  ticket.any fun ticket =>
    decide (ticket.rail = .card ∧ ticket.card = some order.paymentReferenceHmac)

/-! ## Issuing -/

/-- `issue` after its send: the ticket decides, and without one a confirmed failure releases the
order. -/
def settleIssue (orderId : String) (order : CardOrderRow) (hash : String) (outcome : SendOutcome)
    (after : Option ChainTicket) : CardHandler Bool := do
  if ours after order then
    let _ ← update orderId order {
      status := some .issued, issueTxHash := some (some hash), pendingTxHash := some none,
      lastError := some none }
    return true
  let _ ← match outcome with
    | .unknown => park orderId order .outcomeUnknown
    | .reserveExhausted =>
      -- nothing about this order is wrong, so the send is not counted
      update orderId order {
        lastError := some (some .reserveExhausted), pendingTxHash := some none,
        attempts := some order.attempts }
    | _ => update orderId order {
        lastError := some (some .sendFailed), pendingTxHash := some none }
  return false

/-- `issue` from its signature on: the hash is stored before the send. -/
def sendIssue (orderId : String) (order : CardOrderRow) (call : Call) : CardHandler Bool := do
  let hash ← perform (.sign call)
  -- a refund that arrived meanwhile moved the order on; then nothing is sent
  let stored ← update orderId order {
    pendingTxHash := some (some hash), attempts := some (order.attempts + 1) }
  if stored = false then return false
  let outcome ← send hash
  let after ← perform (.getTicket order.ticketId)
  settleIssue orderId order hash outcome after

/-- `issue` once no earlier send is outstanding. -/
def signIssue (orderId : String) (order : CardOrderRow) : CardHandler Bool := do
  match order.sessionPublicKey, order.certificateSha256, order.deviceExpiresAtMs,
      order.deviceSignature with
  | some sessionPublicKey, some certificateSha256, some expiresAtMs, some signature =>
    let now ← perform .now
    if expiresAtMs ≤ now + deviceExpiryMarginMs then
      let _ ← park orderId order .deviceSignatureExpired
      return false
    sendIssue orderId order (.issue order.ticketId order.ticketPublicKey order.publicationId
      sessionPublicKey certificateSha256 expiresAtMs signature order.paymentReferenceHmac
      order.grossMinor order.currency)
  | _, _, _, _ =>
    let _ ← park orderId order .deviceSignatureMissing
    return false

/-- Whether a ticket was issued by a send of this run. -/
def issue (orderId : String) (order : CardOrderRow) : CardHandler Bool := do
  let before ← perform (.getTicket order.ticketId)
  if before.isSome then
    let _ ← if ours before order then
      update orderId order {
        status := some .issued, issueTxHash := some order.pendingTxHash,
        pendingTxHash := some none, lastError := some none }
      else update orderId order {
        lastError := some (some .ticketConflict), attempts := some maxSendAttempts }
    return false
  match order.pendingTxHash with
  | none => signIssue orderId order
  | some hash =>
    -- an earlier send's outcome is unknown: resend only once the chain says it failed
    let outcome ← txStatus hash
    if failed outcome = false then
      let _ ← park orderId order .outcomeUnknown
      return false
    let released ← update orderId order { pendingTxHash := some none }
    if released = false then return false
    signIssue orderId { order with pendingTxHash := none }

/-! ## Voiding -/

/-- The fields of a voided order. -/
def voidedFields (hash : Option String) : OrderFields where
  status := some .voided
  voidTxHash := some hash
  pendingTxHash := some none
  lastError := some none

/-- `voidTicket` from its signature on. -/
def sendVoid (orderId : String) (order : CardOrderRow) : CardHandler Unit := do
  let hash ← perform (.sign (.void order.ticketId (order.voidReason.getD .refund)))
  let stored ← update orderId order {
    pendingTxHash := some (some hash), attempts := some (order.attempts + 1) }
  if stored = false then return
  let outcome ← send hash
  let after ← perform (.getTicket order.ticketId)
  if after.any fun ticket => ticket.status = .voided then
    let _ ← update orderId order (voidedFields (some hash))
    return
  let _ ← park orderId order (if outcome = .unknown then .outcomeUnknown else .sendFailed)
  return

/-- `voidTicket` when there is no ticket: the order is cancelled once nothing can land. -/
def cancelUnissued (orderId : String) (order : CardOrderRow) : CardHandler Unit := do
  let settled ← match order.pendingTxHash with
    | none => pure true
    | some hash => failed <$> txStatus hash
  let _ ← if settled then
      update orderId order {
        status := some .cancelled, pendingTxHash := some none, lastError := some none }
    else park orderId order .outcomeUnknown
  return

def voidTicket (orderId : String) (order : CardOrderRow) : CardHandler Unit := do
  let before ← perform (.getTicket order.ticketId)
  if before = none ∧ order.issueTxHash = none then
    cancelUnissued orderId order
  else if ours before order = true ∧ before.any (fun ticket => ticket.status = .voided) then
    let _ ← update orderId order (voidedFields order.pendingTxHash)
    return
  else if ours before order = false ∨
      before.all (fun ticket => ticket.status ≠ .purchased ∧ ticket.status ≠ .watched) then
    let _ ← update orderId order {
      lastError := some (some .ticketNotVoidable), attempts := some maxSendAttempts }
    return
  else sendVoid orderId order

/-! ## The run -/

/-- One order of a batch; `none` when the network or the store failed under it. -/
def workOn (orderId : String) (order : CardOrderRow) : CardHandler (Option Bool) :=
  Handler.rescue
    (if order.status = .paid then do
      let issued ← issue orderId order
      return some issued
    else do
      voidTicket orderId order
      return some false)
    fun _ => do
      let _ ← (park orderId order .rpcUnavailable).rescue fun _ => pure false
      return none

/-- The orders of a batch in turn: how many were processed, and whether a ticket was issued. -/
def workThrough : List (String × CardOrderRow) → CardHandler (Nat × Bool)
  | [] => return (0, false)
  | (orderId, order) :: rest => do
      let worked ← workOn orderId order
      let (processed, issued) ← workThrough rest
      return (processed + worked.toList.length, worked.getD false || issued)

/-- Works through orders waiting for the chain, oldest first. Returns how many it processed and how
many still wait. -/
def runCardOperator : CardHandler (Nat × Nat) := do
  let rows ← perform (.selectWaiting maxSendAttempts batch)
  let (processed, issued) ← workThrough rows
  -- orders that wait for the buyer, the chain or the Market's NEAR are left to the cron
  let parked : List OperatorError :=
    [.deviceSignatureMissing, .deviceSignatureExpired, .outcomeUnknown] ++
      (if issued then [] else [.reserveExhausted])
  let waiting ← perform (.countWaiting maxSendAttempts parked)
  return (processed, waiting)

end Youtick.PaymentService
