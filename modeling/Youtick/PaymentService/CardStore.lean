import Youtick.Lib.Handlers
import Youtick.Lib.Table
import Youtick.PaymentService.Formats
import Youtick.MarketV2.Types

/-!
# Card path: the order book, the operator's transactions, and single statements

The order book, the event log and the ledger are database tables; the tickets are on Market V2, and
the payment operator reaches them through transactions. This module has the state of all four and
the atomic operations on them: one database statement, one final-state view, one signature, one
broadcast, one transaction status. What an operation answers when the network is involved (which
final state a view has reached, whether an outcome is known yet) is the operation's input.

An update of an order is data: the statuses it is conditional on and the columns it sets. The
columns `sent`, `answered` and `knownFailed` of a transaction and `seen` of the chain record what
has happened; no program reads them.
-/

set_option autoImplicit false

namespace Youtick.PaymentService

open Youtick.Lib Youtick.MarketV2

/-! ## Orders -/

/-- `created`: provider order exists, no signature yet. `awaitingPayment`: signed. `paid`: verified
purchase event, ticket not yet on chain. `issued`: on chain. `voidPending`: refund or lost
chargeback after issue, void not yet on chain. `voided`: on chain. `cancelled`: refund or lost
chargeback before issue; nothing was written. -/
inductive OrderStatus where
  | created
  | awaitingPayment
  | paid
  | issued
  | voidPending
  | voided
  | cancelled
  deriving DecidableEq

namespace OrderStatus

/-- The order in which an order moves through its statuses. -/
def rank : OrderStatus → Nat
  | created => 0
  | awaitingPayment => 1
  | paid => 2
  | issued => 3
  | voidPending => 4
  | voided => 5
  | cancelled => 6

theorem rank_injective {a b : OrderStatus} (h : a.rank = b.rank) : a = b := by
  cases a <;> cases b <;> first | rfl | cases h

/-- The order was closed by a refund or a lost chargeback. -/
def Closed (status : OrderStatus) : Prop :=
  status = .cancelled ∨ status = .voidPending ∨ status = .voided

instance (status : OrderStatus) : Decidable status.Closed := by
  unfold Closed
  infer_instance

theorem closed_iff_rank {status : OrderStatus} : status.Closed ↔ 4 ≤ status.rank := by
  cases status <;> simp [Closed, rank]

/-- Up to its payment an order is in none of the later statuses. -/
theorem early {status : OrderStatus} (h : status.rank ≤ 2) :
    status ≠ .issued ∧ status ≠ .voidPending ∧ status ≠ .voided ∧ status ≠ .cancelled := by
  cases status <;> simp_all [rank]

end OrderStatus

inductive VoidReason where
  | refund
  | chargeback

/-- Fixed codes stored in `last_error`; never provider or RPC text. -/
inductive OperatorError where
  | deviceSignatureMissing
  | deviceSignatureExpired
  | ticketConflict
  | sendFailed
  | outcomeUnknown
  | ticketNotVoidable
  | rpcUnavailable
  | reserveExhausted
  deriving DecidableEq

/-- A row of `card_orders`, under its `order_id`. -/
structure CardOrderRow where
  provider : String
  providerOrderId : String
  paymentReferenceHmac : String
  publicationId : String
  creatorId : String
  ticketId : String
  ticketPublicKey : String
  grossMinor : Nat
  currency : String
  sessionPublicKey : Option String
  certificateSha256 : Option String
  deviceExpiresAtMs : Option Nat
  deviceSignature : Option String
  status : OrderStatus
  voidReason : Option VoidReason
  pendingTxHash : Option String
  issueTxHash : Option String
  voidTxHash : Option String
  attempts : Nat
  lastError : Option OperatorError
  createdAtMs : Nat
  updatedAtMs : Nat
  paidAtMs : Option Int

/-- The columns an `UPDATE card_orders SET …` assigns; the others keep their value. -/
structure OrderFields where
  status : Option OrderStatus := none
  paidAtMs : Option Int := none
  voidReason : Option VoidReason := none
  pendingTxHash : Option (Option String) := none
  issueTxHash : Option (Option String) := none
  voidTxHash : Option (Option String) := none
  attempts : Option Nat := none
  lastError : Option (Option OperatorError) := none
  device : Option (String × String × Nat × String) := none

/-- The row after the assignments; `updated_at_ms` is always among them. -/
def OrderFields.assign (fields : OrderFields) (nowMs : Nat) (row : CardOrderRow) : CardOrderRow :=
  { row with
    status := fields.status.getD row.status
    paidAtMs := fields.paidAtMs.or row.paidAtMs
    voidReason := fields.voidReason.or row.voidReason
    pendingTxHash := fields.pendingTxHash.getD row.pendingTxHash
    issueTxHash := fields.issueTxHash.getD row.issueTxHash
    voidTxHash := fields.voidTxHash.getD row.voidTxHash
    attempts := fields.attempts.getD row.attempts
    lastError := fields.lastError.getD row.lastError
    sessionPublicKey := (fields.device.map (·.1)).or row.sessionPublicKey
    certificateSha256 := (fields.device.map (·.2.1)).or row.certificateSha256
    deviceExpiresAtMs := (fields.device.map (·.2.2.1)).or row.deviceExpiresAtMs
    deviceSignature := (fields.device.map (·.2.2.2)).or row.deviceSignature
    updatedAtMs := nowMs }

/-- What an update is conditional on, besides the order id: the status, and for some updates also
`pending_tx_hash IS NULL`. -/
structure OrderGuard where
  statuses : List OrderStatus
  pendingNull : Bool := false

def OrderGuard.admits (guard : OrderGuard) (row : CardOrderRow) : Bool :=
  decide (row.status ∈ guard.statuses) && (!guard.pendingNull || row.pendingTxHash.isNone)

/-! ## Events and the ledger -/

inductive CardEventKind where
  | purchase
  | refund
  | chargebackOpened
  | chargebackLost
  | chargebackWon
  deriving DecidableEq

inductive EventOutcome where
  | applied
  | recorded
  | duplicate
  | unknownOrder
  | amountMismatch
  | orderNotOpen
  | alreadyClosed
  deriving DecidableEq

/-- A row of `card_events`, under the provider and its event id. -/
structure EventRow where
  kind : CardEventKind
  orderId : Option String
  outcome : EventOutcome
  receivedAtMs : Nat
  deriving DecidableEq

inductive LedgerKind where
  | sale
  | refund
  | chargeback
  deriving DecidableEq

/-- A row of `card_ledger`, under the provider and its event id. -/
structure LedgerRow where
  orderId : String
  kind : LedgerKind
  amountMinor : Int
  currency : String
  publicationId : String
  creatorId : String
  occurredAtMs : Int

/-! ## The chain -/

/-- What `get_ticket` shows of a ticket. -/
structure ChainTicket where
  rail : TicketRail
  status : TicketStatus
  card : Option String

/-- `reserveExhausted` is a confirmed failure that is the Market's to fix, not the order's. -/
inductive SendOutcome where
  | success
  | failure
  | unknown
  | reserveExhausted
  deriving DecidableEq

/-- A confirmed failure. -/
def failed (outcome : SendOutcome) : Bool :=
  outcome = .failure ∨ outcome = .reserveExhausted

/-- A signed call to Market V2. The contract derives the ticket id of an issue from the ticket key,
as the order did. -/
inductive Call where
  | issue (ticketId ticketPublicKey publicationId sessionPublicKey certificateSha256 : String)
      (expiresAtMs : Nat) (signature paymentReferenceHmac : String) (grossMinor : Nat)
      (currency : String)
  | void (ticketId : String) (reason : VoidReason)

namespace Call

def ticketId : Call → String
  | issue ticketId .. => ticketId
  | void ticketId _ => ticketId

/-- The payment reference of an issue. -/
def reference : Call → Option String
  | issue _ _ _ _ _ _ _ paymentReferenceHmac _ _ => some paymentReferenceHmac
  | void _ _ => none

def isIssue (call : Call) : Bool := call.reference.isSome

end Call

/-- How a transaction ended on chain, and how many states its ticket had gone through by then. -/
structure Execution where
  outcome : SendOutcome
  after : Nat

structure Transaction where
  call : Call
  sent : Bool
  execution : Option Execution
  answered : Option SendOutcome
  knownFailed : Bool

/-- The tickets with all the states they have gone through, how many of these states the operator's
node has shown to be final, and the operator's transactions by hash. -/
structure Chain where
  tickets : String → List ChainTicket
  seen : String → Nat
  transactions : Table String Transaction

/-- The ticket after `n` states; before the first there is no ticket. -/
def Chain.ticketAt (c : Chain) (ticketId : String) (n : Nat) : Option ChainTicket :=
  match n with
  | 0 => none
  | n + 1 => (c.tickets ticketId)[n]?

/-- A final state with `n` ticket states has been seen. -/
def Chain.observe (c : Chain) (ticketId : String) (n : Nat) : Chain :=
  { c with seen := Function.update c.seen ticketId (max (c.seen ticketId) n) }

/-- The outcome of a transaction has been seen. -/
def Chain.learn (c : Chain) (hash : String) (tx : Transaction) (execution : Execution) : Chain :=
  { c.observe tx.call.ticketId execution.after with
    transactions := c.transactions.modify hash fun tx =>
      { tx with knownFailed := failed execution.outcome } }

/-- What the network may say of a transaction: nothing yet, or how it ended. -/
def Chain.report (c : Chain) (hash : String) (said : SendOutcome) : Option Chain :=
  if said = .unknown then some c
  else
    match c.transactions.find hash with
    | none => none
    | some tx =>
      match tx.execution with
      | none => none
      | some execution => if execution.outcome = said then some (c.learn hash tx execution) else none

/-- A transaction has been signed under a hash of its own. -/
def Chain.signed (c : Chain) (hash : String) (call : Call)
    (h : hash ∉ c.transactions.rows.map Prod.fst) : Chain :=
  { c with
    transactions := c.transactions.add hash
      { call := call, sent := false, execution := none, answered := none, knownFailed := false } h }

/-- A transaction has left for the network. -/
def Chain.broadcast (c : Chain) (hash : String) : Chain :=
  { c with transactions := c.transactions.modify hash fun tx => { tx with sent := true } }

/-- The broadcast of a transaction has been answered. -/
def Chain.answer (c : Chain) (hash : String) (said : SendOutcome) : Chain :=
  { c with
    transactions := c.transactions.modify hash fun tx =>
      { tx with answered := tx.answered.or (some said) } }

/-! ## Operations -/

structure World where
  orders : Table String CardOrderRow
  events : Table (String × String) EventRow
  ledger : Table (String × String) LedgerRow
  chain : Chain

/-- The clock, and what the network brings to an operation. -/
structure Input where
  nowMs : Nat
  states : Nat
  said : SendOutcome
  hash : String

inductive CardOp : Type → Type where
  | selectEvent (provider providerEventId : String) : CardOp (Option EventOutcome)
  | selectProviderOrder (provider providerOrderId : String) :
      CardOp (Option (String × CardOrderRow))
  | selectOrder (orderId : String) : CardOp (Option CardOrderRow)
  | selectWaiting (maxAttempts limit : Nat) : CardOp (List (String × CardOrderRow))
  | countWaiting (maxAttempts : Nat) (parked : List OperatorError) : CardOp Nat
  | insertOrder (orderId : String) (row : CardOrderRow) : CardOp Bool
  | updateOrder (orderId : String) (guard : OrderGuard) (fields : OrderFields)
      (nowMs : Option Nat) : CardOp Bool
  | insertLedger (provider providerEventId : String) (row : LedgerRow) : CardOp Unit
  | insertEvent (provider providerEventId : String) (row : EventRow) : CardOp Unit
  | getTicket (ticketId : String) : CardOp (Option ChainTicket)
  | txStatus (hash : String) : CardOp SendOutcome
  | sign (call : Call) : CardOp String
  | broadcast (hash : String) : CardOp Unit
  | outcome (hash : String) : CardOp SendOutcome
  | now : CardOp Nat

/-- Orders the operator works on: `status IN ('paid', 'void_pending') AND attempts < ?`. -/
def waits (maxAttempts : Nat) (row : CardOrderRow) : Bool :=
  (row.status = .paid ∨ row.status = .voidPending) && decide (row.attempts < maxAttempts)

/-- The unique columns of `card_orders` against another row. -/
def collides (a b : CardOrderRow) : Bool :=
  (a.provider = b.provider ∧ a.providerOrderId = b.providerOrderId) ||
    a.paymentReferenceHmac = b.paymentReferenceHmac || a.ticketId = b.ticketId

namespace World

/-- An `UPDATE` of one order, with whether it changed a row. -/
def updateOrder (w : World) (orderId : String) (guard : OrderGuard) (fields : OrderFields)
    (nowMs : Nat) : Bool × World :=
  match w.orders.find orderId with
  | none => (false, w)
  | some row =>
    if guard.admits row then
      (true, { w with orders := w.orders.modify orderId (fields.assign nowMs) })
    else (false, w)

/-- An `INSERT` into `card_orders`; a row that breaks a unique index is refused. -/
def insertOrder (w : World) (orderId : String) (row : CardOrderRow) : Bool × World :=
  if (w.orders.find orderId).isSome ∨ (w.orders.rows.any fun r => collides row r.2) = true then
    (false, w)
  else (true, { w with orders := w.orders.insertOrIgnore orderId row })

/-- One atomic operation; `none` when the input is no possible answer. -/
def exec : (β : Type) → CardOp β → Input → World → Option (β × World)
  | _, .selectEvent provider eventId, _, w =>
    some ((w.events.find (provider, eventId)).map (·.outcome), w)
  | _, .selectProviderOrder provider providerOrderId, _, w =>
    some (w.orders.rows.find? fun r =>
      decide (r.2.provider = provider ∧ r.2.providerOrderId = providerOrderId), w)
  | _, .selectOrder orderId, _, w => some (w.orders.find orderId, w)
  | _, .selectWaiting maxAttempts limit, _, w =>
    some (((w.orders.select fun _ row => waits maxAttempts row).insertionSort fun a b =>
      a.2.updatedAtMs ≤ b.2.updatedAtMs).take limit, w)
  | _, .countWaiting maxAttempts parked, _, w =>
    some (w.orders.count fun _ row =>
      waits maxAttempts row && row.lastError.all fun error => decide (error ∉ parked), w)
  | _, .insertOrder orderId row, _, w => some (w.insertOrder orderId row)
  | _, .updateOrder orderId guard fields nowMs, i, w =>
    some (w.updateOrder orderId guard fields (nowMs.getD i.nowMs))
  | _, .insertLedger provider eventId row, _, w =>
    some ((), { w with ledger := w.ledger.insertOrIgnore (provider, eventId) row })
  | _, .insertEvent provider eventId row, _, w =>
    some ((), { w with events := w.events.insertOrIgnore (provider, eventId) row })
  | _, .getTicket ticketId, i, w =>
    -- a view of a final state no older than any outcome seen before
    if w.chain.seen ticketId ≤ i.states ∧ i.states ≤ (w.chain.tickets ticketId).length then
      some (w.chain.ticketAt ticketId i.states,
        { w with chain := w.chain.observe ticketId i.states })
    else none
  | _, .txStatus hash, i, w =>
    (w.chain.report hash i.said).map fun chain => (i.said, { w with chain := chain })
  | _, .sign call, i, w =>
    -- each signed transaction has a hash of its own
    if h : i.hash ∈ w.chain.transactions.rows.map Prod.fst then none
    else some (i.hash, { w with chain := w.chain.signed i.hash call h })
  | _, .broadcast hash, _, w => some ((), { w with chain := w.chain.broadcast hash })
  | _, .outcome hash, i, w =>
    (w.chain.report hash i.said).map fun chain =>
      (i.said, { w with chain := chain.answer hash i.said })
  | _, .now, i, w => some (i.nowMs, w)

/-! ## What the order statements do -/

/-- An update either found a row its guard admits and assigned the fields, or changed nothing. -/
theorem exec_updateOrder {w t : World} {orderId : String} {guard : OrderGuard}
    {fields : OrderFields} {nowMs : Option Nat} {i : Input} {changed : Bool}
    (h : World.exec _ (.updateOrder orderId guard fields nowMs) i w = some (changed, t)) :
    (∃ row, w.orders.find orderId = some row ∧ guard.admits row = true ∧ changed = true ∧
      t = { w with orders := w.orders.modify orderId (fields.assign (nowMs.getD i.nowMs)) }) ∨
    ((∀ row, w.orders.find orderId = some row → guard.admits row = false) ∧ changed = false ∧
      t = w) := by
  simp only [World.exec, World.updateOrder, Option.some.injEq] at h
  cases hfind : w.orders.find orderId with
  | none =>
    rw [hfind] at h
    cases h
    exact .inr ⟨fun row hrow => (by cases hrow), rfl, rfl⟩
  | some row =>
    rw [hfind] at h
    cases hallowed : guard.admits row with
    | true =>
      simp only [hallowed, if_true, Prod.mk.injEq] at h
      exact .inl ⟨row, rfl, hallowed, h.1.symm, h.2.symm⟩
    | false =>
      simp only [hallowed, Bool.false_eq_true, if_false, Prod.mk.injEq] at h
      refine .inr ⟨fun row' hrow => ?_, h.1.symm, h.2.symm⟩
      cases hrow
      exact hallowed

/-- Two rows never share a unique column. -/
def UniqueOrders (w : World) : Prop :=
  ∀ o o' r r', w.orders.find o = some r → w.orders.find o' = some r' → collides r r' = true → o = o'

/-- The row a provider's order id selects. -/
theorem find?_provider_eq_some {w : World} {provider providerOrderId : String}
    {found : String × CardOrderRow}
    (h : w.orders.rows.find? (fun r => decide (r.2.provider = provider ∧
      r.2.providerOrderId = providerOrderId)) = some found) :
    w.orders.find found.1 = some found.2 ∧ found.2.provider = provider ∧
      found.2.providerOrderId = providerOrderId := by
  have hkey := List.find?_some h
  simp only [decide_eq_true_eq] at hkey
  exact ⟨Table.mem_rows_iff.mp (List.mem_of_find?_eq_some h), hkey.1, hkey.2⟩

end World

/-- A handler of the card path; what it throws is an error code. -/
abbrev CardHandler (α : Type) : Type 1 := Handler CardOp String α

/-- One operation; a failing store or network throws an error that no route knows. -/
def perform {β : Type} (op : CardOp β) : CardHandler β := Handler.perform "internal_error" op

end Youtick.PaymentService
