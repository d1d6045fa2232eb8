import Youtick.PaymentService.CardOperator

/-!
# Card path: the system

Webhooks, signature requests, new orders and operator runs in flight over one database, and Market
V2 executing the operator's transactions by itself. The operator is a single Durable Object, so its
runs are never in flight together; every other request may be, any number of times.

On chain an issue lands only where there is no ticket yet, and a void only on a card ticket that is
not voided. A ticket key may also be used for a purchase in the Market's own currency.
-/

set_option autoImplicit false

namespace Youtick.PaymentService

open Youtick.Lib Youtick.MarketV2

/-! ## The chain by itself -/

inductive ChainMove where
  | execute (hash : String) (outcome : SendOutcome)
  | purchase (ticketId : String)
  | advance (ticketId : String) (status : TicketStatus)

namespace Chain

/-- A ticket has gone into its next state. -/
def push (c : Chain) (ticketId : String) (ticket : ChainTicket) : Chain :=
  { c with tickets := Function.update c.tickets ticketId (c.tickets ticketId ++ [ticket]) }

/-- The ticket a call writes, if the contract accepts the call. -/
def landing (c : Chain) : Call → Option ChainTicket
  | .issue ticketId _ _ _ _ _ _ paymentReferenceHmac _ _ =>
    if c.tickets ticketId = [] then some ⟨.card, .purchased, some paymentReferenceHmac⟩ else none
  | .void ticketId _ =>
    ((c.tickets ticketId).getLast?.filter fun ticket =>
      decide (ticket.rail = .card ∧ (ticket.status = .purchased ∨ ticket.status = .watched))).map
      fun ticket => { ticket with status := .voided }

/-- The transaction is on chain, with its outcome. -/
def execute (c : Chain) (hash : String) (execution : Execution) : Chain :=
  { c with
    transactions := c.transactions.modify hash fun tx =>
      { tx with execution := some execution } }

/-- A sent transaction executes once, if at all. -/
def land (c : Chain) (hash : String) (outcome : SendOutcome) (tx : Transaction) : Option Chain :=
  if tx.sent = false ∨ tx.execution.isSome then none
  else
    let states := (c.tickets tx.call.ticketId).length
    match outcome with
    | .unknown => none
    | .success => (c.landing tx.call).map fun ticket =>
      (c.push tx.call.ticketId ticket).execute hash ⟨.success, states + 1⟩
    | refusal => some (c.execute hash ⟨refusal, states⟩)

/-- The Market's other calls: a card ticket is watched, and a ticket of the Market's own currency is
never voided. -/
def advances (ticket : ChainTicket) (status : TicketStatus) : Bool :=
  match ticket.rail with
  | .card => decide (ticket.status = .purchased ∧ status = .watched)
  | .crypto => decide (ticket.status ≠ .voided ∧ status ≠ .voided)

def move (c : Chain) : ChainMove → Option Chain
  | .execute hash outcome => (c.transactions.find hash).bind (c.land hash outcome)
  | .purchase ticketId =>
    if c.tickets ticketId = [] then some (c.push ticketId ⟨.crypto, .purchased, none⟩) else none
  | .advance ticketId status =>
    (c.tickets ticketId).getLast?.bind fun ticket =>
      if advances ticket status then some (c.push ticketId { ticket with status := status })
      else none

end Chain

/-! ## Requests -/

inductive CardRequest where
  | event (provider : String) (event : CardEvent) (nowMs : Nat)
  | sign (context : SignContext) (orderId : String) (device : DeviceInput)
  | store (order : NewOrder)
  | operate
  deriving DecidableEq

inductive CardAnswer where
  | outcome (outcome : EventOutcome)
  | order (order : CardOrderRow)
  | run (processed waiting : Nat)

section System

variable (verify : String → Bytes → Bytes → Option Bool)

def handle : CardRequest → CardHandler CardAnswer
  | .event provider event nowMs => .outcome <$> applyCardEvent provider event nowMs
  | .sign context orderId device => .order <$> signCardOrder verify context orderId device
  | .store order => .order <$> storeCardOrder order
  | .operate => (fun run => .run run.1 run.2) <$> runCardOperator

def cardSystem : System World Input CardOp String CardAnswer CardRequest ChainMove where
  exec := World.exec
  handle := handle verify
  solo := fun request => request = .operate
  environment := fun e w => (w.chain.move e).map fun chain => { w with chain := chain }

end System

/-- Nothing has happened yet. -/
def World.initial : World where
  orders := .empty
  events := .empty
  ledger := .empty
  chain := { tickets := fun _ => [], seen := fun _ => 0, transactions := .empty }

abbrev CardConfig : Type 1 := Config World CardOp String CardAnswer CardRequest

def CardConfig.initial : CardConfig := ⟨World.initial, []⟩

end Youtick.PaymentService
