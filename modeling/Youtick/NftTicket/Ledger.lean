import Youtick.Lib.Custody
import Youtick.MarketV2.Ledger
import Youtick.NftTicket.Runs

/-!
# The V1 market on the USDC and NEAR ledgers

The token contract and the native token as two atomic ledgers around the world of `System`. A USDC
transfer call credits the contract, calls `ft_on_transfer` and gives back the returned amount, or
everything when the call panics. A call with an attached deposit moves the deposit to the contract
unless it panics. A transfer the contract scheduled moves its whole amount when it lands or nothing
at all, and anyone else may send plain transfers of either asset.
-/

set_option autoImplicit false

namespace Youtick.NftTicket

open Youtick.Lib
open Youtick.MarketV2 (AccountId Host Balances tokenAccount)

/-! ## Receipts by asset -/

/-- What a receipt transfers: the asset, the receiver and the amount. -/
def Promise.payment : Promise → Option (Asset × AccountId × Nat)
  | .ftTransfer receiverId amount _ _ => some (.usdc, receiverId, amount)
  | .transfer receiverId amount _ => some (.near, receiverId, amount)
  | .deployContract _ => none

/-- The amount of an asset a receipt transfers. -/
def Promise.sends (asset : Asset) (promise : Promise) : Nat :=
  match promise.payment with
  | some (sent, _, amount) => if sent = asset then amount else 0
  | none => 0

/-- The amount of an asset a receipt withdraws; a refunded deposit is no withdrawal. -/
def Promise.withdraws (asset : Asset) (promise : Promise) : Nat :=
  if promise.callback.isSome then promise.sends asset else 0

/-- What the contract owes in an asset and has not sent. -/
def Money.held (m : Money) : Asset → Nat
  | .usdc => m.platformBalance + m.creatorBalances.total fun _ amount => amount
  | .near => m.platformNearBalance

/-! ## Ledger worlds -/

structure LedgerWorld where
  market : World
  balances : Asset → Balances

inductive LedgerLabel where
  /-- `ft_transfer_call` to the contract. -/
  | transferCall (ctx : Context) (senderId : AccountId) (amount : Nat) (msg : String)
  /-- A plain transfer by an account other than the contract. -/
  | plainTransfer (asset : Asset) (senderId receiverId : AccountId) (amount : Nat)
  /-- Any step of the contract's world but an `ft_on_transfer` by the token contract. -/
  | market (label : Label)

/-- The context of a call by the token contract. -/
def Context.fromToken (ctx : Context) (host : Host) : Context :=
  { ctx with
    predecessorAccountId := tokenAccount host
    attachedDeposit := 0
    promiseResults := [] }

/-- An incoming payment. -/
def Call.isDeposit : Call → Bool
  | .ftOnTransfer .. => true
  | _ => false

/-- The token contract calls `ft_on_transfer` inside a transfer call only. -/
def Label.IsTokenCall (host : Host) : Label → Prop
  | .call ctx c => c.isDeposit = true ∧ ctx.predecessorAccountId = tokenAccount host
  | _ => False

instance (host : Host) (l : Label) : Decidable (l.IsTokenCall host) := by
  unfold Label.IsTokenCall
  cases l <;> infer_instance

/-- What a transfer call gives back. -/
def givenBack (host : Host) (ctx : Context) (s : Contract) (senderId : AccountId) (amount : Nat)
    (msg : String) : Nat :=
  match ftOnTransfer ⟨host, ctx.fromToken host⟩ s senderId amount msg with
  | .ok o => min o.value amount
  | .error _ => amount

namespace LedgerWorld

variable (host : Host) (w : LedgerWorld)

def cash (asset : Asset) : Nat := (w.balances asset).of host.currentAccountId

def held (asset : Asset) : Nat := w.market.contract.money.held asset

/-- The withdrawals it sent that are not resolved. -/
def unresolved (asset : Asset) : Nat := w.market.pending.owed (Promise.withdraws asset)

def move (asset : Asset) (sender receiver : AccountId) (amount : Nat) : Asset → Balances :=
  Function.update w.balances asset ((w.balances asset).move sender receiver amount)

/-- The balances after a step of the contract's world: the attached deposit of a call that ran, or
the payment of a transfer that landed. The contract attaches no deposit to a call of its own. -/
def settle : Label → Option (Asset → Balances)
  | .call ctx c =>
    if ctx.attachedDeposit = 0 then some w.balances
    else if ctx.predecessorAccountId ≠ host.currentAccountId ∧
        ctx.attachedDeposit ≤ (w.balances .near).of ctx.predecessorAccountId then
      match c.run ⟨host, ctx⟩ w.market.contract with
      | .ok _ =>
        some (w.move .near ctx.predecessorAccountId host.currentAccountId ctx.attachedDeposit)
      | .error _ => some w.balances
    else none
  | .land i true =>
    match (w.market.pending[i]?).bind fun flight => flight.item.payment with
    | some (asset, receiverId, amount) =>
      if amount ≤ w.cash host asset then
        some (w.move asset host.currentAccountId receiverId amount)
      else none
    | none => some w.balances
  | _ => some w.balances

def exec : LedgerLabel → Option LedgerWorld
  | .transferCall ctx senderId amount msg =>
    if senderId ≠ host.currentAccountId ∧ amount ≤ (w.balances .usdc).of senderId then
      (w.market.exec host
        (.call (ctx.fromToken host) (.ftOnTransfer senderId amount msg))).map fun market =>
          { market := market
            balances := Function.update w.balances .usdc
              (((w.balances .usdc).move senderId host.currentAccountId amount).move
                host.currentAccountId senderId
                (givenBack host ctx w.market.contract senderId amount msg)) }
    else none
  | .plainTransfer asset senderId receiverId amount =>
    if senderId ≠ host.currentAccountId ∧ amount ≤ (w.balances asset).of senderId then
      some { w with balances := w.move asset senderId receiverId amount }
    else none
  | .market label =>
    if label.IsTokenCall host then none
    else
      match w.market.exec host label, w.settle host label with
      | some market, some balances => some { market := market, balances := balances }
      | _, _ => none

end LedgerWorld

abbrev ledgerStep (host : Host) : LedgerWorld → LedgerLabel → LedgerWorld → Prop :=
  ExecStep (LedgerWorld.exec host)

/-- A fresh contract on ledgers whose supplies fit their 128 bits. -/
structure LedgerInitial (host : Host) (w : LedgerWorld) : Prop where
  market : Initial host w.market
  supply : ∀ asset, (w.balances asset).supply ≤ maxOf 128

/-! ## What a transition moved -/

section Transition

variable (host : Host) (x : Transition LedgerWorld LedgerLabel)

/-- USDC that a plain transfer brought in, the contract's own ones to itself included. -/
def plainIn : Nat :=
  match x.label with
  | .plainTransfer .usdc _ receiverId amount =>
    if receiverId = host.currentAccountId then amount else 0
  | .market (.land i true) =>
    match (x.pre.market.pending[i]?).bind fun flight => flight.item.payment with
    | some (.usdc, receiverId, amount) => if receiverId = host.currentAccountId then amount else 0
    | _ => 0
  | _ => 0

/-- USDC that a transfer call brought in, less what was given back. -/
def keptIn : Nat :=
  match x.label with
  | .transferCall _ _ _ _ => x.post.cash host .usdc - x.pre.cash host .usdc
  | _ => 0

/-- The NEAR fee a call kept: its deposit, when the job was created and nothing was sent back. -/
def feeKept : Nat :=
  match x.label with
  | .market (.call ctx (.createPaidJobNear request quote signature)) =>
    match (Call.createPaidJobNear request quote signature).run ⟨host, ctx⟩
        x.pre.market.contract with
    | .ok o => if o.promises = [] then ctx.attachedDeposit else 0
    | .error _ => 0
  | _ => 0

/-- The withdrawals a transition completed. -/
def completed (asset : Asset) : Nat :=
  match x.label with
  | .market (.land i true) =>
    ((x.pre.market.pending[i]?).map fun flight => flight.item.withdraws asset).getD 0
  | _ => 0

/-- `account` was charged for `publicationId`: a transfer call that buys it kept something. -/
def Charged (account : AccountId) (publicationId : String) : Prop :=
  ∃ ctx amount msg, x.label = .transferCall ctx account amount msg ∧
    purchased host msg = some publicationId ∧
    givenBack host ctx x.pre.market.contract account amount msg < amount

end Transition

/-- A quantity of every transition, summed over a run. -/
def totalOf (f : Transition LedgerWorld LedgerLabel → Nat)
    (tr : List (Transition LedgerWorld LedgerLabel)) : Nat := (tr.map f).sum

end Youtick.NftTicket
