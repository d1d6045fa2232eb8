import Youtick.Lib.Custody
import Youtick.MarketV2.Liabilities

/-!
# Market V2 on the USDC ledger

The token contract as an atomic ledger around the world of `System`. A transfer call credits the
contract, calls `ft_on_transfer` and gives back the returned amount, or everything when the call
panics; a transfer the contract scheduled moves its whole amount when it lands or nothing at all;
anyone else may send plain transfers.
-/

set_option autoImplicit false

namespace Youtick.MarketV2

open Youtick.Lib

/-! ## Balances -/

/-- USDC balances by account. -/
abbrev Balances : Type := LookupMap AccountId Nat

namespace Balances

def of (b : Balances) (account : AccountId) : Nat := (b.get account).getD 0

/-- Move `amount`, which the sender must have. -/
def move (b : Balances) (sender receiver : AccountId) (amount : Nat) : Balances :=
  let debited := b.insert sender (b.of sender - amount)
  debited.insert receiver (of debited receiver + amount)

def supply (b : Balances) : Nat := b.total fun _ amount => amount

variable {b : Balances} {sender receiver account : AccountId} {amount : Nat}

theorem of_insert (b : Balances) (k account : AccountId) (amount : Nat) :
    of (b.insert k amount) account = if account = k then amount else b.of account := by
  rw [of, LookupMap.get_insert]
  split
  · rfl
  · rfl

theorem of_move_other (hs : account ≠ sender) (hr : account ≠ receiver) :
    (b.move sender receiver amount).of account = b.of account := by
  simp [move, of_insert, hs, hr]

theorem of_move_sender (h : sender ≠ receiver) :
    (b.move sender receiver amount).of sender = b.of sender - amount := by
  simp [move, of_insert, h]

theorem of_move_receiver (h : sender ≠ receiver) :
    (b.move sender receiver amount).of receiver = b.of receiver + amount := by
  simp [move, of_insert, Ne.symm h]

theorem of_move_self (h : amount ≤ b.of sender) :
    (b.move sender sender amount).of sender = b.of sender := by
  simp only [move, of_insert, if_true]
  omega

theorem le_supply (b : Balances) (account : AccountId) : b.of account ≤ b.supply := by
  cases h : b.get account with
  | none => simp [of, h]
  | some amount =>
    simp only [of, h, Option.getD_some]
    exact LookupMap.le_total (fun _ amount => amount) h

theorem supply_insert (b : Balances) (k : AccountId) (amount : Nat) :
    supply (b.insert k amount) + b.of k = b.supply + amount := by
  have := LookupMap.total_insert b k amount fun _ amount => amount
  simpa [supply, of] using this

theorem supply_move (h : amount ≤ b.of sender) :
    (b.move sender receiver amount).supply = b.supply := by
  have hdebit := supply_insert b sender (b.of sender - amount)
  have hcredit := supply_insert (b.insert sender (b.of sender - amount)) receiver
    (of (b.insert sender (b.of sender - amount)) receiver + amount)
  simp only [move]
  omega

end Balances

/-! ## Ledger worlds -/

/-- The USDC contract of the deployment's network. -/
def tokenAccount (host : Host) : AccountId :=
  if endsWith host.currentAccountId ".testnet" then testnetUsdc else mainnetUsdc

/-- The context of a call by the token contract. -/
def Context.fromToken (ctx : Context) (host : Host) : Context :=
  { ctx with
    predecessorAccountId := tokenAccount host
    attachedDeposit := 0
    promiseResults := [] }

structure LedgerWorld where
  market : World
  balances : Balances

inductive LedgerLabel where
  /-- `ft_transfer_call` to the contract. -/
  | transferCall (ctx : Context) (senderId : AccountId) (amount : Nat) (msg : String)
  /-- A plain transfer by an account other than the contract. -/
  | plainTransfer (senderId receiverId : AccountId) (amount : Nat)
  /-- Any step of the contract's world but an `ft_on_transfer` by the token contract. -/
  | market (label : Label)

/-- The token contract calls `ft_on_transfer` inside a transfer call only. -/
def Label.IsTokenCall (host : Host) : Label → Prop
  | .call ctx c => c.isDeposit = true ∧ ctx.predecessorAccountId = tokenAccount host
  | _ => False

instance (host : Host) (l : Label) : Decidable (l.IsTokenCall host) := by
  unfold Label.IsTokenCall
  cases l <;> infer_instance

/-- What a transfer call gives back. -/
def givenBack (host : Host) (ctx : Context) (s : Contract) (senderId : AccountId) (amount : Nat)
    (msg : String) : Nat :=
  match ftOnTransfer ⟨host, ctx.fromToken host⟩ s senderId amount msg with
  | .ok o => min o.value amount
  | .error _ => amount

/-- A transfer call that panics is given back whole and writes nothing; any other gives back what
`ft_on_transfer` returns. -/
theorem World.receive_transfer (w : World) (host : Host) (ctx : Context) (senderId : AccountId)
    (amount : Nat) (msg : String) :
    let after := w.receive host (ctx.fromToken host) (.ftOnTransfer senderId amount msg) w.pending
    (givenBack host ctx w.contract senderId amount msg = amount ∧ after.contract = w.contract ∧
      after.pending = w.pending) ∨
    ∃ o, ftOnTransfer ⟨host, ctx.fromToken host⟩ w.contract senderId amount msg = .ok o ∧
      givenBack host ctx w.contract senderId amount msg = o.value ∧
      after.contract = o.state ∧ after.pending = w.pending := by
  intro after
  have hcall : Call.run ⟨host, ctx.fromToken host⟩ w.contract (.ftOnTransfer senderId amount msg) =
      (ftOnTransfer ⟨host, ctx.fromToken host⟩ w.contract senderId amount msg >>=
        fun o => pure o.void) := rfl
  cases hrun : ftOnTransfer ⟨host, ctx.fromToken host⟩ w.contract senderId amount msg with
  | error e =>
    rw [hrun] at hcall
    replace hcall : Call.run ⟨host, ctx.fromToken host⟩ w.contract
      (.ftOnTransfer senderId amount msg) = .error e := hcall
    exact .inl ⟨by simp [givenBack, hrun], by simp [after, World.receive, hcall],
      by simp [after, World.receive, hcall]⟩
  | ok o =>
    rw [hrun] at hcall
    replace hcall : Call.run ⟨host, ctx.fromToken host⟩ w.contract
      (.ftOnTransfer senderId amount msg) = .ok o.void := hcall
    obtain ⟨hpromises, hle, -⟩ := (ftOnTransfer_ok hrun).2.liabilities
    refine .inr ⟨o, rfl, by simp [givenBack, hrun, hle], ?_, ?_⟩
    · simp [after, World.receive, hcall, Outcome.void]
    · simp [after, World.receive, hcall, Outcome.void, hpromises, Outbox.send]

/-- The balances after a step of the contract's world: only a delivered transfer moves any. -/
def LedgerWorld.settle (host : Host) (w : LedgerWorld) : Label → Option Balances
  | .land i true =>
    match w.market.pending[i]? with
    | some ⟨.ftTransfer receiverId amount _ _, _⟩ =>
      if amount ≤ w.balances.of host.currentAccountId then
        some (w.balances.move host.currentAccountId receiverId amount)
      else none
    | _ => some w.balances
  | _ => some w.balances

def LedgerWorld.exec (host : Host) (w : LedgerWorld) : LedgerLabel → Option LedgerWorld
  | .transferCall ctx senderId amount msg =>
    if senderId ≠ host.currentAccountId ∧ amount ≤ w.balances.of senderId then
      (w.market.exec host
        (.call (ctx.fromToken host) (.ftOnTransfer senderId amount msg))).map fun market =>
          { market := market
            balances := (w.balances.move senderId host.currentAccountId amount).move
              host.currentAccountId senderId
              (givenBack host ctx w.market.contract senderId amount msg) }
    else none
  | .plainTransfer senderId receiverId amount =>
    if senderId ≠ host.currentAccountId ∧ amount ≤ w.balances.of senderId then
      some { w with balances := w.balances.move senderId receiverId amount }
    else none
  | .market label =>
    if label.IsTokenCall host then none
    else
      match w.market.exec host label, w.settle host label with
      | some market, some balances => some { market := market, balances := balances }
      | _, _ => none

abbrev ledgerStep (host : Host) : LedgerWorld → LedgerLabel → LedgerWorld → Prop :=
  ExecStep (LedgerWorld.exec host)

/-- A fresh contract on a ledger whose supply fits the token's 128 bits. -/
structure LedgerInitial (host : Host) (w : LedgerWorld) : Prop where
  market : Initial host w.market
  supply : w.balances.supply ≤ maxOf 128

/-! ## The contract's position -/

/-- What the contract has. -/
def LedgerWorld.cash (host : Host) (w : LedgerWorld) : Nat := w.balances.of host.currentAccountId

/-- What it owes on its books. -/
def LedgerWorld.liabilities (w : LedgerWorld) : Nat := w.market.contract.toTill.liabilities

/-- The transfers it sent that are not resolved. -/
def LedgerWorld.unresolved (w : LedgerWorld) : Nat := w.market.pending.owed Promise.usdc

/-- What a transition brought in by a plain transfer, the contract's own ones to itself included. -/
def plainIn (host : Host) (x : Transition LedgerWorld LedgerLabel) : Nat :=
  match x.label with
  | .plainTransfer _ receiverId amount => if receiverId = host.currentAccountId then amount else 0
  | .market (.land i true) =>
    match x.pre.market.pending[i]? with
    | some ⟨.ftTransfer receiverId amount _ _, _⟩ =>
      if receiverId = host.currentAccountId then amount else 0
    | _ => 0
  | _ => 0

/-- What a transition brought in by a transfer call, less what was given back. -/
def keptIn (host : Host) (x : Transition LedgerWorld LedgerLabel) : Nat :=
  match x.label with
  | .transferCall _ _ _ _ => x.post.cash host - x.pre.cash host
  | _ => 0

/-- What a transition paid out. -/
def paidOut (x : Transition LedgerWorld LedgerLabel) : Nat :=
  match x.label with
  | .market (.land i true) => ((x.pre.market.pending[i]?).map fun x => x.item.usdc).getD 0
  | _ => 0

end Youtick.MarketV2
