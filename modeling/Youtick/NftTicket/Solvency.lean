import Youtick.MarketV2.Solvency
import Youtick.NftTicket.Books

/-!
# The V1 market is solvent in USDC and NEAR

`Taken` says what a USDC transfer call did, `LedgerWorld.settle_cash` what every other step did to
the contract's balances. With `World.Matched.books` the law of each asset follows by induction on
the run: the USDC balance is exactly what the contract holds, what is unresolved and what plain
transfers brought in, and the NEAR fees kept are held, unresolved or withdrawn.
-/

set_option autoImplicit false

namespace Youtick.NftTicket

open Youtick.Lib
open Youtick.MarketV2 (AccountId Host Publication Balances tokenAccount testnetUsdc mainnetUsdc
  paidJobRequestOf legacyUploadProfileHash)

/-! ## Transfer calls -/

/-- What a transfer call did to the money, and what it gave back: everything when the call panicked
or returned it, nothing when it paid for a job or bought a ticket. -/
inductive Taken (host : Host) (m : Money) (publications : LookupMap String Publication)
    (senderId : AccountId) (amount : Nat) (msg : String) : Nat → Money → Prop where
  | returned : Taken host m publications senderId amount msg amount m
  | job (hbuys : purchased host msg = none) :
      Taken host m publications senderId amount msg 0 (m.credit .platform amount)
  | sold {publicationId : String} {publication : Publication}
      (hbuys : purchased host msg = some publicationId)
      (hget : publications.get publicationId = some publication)
      (hactive : publication.availability = .active) (hprice : amount = publication.priceUsdc)
      (hfresh : m.entitlements.get (entitlementKey senderId publicationId) = none) :
      Taken host m publications senderId amount msg 0
        (m.sell senderId publication.creatorId publicationId amount)

section Taken

variable {host : Host} {m m' : Money} {publications : LookupMap String Publication}
  {senderId msg : String} {amount back : Nat}

theorem Taken.back_le (h : Taken host m publications senderId amount msg back m') :
    back ≤ amount := by
  cases h with
  | returned => exact Nat.le_refl _
  | job | sold => exact Nat.zero_le _

/-- What is not given back is held, in USDC. -/
theorem Taken.held (h : Taken host m publications senderId amount msg back m') :
    m'.held .usdc + back = m.held .usdc + amount ∧ m'.held .near = m.held .near := by
  cases h with
  | returned => exact ⟨rfl, rfl⟩
  | job => exact ⟨m.held_credit .platform amount .usdc, m.held_credit .platform amount .near⟩
  | @sold publicationId publication =>
    exact ⟨m.held_sell senderId publication.creatorId publicationId amount .usdc,
      m.held_sell senderId publication.creatorId publicationId amount .near⟩

/-- A transfer call that buys a ticket and keeps something is a sale at the price. -/
theorem Taken.sale (h : Taken host m publications senderId amount msg back m')
    {publicationId : String} (hbuys : purchased host msg = some publicationId)
    (hkept : back < amount) :
    ∃ publication, publications.get publicationId = some publication ∧
      publication.availability = .active ∧ amount = publication.priceUsdc ∧ back = 0 ∧
      m.entitlements.get (entitlementKey senderId publicationId) = none ∧
      m' = m.sell senderId publication.creatorId publicationId amount := by
  cases h with
  | returned => exact absurd hkept (Nat.lt_irrefl _)
  | job hnone =>
    rw [hnone] at hbuys
    cases hbuys
  | @sold publicationId' publication hbuys' hget hactive hprice hfresh =>
    rw [hbuys'] at hbuys
    cases hbuys
    exact ⟨publication, hget, hactive, hprice, rfl, hfresh, rfl⟩

end Taken

section Ledger

variable {host : Host} {w w' : LedgerWorld} {l : LedgerLabel} {asset : Asset}

/-- What the token contract's call does to the contract's world. -/
theorem World.receive_transfer (w : World) (host : Host) (ctx : Context) (senderId : AccountId)
    (amount : Nat) (msg : String) :
    let after := w.receive host (ctx.fromToken host) (.ftOnTransfer senderId amount msg) w.pending
    Taken host w.contract.money w.contract.publications senderId amount msg
        (givenBack host ctx w.contract senderId amount msg) after.contract.money ∧
      after.pending = w.pending := by
  intro after
  have hcall : Call.run ⟨host, ctx.fromToken host⟩ w.contract (.ftOnTransfer senderId amount msg) =
      (ftOnTransfer ⟨host, ctx.fromToken host⟩ w.contract senderId amount msg >>=
        fun o => pure o.void) := rfl
  cases hrun : ftOnTransfer ⟨host, ctx.fromToken host⟩ w.contract senderId amount msg with
  | error e =>
    rw [hrun] at hcall
    replace hcall : Call.run ⟨host, ctx.fromToken host⟩ w.contract
      (.ftOnTransfer senderId amount msg) = .error e := hcall
    have hback : givenBack host ctx w.contract senderId amount msg = amount := by
      simp [givenBack, hrun]
    have hafter : after.contract = w.contract ∧ after.pending = w.pending := by
      simp [after, World.receive, hcall]
    rw [hback, hafter.1]
    exact ⟨.returned, hafter.2⟩
  | ok o =>
    rw [hrun] at hcall
    replace hcall : Call.run ⟨host, ctx.fromToken host⟩ w.contract
      (.ftOnTransfer senderId amount msg) = .ok o.void := hcall
    obtain ⟨-, hreceived, hpromises⟩ := ftOnTransfer_received o hrun
    have hback : givenBack host ctx w.contract senderId amount msg = min o.value amount := by
      simp [givenBack, hrun]
    have hafter : after.contract = o.state ∧ after.pending = w.pending := by
      simp [after, World.receive, hcall, Outcome.void, hpromises, Outbox.send]
    rw [hback, hafter.1]
    refine ⟨?_, hafter.2⟩
    cases hreceived with
    | returned hvalue hstate =>
      rw [hvalue, hstate, Nat.min_self]
      exact .returned
    | job hvalue _ _ hbuys hmoney =>
      rw [hvalue, hmoney, Nat.zero_min]
      exact .job hbuys
    | sold hvalue _ _ hbuys hget hactive hprice hfresh hmoney =>
      rw [hvalue, hmoney, Nat.zero_min]
      exact .sold hbuys hget hactive hprice hfresh

/-- A transfer call on the ledger: the token contract's call, and the payment less what it gave
back. -/
theorem LedgerWorld.transferCall_step {ctx : Context} {senderId : AccountId} {amount : Nat}
    {msg : String} (h : ledgerStep host w (.transferCall ctx senderId amount msg) w') :
    worldStep host w.market (.call (ctx.fromToken host) (.ftOnTransfer senderId amount msg))
        w'.market ∧
      Taken host w.market.contract.money w.market.contract.publications senderId amount msg
        (givenBack host ctx w.market.contract senderId amount msg) w'.market.contract.money ∧
      w'.market.pending = w.market.pending ∧
      w'.cash host .usdc + givenBack host ctx w.market.contract senderId amount msg =
        w.cash host .usdc + amount ∧
      w'.cash host .near = w.cash host .near ∧
      ∀ asset, (w'.balances asset).supply = (w.balances asset).supply := by
  simp only [ledgerStep, ExecStep, LedgerWorld.exec, Option.ite_none_right_eq_some,
    Option.map_eq_some_iff] at h
  obtain ⟨⟨hsender, hamount⟩, market, hmarket, rfl⟩ := h
  obtain ⟨htaken, hpending⟩ := w.market.receive_transfer host ctx senderId amount msg
  have hback := htaken.back_le
  obtain ⟨hcash, hsupply⟩ := Balances.of_move_back hsender hamount hback
  refine ⟨hmarket, ?_⟩
  simp only [World.exec, Option.ite_none_right_eq_some, Option.some.injEq] at hmarket
  obtain ⟨-, rfl⟩ := hmarket
  refine ⟨htaken, hpending, ?_, rfl, ?_⟩
  · simp only [LedgerWorld.cash, Function.update_self, hcash]
    omega
  · intro asset
    cases asset with
    | usdc => simp only [Function.update_self, hsupply]
    | near => rfl

/-- A plain transfer on the ledger. -/
theorem LedgerWorld.plainTransfer_step {sent : Asset} {senderId receiverId : AccountId}
    {amount : Nat} (h : ledgerStep host w (.plainTransfer sent senderId receiverId amount) w') :
    w'.market = w.market ∧
      (∀ asset, w'.cash host asset = w.cash host asset +
        if sent = asset ∧ receiverId = host.currentAccountId then amount else 0) ∧
      ∀ asset, (w'.balances asset).supply = (w.balances asset).supply := by
  simp only [ledgerStep, ExecStep, LedgerWorld.exec, Option.ite_none_right_eq_some,
    Option.some.injEq] at h
  obtain ⟨⟨hsender, hamount⟩, rfl⟩ := h
  refine ⟨rfl, fun asset => ?_, fun asset => ?_⟩
  · by_cases hasset : sent = asset
    · subst hasset
      by_cases hto : receiverId = host.currentAccountId
      · subst hto
        simp [LedgerWorld.cash, LedgerWorld.move, Balances.of_move_receiver hsender]
      · simp [LedgerWorld.cash, LedgerWorld.move, hto,
          Balances.of_move_other (Ne.symm hsender) (Ne.symm hto)]
    · simp [LedgerWorld.cash, LedgerWorld.move, hasset, Function.update_of_ne (Ne.symm hasset)]
  · by_cases hasset : sent = asset
    · subst hasset
      simp [LedgerWorld.move, Balances.supply_move hamount]
    · simp [LedgerWorld.move, Function.update_of_ne (Ne.symm hasset)]

/-- A step of the contract's world on the ledger. -/
theorem LedgerWorld.market_step {label : Label} (h : ledgerStep host w (.market label) w') :
    ¬ label.IsTokenCall host ∧ worldStep host w.market label w'.market ∧
      w.settle host label = some w'.balances := by
  simp only [ledgerStep, ExecStep, LedgerWorld.exec, Option.ite_none_left_eq_some] at h
  obtain ⟨htoken, h⟩ := h
  split at h
  · next market balances hmarket hbalances =>
      cases h
      exact ⟨htoken, hmarket, hbalances⟩
  · cases h

/-- What the contract sent to itself. -/
def World.toSelf (host : Host) (w : World) (asset : Asset) : Label → Nat
  | .land i true =>
    match (w.pending[i]?).bind fun flight => flight.item.payment with
    | some (sent, receiverId, amount) =>
      if sent = asset ∧ receiverId = host.currentAccountId then amount else 0
    | none => 0
  | _ => 0

theorem plainIn_market (w' : LedgerWorld) (label : Label) :
    plainIn host ⟨w, .market label, w'⟩ = w.market.toSelf host .usdc label := by
  cases label with
  | land i ok =>
    cases ok with
    | true =>
      simp only [plainIn, World.toSelf]
      cases (w.market.pending[i]?).bind fun flight => flight.item.payment with
      | none => rfl
      | some payment =>
        obtain ⟨sent, receiverId, amount⟩ := payment
        cases sent <;> simp
    | false => rfl
  | call | callback | batch => rfl

/-- Settling a call moves its attached deposit to the contract when the call runs. -/
theorem LedgerWorld.settle_call {ctx : Context} {c : Call} {balances : Asset → Balances}
    (h : w.settle host (.call ctx c) = some balances) :
    (balances asset).supply = (w.balances asset).supply ∧
      (balances asset).of host.currentAccountId =
        w.cash host asset + w.market.attached host asset (.call ctx c) := by
  simp only [LedgerWorld.settle] at h
  split at h
  · next hzero =>
      cases h
      refine ⟨rfl, ?_⟩
      simp only [World.attached, hzero, ite_self, LedgerWorld.cash]
      split <;> rfl
  · split at h
    · next hpays =>
        split at h
        · next o hrun =>
            cases h
            simp only [World.attached, hrun]
            cases asset with
            | usdc => simp [LedgerWorld.move, LedgerWorld.cash, Function.update]
            | near =>
              simp only [LedgerWorld.move, Function.update_self, if_true]
              exact ⟨Balances.supply_move hpays.2, Balances.of_move_receiver hpays.1⟩
        · next e hrun =>
            cases h
            simp only [World.attached, hrun]
            exact ⟨trivial, rfl⟩
    · cases h

/-- Settling a landing pays what the receipt sends; what it sends to the contract comes back. -/
theorem LedgerWorld.settle_land {i : Nat} {balances : Asset → Balances}
    (h : w.settle host (.land i true) = some balances) :
    (balances asset).supply = (w.balances asset).supply ∧
      (balances asset).of host.currentAccountId +
          w.market.delivered (Promise.sends asset) (.land i true) =
        w.cash host asset + w.market.toSelf host asset (.land i true) := by
  cases hpayment : (w.market.pending[i]?).bind fun flight => flight.item.payment with
  | none =>
    have hdelivered : w.market.delivered (Promise.sends asset) (.land i true) = 0 := by
      cases hget : w.market.pending[i]? with
      | none => simp [World.delivered, hget]
      | some flight =>
        rw [hget, Option.bind_some] at hpayment
        simp [World.delivered, hget, Promise.sends, hpayment]
    simp only [LedgerWorld.settle, hpayment, Option.some.injEq] at h
    subst h
    simp only [hdelivered, World.toSelf, hpayment, LedgerWorld.cash]
    exact ⟨trivial, trivial⟩
  | some payment =>
    obtain ⟨sent, receiverId, amount⟩ := payment
    obtain ⟨flight, hget, hpay⟩ := Option.bind_eq_some_iff.mp hpayment
    have hdelivered : w.market.delivered (Promise.sends asset) (.land i true) =
        if sent = asset then amount else 0 := by
      simp [World.delivered, hget, Promise.sends, hpay]
    simp only [LedgerWorld.settle, hpayment, Option.ite_none_right_eq_some,
      Option.some.injEq] at h
    obtain ⟨hle, rfl⟩ := h
    simp only [hdelivered, World.toSelf, hpayment]
    by_cases hasset : sent = asset
    · subst hasset
      simp only [LedgerWorld.move, Function.update_self, if_true, true_and]
      refine ⟨Balances.supply_move hle, ?_⟩
      by_cases hself : receiverId = host.currentAccountId
      · simp only [hself, if_true, LedgerWorld.cash, Balances.of_move_self hle]
      · simp only [hself, if_false, Balances.of_move_sender (Ne.symm hself)]
        simp only [LedgerWorld.cash] at hle ⊢
        omega
    · simp [LedgerWorld.move, hasset, Function.update_of_ne (Ne.symm hasset), LedgerWorld.cash]

/-- What settling does to the contract's balances and to the supplies. -/
theorem LedgerWorld.settle_cash (asset : Asset) {label : Label} {balances : Asset → Balances}
    (h : w.settle host label = some balances) :
    (balances asset).supply = (w.balances asset).supply ∧
      (balances asset).of host.currentAccountId +
          w.market.delivered (Promise.sends asset) label =
        w.cash host asset + w.market.attached host asset label +
          w.market.toSelf host asset label := by
  cases label with
  | call ctx c => exact LedgerWorld.settle_call h
  | land i ok =>
    cases ok with
    | true => exact LedgerWorld.settle_land h
    | false =>
      cases h
      exact ⟨rfl, rfl⟩
  | callback | batch =>
    cases h
    exact ⟨rfl, rfl⟩

/-! ## The ledger's invariant -/

theorem usdcContractId_eq {env : Env} {usdc : AccountId} (h : usdcContractId env = .ok usdc) :
    usdc = tokenAccount env.toHost := by
  unfold usdcContractId at h
  rcases ite_eq_ok.mp h with ⟨htestnet, h⟩ | ⟨hnot, h⟩
  · rw [tokenAccount, if_pos htestnet]
    exact (ok_eq_ok.mp h).symm
  · rcases ite_eq_ok.mp h with ⟨-, h⟩ | ⟨-, h⟩
    · rw [tokenAccount, if_neg hnot]
      exact (ok_eq_ok.mp h).symm
    · exact (error_eq_ok.mp h).elim

/-- Nobody but the token contract makes a USDC payment. -/
theorem deposit_by_token {ctx : Context} {c : Call} {s : Contract} {o : Outcome Unit}
    (hc : c.isDeposit = true) (h : c.run ⟨host, ctx⟩ s = .ok o) :
    ctx.predecessorAccountId = tokenAccount host := by
  obtain ⟨-, -, hbody⟩ := bind_eq_ok.mp h
  cases c with
  | ftOnTransfer senderId amount msg =>
    obtain ⟨o', ho', -⟩ := bind_eq_ok.mp hbody
    obtain ⟨⟨usdc, husdc, hcaller⟩, -⟩ := ftOnTransfer_received o' ho'
    exact hcaller.trans (usdcContractId_eq husdc)
  | _ => cases hc

/-- What is held and what is on its way, refunded deposits included, is in the account. -/
structure LedgerWorld.Sound (host : Host) (w : LedgerWorld) : Prop where
  matched : w.market.Matched
  supply : ∀ asset, (w.balances asset).supply ≤ maxOf 128
  covered : ∀ asset, w.held asset + w.market.pending.owed (Promise.sends asset) ≤ w.cash host asset

theorem LedgerWorld.Sound.fits (h : w.Sound host) (asset : Asset) :
    w.market.contract.money.held asset + w.market.pending.owed (Promise.sends asset) ≤
      maxOf 128 :=
  (h.covered asset).trans ((Balances.le_supply _ _).trans (h.supply asset))

/-- A step of the contract's world on the ledger is no payment that ran. -/
theorem not_token_call {label : Label} (h : ¬ label.IsTokenCall host) (s : Contract) :
    ∀ ctx c o, label = .call ctx c → c.isDeposit = true → c.run ⟨host, ctx⟩ s ≠ .ok o := by
  rintro ctx c o rfl hc hrun
  exact h ⟨hc, deposit_by_token hc hrun⟩

theorem LedgerWorld.Sound.step (hsound : w.Sound host) (h : ledgerStep host w l w') :
    w'.Sound host := by
  cases l with
  | transferCall ctx senderId amount msg =>
    obtain ⟨hmarket, htaken, hpending, husdc, hnear, hsupply⟩ := LedgerWorld.transferCall_step h
    refine ⟨hsound.matched.step hmarket, fun asset => ?_, fun asset => ?_⟩
    · rw [hsupply]
      exact hsound.supply asset
    · have hcovered := hsound.covered asset
      obtain ⟨hheld, hsame⟩ := htaken.held
      simp only [LedgerWorld.held, hpending] at hcovered ⊢
      cases asset with
      | usdc => omega
      | near =>
        rw [hsame, hnear]
        exact hcovered
  | plainTransfer sent senderId receiverId amount =>
    obtain ⟨hmarket, hcash, hsupply⟩ := LedgerWorld.plainTransfer_step h
    refine ⟨hmarket ▸ hsound.matched, fun asset => ?_, fun asset => ?_⟩
    · rw [hsupply]
      exact hsound.supply asset
    · have hcovered := hsound.covered asset
      rw [LedgerWorld.held, hmarket, hcash]
      exact hcovered.trans (Nat.le_add_right _ _)
  | market label =>
    obtain ⟨htoken, hmarket, hsettle⟩ := LedgerWorld.market_step h
    refine ⟨hsound.matched.step hmarket, fun asset => ?_, fun asset => ?_⟩
    · rw [(LedgerWorld.settle_cash asset hsettle).1]
      exact hsound.supply asset
    · have hcovers := hsound.matched.covers hmarket (hsound.fits asset)
        (not_token_call htoken _)
      have hcash := (LedgerWorld.settle_cash asset hsettle).2
      have hcovered := hsound.covered asset
      simp only [LedgerWorld.held, LedgerWorld.cash] at hcovered hcash ⊢
      omega

/-! ## The law of each asset -/

/-- No fee is kept in USDC. -/
theorem World.usdc_fee (w : World) (host : Host) (label : Label) :
    w.fee host .usdc label = 0 := by
  cases label with
  | call ctx c =>
    simp only [World.fee]
    split
    · cases c <;> rfl
    · rfl
  | land | callback | batch => rfl

/-- No USDC is attached to a call. -/
theorem World.usdc_attached (w : World) (host : Host) (label : Label) :
    w.attached host .usdc label = 0 := by
  cases label with
  | call ctx c =>
    simp only [World.attached]
    split <;> rfl
  | land | callback | batch => rfl

/-- Every USDC receipt is a withdrawal. -/
theorem Promise.usdc_withdraws (promise : Promise) :
    promise.sends .usdc = promise.withdraws .usdc := by
  cases promise with
  | ftTransfer => rfl
  | transfer receiverId amount callback => cases callback <;> rfl
  | deployContract => rfl

theorem World.usdc_delivered (w : World) (label : Label) :
    w.delivered (Promise.sends .usdc) label = w.delivered (Promise.withdraws .usdc) label := by
  rw [funext Promise.usdc_withdraws]

/-- USDC: what comes in by a plain transfer stays unrecorded; everything else is booked. -/
theorem LedgerWorld.Sound.usdc_step (hsound : w.Sound host) (h : ledgerStep host w l w') :
    w'.cash host .usdc + (w.held .usdc + w.unresolved .usdc) =
      w.cash host .usdc + (w'.held .usdc + w'.unresolved .usdc) + plainIn host ⟨w, l, w'⟩ := by
  cases l with
  | transferCall ctx senderId amount msg =>
    obtain ⟨-, htaken, hpending, hcash, -⟩ := LedgerWorld.transferCall_step h
    have hheld := htaken.held.1
    have hback := htaken.back_le
    simp only [LedgerWorld.held, LedgerWorld.unresolved, hpending, plainIn]
    omega
  | plainTransfer sent senderId receiverId amount =>
    obtain ⟨hmarket, hcash, -⟩ := LedgerWorld.plainTransfer_step h
    have hin : plainIn host ⟨w, .plainTransfer sent senderId receiverId amount, w'⟩ =
        if sent = .usdc ∧ receiverId = host.currentAccountId then amount else 0 := by
      cases sent <;> simp [plainIn]
    rw [hin, hcash, LedgerWorld.held, LedgerWorld.held, LedgerWorld.unresolved,
      LedgerWorld.unresolved, hmarket]
    omega
  | market label =>
    obtain ⟨htoken, hmarket, hsettle⟩ := LedgerWorld.market_step h
    have hbooks := hsound.matched.books hmarket (hsound.fits .usdc) (not_token_call htoken _)
    have hcash := (LedgerWorld.settle_cash .usdc hsettle).2
    -- No fee is kept in USDC, none is attached, and every USDC receipt is a withdrawal.
    have hfee := w.market.usdc_fee host label
    have hattached := w.market.usdc_attached host label
    have hdelivered := w.market.usdc_delivered label
    rw [plainIn_market]
    simp only [LedgerWorld.held, LedgerWorld.unresolved, LedgerWorld.cash] at hcash ⊢
    omega

theorem feeKept_market (w' : LedgerWorld) (label : Label) :
    feeKept host ⟨w, .market label, w'⟩ = w.market.fee host .near label := by
  cases label with
  | call ctx c =>
    cases c with
    | createPaidJobNear =>
      simp only [feeKept, World.fee]
      split <;> simp_all [Call.fee]
    | _ =>
      simp only [feeKept, World.fee]
      split <;> rfl
  | land | callback | batch => rfl

theorem completed_market (w' : LedgerWorld) (label : Label) :
    completed ⟨w, .market label, w'⟩ asset =
      w.market.delivered (Promise.withdraws asset) label := by
  cases label with
  | land i ok => cases ok <;> rfl
  | call | callback | batch => rfl

/-- NEAR: a fee kept is held until it is withdrawn. -/
theorem LedgerWorld.Sound.near_step (hsound : w.Sound host) (h : ledgerStep host w l w') :
    w'.held .near + w'.unresolved .near + completed ⟨w, l, w'⟩ .near =
      w.held .near + w.unresolved .near + feeKept host ⟨w, l, w'⟩ := by
  cases l with
  | transferCall ctx senderId amount msg =>
    obtain ⟨-, htaken, hpending, -⟩ := LedgerWorld.transferCall_step h
    simp only [LedgerWorld.held, LedgerWorld.unresolved, hpending, htaken.held.2, completed,
      feeKept]
  | plainTransfer =>
    obtain ⟨hmarket, -⟩ := LedgerWorld.plainTransfer_step h
    rw [LedgerWorld.held, LedgerWorld.held, LedgerWorld.unresolved, LedgerWorld.unresolved,
      hmarket]
    rfl
  | market label =>
    obtain ⟨htoken, hmarket, -⟩ := LedgerWorld.market_step h
    have hbooks := hsound.matched.books hmarket (hsound.fits .near) (not_token_call htoken _)
    rw [feeKept_market, completed_market]
    exact hbooks

theorem LedgerWorld.entitlements_step (h : ledgerStep host w l w') :
    EntitlementsKept w.market.contract w'.market.contract := by
  cases l with
  | transferCall =>
    obtain ⟨hmarket, -⟩ := LedgerWorld.transferCall_step h
    exact World.entitlements_step hmarket
  | plainTransfer =>
    obtain ⟨hmarket, -⟩ := LedgerWorld.plainTransfer_step h
    exact hmarket ▸ .refl _
  | market =>
    obtain ⟨-, hmarket, -⟩ := LedgerWorld.market_step h
    exact World.entitlements_step hmarket

/-! ## Every run -/

theorem new_money {config : MarketInitConfig} {c : Contract} (h : new config = .ok c) :
    c.money = ⟨.empty, .empty, 0, 0⟩ := by
  simp only [new, bind_eq_ok, require_eq_ok, pure_eq_ok] at h
  obtain ⟨-, -, -, -, -, -, -, -, -, -, -, -, rfl⟩ := h
  rfl

theorem Deployed.money {c : Contract} (h : Deployed host c) :
    c.money = ⟨.empty, .empty, 0, 0⟩ := by
  cases h with
  | new h => exact new_money h
  | newPublicTestnet _ h =>
    simp only [NftTicket.newPublicTestnet, bind_eq_ok, pure_eq_ok] at h
    obtain ⟨contract, hnew, _, -, -, -, -, -, rfl⟩ := h
    have hmoney := new_money hnew
    exact hmoney

theorem LedgerInitial.sound (h : LedgerInitial host w) :
    w.Sound host ∧ (∀ asset, w.held asset = 0) ∧ ∀ asset, w.unresolved asset = 0 := by
  have hpending : w.market.pending = [] := h.market.pending
  have hheld : ∀ asset, w.held asset = 0 := by
    intro asset
    rw [LedgerWorld.held, h.market.deployed.money]
    cases asset <;> rfl
  refine ⟨⟨?_, h.supply, ?_⟩, hheld, ?_⟩
  · intro p hp
    rw [hpending] at hp
    cases hp
  · intro asset
    rw [hheld, hpending]
    exact Nat.zero_le _
  · intro asset
    rw [LedgerWorld.unresolved, hpending]
    rfl

/-- What a run brought in and paid out, by induction on its steps. -/
theorem ledger_laws {w₀ : LedgerWorld} {tr : List (Transition LedgerWorld LedgerLabel)}
    (h₀ : LedgerInitial host w₀) (h : Trace (ledgerStep host) w₀ tr w) :
    w.Sound host ∧
      w.cash host .usdc = w.held .usdc + w.unresolved .usdc +
        (w₀.cash host .usdc + totalOf (plainIn host) tr) ∧
      totalOf (feeKept host) tr = w.held .near + w.unresolved .near +
        totalOf (fun x => completed x .near) tr := by
  obtain ⟨hsound, hheld, howed⟩ := h₀.sound
  induction h with
  | nil =>
    refine ⟨hsound, ?_, ?_⟩
    · simp [hheld, howed, totalOf]
    · simp [hheld, howed, totalOf]
  | @snoc tr s l t _ hstep ih =>
    obtain ⟨hs, husdc, hnear⟩ := ih
    have husdcStep := hs.usdc_step hstep
    have hnearStep := hs.near_step hstep
    refine ⟨hs.step hstep, ?_, ?_⟩
    · simp only [totalOf, List.map_append, List.map_cons, List.map_nil, List.sum_append,
        List.sum_cons, List.sum_nil] at husdc ⊢
      omega
    · simp only [totalOf, List.map_append, List.map_cons, List.map_nil, List.sum_append,
        List.sum_cons, List.sum_nil] at hnear ⊢
      omega

/-- An entitlement outlives every run. -/
theorem entitlements_run {w₀ : LedgerWorld} {tr : List (Transition LedgerWorld LedgerLabel)}
    (h : Trace (ledgerStep host) w₀ tr w) :
    EntitlementsKept w₀.market.contract w.market.contract := by
  induction h with
  | nil => exact .refl _
  | snoc _ hstep ih => exact ih.trans (LedgerWorld.entitlements_step hstep)

/-- A charge is a sale at the publication's price, to a buyer who had no entitlement. -/
theorem Charged.sale {x : Transition LedgerWorld LedgerLabel} {account : AccountId}
    {publicationId : String} (h : Charged host x account publicationId)
    (hstep : ledgerStep host x.pre x.label x.post) :
    ∃ publication, x.pre.market.contract.publications.get publicationId = some publication ∧
      keptIn host x = publication.priceUsdc ∧
      x.pre.market.contract.entitlements.get (entitlementKey account publicationId) = none ∧
      x.post.market.contract.money = x.pre.market.contract.money.sell account
        publication.creatorId publicationId publication.priceUsdc := by
  obtain ⟨ctx, amount, msg, hlabel, hbuys, hkept⟩ := h
  rw [hlabel] at hstep
  obtain ⟨-, htaken, -, hcash, -⟩ := LedgerWorld.transferCall_step hstep
  obtain ⟨publication, hget, -, hprice, hback, hfresh, hmoney⟩ := htaken.sale hbuys hkept
  refine ⟨publication, hget, ?_, hfresh, hprice ▸ hmoney⟩
  simp only [keptIn, hlabel]
  omega

/-- The second of two charges for one publication would find the entitlement of the first. -/
theorem charged_once {w₀ : LedgerWorld} {tr : List (Transition LedgerWorld LedgerLabel)}
    (h : Trace (ledgerStep host) w₀ tr w) :
    tr.Pairwise fun x y => ∀ account publicationId,
      ¬ (Charged host x account publicationId ∧ Charged host y account publicationId) := by
  refine h.pairwise (I := fun _ => True) (fun _ _ _ _ _ => trivial) ?_ trivial
  rintro x b y - hx hb hy account publicationId ⟨hchargedx, hchargedy⟩
  obtain ⟨publication, -, -, -, hmoney⟩ := hchargedx.sale hx
  obtain ⟨-, -, -, hfresh, -⟩ := hchargedy.sale hy
  have hsold : x.post.market.contract.money.entitlements.get
      (entitlementKey account publicationId) = some true := by
    rw [hmoney]
    exact LookupMap.get_insert_self _ _ _
  have hkept := (entitlements_run hb).bought _ _ hsold
  change y.pre.market.contract.entitlements.get _ = none at hfresh
  rw [hkept] at hfresh
  cases hfresh

/-- In every state of every run: the USDC balance is what is held, what is unresolved and what plain
transfers brought in; the NEAR fees kept are held, unresolved or withdrawn; an entitlement is never
removed; no account is charged twice for a publication; and a charge is the price, a twentieth of
which is the platform's and the rest the creator's. -/
theorem money_law {w₀ : LedgerWorld} {tr : List (Transition LedgerWorld LedgerLabel)}
    (h₀ : LedgerInitial host w₀) (h : Trace (ledgerStep host) w₀ tr w) :
    w.held .usdc + w.unresolved .usdc ≤ w.cash host .usdc ∧
    w.cash host .usdc = w.held .usdc + w.unresolved .usdc +
      (w₀.cash host .usdc + totalOf (plainIn host) tr) ∧
    totalOf (feeKept host) tr = w.market.contract.platformNearBalance + w.unresolved .near +
      totalOf (fun x => completed x .near) tr ∧
    (∀ x ∈ tr, ∀ account publicationId,
      hasEntitlement x.pre.market.contract account publicationId = true →
        hasEntitlement w.market.contract account publicationId = true) ∧
    (tr.Pairwise fun x y => ∀ account publicationId,
      ¬ (Charged host x account publicationId ∧ Charged host y account publicationId)) ∧
    ∀ x ∈ tr, ∀ account publicationId, Charged host x account publicationId →
      ∃ publication, x.pre.market.contract.publications.get publicationId = some publication ∧
        keptIn host x = publication.priceUsdc ∧
        hasEntitlement x.post.market.contract account publicationId = true ∧
        x.post.market.contract.platformBalance =
          x.pre.market.contract.platformBalance + publication.priceUsdc / 20 ∧
        x.post.market.contract.creatorBalances =
          x.pre.market.contract.creatorBalances.insert publication.creatorId
            ((x.pre.market.contract.creatorBalances.get publication.creatorId).getD 0 +
              (publication.priceUsdc - publication.priceUsdc / 20)) := by
  obtain ⟨hsound, husdc, hnear⟩ := ledger_laws h₀ h
  refine ⟨?_, husdc, hnear, ?_, charged_once h, ?_⟩
  · omega
  · intro x hx account publicationId hentitled
    obtain ⟨a, b, rfl⟩ := List.append_of_mem hx
    obtain ⟨-, hstep, hb⟩ := h.at_mem
    have hkept := (LedgerWorld.entitlements_step hstep).trans (entitlements_run hb)
    exact hkept.hasEntitlement hentitled
  · intro x hx account publicationId hcharged
    obtain ⟨publication, hget, hkept, -, hmoney⟩ := hcharged.sale (h.step_of_mem hx)
    refine ⟨publication, hget, hkept, ?_, ?_, ?_⟩
    · have hsold := congrArg (fun m => m.entitlements.get (entitlementKey account publicationId))
        hmoney
      simp only [Money.sell, LookupMap.get_insert_self] at hsold
      exact hasEntitlement_iff.mpr (.inl hsold)
    · exact congrArg Money.platformBalance hmoney
    · exact congrArg Money.creatorBalances hmoney

end Ledger

namespace Vectors

def balances : Asset → Balances
  | .usdc => (LookupMap.empty.insert creatorId (10 ^ 6)).insert buyerId (10 ^ 7)
  | .near => .empty

/-- A paid job is published, its ticket is bought once and offered again, the creator withdraws, and
a stranger sends tokens. -/
def sales : List LedgerLabel :=
  [.transferCall (context testnetUsdc) creatorId 500000 "job",
   .market (.call (context "bridge.testnet") (.finalizeLivepeerPublication submission)),
   .transferCall (context testnetUsdc) buyerId 2000019 "ticket",
   .transferCall (context testnetUsdc) buyerId 2000019 "ticket",
   .market (.call (context creatorId) .withdrawCreatorBalance),
   .market (.land 0 true),
   .market (.callback (context creatorId) 0),
   .plainTransfer .usdc buyerId contractId 7]

end Vectors

theorem money_law_sales :
    ∃ w₀ tr w, LedgerInitial Vectors.host w₀ ∧ Trace (ledgerStep Vectors.host) w₀ tr w ∧
      (w.cash Vectors.host .usdc, w.held .usdc,
        hasEntitlement w.market.contract Vectors.buyerId "job-001") = (600007, 600000, true) ∧
      w.held .usdc + w.unresolved .usdc ≤ w.cash Vectors.host .usdc := by
  have hrun : (Vectors.run (LedgerWorld.exec Vectors.host)
      (fun c => ⟨⟨c, [], Vectors.issuedAtMs⟩, Vectors.balances⟩) Vectors.sales).map
        (fun x => (x.2.cash Vectors.host .usdc, x.2.held .usdc,
          hasEntitlement x.2.market.contract Vectors.buyerId "job-001")) =
      some (600007, 600000, true) := by decide +kernel
  obtain ⟨c, tr, w, hc, h, hcash⟩ := Vectors.trace_of_run hrun
  have hsupply : ∀ asset, (Vectors.balances asset).supply ≤ maxOf 128 := by
    intro asset
    cases asset <;> decide +kernel
  have h₀ : LedgerInitial Vectors.host ⟨⟨c, [], Vectors.issuedAtMs⟩, Vectors.balances⟩ :=
    ⟨⟨.new hc, rfl⟩, hsupply⟩
  exact ⟨_, tr, w, h₀, h, hcash, (money_law h₀ h).1⟩

end Youtick.NftTicket
