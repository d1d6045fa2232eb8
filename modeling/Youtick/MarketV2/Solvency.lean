import Youtick.MarketV2.Ledger

/-!
# Market V2 is USDC-solvent

Every step on the ledger is a few entries of an abstract custodian (`LedgerWorld.step_custody`), so
the law of custody holds in every reachable ledger world: the contract's USDC balance is exactly its
recorded liabilities, its unresolved transfers and what plain transfers brought in.

The equality needs that no callback of a failed transfer panics, because it is the callback that
books the amount back. It cannot: the amount is part of a balance that fits 128 bits.
-/

set_option autoImplicit false

namespace Youtick.MarketV2

open Youtick.Lib

/-! ## Callbacks of failed transfers succeed -/

section Callbacks

variable {env : Env} {s : Contract}

/-- The callback of a failed transfer runs when its amount fits next to the liabilities. -/
theorem runCallback_total {callback : Callback}
    (hsettles : (Call.callback callback).settlesUsdc = true)
    (hown : env.predecessorAccountId = env.currentAccountId)
    (hfailed : env.promiseResults = [.failed])
    (hticket : ∀ k receiverId amount restoreStatus,
      callback = .onTicketRefund k receiverId amount restoreStatus →
        ∃ ticket, s.tickets.get k = some ticket)
    (hfits : s.toTill.liabilities + callback.usdc ≤ maxOf 128) :
    ∃ o, runCallback env s callback = .ok o := by
  have hprivate : ∀ method, assertPrivate env method = .ok ⟨⟩ := fun _ => assertPrivate_ok.mpr hown
  have hresult : ∀ message, callbackResult env message = .ok .failed := by
    simp [callbackResult, hfailed]
  have hadd : ∀ {a amount : Nat} (message : String), a ≤ s.toTill.liabilities →
      amount = callback.usdc → checkedAdd 128 a amount message = .ok (a + amount) := by
    intro a amount message ha hamount
    rw [checkedAdd, if_pos (by omega)]
  cases callback with
  | onTicketRefund k receiverId amount restoreStatus =>
    obtain ⟨ticket, hget⟩ := hticket k receiverId amount restoreStatus rfl
    exact ⟨_, bind_eq_ok.mpr ⟨_, hprivate _, bind_eq_ok.mpr ⟨_, hresult _, bind_eq_ok.mpr
      ⟨ticket, expect_eq_ok.mpr hget, bind_eq_ok.mpr
        ⟨_, hadd _ s.toTill.escrow_le_liabilities rfl, rfl⟩⟩⟩⟩⟩
  | onCreatorWithdraw creatorId amount withdrawalId =>
    have hle := s.toTill.balance_le_liabilities (.creator creatorId)
    exact ⟨_, bind_eq_ok.mpr ⟨_, hprivate _, bind_eq_ok.mpr ⟨_, hresult _, bind_eq_ok.mpr
      ⟨_, hadd _ hle rfl, rfl⟩⟩⟩⟩
  | onPlatformWithdraw amount =>
    have hle := s.toTill.balance_le_liabilities .platform
    exact ⟨_, bind_eq_ok.mpr ⟨_, hprivate _, bind_eq_ok.mpr ⟨_, hresult _, bind_eq_ok.mpr
      ⟨_, hadd _ hle rfl, rfl⟩⟩⟩⟩
  | onTaxWithdraw amount =>
    have hle := s.toTill.balance_le_liabilities .tax
    exact ⟨_, bind_eq_ok.mpr ⟨_, hprivate _, bind_eq_ok.mpr ⟨_, hresult _, bind_eq_ok.mpr
      ⟨_, hadd _ hle rfl, rfl⟩⟩⟩⟩
  | onPlatformNearWithdraw => cases hsettles

end Callbacks

/-! ## Steps of the contract's world -/

section World

variable {host : Host} {w w' : World} {l : Label}

/-- What a label delivers in USDC: the amount of a transfer that lands. -/
def World.delivered (w : World) : Label → Nat
  | .land i true => ((w.pending[i]?).map fun x => x.item.usdc).getD 0
  | _ => 0

/-- What a call that ran puts back is what its receipt owed. -/
theorem Delivery.owed {ctx : Context} {c : Call} {rest : Outbox Promise} {o : Outcome Unit}
    (h : Delivery host w l ctx c rest) (hsound : w.Sound)
    (hrun : c.run ⟨host, ctx⟩ w.contract = .ok o) :
    rest.owed Promise.usdc + c.restored ⟨host, ctx⟩ = w.pending.owed Promise.usdc := by
  by_cases hc : ∃ callback, c = .callback callback
  · obtain ⟨callback, rfl⟩ := hc
    obtain ⟨i, promise, ok, hget, hcallback, rfl, hresults⟩ := h.callback_inv hrun
    have husdc := (hsound.matched promise (Outbox.item_mem hget)).usdc_eq hcallback
    rw [Outbox.owed_eq_add_eraseIdx Promise.usdc hget]
    cases ok with
    | true => simp [Call.restored, hresults, promiseResult, Outbox.flightOwed]
    | false => simp [Call.restored, hresults, promiseResult, Outbox.flightOwed, husdc]
  · have hzero : c.restored ⟨host, ctx⟩ = 0 := by
      cases c with
      | callback callback => exact absurd ⟨callback, rfl⟩ hc
      | _ => rfl
    rw [hzero]
    cases h with
    | external => rfl
    | callback => exact absurd ⟨_, rfl⟩ hc
    | batch hget => exact (Outbox.owed_eq_add_eraseIdx Promise.usdc hget).symm

/-- A call that panicked was no callback that owed anything. -/
theorem Delivery.owed_of_panic {ctx : Context} {c : Call} {rest : Outbox Promise} {e : String}
    (h : Delivery host w l ctx c rest) (hsound : w.Sound)
    (hfits : w.contract.toTill.liabilities + w.pending.owed Promise.usdc ≤ maxOf 128)
    (hrun : c.run ⟨host, ctx⟩ w.contract = .error e) :
    rest.owed Promise.usdc = w.pending.owed Promise.usdc := by
  cases h with
  | external => rfl
  | batch hget => exact (Outbox.owed_eq_add_eraseIdx Promise.usdc hget).symm
  | @callback ctx i promise ok callback hget hcallback =>
    have hmem := Outbox.item_mem hget
    have husdc := (hsound.matched promise hmem).usdc_eq hcallback
    have howed := Outbox.owed_eq_add_eraseIdx Promise.usdc hget
    have hle := Outbox.flightOwed_le Promise.usdc hget
    suffices hzero : Outbox.flightOwed Promise.usdc ⟨promise, some ok⟩ = 0 by omega
    cases ok with
    | true => simp [Outbox.flightOwed]
    | false =>
      have hflight : Outbox.flightOwed Promise.usdc ⟨promise, some false⟩ = callback.usdc := by
        simp [Outbox.flightOwed, husdc]
      cases hsettles : (Call.callback callback).settlesUsdc with
      | false =>
        rw [hflight]
        cases callback with
        | onPlatformNearWithdraw => rfl
        | onTicketRefund | onCreatorWithdraw | onPlatformWithdraw | onTaxWithdraw =>
          cases hsettles
      | true =>
        -- The callback cannot have panicked: its ticket exists and its amount fits.
        have hticket : ∀ k receiverId amount restoreStatus,
            callback = .onTicketRefund k receiverId amount restoreStatus →
              ∃ ticket, w.contract.tickets.get k = some ticket := by
          rintro k receiverId amount restoreStatus rfl
          obtain ⟨ticket, hticket, -⟩ := hsound.books.refunds promise hmem k amount
            restoreStatus (by rw [Promise.refund, hcallback])
          exact ⟨ticket, hticket⟩
        obtain ⟨o, ho⟩ : ∃ o, runCallback ⟨host, ctx.own host [.failed]⟩ w.contract callback =
            .ok o := runCallback_total hsettles rfl rfl hticket (by omega)
        have hok : Call.run ⟨host, ctx.own host [promiseResult false]⟩ w.contract
            (.callback callback) = .ok o.void :=
          bind_eq_ok.mpr ⟨⟨⟩, require_eq_ok.mpr (.inr rfl), bind_eq_ok.mpr ⟨o, ho, rfl⟩⟩
        rw [hok] at hrun
        cases hrun

/-- A step moves what failed back to the liabilities, sends some of them, and delivers what
landed. -/
theorem World.Sound.settles (hsound : w.Sound) (h : worldStep host w l w')
    (hfits : w.contract.toTill.liabilities + w.pending.owed Promise.usdc ≤ maxOf 128)
    (hdeposit : ∀ ctx c o, l = .call ctx c → c.isDeposit = true →
      c.run ⟨host, ctx⟩ w.contract ≠ .ok o) :
    ∃ restored sent owed,
      w'.contract.toTill.liabilities + sent = w.contract.toTill.liabilities + restored ∧
      owed + restored = w.pending.owed Promise.usdc ∧
      w'.pending.owed Promise.usdc + w.delivered l = owed + sent := by
  cases World.step_cases h with
  | @ran _ ctx c rest o hdelivery _ hrun =>
    have hno : c.isDeposit = false := by
      cases hdelivery with
      | external =>
        cases hc : c.isDeposit with
        | false => rfl
        | true => exact absurd hrun (hdeposit ctx c o rfl hc)
      | callback | batch => rfl
    have hzero : w.delivered l = 0 := by cases hdelivery <;> rfl
    refine ⟨c.restored ⟨host, ctx⟩, usdcSent o.promises, rest.owed Promise.usdc, ?_,
      hdelivery.owed hsound hrun, ?_⟩
    · exact (hsound.books.sublist hdelivery.items_sublist).effect_liabilities
        (hdelivery.delivered hrun hsound.books)
        ((Call.run_effect hrun).till hsound.books.keyed) hno
    · rw [hzero]
      exact Outbox.owed_send Promise.usdc rest o.promises
  | panicked hdelivery _ hrun =>
    have hzero : w.delivered l = 0 := by cases hdelivery <;> rfl
    refine ⟨0, 0, w.pending.owed Promise.usdc, rfl, rfl, ?_⟩
    rw [hzero]
    exact hdelivery.owed_of_panic hsound hfits hrun
  | @landed i ok promise hget _ =>
    refine ⟨0, 0, w.pending.owed Promise.usdc, rfl, rfl, ?_⟩
    have howed := Outbox.owed_land Promise.usdc ok hget
    cases ok with
    | true => simpa [World.delivered, hget] using howed
    | false => simpa [World.delivered] using howed
  | @dropped i ok promise hget htransfer hcallback =>
    refine ⟨0, 0, w.pending.owed Promise.usdc, rfl, rfl, ?_⟩
    have husdc : promise.usdc = 0 := by
      cases promise with
      | ftTransfer => cases hcallback
      | transfer | deployContract => rfl
    have howed := Outbox.owed_eq_add_eraseIdx Promise.usdc hget
    have hflight : Outbox.flightOwed Promise.usdc ⟨promise, none⟩ = 0 := by
      simp [Outbox.flightOwed, husdc]
    have hzero : w.delivered (.land i ok) = 0 := by
      cases ok with
      | true => simp [World.delivered, hget, husdc]
      | false => rfl
    simp only
    omega

end World

/-! ## Steps of the ledger -/

section Ledger

variable {host : Host} {w w' : LedgerWorld} {l : LedgerLabel}

/-- The contract's position as an abstract custodian's. -/
def LedgerWorld.custody (host : Host) (w : LedgerWorld) (gifts paidIn paidOut : Nat) : Custody where
  cash := w.cash host
  held := w.liabilities
  owed := w.unresolved
  gifts := gifts
  paidIn := paidIn
  paidOut := paidOut

structure LedgerWorld.Sound (w : LedgerWorld) : Prop where
  market : w.market.Sound
  supply : w.balances.supply ≤ maxOf 128

theorem usdcContractId_eq {env : Env} {usdc : AccountId} (h : usdcContractId env = .ok usdc) :
    usdc = tokenAccount env.toHost := by
  unfold usdcContractId at h
  rcases ite_eq_ok.mp h with ⟨htestnet, h⟩ | ⟨hnot, h⟩
  · rw [tokenAccount, if_pos htestnet]
    exact (ok_eq_ok.mp h).symm
  · rcases ite_eq_ok.mp h with ⟨-, h⟩ | ⟨-, h⟩
    · rw [tokenAccount, if_neg hnot]
      exact (ok_eq_ok.mp h).symm
    · exact (error_eq_ok.mp h).elim

/-- Nobody but the token contract makes a deposit. -/
theorem deposit_by_token {ctx : Context} {c : Call} {s : Contract} {o : Outcome Unit}
    (hc : c.isDeposit = true) (h : c.run ⟨host, ctx⟩ s = .ok o) :
    ctx.predecessorAccountId = tokenAccount host := by
  obtain ⟨-, -, hbody⟩ := bind_eq_ok.mp h
  cases c with
  | ftOnTransfer senderId amount msg =>
    obtain ⟨o', ho', -⟩ := bind_eq_ok.mp hbody
    obtain ⟨⟨usdc, husdc, hcaller⟩, -⟩ := ftOnTransfer_ok ho'
    exact hcaller.trans (usdcContractId_eq husdc)
  | _ => cases hc

/-- Sending an amount and getting part of it back. -/
theorem Balances.of_move_back {b : Balances} {sender receiver : AccountId} {amount back : Nat}
    (hne : sender ≠ receiver) (hamount : amount ≤ b.of sender) (hback : back ≤ amount) :
    ((b.move sender receiver amount).move receiver sender back).of receiver =
        b.of receiver + amount - back ∧
      ((b.move sender receiver amount).move receiver sender back).supply = b.supply := by
  have hcredit : (b.move sender receiver amount).of receiver = b.of receiver + amount :=
    Balances.of_move_receiver hne
  constructor
  · rw [Balances.of_move_sender (Ne.symm hne), hcredit]
  · rw [Balances.supply_move (by omega), Balances.supply_move hamount]

theorem givenBack_le (host : Host) (ctx : Context) (s : Contract) (senderId : AccountId)
    (amount : Nat) (msg : String) : givenBack host ctx s senderId amount msg ≤ amount := by
  unfold givenBack
  split
  · exact Nat.min_le_right _ _
  · exact Nat.le_refl _

/-- The token contract's call adds what it does not give back to the liabilities. -/
theorem World.receive_deposit (w : World) (host : Host) (ctx : Context) (senderId : AccountId)
    (amount : Nat) (msg : String) :
    let w' := w.receive host (ctx.fromToken host) (.ftOnTransfer senderId amount msg) w.pending
    w'.contract.toTill.liabilities + givenBack host ctx w.contract senderId amount msg =
        w.contract.toTill.liabilities + amount ∧
      w'.pending.owed Promise.usdc = w.pending.owed Promise.usdc := by
  intro w'
  rcases w.receive_transfer host ctx senderId amount msg with
    ⟨hback, hcontract, hpending⟩ | ⟨o, hrun, hback, hcontract, hpending⟩
  · rw [hback, hcontract, hpending]
    exact ⟨rfl, rfl⟩
  · rw [hback, hcontract, hpending]
    exact ⟨(ftOnTransfer_ok hrun).2.liabilities.2.2, rfl⟩

/-- A transfer call adds what it keeps to the cash and to the liabilities. -/
theorem LedgerWorld.transferCall_step {ctx : Context} {senderId : AccountId} {amount : Nat}
    {msg : String} (h : ledgerStep host w (.transferCall ctx senderId amount msg) w') :
    worldStep host w.market (.call (ctx.fromToken host) (.ftOnTransfer senderId amount msg))
        w'.market ∧
      w'.balances.supply = w.balances.supply ∧ w'.unresolved = w.unresolved ∧
      ∃ kept, w'.cash host = w.cash host + kept ∧ w'.liabilities = w.liabilities + kept := by
  simp only [ledgerStep, ExecStep, LedgerWorld.exec, Option.ite_none_right_eq_some,
    Option.map_eq_some_iff] at h
  obtain ⟨⟨hsender, hamount⟩, market, hmarket, rfl⟩ := h
  have hback := givenBack_le host ctx w.market.contract senderId amount msg
  obtain ⟨hcash, hsupply⟩ := Balances.of_move_back hsender hamount hback
  have hreceive := w.market.receive_deposit host ctx senderId amount msg
  refine ⟨hmarket, hsupply, ?_⟩
  simp only [World.exec, Option.ite_none_right_eq_some, Option.some.injEq] at hmarket
  obtain ⟨-, rfl⟩ := hmarket
  refine ⟨hreceive.2, amount - givenBack host ctx w.market.contract senderId amount msg, ?_, ?_⟩
  · simp only [LedgerWorld.cash, hcash]
    omega
  · have hliabilities := hreceive.1
    simp only [LedgerWorld.liabilities]
    omega

/-- A step of the contract's world on the ledger. -/
theorem LedgerWorld.market_step {label : Label} (h : ledgerStep host w (.market label) w') :
    ¬ label.IsTokenCall host ∧ worldStep host w.market label w'.market ∧
      w.settle host label = some w'.balances := by
  simp only [ledgerStep, ExecStep, LedgerWorld.exec, Option.ite_none_left_eq_some] at h
  obtain ⟨htoken, h⟩ := h
  split at h
  · next market balances hmarket hbalances =>
      cases h
      exact ⟨htoken, hmarket, hbalances⟩
  · cases h

/-- Settling takes a delivered amount out of the cash; what the contract sent to itself comes
back. -/
theorem LedgerWorld.settle_cash (w' : LedgerWorld) {label : Label} {balances : Balances}
    (h : w.settle host label = some balances) :
    balances.supply = w.balances.supply ∧ w.market.delivered label ≤ w.cash host ∧
      balances.of host.currentAccountId + w.market.delivered label =
        w.cash host + plainIn host ⟨w, .market label, w'⟩ := by
  cases label with
  | land i ok =>
    cases ok with
    | true =>
      cases hget : w.market.pending[i]? with
      | none =>
        simp only [LedgerWorld.settle, hget, Option.some.injEq] at h
        subst h
        simp [World.delivered, plainIn, hget, LedgerWorld.cash]
      | some flight =>
        obtain ⟨promise, result⟩ := flight
        cases promise with
        | ftTransfer receiverId amount memo callback =>
          simp only [LedgerWorld.settle, hget, Option.ite_none_right_eq_some,
            Option.some.injEq] at h
          obtain ⟨hle, rfl⟩ := h
          have hdelivered : w.market.delivered (.land i true) = amount := by
            simp [World.delivered, hget, Promise.usdc]
          refine ⟨Balances.supply_move hle, hdelivered ▸ hle, ?_⟩
          by_cases hself : receiverId = host.currentAccountId
          · simp only [hdelivered, plainIn, hget, hself, if_true, LedgerWorld.cash,
              Balances.of_move_self hle]
          · simp only [hdelivered, plainIn, hget, hself, if_false, LedgerWorld.cash,
              Balances.of_move_sender (Ne.symm hself)]
            omega
        | transfer | deployContract =>
          simp only [LedgerWorld.settle, hget, Option.some.injEq] at h
          subst h
          simp [World.delivered, plainIn, hget, Promise.usdc, LedgerWorld.cash]
    | false =>
      cases h
      exact ⟨rfl, Nat.zero_le _, rfl⟩
  | call | callback | batch =>
    cases h
    exact ⟨rfl, Nat.zero_le _, rfl⟩

theorem LedgerInitial.sound (h : LedgerInitial host w) : w.Sound := ⟨h.market.sound, h.supply⟩

theorem LedgerWorld.Sound.step (hsound : w.Sound) (h : ledgerStep host w l w') : w'.Sound := by
  cases l with
  | transferCall =>
    obtain ⟨hmarket, hsupply, -⟩ := LedgerWorld.transferCall_step h
    exact ⟨hsound.market.step hmarket, hsupply ▸ hsound.supply⟩
  | plainTransfer =>
    simp only [ledgerStep, ExecStep, LedgerWorld.exec, Option.ite_none_right_eq_some,
      Option.some.injEq] at h
    obtain ⟨⟨-, hamount⟩, rfl⟩ := h
    exact ⟨hsound.market, (Balances.supply_move hamount).symm ▸ hsound.supply⟩
  | market =>
    obtain ⟨-, hmarket, hsettle⟩ := LedgerWorld.market_step h
    have hsupply := (LedgerWorld.settle_cash w' hsettle).1
    exact ⟨hsound.market.step hmarket, hsupply ▸ hsound.supply⟩

/-- Every step of the ledger is a run of the abstract custodian. -/
theorem LedgerWorld.step_custody (hsound : w.Sound)
    (hfits : w.liabilities + w.unresolved ≤ maxOf 128) (h : ledgerStep host w l w')
    (gifts paid out : Nat) :
    Custody.Run (w.custody host gifts paid out)
      (w'.custody host (gifts + plainIn host ⟨w, l, w'⟩) (paid + keptIn host ⟨w, l, w'⟩)
        (out + paidOut ⟨w, l, w'⟩)) := by
  cases l with
  | transferCall ctx senderId amount msg =>
    obtain ⟨-, -, howed, kept, hcash, hliabilities⟩ := LedgerWorld.transferCall_step h
    simp only [LedgerWorld.custody, plainIn, keptIn, paidOut, howed, hcash, hliabilities,
      Nat.add_sub_cancel_left, Nat.add_zero]
    exact .single (.deposit kept)
  | plainTransfer senderId receiverId amount =>
    simp only [ledgerStep, ExecStep, LedgerWorld.exec, Option.ite_none_right_eq_some,
      Option.some.injEq] at h
    obtain ⟨⟨hsender, -⟩, rfl⟩ := h
    by_cases hto : receiverId = host.currentAccountId
    · subst hto
      simp only [LedgerWorld.custody, LedgerWorld.cash, LedgerWorld.liabilities,
        LedgerWorld.unresolved, plainIn, keptIn, paidOut, Balances.of_move_receiver hsender,
        if_true, Nat.add_zero]
      exact .single (.gift amount)
    · simp only [LedgerWorld.custody, LedgerWorld.cash, LedgerWorld.liabilities,
        LedgerWorld.unresolved, plainIn, keptIn, paidOut, hto, if_false, Nat.add_zero,
        Balances.of_move_other (Ne.symm hsender) (Ne.symm hto)]
      exact .refl
  | market label =>
    obtain ⟨htoken, hmarket, hsettle⟩ := LedgerWorld.market_step h
    obtain ⟨-, hle, hcash⟩ := LedgerWorld.settle_cash w' hsettle
    obtain ⟨restored, sent, owed, hheld, hrestored, howed⟩ :=
      hsound.market.settles hmarket hfits fun ctx c o hl hc hrun =>
        htoken (hl ▸ ⟨hc, deposit_by_token hc hrun⟩)
    have hout : paidOut ⟨w, .market label, w'⟩ = w.market.delivered label := by
      cases label with
      | land i ok => cases ok <;> rfl
      | call | callback | batch => rfl
    simp only [LedgerWorld.custody, keptIn, hout, Nat.add_zero]
    -- Book back what failed, send, deliver, and count what went to the contract itself.
    refine .trans (.single (.restore restored hrestored)) ?_
    refine .trans (.single (.send sent hheld)) ?_
    refine .trans (.single (.deliver (w.market.delivered label)
      (Nat.sub_add_cancel hle) howed)) ?_
    have hcash' : w'.cash host = w.cash host - w.market.delivered label +
        plainIn host ⟨w, .market label, w'⟩ := by
      simp only [LedgerWorld.cash] at hcash hle ⊢
      omega
    rw [hcash']
    exact .single (.gift _)

/-! ## Every reachable ledger world -/

/-- The entries of a whole run. -/
def totalOf (f : Transition LedgerWorld LedgerLabel → Nat)
    (tr : List (Transition LedgerWorld LedgerLabel)) : Nat := (tr.map f).sum

theorem LedgerInitial.custody (h : LedgerInitial host w) :
    w.custody host (w.cash host) 0 0 = Custody.start (w.cash host) := by
  have hfresh := h.market.fresh
  have hliabilities : w.liabilities = 0 := by
    simp [LedgerWorld.liabilities, Till.liabilities, hfresh.1.escrowBalance, hfresh.1.taxBalance,
      hfresh.1.platformBalance, hfresh.1.creatorBalances]
  have howed : w.unresolved = 0 := by simp [LedgerWorld.unresolved, hfresh.2, Outbox.owed]
  simp only [LedgerWorld.custody, Custody.start, hliabilities, howed]

/-- A run of the ledger is a run of the abstract custodian, and keeps the ledger sound. -/
theorem ledger_refines_custody {w₀ : LedgerWorld} {tr : List (Transition LedgerWorld LedgerLabel)}
    (h₀ : LedgerInitial host w₀) (h : Trace (ledgerStep host) w₀ tr w) :
    w.Sound ∧ Custody.Run (Custody.start (w₀.cash host))
      (w.custody host (w₀.cash host + totalOf (plainIn host) tr) (totalOf (keptIn host) tr)
        (totalOf paidOut tr)) := by
  induction h with
  | nil => exact ⟨h₀.sound, h₀.custody ▸ .refl⟩
  | @snoc tr s l t _ hstep ih =>
    obtain ⟨hsound, hrun⟩ := ih
    have hbalanced := (Custody.balanced_start _).run hrun
    have hfits : s.liabilities + s.unresolved ≤ maxOf 128 :=
      hbalanced.covers.trans ((Balances.le_supply _ _).trans hsound.supply)
    refine ⟨hsound.step hstep, hrun.trans ?_⟩
    simp only [totalOf, List.map_append, List.map_cons, List.map_nil, List.sum_append,
      List.sum_cons, List.sum_nil, Nat.add_zero, ← Nat.add_assoc]
    exact LedgerWorld.step_custody hsound hfits hstep _ _ _

/-- The contract's USDC balance covers its liabilities and its unresolved transfers, exactly when
there were no plain transfers; it never pays out more than was paid in; and every recorded balance
and every transfer that is out can be paid from it. -/
theorem usdc_solvent {w₀ : LedgerWorld} {tr : List (Transition LedgerWorld LedgerLabel)}
    (h₀ : LedgerInitial host w₀) (h : Trace (ledgerStep host) w₀ tr w) :
    w.liabilities + w.unresolved ≤ w.cash host ∧
    w.cash host = w.liabilities + w.unresolved + (w₀.cash host + totalOf (plainIn host) tr) ∧
    totalOf (keptIn host) tr = w.liabilities + w.unresolved + totalOf paidOut tr ∧
    (∀ pot, w.market.contract.toTill.balance pot ≤ w.cash host) ∧
    w.market.contract.escrowBalance ≤ w.cash host ∧
    ∀ (i : ℕ) (promise : Promise) (result : Option Bool),
      w.market.pending[i]? = some ⟨promise, result⟩ → result ≠ some true →
      promise.usdc ≤ w.cash host := by
  obtain ⟨-, hrun⟩ := ledger_refines_custody h₀ h
  have hbalanced := (Custody.balanced_start _).run hrun
  have hcovers : w.liabilities + w.unresolved ≤ w.cash host := hbalanced.covers
  refine ⟨hcovers, hbalanced.cash, hbalanced.paidIn, ?_, ?_, ?_⟩
  · intro pot
    have := w.market.contract.toTill.balance_le_liabilities pot
    simp only [LedgerWorld.liabilities] at hcovers
    omega
  · have := w.market.contract.toTill.escrow_le_liabilities
    simp only [LedgerWorld.liabilities] at hcovers
    omega
  · intro i promise result hget hresult
    have hflight : promise.usdc ≤ w.unresolved := by
      have := Outbox.flightOwed_le Promise.usdc hget
      rwa [Outbox.flightOwed, if_neg hresult] at this
    omega

end Ledger

/-- The creator pays for an upload, and a stranger sends tokens. -/
def Vectors.deposits : List LedgerLabel :=
  [.transferCall (context testnetUsdc issuedAtMs) creatorId 500000 "job",
   .plainTransfer buyerId contractId 7]

def Vectors.balances : Balances :=
  (LookupMap.empty.insert creatorId (10 ^ 6)).insert buyerId (10 ^ 7)

theorem usdc_solvent_deposits :
    ∃ w₀ tr w, LedgerInitial Vectors.host w₀ ∧ Trace (ledgerStep Vectors.host) w₀ tr w ∧
      w.cash Vectors.host = 500007 ∧ w.liabilities + w.unresolved ≤ w.cash Vectors.host := by
  have hrun : (Vectors.run Vectors.host (LedgerWorld.exec Vectors.host)
      (fun c => ⟨⟨c, [], Vectors.issuedAtMs⟩, Vectors.balances⟩) Vectors.deposits).map
        (·.2.cash Vectors.host) = some 500007 := by decide +kernel
  obtain ⟨c, tr, w, hc, h, hcash⟩ := Vectors.trace_of_run hrun
  have h₀ : LedgerInitial Vectors.host ⟨⟨c, [], Vectors.issuedAtMs⟩, Vectors.balances⟩ :=
    ⟨.new rfl hc, show Vectors.balances.supply ≤ maxOf 128 by decide +kernel⟩
  exact ⟨_, tr, w, h₀, h, hcash, (usdc_solvent h₀ h).1⟩

end Youtick.MarketV2
