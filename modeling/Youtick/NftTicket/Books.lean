import Youtick.NftTicket.Ledger

/-!
# The V1 market: what one step does to the books

What the contract holds in an asset changes by what a callback restores, by the fee a call keeps and
by what it sends out. A pending withdrawal carries the callback that restores its own pot, so across
a step of the world the held and the unresolved amounts change together by the fee kept and the
withdrawal completed.
-/

set_option autoImplicit false

namespace Youtick.NftTicket

open Youtick.Lib
open Youtick.MarketV2 (AccountId Host PromiseResult Publication)

/-! ## Held amounts -/

namespace Money

variable (m : Money)

theorem held_setBalance (pot : Pot) (amount : Nat) (asset : Asset) :
    (m.setBalance amount pot).held asset + (if pot.asset = asset then m.balance pot else 0) =
      m.held asset + (if pot.asset = asset then amount else 0) := by
  cases pot with
  | creator creatorId =>
    cases asset with
    | usdc =>
      have htotal := LookupMap.total_insert m.creatorBalances creatorId amount
        fun _ amount => amount
      simp only [setBalance, held, Pot.asset, balance, if_true]
      simp only [Option.map_id'] at htotal
      omega
    | near => rfl
  | platform =>
    cases asset with
    | usdc =>
      simp only [setBalance, held, Pot.asset, balance, if_true]
      omega
    | near => rfl
  | platformNear =>
    cases asset with
    | usdc => rfl
    | near => exact Nat.add_comm _ _

theorem held_credit (pot : Pot) (amount : Nat) (asset : Asset) :
    (m.credit pot amount).held asset =
      m.held asset + (if pot.asset = asset then amount else 0) := by
  have h := m.held_setBalance pot (m.balance pot + amount) asset
  unfold credit
  split at h
  · next hasset =>
      simp only [hasset, if_true] at h ⊢
      omega
  · next hasset =>
      simp only [hasset, if_false] at h ⊢
      omega

/-- A sale credits its whole price. -/
theorem held_sell (buyer creatorId : AccountId) (publicationId : String) (amount : Nat)
    (asset : Asset) :
    (m.sell buyer creatorId publicationId amount).held asset =
      m.held asset + (if asset = .usdc then amount else 0) := by
  have hcreator := m.held_credit (.creator creatorId) (amount - amount / 20) asset
  have hplatform := (m.credit (.creator creatorId) (amount - amount / 20)).held_credit .platform
    (amount / 20) asset
  have hsame : (m.sell buyer creatorId publicationId amount).held asset =
      ((m.credit (.creator creatorId) (amount - amount / 20)).credit .platform
        (amount / 20)).held asset := by
    cases asset <;> rfl
  have hle : amount / 20 ≤ amount := Nat.div_le_self _ _
  rw [hsame, hplatform, hcreator]
  cases asset with
  | usdc =>
    simp only [Pot.asset, if_true]
    omega
  | near => simp [Pot.asset]

theorem balance_le_held (pot : Pot) : m.balance pot ≤ m.held pot.asset := by
  cases pot with
  | creator creatorId =>
    cases hget : m.creatorBalances.get creatorId with
    | none => simp [balance, hget]
    | some amount =>
      have hle := LookupMap.le_total (fun _ amount => amount) hget
      simp only [balance, hget, Option.getD_some, held, Pot.asset]
      omega
  | platform => exact Nat.le_add_right _ _
  | platformNear => exact Nat.le_refl _

end Money

/-! ## Receipts and their callbacks -/

/-- A receipt with a callback sends exactly what the callback restores. -/
def Promise.Matched (promise : Promise) : Prop :=
  ∀ callback, promise.callback = some callback →
    ∀ asset, promise.sends asset = if callback.pot.asset = asset then callback.amount else 0

theorem Pot.Payout.matched {pot : Pot} {amount : Nat} {promise : Promise} {callback : Callback}
    (h : pot.Payout amount promise callback) : promise.Matched := by
  intro callback' hcallback asset
  cases h with
  | creator | platform | platformNear =>
    cases hcallback
    cases asset <;> rfl

theorem Pot.Payout.sends {pot : Pot} {amount : Nat} {promise : Promise} {callback : Callback}
    (h : pot.Payout amount promise callback) (asset : Asset) :
    promise.sends asset = (if pot.asset = asset then amount else 0) ∧
      promise.withdraws asset = if pot.asset = asset then amount else 0 := by
  cases h with
  | creator | platform | platformNear => cases asset <;> exact ⟨rfl, rfl⟩

theorem Promise.sends_of_not_transfer {promise : Promise} (h : promise.isTransfer = false)
    (asset : Asset) : promise.sends asset = 0 ∧ promise.withdraws asset = 0 := by
  cases promise with
  | deployContract => exact ⟨rfl, rfl⟩
  | ftTransfer | transfer => cases h

theorem Promise.withdraws_of_callback {promise : Promise} (asset : Asset)
    (h : promise.callback = none) : promise.withdraws asset = 0 := by
  rw [Promise.withdraws, h]
  rfl

theorem Promise.withdraws_le (promise : Promise) (asset : Asset) :
    promise.withdraws asset ≤ promise.sends asset := by
  unfold Promise.withdraws
  split
  · exact Nat.le_refl _
  · exact Nat.zero_le _

/-! ## One call -/

/-- What a callback puts back. -/
def Call.restored (env : Env) (asset : Asset) : Call → Nat
  | .callback back =>
    if env.promiseResults = [PromiseResult.failed] ∧ back.pot.asset = asset then back.amount
    else 0
  | _ => 0

/-- The NEAR fee a call keeps. -/
def Call.fee (env : Env) (ps : List Promise) (asset : Asset) : Call → Nat
  | .createPaidJobNear .. => if asset = .near ∧ ps = [] then env.attachedDeposit else 0
  | _ => 0

section Calls

variable {env : Env} {s : Contract} {c : Call} {ps : List Promise} {m : Money}

theorem Call.restored_of_plain (env : Env) (ps : List Promise) (asset : Asset)
    (h : c.isPlain = true) :
    c.restored env asset = 0 ∧ c.fee env ps asset = 0 := by
  cases c with
  | callback | createPaidJobNear => cases h
  | _ => exact ⟨rfl, rfl⟩

theorem sum_sends_eq_zero (h : ∀ p ∈ ps, p.isTransfer = false) (asset : Asset) :
    (ps.map (Promise.sends asset)).sum = 0 ∧ (ps.map (Promise.withdraws asset)).sum = 0 := by
  constructor
  · refine List.sum_eq_zero fun n hn => ?_
    obtain ⟨p, hp, rfl⟩ := List.mem_map.mp hn
    exact (Promise.sends_of_not_transfer (h p hp) asset).1
  · refine List.sum_eq_zero fun n hn => ?_
    obtain ⟨p, hp, rfl⟩ := List.mem_map.mp hn
    exact (Promise.sends_of_not_transfer (h p hp) asset).2

/-- A call that takes no USDC moves what it withdraws out of what is held, and what it restores and
the fee it keeps into it. -/
theorem MoneyStep.books (h : MoneyStep env s c ps m) (hc : c.isDeposit = false) (asset : Asset) :
    m.held asset + (ps.map (Promise.withdraws asset)).sum =
      s.money.held asset + c.restored env asset + c.fee env ps asset := by
  cases h with
  | quiet hplain hps =>
    obtain ⟨hrestored, hfee⟩ := Call.restored_of_plain env ps asset hplain
    rw [(sum_sends_eq_zero hps asset).2, hrestored, hfee]
  | jobFee | sold => cases hc
  | nearFee =>
    rw [Money.held_credit]
    cases asset <;> simp [Call.restored, Call.fee, Pot.asset]
  | nearReplay =>
    cases asset <;> simp [Call.restored, Call.fee, Promise.withdraws, Promise.callback]
  | @withdrawn _ pot amount left promise callback hplain hleft hpayout =>
    obtain ⟨hrestored, hfee⟩ := Call.restored_of_plain env [promise] asset hplain
    have hheld := s.money.held_setBalance pot left asset
    have hsum : ([promise].map (Promise.withdraws asset)).sum = promise.withdraws asset := by
      simp
    rw [hsum, (hpayout.sends asset).2, hrestored, hfee]
    split
    · next hasset =>
        simp only [hasset, if_true] at hheld
        omega
    · next hasset =>
        simp only [hasset, if_false] at hheld
        omega
  | finished hresult => simp [Call.restored, Call.fee, hresult]
  | restored hresult =>
    rw [Money.held_credit]
    simp [Call.restored, Call.fee, hresult]

/-- Everything it sends out, refunded deposits included, was held, restored or attached. -/
theorem MoneyStep.sends_le (h : MoneyStep env s c ps m) (hc : c.isDeposit = false) (asset : Asset) :
    m.held asset + (ps.map (Promise.sends asset)).sum ≤
      s.money.held asset + c.restored env asset +
        (if asset = .near then env.attachedDeposit else 0) := by
  have hbooks := h.books hc asset
  cases h with
  | quiet hplain hps =>
    obtain ⟨hrestored, hfee⟩ := Call.restored_of_plain env ps asset hplain
    rw [(sum_sends_eq_zero hps asset).1]
    omega
  | jobFee | sold => cases hc
  | nearFee => cases asset <;> simp_all [Call.fee]
  | nearReplay =>
    cases asset <;> simp [Call.restored, Promise.sends, Promise.payment]
  | @withdrawn _ pot amount left promise callback hplain hleft hpayout =>
    obtain ⟨hrestored, hfee⟩ := Call.restored_of_plain env [promise] asset hplain
    obtain ⟨hsends, hwithdraws⟩ := hpayout.sends asset
    have hsum : ∀ f : Promise → Nat, ([promise].map f).sum = f promise := by simp
    rw [hsum] at hbooks ⊢
    omega
  | finished | restored =>
    simp only [List.map_nil, List.sum_nil, Call.fee] at hbooks ⊢
    omega

/-- Every receipt a call schedules is matched by its callback. -/
theorem MoneyStep.matched (h : MoneyStep env s c ps m) : ∀ p ∈ ps, p.Matched := by
  intro p hp
  cases h with
  | quiet _ hps =>
    intro callback hcallback
    have htransfer := hps p hp
    cases p with
    | deployContract => cases hcallback
    | ftTransfer | transfer => cases htransfer
  | jobFee | sold | nearFee | finished | restored => cases hp
  | nearReplay =>
    obtain rfl := List.mem_singleton.mp hp
    intro callback hcallback
    cases hcallback
  | withdrawn pot _ _ hpayout =>
    obtain rfl := List.mem_singleton.mp hp
    exact hpayout.matched

/-- An entitlement once given stays. -/
theorem MoneyStep.entitlements (h : MoneyStep env s c ps m) {key : String} {value : Bool}
    (hkey : s.entitlements.get key = some value) : m.entitlements.get key = some value := by
  cases h with
  | quiet | jobFee | nearFee | nearReplay | finished => exact hkey
  | withdrawn pot => cases pot <;> exact hkey
  | @restored callback => cases callback <;> exact hkey
  | @sold senderId msg publicationId amount publication hbuys hget hactive hprice hfresh =>
    by_cases hsame : key = entitlementKey senderId publicationId
    · rw [hsame, hfresh] at hkey
      cases hkey
    · exact (LookupMap.get_insert_of_ne _ _ hsame).trans hkey

end Calls

/-! ## One step of the world -/

section Steps

variable {host : Host} {w w' : World} {l : Label}

/-- Every receipt that is out restores what it sends. -/
def World.Matched (w : World) : Prop := ∀ p ∈ w.pending.items, p.Matched

theorem World.Matched.step (h : w.Matched) (hstep : worldStep host w l w') : w'.Matched := by
  intro p hp
  cases World.step_cases hstep with
  | @ran _ ctx c rest o hdelivery hrun =>
    rw [Outbox.items_send, List.mem_append] at hp
    rcases hp with hp | hp
    · exact h p (hdelivery.items_sublist.subset hp)
    · exact (Call.run_effect hrun).money.matched p hp
  | panicked hdelivery => exact h p (hdelivery.items_sublist.subset hp)
  | @landed i ok promise hget =>
    rw [Outbox.items_land hget] at hp
    exact h p hp
  | dropped hget =>
    obtain ⟨a, b, hitems, herase⟩ := Outbox.items_eraseIdx hget
    refine h p ?_
    rw [hitems]
    rw [herase] at hp
    exact List.mem_append.mpr ((List.mem_append.mp hp).imp_right (List.mem_cons_of_mem _))

/-- A quantity of the receipt that lands well. -/
def World.delivered (w : World) (f : Promise → Nat) : Label → Nat
  | .land i true => ((w.pending[i]?).map fun flight => f flight.item).getD 0
  | _ => 0

/-- The NEAR fee a label's call keeps. -/
def World.fee (host : Host) (w : World) (asset : Asset) : Label → Nat
  | .call ctx c =>
    match c.run ⟨host, ctx⟩ w.contract with
    | .ok o => c.fee ⟨host, ctx⟩ o.promises asset
    | .error _ => 0
  | _ => 0

/-- The deposit that stays with the contract when a label's call runs. -/
def World.attached (host : Host) (w : World) (asset : Asset) : Label → Nat
  | .call ctx c =>
    match c.run ⟨host, ctx⟩ w.contract with
    | .ok _ => if asset = .near then ctx.attachedDeposit else 0
    | .error _ => 0
  | _ => 0

/-- A quantity of receipts that is what a callback restores, and no more than what is sent. -/
structure Owing (asset : Asset) (f : Promise → Nat) : Prop where
  callback : ∀ promise callback, promise.Matched → promise.callback = some callback →
    f promise = if callback.pot.asset = asset then callback.amount else 0
  le_sends : ∀ promise, f promise ≤ promise.sends asset

theorem owing_sends (asset : Asset) : Owing asset (Promise.sends asset) where
  callback _ _ hmatched hcallback := hmatched _ hcallback asset
  le_sends _ := Nat.le_refl _

theorem owing_withdraws (asset : Asset) : Owing asset (Promise.withdraws asset) where
  callback promise callback hmatched hcallback := by
    rw [Promise.withdraws, hcallback, Option.isSome_some, if_pos rfl]
    exact hmatched _ hcallback asset
  le_sends promise := promise.withdraws_le asset

variable {asset : Asset} {f : Promise → Nat}

/-- A code upgrade's receipt owes nothing. -/
theorem Owing.eraseIdx_deploy (hf : Owing asset f) {i : Nat} {code : Bytes}
    (hget : w.pending[i]? = some ⟨.deployContract code, none⟩) :
    Outbox.owed f (w.pending.eraseIdx i) = w.pending.owed f := by
  have howed := Outbox.owed_eq_add_eraseIdx f hget
  have hzero : f (.deployContract code) = 0 := Nat.le_zero.mp (hf.le_sends _)
  have hflight : Outbox.flightOwed f ⟨.deployContract code, none⟩ = 0 := by
    simp [Outbox.flightOwed, hzero]
  omega

/-- What a call that ran puts back is what its receipt owed. -/
theorem Delivery.owed {ctx : Context} {c : Call} {rest : Outbox Promise} {o : Outcome Unit}
    (h : Delivery host w l ctx c rest) (hf : Owing asset f) (hmatched : w.Matched)
    (hrun : c.run ⟨host, ctx⟩ w.contract = .ok o) :
    rest.owed f + c.restored ⟨host, ctx⟩ asset = w.pending.owed f := by
  by_cases hc : ∃ callback, c = .callback callback
  · obtain ⟨callback, rfl⟩ := hc
    obtain ⟨i, promise, ok, hget, hcallback, rfl, hresults⟩ := h.callback_inv hrun
    have hamount := hf.callback promise callback (hmatched promise (Outbox.item_mem hget)) hcallback
    rw [Outbox.owed_eq_add_eraseIdx f hget]
    cases ok with
    | true => simp [Call.restored, hresults, promiseResult, Outbox.flightOwed]
    | false => simp [Call.restored, hresults, promiseResult, Outbox.flightOwed, hamount]
  · have hzero : c.restored ⟨host, ctx⟩ asset = 0 := by
      cases c with
      | callback callback => exact absurd ⟨callback, rfl⟩ hc
      | _ => rfl
    rw [hzero]
    cases h with
    | external => rfl
    | callback => exact absurd ⟨_, rfl⟩ hc
    | batch hget => exact hf.eraseIdx_deploy hget

/-- A call that panicked was no callback that owed anything. -/
theorem Delivery.owed_of_panic {ctx : Context} {c : Call} {rest : Outbox Promise} {e : String}
    (h : Delivery host w l ctx c rest) (hf : Owing asset f) (hmatched : w.Matched)
    (hfits : w.contract.money.held asset + w.pending.owed (Promise.sends asset) ≤ maxOf 128)
    (hrun : c.run ⟨host, ctx⟩ w.contract = .error e) : rest.owed f = w.pending.owed f := by
  cases h with
  | external => rfl
  | batch hget => exact hf.eraseIdx_deploy hget
  | @callback ctx i promise ok callback hget hcallback =>
    have hpromise := hmatched promise (Outbox.item_mem hget)
    have hamount := hf.callback promise callback hpromise hcallback
    have howed := Outbox.owed_eq_add_eraseIdx f hget
    suffices hzero : Outbox.flightOwed f ⟨promise, some ok⟩ = 0 by omega
    cases ok with
    | true => simp [Outbox.flightOwed]
    | false =>
      have hflight : Outbox.flightOwed f ⟨promise, some false⟩ = f promise := by
        simp [Outbox.flightOwed]
      by_cases hasset : callback.pot.asset = asset
      · -- The callback cannot have panicked: its amount fits next to its balance.
        subst hasset
        have hsent := hpromise callback hcallback callback.pot.asset
        have hle := Outbox.flightOwed_le (Promise.sends callback.pot.asset) hget
        have hsends : Outbox.flightOwed (Promise.sends callback.pot.asset)
            ⟨promise, some false⟩ = callback.amount := by
          simp [Outbox.flightOwed, hsent]
        have hbalance := w.contract.money.balance_le_held callback.pot
        obtain ⟨o, ho⟩ : ∃ o, runCallback ⟨host, ctx.own host [.failed]⟩ w.contract callback =
            .ok o := runCallback_total rfl rfl (by omega)
        have hok : Call.run ⟨host, ctx.own host [promiseResult false]⟩ w.contract
            (.callback callback) = .ok o.void :=
          bind_eq_ok.mpr ⟨⟨⟩, require_eq_ok.mpr (.inr rfl), bind_eq_ok.mpr ⟨o, ho, rfl⟩⟩
        rw [hok] at hrun
        cases hrun
      · rw [hflight, hamount, if_neg hasset]

/-- A landing takes what it delivers out of what is owed; a refund that fails is forgotten. -/
theorem WorldStep.owed_land (f : Promise → Nat) {i : Nat} {ok : Bool}
    (h : WorldStep host w (.land i ok) w') :
    w'.contract = w.contract ∧
      w'.pending.owed f + w.delivered f (.land i ok) ≤ w.pending.owed f ∧
      ((∀ promise : Promise, promise.callback = none → f promise = 0) →
        w'.pending.owed f + w.delivered f (.land i ok) = w.pending.owed f) := by
  cases h with
  | ran hdelivery | panicked hdelivery => cases hdelivery
  | @landed _ _ promise hget _ =>
    have howed := Outbox.owed_land f ok hget
    cases ok with
    | true =>
      have hdelivered : w.delivered f (.land i true) = f promise := by
        simp [World.delivered, hget]
      rw [hdelivered]
      exact ⟨rfl, howed.le, fun _ => howed⟩
    | false => exact ⟨rfl, howed.le, fun _ => howed⟩
  | @dropped _ _ promise hget htransfer hcallback =>
    have howed := Outbox.owed_eq_add_eraseIdx f hget
    have hflight : Outbox.flightOwed f ⟨promise, none⟩ = f promise := by
      simp [Outbox.flightOwed]
    have hdelivered : w.delivered f (.land i ok) ≤ f promise := by
      cases ok with
      | true => simp [World.delivered, hget]
      | false => exact Nat.zero_le _
    refine ⟨rfl, ?_, fun hnone => ?_⟩
    · simp only
      omega
    · have hzero := hnone promise hcallback
      simp only
      omega

/-- Calls deliver no receipt. -/
theorem Delivery.delivered {ctx : Context} {c : Call} {rest : Outbox Promise}
    (h : Delivery host w l ctx c rest) (f : Promise → Nat) : w.delivered f l = 0 := by
  cases h <;> rfl

/-- A call that ran was no deposit when no deposit runs. -/
theorem Delivery.not_deposit {ctx : Context} {c : Call} {rest : Outbox Promise} {o : Outcome Unit}
    (h : Delivery host w l ctx c rest) (hrun : c.run ⟨host, ctx⟩ w.contract = .ok o)
    (hdeposit : ∀ ctx c o, l = .call ctx c → c.isDeposit = true →
      c.run ⟨host, ctx⟩ w.contract ≠ .ok o) : c.isDeposit = false := by
  cases h with
  | external =>
    cases hc : c.isDeposit with
    | false => rfl
    | true => exact absurd hrun (hdeposit ctx c o rfl hc)
  | callback | batch => rfl

/-- Held and unresolved amounts change together by the fee kept and the withdrawal completed. -/
theorem World.Matched.books (hmatched : w.Matched) (h : worldStep host w l w')
    (hfits : w.contract.money.held asset + w.pending.owed (Promise.sends asset) ≤ maxOf 128)
    (hdeposit : ∀ ctx c o, l = .call ctx c → c.isDeposit = true →
      c.run ⟨host, ctx⟩ w.contract ≠ .ok o) :
    w'.contract.money.held asset + w'.pending.owed (Promise.withdraws asset) +
        w.delivered (Promise.withdraws asset) l =
      w.contract.money.held asset + w.pending.owed (Promise.withdraws asset) +
        w.fee host asset l := by
  cases World.step_cases h with
  | @ran _ ctx c rest o hdelivery hrun =>
    have howed := hdelivery.owed (owing_withdraws asset) hmatched hrun
    have hno := hdelivery.not_deposit hrun hdeposit
    have hbooks := (Call.run_effect hrun).money.books hno asset
    have hsend := Outbox.owed_send (Promise.withdraws asset) rest o.promises
    have hzero := hdelivery.delivered (Promise.withdraws asset)
    have hfee : w.fee host asset l = c.fee ⟨host, ctx⟩ o.promises asset := by
      cases hdelivery with
      | external => simp only [World.fee, hrun]
      | callback | batch => rfl
    rw [hzero, hfee]
    simp only
    omega
  | @panicked _ ctx c rest e hdelivery hrun =>
    have howed := hdelivery.owed_of_panic (owing_withdraws asset) hmatched hfits hrun
    have hzero := hdelivery.delivered (Promise.withdraws asset)
    have hfee : w.fee host asset l = 0 := by
      cases hdelivery with
      | external => simp only [World.fee, hrun]
      | callback | batch => rfl
    rw [hzero, hfee]
    simp only
    omega
  | landed | dropped =>
    obtain ⟨-, -, howed⟩ :=
      (World.step_cases h).owed_land (Promise.withdraws asset)
    have heq := howed fun promise => Promise.withdraws_of_callback asset
    simp only [World.fee] at heq ⊢
    omega

/-- Everything held or on its way stays covered by what was and by what was attached. -/
theorem World.Matched.covers (hmatched : w.Matched) (h : worldStep host w l w')
    (hfits : w.contract.money.held asset + w.pending.owed (Promise.sends asset) ≤ maxOf 128)
    (hdeposit : ∀ ctx c o, l = .call ctx c → c.isDeposit = true →
      c.run ⟨host, ctx⟩ w.contract ≠ .ok o) :
    w'.contract.money.held asset + w'.pending.owed (Promise.sends asset) +
        w.delivered (Promise.sends asset) l ≤
      w.contract.money.held asset + w.pending.owed (Promise.sends asset) +
        w.attached host asset l := by
  cases World.step_cases h with
  | @ran _ ctx c rest o hdelivery hrun =>
    have howed := hdelivery.owed (owing_sends asset) hmatched hrun
    have hno := hdelivery.not_deposit hrun hdeposit
    have hsends := (Call.run_effect hrun).money.sends_le hno asset
    have hsend := Outbox.owed_send (Promise.sends asset) rest o.promises
    have hzero := hdelivery.delivered (Promise.sends asset)
    have hattached : w.attached host asset l =
        if asset = .near then ctx.attachedDeposit else 0 := by
      cases hdelivery with
      | external => simp only [World.attached, hrun]
      | callback | batch => simp [World.attached, Context.own]
    rw [hzero, hattached]
    dsimp only at hsends ⊢
    omega
  | @panicked _ ctx c rest e hdelivery hrun =>
    have howed := hdelivery.owed_of_panic (owing_sends asset) hmatched hfits hrun
    have hzero := hdelivery.delivered (Promise.sends asset)
    rw [hzero]
    simp only
    omega
  | landed | dropped =>
    obtain ⟨-, hle, -⟩ := (World.step_cases h).owed_land (Promise.sends asset)
    simp only at hle ⊢
    omega

theorem hasEntitlement_iff {s : Contract} {account : AccountId} {publicationId : String} :
    hasEntitlement s account publicationId = true ↔
      s.entitlements.get (entitlementKey account publicationId) = some true ∨
        ∃ publication, s.publications.get publicationId = some publication ∧
          publication.creatorId = account := by
  rw [hasEntitlement, Bool.or_eq_true, Option.any_eq_true]
  refine or_congr ?_ ?_
  · cases s.entitlements.get (entitlementKey account publicationId) <;> simp
  · simp only [decide_eq_true_eq]

/-- What one state entitles to, the other does too. -/
structure EntitlementsKept (s s' : Contract) : Prop where
  bought : ∀ key value, s.entitlements.get key = some value → s'.entitlements.get key = some value
  creators : CreatorsKept s s'

theorem EntitlementsKept.refl (s : Contract) : EntitlementsKept s s :=
  ⟨fun _ _ h => h, .of_eq rfl⟩

theorem EntitlementsKept.trans {s s' t : Contract} (h : EntitlementsKept s s')
    (h' : EntitlementsKept s' t) : EntitlementsKept s t :=
  ⟨fun key value hkey => h'.bought key value (h.bought key value hkey), h.creators.trans h'.creators⟩

theorem EntitlementsKept.hasEntitlement {s s' : Contract} (h : EntitlementsKept s s')
    {account : AccountId} {publicationId : String}
    (hs : hasEntitlement s account publicationId = true) :
    NftTicket.hasEntitlement s' account publicationId = true := by
  rw [hasEntitlement_iff] at hs ⊢
  rcases hs with hbought | ⟨publication, hget, hcreator⟩
  · exact .inl (h.bought _ _ hbought)
  · obtain ⟨after, hafter, hsame⟩ := h.creators publicationId publication hget
    exact .inr ⟨after, hafter, hsame.trans hcreator⟩

/-- An entitlement outlives every step. -/
theorem World.entitlements_step (h : worldStep host w l w') :
    EntitlementsKept w.contract w'.contract := by
  cases World.step_cases h with
  | ran _ hrun =>
    have heffect := Call.run_effect hrun
    exact ⟨fun _ _ => heffect.money.entitlements, heffect.creators⟩
  | panicked | landed | dropped => exact .refl _

end Steps

end Youtick.NftTicket
