import Youtick.MarketV2.Books

/-!
# Market V2: USDC liabilities

The sum of what the contract owes in USDC, and what each call does to it: apart from an incoming
payment, a call only moves amounts between the balances and the transfers it schedules, and a
callback puts back the amount of a failed transfer. Every receipt carries the amount of its callback,
which with the books is what makes a world `Sound`. An incoming payment is kept whole or returned
whole (`ftOnTransfer_atomic`).
-/

set_option autoImplicit false

namespace Youtick.MarketV2

open Youtick.Lib

/-! ## The sum -/

/-- Everything the contract owes in USDC and has not sent. -/
def Till.liabilities (t : Till) : Nat :=
  t.escrowBalance + t.taxBalance + t.platformBalance + t.creatorBalances.total fun _ amount => amount

section Till

variable (t : Till)

theorem Till.balance_le_liabilities (pot : Pot) : t.balance pot ≤ t.liabilities := by
  cases pot with
  | creator creatorId =>
    have hle : (t.creatorBalances.get creatorId).getD 0 ≤
        t.creatorBalances.total fun _ amount => amount := by
      cases h : t.creatorBalances.get creatorId with
      | none => exact Nat.zero_le _
      | some amount => exact LookupMap.le_total (fun _ amount => amount) h
    simp only [Till.balance, Till.liabilities]
    omega
  | platform =>
    simp only [Till.balance, Till.liabilities]
    omega
  | tax =>
    simp only [Till.balance, Till.liabilities]
    omega

theorem Till.escrow_le_liabilities : t.escrowBalance ≤ t.liabilities := by
  simp only [Till.liabilities]
  omega

/-- Setting a pot exchanges its old amount for the new one. -/
theorem Till.liabilities_setBalance (pot : Pot) (amount : Nat) :
    (t.setBalance amount pot).liabilities + t.balance pot = t.liabilities + amount := by
  cases pot with
  | creator creatorId =>
    have htotal := t.creatorBalances.total_insert creatorId amount fun _ amount => amount
    simp only [Option.map_id'] at htotal
    simp only [Till.setBalance, Till.balance, Till.liabilities]
    omega
  | platform =>
    simp only [Till.setBalance, Till.balance, Till.liabilities]
    omega
  | tax =>
    simp only [Till.setBalance, Till.balance, Till.liabilities]
    omega

theorem Till.liabilities_credit (pot : Pot) (amount : Nat) :
    (t.credit pot amount).liabilities = t.liabilities + amount := by
  have := t.liabilities_setBalance pot (t.balance pot + amount)
  simp only [Till.credit]
  omega

end Till

/-! ## Transfers and callbacks by amount -/

/-- The USDC a receipt sends. -/
def Promise.usdc : Promise → Nat
  | .ftTransfer _ amount _ _ => amount
  | _ => 0

/-- The USDC a callback puts back when its transfer failed. -/
def Callback.usdc : Callback → Nat
  | .onTicketRefund _ _ amount _ => amount
  | .onCreatorWithdraw _ amount _ => amount
  | .onPlatformWithdraw amount => amount
  | .onTaxWithdraw amount => amount
  | .onPlatformNearWithdraw _ => 0

/-- The USDC a call puts back: the amount of a failed transfer, in its callback. -/
def Call.restored (env : Env) : Call → Nat
  | .callback cb => if env.promiseResults = [.failed] then cb.usdc else 0
  | _ => 0

/-- An incoming payment. -/
def Call.isDeposit : Call → Bool
  | .ftOnTransfer .. => true
  | _ => false

def usdcSent (ps : List Promise) : Nat := (ps.map Promise.usdc).sum

theorem Promise.usdc_of_not_usdc {promise : Promise} (h : promise.isUsdc = false) :
    promise.usdc = 0 := by
  cases promise with
  | ftTransfer => cases h
  | transfer | deployContract => rfl

theorem usdcSent_of_not_usdc {ps : List Promise} (h : ∀ p ∈ ps, p.isUsdc = false) :
    usdcSent ps = 0 := by
  rw [usdcSent, List.sum_eq_zero]
  intro n hn
  obtain ⟨p, hp, rfl⟩ := List.mem_map.mp hn
  exact Promise.usdc_of_not_usdc (h p hp)

theorem usdc_of_pot {pot : Pot} {amount : Nat} {callback : Callback}
    (h : pot.Callback amount callback) : callback.usdc = amount := by
  cases h <;> rfl

/-! ## One call -/

section Step

variable {env : Env} {s : Contract} {c : Call} {t t' : Till} {rest ps : List Promise}

/-- What a flow adds to the liabilities. -/
def Flow.income (ticket : Ticket) : Flow → Nat
  | .deposit => ticket.grossUsdcMicro
  | .payBack amount => amount
  | _ => 0

theorem Flow.apply_liabilities {ticket : Ticket} {flow : Flow} (h : flow.Covered ticket t)
    (hsplit : ticket.vatUsdcMicro + ticket.platformUsdcMicro + ticket.creatorUsdcMicro =
      ticket.grossUsdcMicro) (k : String) :
    (flow.apply ticket t).liabilities + usdcSent (flow.sends k ticket) =
      t.liabilities + flow.income ticket := by
  cases flow with
  | still | reference => rfl
  | deposit | payBack =>
    simp only [Flow.apply, Flow.sends, Flow.income, usdcSent, Till.liabilities, List.map_nil,
      List.sum_nil]
    omega
  | payOut =>
    have hcovered : ticket.grossUsdcMicro ≤ t.escrowBalance := h
    simp only [Flow.apply, Flow.sends, Flow.income, usdcSent, Till.liabilities, Promise.usdc,
      List.map_cons, List.map_nil, List.sum_cons, List.sum_nil]
    omega
  | settle =>
    have hcovered : ticket.grossUsdcMicro ≤ t.escrowBalance := h
    simp only [Flow.apply, Flow.sends, Flow.income, usdcSent, Till.liabilities_credit,
      List.map_nil, List.sum_nil]
    simp only [Till.liabilities]
    omega

/-- Only an incoming payment and a failed refund add to the liabilities. -/
theorem TicketStep.income {k : String} {before : Option Ticket} {new : Ticket} {flow : Flow}
    (h : TicketStep env s c k before new flow) (hc : c.isDeposit = false) :
    flow.income new = c.restored env := by
  cases h with
  | sold => cases hc
  | refundFinished hresult => simp [Flow.income, Call.restored, hresult]
  | refundRestored hresult => simp [Flow.income, Call.restored, hresult, Callback.usdc]
  | deviceRevoked hrevoke =>
    rcases hrevoke with ⟨_, _, _, rfl, -⟩ | rfl
    · rfl
    · rfl
  | issued | watched | refundStarted | released | deviceAdded | voided => rfl

theorem Call.restored_of_not_settles (h : c.settlesUsdc = false) : c.restored env = 0 := by
  cases c with
  | callback callback =>
    cases callback with
    | onPlatformNearWithdraw => simp [Call.restored, Callback.usdc]
    | onTicketRefund | onCreatorWithdraw | onPlatformWithdraw | onTaxWithdraw => cases h
  | _ => rfl

theorem Books.step_liabilities (h : Books t rest) (hd : Delivered c t rest)
    (hstep : TillStep env s c t ps t') (hc : c.isDeposit = false) :
    t'.liabilities + usdcSent ps = t.liabilities + c.restored env := by
  cases hstep with
  | quiet hquiet hps => rw [usdcSent_of_not_usdc hps, Call.restored_of_not_settles hquiet]
  | vatKeyRevoked => rfl
  | jobFee => cases hc
  | @ticket _ k old new flow _ hget hticket hcovered =>
    subst hget
    have hsound := hticket.sound (h.tickets k) fun receiverId amount restoreStatus hc =>
      (hd k receiverId amount restoreStatus hc).1
    rw [← hticket.income hc]
    exact Flow.apply_liabilities (t := { t with tickets := t.tickets.insert k new }) hcovered
      hsound.split k
  | @withdrawn _ _ pot _ _ _ hquiet hcallback =>
    rw [Call.restored_of_not_settles hquiet]
    have := t.liabilities_setBalance pot 0
    simp only [usdcSent, Promise.usdc, List.map_cons, List.map_nil, List.sum_cons, List.sum_nil]
    omega
  | withdrawalFinished hcallback hresult => simp [usdcSent, Call.restored, hresult]
  | withdrawalRestored hcallback hresult =>
    simp [usdcSent, Call.restored, hresult, Till.liabilities_credit, usdc_of_pot hcallback]

theorem Books.effect_liabilities (h : Books t rest) (hd : Delivered c t rest)
    (heffect : TillEffect env s c t ps t') (hc : c.isDeposit = false) :
    t'.liabilities + usdcSent ps = t.liabilities + c.restored env := by
  cases heffect with
  | once hstep => exact h.step_liabilities hd hstep hc
  | @batch ids _ _ hrun =>
    have hquiet : ∀ t, Delivered (.releaseExpired ids) t rest := fun _ _ _ _ _ hc => by cases hc
    have hboth : Books t' rest ∧ t'.liabilities = t.liabilities := by
      clear hd
      induction hrun with
      | refl => exact ⟨h, rfl⟩
      | tail _ hstep ih =>
        have hbooks := ih.1.step (hquiet _) hstep
        have hsum := ih.1.step_liabilities (hquiet _) hstep rfl
        rw [List.append_nil] at hbooks
        simp only [usdcSent, Call.restored, List.map_nil, List.sum_nil, Nat.add_zero] at hsum
        exact ⟨hbooks, hsum.trans ih.2⟩
    simpa [usdcSent, Call.restored] using hboth.2

end Step

/-! ## Receipts carry the amount of their callback -/

/-- A USDC transfer is followed by the USDC callback of its own amount, and no other receipt by
one. -/
def Promise.Matched : Promise → Prop
  | .ftTransfer _ amount _ callback =>
    callback.usdc = amount ∧ (Call.callback callback).settlesUsdc = true
  | promise => promise.isUsdc = false

theorem Promise.matched_of_not_usdc {promise : Promise} (h : promise.isUsdc = false) :
    promise.Matched := by
  cases promise with
  | ftTransfer => cases h
  | transfer | deployContract => exact h

/-- The callback of a matched receipt settles what the receipt sent. -/
theorem Promise.Matched.usdc_eq {promise : Promise} {callback : Callback} (h : promise.Matched)
    (hcallback : promise.callback = some callback) : callback.usdc = promise.usdc := by
  cases promise with
  | ftTransfer receiverId amount memo callback' =>
    obtain rfl : callback' = callback := Option.some.inj hcallback
    exact h.1
  | transfer receiverId amount callback' =>
    obtain rfl : callback' = some callback := hcallback
    cases callback with
    | onPlatformNearWithdraw => rfl
    | onTicketRefund | onCreatorWithdraw | onPlatformWithdraw | onTaxWithdraw => cases h
  | deployContract => cases hcallback

section Matched

variable {env : Env} {s : Contract} {c : Call} {t t' : Till} {ps : List Promise}

theorem TillStep.matched (h : TillStep env s c t ps t') : ∀ p ∈ ps, p.Matched := by
  cases h with
  | quiet _ hps => exact fun p hp => Promise.matched_of_not_usdc (hps p hp)
  | @ticket _ k _ new flow _ _ _ _ =>
    cases flow with
    | payOut =>
      intro p hp
      obtain rfl := List.mem_singleton.mp hp
      exact ⟨rfl, rfl⟩
    | still | deposit | reference | payBack | settle => simp [Flow.sends]
  | withdrawn _ hcallback =>
    intro p hp
    obtain rfl := List.mem_singleton.mp hp
    exact ⟨usdc_of_pot hcallback, by cases hcallback <;> rfl⟩
  | vatKeyRevoked | jobFee | withdrawalFinished | withdrawalRestored => simp

theorem TillEffect.matched (h : TillEffect env s c t ps t') : ∀ p ∈ ps, p.Matched := by
  cases h with
  | once hstep => exact hstep.matched
  | batch => simp

end Matched

/-! ## Sound worlds -/

section World

variable {host : Host} {w w' : World} {l : Label}

/-- The books agree and every receipt carries the amount of its callback. -/
structure World.Sound (w : World) : Prop where
  books : Books w.contract.toTill w.pending.items
  matched : ∀ p ∈ w.pending.items, p.Matched

theorem Initial.sound (h : Initial host w) : w.Sound where
  books := h.books
  matched := by simp [h.fresh.2, Outbox.items]

theorem World.Sound.step (hsound : w.Sound) (h : worldStep host w l w') : w'.Sound := by
  refine ⟨hsound.books.world_step h, ?_⟩
  cases World.step_cases h with
  | ran hdelivery _ hrun =>
    intro p hp
    replace hp : p ∈ (Outbox.send _ _).items := hp
    rw [Outbox.items_send] at hp
    rcases List.mem_append.mp hp with hp | hp
    · exact hsound.matched p (hdelivery.items_sublist.subset hp)
    · exact ((Call.run_effect hrun).till hsound.books.keyed).matched p hp
  | panicked hdelivery _ _ =>
    exact fun p hp => hsound.matched p (hdelivery.items_sublist.subset hp)
  | @landed i ok promise hget _ =>
    intro p hp
    replace hp : p ∈ (w.pending.land i promise ok).items := hp
    rw [Outbox.items_land hget] at hp
    exact hsound.matched p hp
  | dropped =>
    exact fun p hp => hsound.matched p (((List.eraseIdx_sublist _ _).map _).subset hp)

theorem sound_of_trace {w₀ : World} {tr : List (Transition World Label)} (h₀ : Initial host w₀)
    (h : Trace (worldStep host) w₀ tr w) : w.Sound :=
  h.invariant (fun _ _ _ hsound hstep => hsound.step hstep) h₀.sound

end World

/-! ## Incoming payments -/

/-- A payment that goes through sends nothing, and the liabilities grow by what is kept of it. -/
theorem Received.liabilities {env : Env} {s : Contract} {amount : Nat} {o : Outcome Nat}
    (h : Received env s amount o) :
    o.promises = [] ∧ o.value ≤ amount ∧
      o.state.toTill.liabilities + o.value = s.toTill.liabilities + amount := by
  cases h with
  | returned => exact ⟨rfl, Nat.le_refl _, rfl⟩
  | job => exact ⟨rfl, Nat.zero_le _, s.toTill.liabilities_credit .platform amount⟩
  | ticket =>
    refine ⟨rfl, Nat.zero_le _, ?_⟩
    simp only [Till.liabilities]
    omega

/-- An incoming payment panics, is returned whole with nothing written, or is kept whole for one new
job of that fee or one new crypto ticket of that gross amount. The liabilities grow by exactly what
is kept. -/
theorem ftOnTransfer_atomic (env : Env) (s : Contract) (senderId : AccountId) (amount : Nat)
    (msg : String) :
    (∃ e, ftOnTransfer env s senderId amount msg = .error e) ∨
    ∃ o, ftOnTransfer env s senderId amount msg = .ok o ∧ o.promises = [] ∧
      o.state.toTill.liabilities + o.value = s.toTill.liabilities + amount ∧
      ((o.value = amount ∧ o.state = s) ∨
       (o.value = 0 ∧ ∃ job uploads, s.mediaJobs.get job.jobId = none ∧ job.feeAmount = amount ∧
          o.state = { s with
            mediaJobs := s.mediaJobs.insert job.jobId job
            toUploads := uploads
            platformBalance := s.platformBalance + amount }) ∨
       (o.value = 0 ∧ ∃ ticket, s.tickets.get ticket.ticketId = none ∧ ticket.rail = .crypto ∧
          ticket.grossUsdcMicro = amount ∧
          o.state = { s with
            tickets := s.tickets.insert ticket.ticketId ticket
            escrowBalance := s.escrowBalance + amount })) := by
  cases h : ftOnTransfer env s senderId amount msg with
  | error e => exact .inl ⟨e, rfl⟩
  | ok o =>
    have hreceived := (ftOnTransfer_ok h).2
    obtain ⟨hpromises, -, hliabilities⟩ := hreceived.liabilities
    refine .inr ⟨o, rfl, hpromises, hliabilities, ?_⟩
    cases hreceived with
    | returned => exact .inl ⟨rfl, rfl⟩
    | job job uploads events hfresh hstatus hfee hbound =>
      exact .inr (.inl ⟨rfl, job, uploads, hfresh, hfee, rfl⟩)
    | ticket ticket events hfresh hsale hbound =>
      exact .inr (.inr ⟨rfl, ticket, hfresh, hsale.rail, hsale.gross, rfl⟩)

end Youtick.MarketV2
