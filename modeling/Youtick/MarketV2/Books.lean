import Youtick.MarketV2.Runs

/-!
# Market V2: the books

The invariant behind every statement about money and tickets. `Books` relates the tickets and the
escrow balance to the receipts that are out: the escrow balance is the gross amount of the tickets
in escrow, and every refund under way belongs to a refunded ticket of exactly its amount, at most
one refund to a ticket. It is proved for one ticket change first (`TicketStep.sound`,
`TicketStep.held`), then for one call, and then for every reachable world.
-/

set_option autoImplicit false

namespace Youtick.MarketV2

open Youtick.Lib

/-! ## One ticket -/

/-- What a sale fixes for good. -/
structure TicketTerms where
  ticketId : String
  ticketPublicKey : String
  publicationId : String
  creatorId : AccountId
  rail : TicketRail
  grossUsdcMicro : Nat
  vatUsdcMicro : Nat
  platformUsdcMicro : Nat
  creatorUsdcMicro : Nat
  vatKeyVersion : Nat
  purchasedAtMs : Nat
  card : Option CardTicketData

def Ticket.terms (ticket : Ticket) : TicketTerms where
  ticketId := ticket.ticketId
  ticketPublicKey := ticket.ticketPublicKey
  publicationId := ticket.publicationId
  creatorId := ticket.creatorId
  rail := ticket.rail
  grossUsdcMicro := ticket.grossUsdcMicro
  vatUsdcMicro := ticket.vatUsdcMicro
  platformUsdcMicro := ticket.platformUsdcMicro
  creatorUsdcMicro := ticket.creatorUsdcMicro
  vatKeyVersion := ticket.vatKeyVersion
  purchasedAtMs := ticket.purchasedAtMs
  card := ticket.card

/-- The statuses a ticket of each rail can have. -/
def TicketRail.Allows : TicketRail → TicketStatus → Prop
  | .crypto, status => status = .purchased ∨ status = .watchedInEscrow ∨ status = .refunded ∨
      status = .released
  | .card, status => status = .purchased ∨ status = .watched ∨ status = .voided

/-- A ticket stored under `k` makes sense. -/
structure TicketSound (k : String) (ticket : Ticket) : Prop where
  key : ticket.ticketId = k
  status : ticket.rail.Allows ticket.status
  split : ticket.vatUsdcMicro + ticket.platformUsdcMicro + ticket.creatorUsdcMicro =
    ticket.grossUsdcMicro

/-- What a ticket holds in escrow. -/
def Ticket.held (ticket : Ticket) : Nat := if ticket.InEscrow then ticket.grossUsdcMicro else 0

/-- A refund of `amount` that would restore `restoreStatus` is under way for `ticket`. -/
structure RefundOf (ticket : Ticket) (amount : Nat) (restoreStatus : Option TicketStatus) :
    Prop where
  rail : ticket.rail = .crypto
  status : ticket.status = .refunded
  amount : ticket.grossUsdcMicro = amount
  restore : restoreStatus = some .purchased ∨ restoreStatus = some .watchedInEscrow

def Flow.escrowIn (ticket : Ticket) : Flow → Nat
  | .deposit => ticket.grossUsdcMicro
  | .payBack amount => amount
  | _ => 0

def Flow.escrowOut (ticket : Ticket) : Flow → Nat
  | .payOut _ _ | .settle => ticket.grossUsdcMicro
  | _ => 0

theorem Ticket.held_of_inEscrow {ticket : Ticket} (h : ticket.InEscrow) :
    ticket.held = ticket.grossUsdcMicro := if_pos h

theorem Ticket.held_of_not_inEscrow {ticket : Ticket} (h : ¬ ticket.InEscrow) : ticket.held = 0 :=
  if_neg h

theorem Ticket.held_of_status {ticket : Ticket} (hpurchased : ticket.status ≠ .purchased)
    (hwatched : ticket.status ≠ .watchedInEscrow) : ticket.held = 0 :=
  held_of_not_inEscrow fun h => h.2.elim hpurchased hwatched

/-- Three devices lose the oldest one and advance the epoch; fewer are left alone. -/
theorem evictOldest_cases {k : String} {ticket evicted : Ticket} {events : List Event}
    (h : evictOldest k ticket = .ok (evicted, events)) :
    (∃ oldest rest, ticket.devices = oldest :: rest ∧ rest.length + 1 = maxTicketDevices ∧
      evicted = { ticket with devices := rest, deviceEpoch := ticket.deviceEpoch + 1 }) ∨
    (ticket.devices.length ≠ maxTicketDevices ∧ evicted = ticket) := by
  unfold evictOldest at h
  split at h
  · next oldest rest hdevices =>
      split at h
      · next hfull =>
          simp only [bind_eq_ok, checkedAdd_eq_ok, pure_eq_ok, Prod.mk.injEq] at h
          obtain ⟨_, ⟨-, rfl⟩, rfl, -⟩ := h
          rw [hdevices] at hfull
          exact .inl ⟨oldest, rest, hdevices, hfull, rfl⟩
      · next hfew =>
          simp only [pure_eq_ok, Prod.mk.injEq] at h
          exact .inr ⟨hfew, h.1.symm⟩
  · next hdevices =>
      simp only [pure_eq_ok, Prod.mk.injEq] at h
      exact .inr ⟨by simp [hdevices, maxTicketDevices], h.1.symm⟩

/-- Eviction touches the devices and the epoch only. -/
theorem evictOldest_ok {k : String} {ticket evicted : Ticket} {events : List Event}
    (h : evictOldest k ticket = .ok (evicted, events)) :
    evicted.terms = ticket.terms ∧ evicted.status = ticket.status := by
  rcases evictOldest_cases h with ⟨_, _, -, -, rfl⟩ | ⟨-, rfl⟩
  · exact ⟨rfl, rfl⟩
  · exact ⟨rfl, rfl⟩

section Step

variable {env : Env} {s : Contract} {c : Call} {k : String} {old new : Ticket}
  {before : Option Ticket} {flow : Flow}

/-- No change touches the terms of a ticket. -/
theorem TicketStep.terms (h : TicketStep env s c k (some old) new flow) :
    new.terms = old.terms := by
  cases h with
  | deviceAdded _ _ hevicted _ => exact (evictOldest_ok hevicted).1
  | watched | refundStarted | released | deviceRevoked | voided | refundFinished
  | refundRestored => rfl

/-- The refund a callback settles, when the call is the callback of a refund of `k`. -/
def RefundDelivered (c : Call) (k : String) (before : Option Ticket) : Prop :=
  ∀ receiverId amount restoreStatus,
    c = .callback (.onTicketRefund k receiverId amount restoreStatus) →
      ∃ ticket, before = some ticket ∧ RefundOf ticket amount restoreStatus

theorem TicketStep.allows (h : TicketStep env s c k before new flow)
    (hbefore : ∀ ticket, before = some ticket → ticket.rail.Allows ticket.status)
    (hrefund : RefundDelivered c k before) : new.rail.Allows new.status := by
  cases h with
  | sold hsale => exact hsale.rail ▸ .inl hsale.status
  | issued hissue => exact hissue.rail ▸ .inl hissue.status
  | @watched _ ticket status hpurchased hstatus =>
    subst hstatus
    show ticket.rail.Allows _
    cases ticket.rail with
    | crypto => exact .inr (.inl rfl)
    | card => exact .inr (.inl rfl)
  | @refundStarted _ _ _ _ ticket hescrow _ =>
    show ticket.rail.Allows .refunded
    rw [hescrow.1]
    exact .inr (.inr (.inl rfl))
  | @released _ _ ticket _ hdue =>
    show ticket.rail.Allows .released
    rw [hdue.1.1]
    exact .inr (.inr (.inr rfl))
  | @deviceAdded _ _ _ _ _ _ ticket evicted _ _ _ _ hevicted _ =>
    obtain ⟨hterms, hstatus⟩ := evictOldest_ok hevicted
    have hrail : evicted.rail = ticket.rail := congrArg TicketTerms.rail hterms
    show evicted.rail.Allows evicted.status
    rw [hrail, hstatus]
    exact hbefore _ rfl
  | @deviceRevoked _ _ _ ticket _ => exact hbefore ticket rfl
  | @voided _ _ ticket hrail _ =>
    show ticket.rail.Allows .voided
    rw [hrail]
    exact .inr (.inr rfl)
  | @refundFinished _ _ _ _ ticket _ => exact hbefore ticket rfl
  | @refundRestored _ receiverId amount restoreStatus ticket _ =>
    obtain ⟨_, hsome, hof⟩ := hrefund receiverId amount restoreStatus rfl
    cases hsome
    show ticket.rail.Allows (restoreStatus.getD .purchased)
    rw [hof.rail]
    rcases hof.restore with hrestore | hrestore
    · rw [hrestore]
      exact .inl rfl
    · rw [hrestore]
      exact .inr (.inl rfl)

theorem TicketStep.sound (h : TicketStep env s c k before new flow)
    (hbefore : ∀ ticket, before = some ticket → TicketSound k ticket)
    (hrefund : RefundDelivered c k before) : TicketSound k new := by
  have hstatus := h.allows (fun ticket hticket => (hbefore ticket hticket).status) hrefund
  cases before with
  | none =>
    cases h with
    | sold hsale => exact ⟨rfl, hstatus, hsale.split.trans hsale.gross.symm⟩
    | issued hissue =>
      refine ⟨rfl, hstatus, ?_⟩
      rw [hissue.vat, hissue.platform, hissue.creator, hissue.gross]
  | some old =>
    have hterms := h.terms
    have hold := hbefore old rfl
    refine ⟨(congrArg TicketTerms.ticketId hterms).trans hold.key, hstatus, ?_⟩
    have hvat := congrArg TicketTerms.vatUsdcMicro hterms
    have hplatform := congrArg TicketTerms.platformUsdcMicro hterms
    have hcreator := congrArg TicketTerms.creatorUsdcMicro hterms
    have hgross := congrArg TicketTerms.grossUsdcMicro hterms
    simp only [Ticket.terms] at hvat hplatform hcreator hgross
    rw [hvat, hplatform, hcreator, hgross]
    exact hold.split

/-- A change that keeps the terms and the status keeps what is held. -/
theorem held_congr (old new : Ticket) (hterms : new.terms = old.terms) (hstatus : new.status = old.status) :
    new.held = old.held := by
  have hrail : new.rail = old.rail := congrArg TicketTerms.rail hterms
  have hgross : new.grossUsdcMicro = old.grossUsdcMicro :=
    congrArg TicketTerms.grossUsdcMicro hterms
  have hescrow : new.InEscrow ↔ old.InEscrow := by
    rw [Ticket.InEscrow, Ticket.InEscrow, hrail, hstatus]
  simp only [Ticket.held, hescrow, hgross]

/-- The escrow entries of one ticket change balance. -/
theorem TicketStep.held (h : TicketStep env s c k before new flow)
    (hrefund : RefundDelivered c k before) :
    (before.map Ticket.held).getD 0 + flow.escrowIn new = new.held + flow.escrowOut new := by
  cases h with
  | sold hsale =>
    rw [Ticket.held_of_inEscrow ⟨hsale.rail, .inl hsale.status⟩]
    simp [Flow.escrowIn, Flow.escrowOut]
  | issued hissue =>
    rw [Ticket.held_of_not_inEscrow fun hescrow => by
      have := hescrow.1
      simp [hissue.rail] at this]
    simp [Flow.escrowIn, Flow.escrowOut]
  | @watched _ ticket status hpurchased hstatus =>
    by_cases hrail : ticket.rail = .crypto
    · obtain rfl : status = .watchedInEscrow := by rw [hstatus, hrail]
      have hin : ({ ticket with status := .watchedInEscrow } : Ticket).InEscrow :=
        ⟨hrail, .inr rfl⟩
      rw [Ticket.held_of_inEscrow hin]
      simp [Ticket.held_of_inEscrow ⟨hrail, .inl hpurchased⟩, Flow.escrowIn, Flow.escrowOut]
    · simp [Ticket.held, Ticket.InEscrow, hrail, Flow.escrowIn, Flow.escrowOut]
  | refundStarted hescrow _ =>
    rw [Ticket.held_of_status (by simp) (by simp)]
    simp [Ticket.held_of_inEscrow hescrow, Flow.escrowIn, Flow.escrowOut]
  | released _ hdue =>
    rw [Ticket.held_of_status (by simp) (by simp)]
    simp [Ticket.held_of_inEscrow hdue.1, Flow.escrowIn, Flow.escrowOut]
  | @deviceAdded _ _ _ _ _ _ ticket evicted _ _ _ _ hevicted _ =>
    obtain ⟨hterms, hstatus⟩ := evictOldest_ok hevicted
    exact (held_congr ticket { evicted with devices := _ } hterms hstatus).symm
  | @deviceRevoked _ _ _ ticket _ => exact (held_congr ticket _ rfl rfl).symm
  | voided hrail _ =>
    rw [Ticket.held_of_status (by simp) (by simp)]
    simp [Ticket.held, Ticket.InEscrow, hrail, Flow.escrowIn, Flow.escrowOut]
  | @refundFinished _ _ _ _ ticket _ => exact (held_congr ticket _ rfl rfl).symm
  | @refundRestored _ receiverId amount restoreStatus ticket _ =>
    obtain ⟨_, hsome, hof⟩ := hrefund receiverId amount restoreStatus rfl
    cases hsome
    have hin : ({ ticket with status := restoreStatus.getD .purchased } : Ticket).InEscrow := by
      refine ⟨hof.rail, ?_⟩
      rcases hof.restore with hrestore | hrestore
      · rw [hrestore]
        exact .inl rfl
      · rw [hrestore]
        exact .inr rfl
    have hout : ticket.held = 0 :=
      Ticket.held_of_status (by simp [hof.status]) (by simp [hof.status])
    rw [Ticket.held_of_inEscrow hin]
    simp [hout, Flow.escrowIn, Flow.escrowOut, hof.amount]

/-- The statuses no call of a user leaves. -/
def TicketStatus.Terminal (status : TicketStatus) : Prop :=
  status = .refunded ∨ status = .released ∨ status = .voided

/-- A terminal status stays, unless the ticket's own refund failed. -/
theorem TicketStep.terminal (h : TicketStep env s c k (some old) new flow)
    (hterminal : old.status.Terminal)
    (hc : ∀ receiverId amount restoreStatus,
      c = .callback (.onTicketRefund k receiverId amount restoreStatus) →
        env.promiseResults ≠ [.failed]) :
    new.status = old.status := by
  cases h with
  | watched hpurchased _ => simp [TicketStatus.Terminal, hpurchased] at hterminal
  | refundStarted hescrow _ =>
    rcases hescrow.2 with hstatus | hstatus <;> simp [TicketStatus.Terminal, hstatus] at hterminal
  | released _ hdue =>
    rcases hdue.1.2 with hstatus | hstatus <;> simp [TicketStatus.Terminal, hstatus] at hterminal
  | deviceAdded _ _ hevicted _ => exact (evictOldest_ok hevicted).2
  | deviceRevoked _ => rfl
  | voided _ hvoid =>
    rcases hvoid with hstatus | hstatus <;> simp [TicketStatus.Terminal, hstatus] at hterminal
  | refundFinished _ => rfl
  | refundRestored hresult => exact absurd hresult (hc _ _ _ rfl)

/-- Only a refund pays out, and it refunds the ticket it pays for. -/
theorem TicketStep.payOut {receiverId : AccountId} {status : TicketStatus}
    (h : TicketStep env s c k before new (.payOut receiverId status)) :
    RefundOf new new.grossUsdcMicro (some status) ∧ ∃ old, before = some old ∧ old.InEscrow := by
  cases h with
  | refundStarted hescrow _ =>
    refine ⟨⟨hescrow.1, rfl, rfl, ?_⟩, _, rfl, hescrow⟩
    rcases hescrow.2 with hstatus | hstatus
    · exact .inl (congrArg some hstatus)
    · exact .inr (congrArg some hstatus)

end Step

/-! ## Balances -/

section Balances

variable {t : Till} {ticket : Ticket} {flow : Flow}

@[simp] theorem Till.setBalance_tickets (amount : Nat) (pot : Pot) :
    (t.setBalance amount pot).tickets = t.tickets := by
  cases pot <;> rfl

@[simp] theorem Till.setBalance_escrow (amount : Nat) (pot : Pot) :
    (t.setBalance amount pot).escrowBalance = t.escrowBalance := by
  cases pot <;> rfl

@[simp] theorem Till.credit_tickets (pot : Pot) (amount : Nat) :
    (t.credit pot amount).tickets = t.tickets :=
  t.setBalance_tickets _ pot

@[simp] theorem Till.credit_escrow (pot : Pot) (amount : Nat) :
    (t.credit pot amount).escrowBalance = t.escrowBalance :=
  t.setBalance_escrow _ pot

@[simp] theorem Flow.apply_tickets : (flow.apply ticket t).tickets = t.tickets := by
  cases flow <;> simp [Flow.apply]

/-- What a flow books on escrow. -/
theorem Flow.apply_escrow (h : flow.Covered ticket t) :
    (flow.apply ticket t).escrowBalance + flow.escrowOut ticket =
      t.escrowBalance + flow.escrowIn ticket := by
  cases flow with
  | payOut => exact Nat.sub_add_cancel h
  | settle =>
    simp only [Flow.apply, Till.credit_escrow, Flow.escrowOut, Flow.escrowIn]
    exact Nat.sub_add_cancel h
  | still | deposit | reference | payBack => simp [Flow.apply, Flow.escrowIn, Flow.escrowOut]

end Balances

/-! ## The invariant -/

/-- The refund a receipt's callback settles: the ticket, the amount and the status to restore. -/
def Promise.refund (promise : Promise) : Option (String × Nat × Option TicketStatus) :=
  match promise.callback with
  | some (.onTicketRefund ticketId _ amount restoreStatus) => some (ticketId, amount, restoreStatus)
  | _ => none

def Promise.refundedTicket (promise : Promise) : Option String := promise.refund.map (·.1)

/-- The books agree: with the tickets, and with the receipts `items` that are out. -/
structure Books (t : Till) (items : List Promise) : Prop where
  tickets : ∀ k ticket, t.tickets.get k = some ticket → TicketSound k ticket
  escrow : t.escrowBalance = t.tickets.total fun _ ticket => ticket.held
  refunds : ∀ p ∈ items, ∀ k amount restoreStatus, p.refund = some (k, amount, restoreStatus) →
    ∃ ticket, t.tickets.get k = some ticket ∧ RefundOf ticket amount restoreStatus
  once : (items.filterMap Promise.refundedTicket).Nodup

/-- A refund callback settles a refund that is under way, and the last one of its ticket. -/
def Delivered (c : Call) (t : Till) (rest : List Promise) : Prop :=
  ∀ k receiverId amount restoreStatus,
    c = .callback (.onTicketRefund k receiverId amount restoreStatus) →
      (∃ ticket, t.tickets.get k = some ticket ∧ RefundOf ticket amount restoreStatus) ∧
        k ∉ rest.filterMap Promise.refundedTicket

theorem Promise.refund_of_not_usdc {promise : Promise} (h : promise.isUsdc = false) :
    promise.refund = none := by
  cases promise with
  | ftTransfer => cases h
  | transfer receiverId amount callback =>
    rcases callback with _ | callback
    · rfl
    · cases callback with
      | onTicketRefund => cases h
      | onCreatorWithdraw | onPlatformWithdraw | onTaxWithdraw | onPlatformNearWithdraw => rfl
  | deployContract => rfl

theorem Promise.refund_of_pot {receiverId memo : String} {amount amount' : Nat} {pot : Pot}
    {callback : Callback} (h : pot.Callback amount callback) :
    (Promise.ftTransfer receiverId amount' memo callback).refund = none := by
  cases h <;> rfl

theorem filterMap_refundedTicket_eq_nil {ps : List Promise} (h : ∀ p ∈ ps, p.refund = none) :
    ps.filterMap Promise.refundedTicket = [] := by
  rw [List.filterMap_eq_nil_iff]
  intro p hp
  rw [Promise.refundedTicket, h p hp, Option.map_none]

namespace Books

variable {env : Env} {s : Contract} {c : Call} {t t' : Till} {items rest ps : List Promise}

theorem keyed (h : Books t items) : t.Keyed := fun k ticket hget => (h.tickets k ticket hget).key

/-- Receipts that are gone need no books. -/
theorem sublist (h : Books t items) (hsub : rest.Sublist items) : Books t rest where
  tickets := h.tickets
  escrow := h.escrow
  refunds := fun p hp => h.refunds p (hsub.subset hp)
  once := h.once.sublist (hsub.filterMap _)

/-- A step that leaves tickets and escrow alone and sends no refund. -/
theorem congr (h : Books t rest) (htickets : t'.tickets = t.tickets)
    (hescrow : t'.escrowBalance = t.escrowBalance) (hps : ∀ p ∈ ps, p.refund = none) :
    Books t' (rest ++ ps) where
  tickets := htickets ▸ h.tickets
  escrow := by rw [htickets, hescrow, h.escrow]
  refunds := by
    intro p hp k amount restoreStatus hrefund
    rcases List.mem_append.mp hp with hp | hp
    · rw [htickets]
      exact h.refunds p hp k amount restoreStatus hrefund
    · rw [hps p hp] at hrefund
      cases hrefund
  once := by
    rw [List.filterMap_append, filterMap_refundedTicket_eq_nil hps, List.append_nil]
    exact h.once

/-- A refund under way for another call survives a change of its ticket. -/
theorem refund_survives {k : String} {new : Ticket} {flow : Flow} (h : Books t rest)
    (hd : Delivered c t rest) (hstep : TicketStep env s c k (t.tickets.get k) new flow)
    {p : Promise} (hp : p ∈ rest) {k' : String} {amount : Nat}
    {restoreStatus : Option TicketStatus} (hrefund : p.refund = some (k', amount, restoreStatus)) :
    ∃ ticket, (t.tickets.insert k new).get k' = some ticket ∧
      RefundOf ticket amount restoreStatus := by
  obtain ⟨ticket, hget, hof⟩ := h.refunds p hp k' amount restoreStatus hrefund
  by_cases hk : k' = k
  · subst hk
    rw [hget] at hstep
    have hother : ∀ receiverId amount restoreStatus,
        c ≠ .callback (.onTicketRefund k' receiverId amount restoreStatus) := by
      intro receiverId amount' restoreStatus' hc
      refine (hd k' receiverId amount' restoreStatus' hc).2 ?_
      exact List.mem_filterMap.mpr ⟨p, hp, by rw [Promise.refundedTicket, hrefund]; rfl⟩
    have hterms := hstep.terms
    have hstatus := hstep.terminal (.inl hof.status) fun _ _ _ hc => absurd hc (hother _ _ _)
    refine ⟨new, LookupMap.get_insert_self _ _ _, ?_, hstatus.trans hof.status, ?_, hof.restore⟩
    · exact (congrArg TicketTerms.rail hterms).trans hof.rail
    · exact (congrArg TicketTerms.grossUsdcMicro hterms).trans hof.amount
  · exact ⟨ticket, by rw [LookupMap.get_insert_of_ne _ _ hk, hget], hof⟩

/-- One ticket change keeps the books. -/
theorem ticket_step {k : String} {new : Ticket} {flow : Flow} (h : Books t rest)
    (hd : Delivered c t rest) (hstep : TicketStep env s c k (t.tickets.get k) new flow)
    (hcovered : flow.Covered new t) :
    Books (flow.apply new { t with tickets := t.tickets.insert k new })
      (rest ++ flow.sends k new) := by
  have hdelivered : RefundDelivered c k (t.tickets.get k) :=
    fun receiverId amount restoreStatus hc => (hd k receiverId amount restoreStatus hc).1
  have hsound := hstep.sound (h.tickets k) hdelivered
  refine ⟨?_, ?_, ?_, ?_⟩
  · intro k' ticket hget
    rw [Flow.apply_tickets, LookupMap.get_insert] at hget
    split at hget
    · next hk =>
        subst hk
        exact Option.some.inj hget ▸ hsound
    · exact h.tickets k' ticket hget
  · have hheld : ((t.tickets.get k).map fun ticket => ticket.held).getD 0 + flow.escrowIn new =
        new.held + flow.escrowOut new := hstep.held hdelivered
    have htotal := t.tickets.total_insert k new fun _ ticket => ticket.held
    have hescrow := Flow.apply_escrow (t := { t with tickets := t.tickets.insert k new }) hcovered
    have hbefore := h.escrow
    rw [Flow.apply_tickets]
    simp only at hescrow htotal ⊢
    omega
  · intro p hp k' amount restoreStatus hrefund
    rw [Flow.apply_tickets]
    rcases List.mem_append.mp hp with hp | hp
    · exact h.refund_survives hd hstep hp hrefund
    · cases flow with
      | payOut receiverId status =>
        obtain rfl := List.mem_singleton.mp hp
        cases hrefund
        exact ⟨new, LookupMap.get_insert_self _ _ _, hstep.payOut.1⟩
      | still | deposit | reference | payBack | settle => simp [Flow.sends] at hp
  · rw [List.filterMap_append]
    cases flow with
    | payOut receiverId status =>
      obtain ⟨-, old, hget, hescrow⟩ := hstep.payOut
      have hfresh : k ∉ rest.filterMap Promise.refundedTicket := by
        intro hmem
        obtain ⟨p, hp, htag⟩ := List.mem_filterMap.mp hmem
        obtain ⟨⟨k', amount, restoreStatus⟩, hrefund, rfl⟩ := Option.map_eq_some_iff.mp htag
        obtain ⟨ticket, hticket, hof⟩ := h.refunds p hp _ _ _ hrefund
        obtain rfl := Option.some.inj (hget.symm.trans hticket)
        have := hescrow.2
        simp [hof.status] at this
      refine List.nodup_append.mpr ⟨h.once, List.nodup_singleton k, fun a ha b hb hab => ?_⟩
      have hb : b = k := List.mem_singleton.mp hb
      exact hfresh (hb ▸ hab ▸ ha)
    | still | deposit | reference | payBack | settle =>
      simpa [Flow.sends] using h.once

theorem step (h : Books t rest) (hd : Delivered c t rest) (hstep : TillStep env s c t ps t') :
    Books t' (rest ++ ps) := by
  cases hstep with
  | quiet hc hps => exact h.congr rfl rfl fun p hp => Promise.refund_of_not_usdc (hps p hp)
  | vatKeyRevoked => exact h.congr rfl rfl (by simp)
  | jobFee => exact h.congr (by simp) (by simp) (by simp)
  | ticket hget hticket hcovered => exact h.ticket_step hd (hget ▸ hticket) hcovered
  | withdrawn hc hcallback =>
    refine h.congr (by simp) (by simp) fun p hp => ?_
    obtain rfl := List.mem_singleton.mp hp
    exact Promise.refund_of_pot hcallback
  | withdrawalFinished hcallback hresult => exact h.congr rfl rfl (by simp)
  | withdrawalRestored hcallback hresult => exact h.congr (by simp) (by simp) (by simp)

theorem effect (h : Books t rest) (hd : Delivered c t rest) (heffect : TillEffect env s c t ps t') :
    Books t' (rest ++ ps) := by
  cases heffect with
  | once hstep => exact h.step hd hstep
  | @batch ids _ _ hrun =>
    rw [List.append_nil]
    induction hrun with
    | refl => exact h
    | tail _ hstep ih =>
      have := ih.step (fun _ _ _ _ hc => by cases hc) hstep
      rwa [List.append_nil] at this

end Books

/-! ## Every reachable world -/

section World

variable {host : Host} {w w' : World} {l : Label}

/-- A callback settles the refund of its own receipt. -/
theorem Delivery.delivered {ctx : Context} {c : Call} {rest : Outbox Promise} {o : Outcome Unit}
    (h : Delivery host w l ctx c rest) (hrun : c.run ⟨host, ctx⟩ w.contract = .ok o)
    (hbooks : Books w.contract.toTill w.pending.items) :
    Delivered c w.contract.toTill rest.items := by
  rintro k receiverId amount restoreStatus rfl
  obtain ⟨i, promise, ok, hget, hcallback, rfl, -⟩ := h.callback_inv hrun
  have hrefund : promise.refund = some (k, amount, restoreStatus) := by
    rw [Promise.refund, hcallback]
  obtain ⟨a, b, hitems, hrest⟩ := Outbox.items_eraseIdx hget
  refine ⟨hbooks.refunds promise (Outbox.item_mem hget) k amount restoreStatus hrefund, ?_⟩
  have honce := hbooks.once
  rw [hitems, List.filterMap_append, List.filterMap_cons, Promise.refundedTicket, hrefund] at honce
  rw [hrest, List.filterMap_append, List.mem_append, not_or]
  obtain ⟨-, hb, hab⟩ := List.nodup_append.mp honce
  exact ⟨fun ha => hab k ha k List.mem_cons_self rfl, (List.nodup_cons.mp hb).1⟩

theorem Books.world_step (hbooks : Books w.contract.toTill w.pending.items)
    (h : worldStep host w l w') : Books w'.contract.toTill w'.pending.items := by
  cases World.step_cases h with
  | ran hdelivery _ hrun =>
    have heffect := (Call.run_effect hrun).till hbooks.keyed
    show Books _ (Outbox.send _ _).items
    rw [Outbox.items_send]
    exact (hbooks.sublist hdelivery.items_sublist).effect (hdelivery.delivered hrun hbooks)
      heffect
  | panicked hdelivery _ _ => exact hbooks.sublist hdelivery.items_sublist
  | @landed i ok promise hget _ =>
    show Books w.contract.toTill (w.pending.land i promise ok).items
    rwa [Outbox.items_land hget]
  | dropped => exact hbooks.sublist ((List.eraseIdx_sublist _ _).map _)

theorem Fresh.books {c : Contract} (h : Fresh c) : Books c.toTill [] where
  tickets := by simp [h.tickets]
  escrow := by simp [h.tickets, h.escrowBalance]
  refunds := by simp
  once := List.nodup_nil

theorem Initial.books (h : Initial host w) : Books w.contract.toTill w.pending.items := by
  rw [h.fresh.2]
  exact h.fresh.1.books

/-- The books hold in every reachable world. -/
theorem books_of_reachable {w₀ : World} (h₀ : Initial host w₀)
    (h : Reachable (worldStep host) w₀ w) : Books w.contract.toTill w.pending.items := by
  obtain ⟨tr, htr⟩ := h
  exact htr.invariant (I := fun w => Books w.contract.toTill w.pending.items) (fun _ _ _ hbooks hstep => hbooks.world_step hstep) h₀.books

end World

end Youtick.MarketV2
